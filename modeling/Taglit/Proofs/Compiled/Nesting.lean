import Taglit.Proofs.Compiled.Closed
import Taglit.Proofs.Compiled.DefaultForms
import Taglit.Proofs.Lexical.SelfContained

/-!
# Nesting composes

A compiled node is written inside the substitution of a template literal, which is itself part of a
source that may be written inside another one.  This module shows that under the default options no
source can reach out of where it is written: if what is embedded in a tree is self-contained and its
quasis are chunks, then the sources of all its nodes are self-contained, and the literal of every
block reads back as the quasis and slots of the block.
-/

namespace Taglit.Compiled

open Taglit.Lexical
open Taglit.Output (Format)
open Taglit.Text (isChunk)

/-! ## Template literals of blocks -/

/-- What follows a chunk in a template literal, up to the closing backtick. -/
theorem run_literalTail {state : Text.ChunkState} (hstate : state ≠ .escaped) (text : List Char)
    (quasi : String) (parts : Literal) (below : List Frame) {slots rest : List String}
    (hlength : rest.length = slots.length) (hslots : ∀ s ∈ slots, SelfContained s)
    (hrest : ∀ q ∈ rest, isChunk q = true) :
    run (.template state text quasi.toList parts :: below)
        ((literalTail slots rest).toList ++ ['\x60']) =
      resume (text ++ ((literalTail slots rest).toList ++ ['\x60']))
        [⟨parts.chunks ++ quasi :: rest, parts.sources ++ slots⟩] below := by
  induction rest generalizing state text quasi parts slots with
  | nil =>
      -- no slot is left, and the backtick ends the literal
      obtain rfl := List.length_eq_zero_iff.mp hlength.symm
      have htick : state.step '\x60' = none := by
        cases state with
        | escaped => exact absurd rfl hstate
        | plain => rfl
        | dollar => rfl
      simp [literalTail, run, step, htick]
  | cons next rest ih =>
      obtain ⟨slot, slots, rfl⟩ := List.exists_cons_of_length_eq_add_one hlength.symm
      obtain ⟨found, hslot⟩ := Option.isSome_iff_exists.mp (hslots slot (by simp))
      obtain ⟨after, hnext, hafter⟩ := Text.exists_scanChunk_of_isChunk (hrest next (by simp))
      have htail : (literalTail (slot :: slots) (next :: rest)).toList ++ ['\x60'] =
          '$' :: '\x7b' :: (slot.toList ++ ['\x7d']) ++
            (next.toList ++ ((literalTail slots rest).toList ++ ['\x60'])) := by
        simp [literalTail, substitution]
      have ih := ih hafter (text ++ '$' :: '\x7b' :: (slot.toList ++ ['\x7d']) ++ next.toList) next
        ⟨parts.chunks ++ [quasi], parts.sources ++ [slot]⟩ (Nat.succ.inj hlength)
        (fun s hs => hslots s (by simp [hs])) (fun q hq => hrest q (by simp [hq]))
      -- one substitution and the chunk after it, then the rest
      rw [htail, run_append, run_substitution hstate (lex_eq_some_iff.mp hslot), Option.bind_some,
        run_append, run_chunk hnext, Option.bind_some]
      simpa using ih

/-- Whether a text has no quote, no backtick and no brace. -/
def isBareCode (text : String) : Bool :=
  text.toList.all fun c => c ∉ ['\'', '"', '\x60', '\x7b', '\x7d']

/-- Bare code opens and closes nothing. -/
theorem balance_of_isBareCode {text : String} (h : isBareCode text = true) (depth : Nat) :
    balance depth text.toList = some depth := by
  simp only [isBareCode, List.all_eq_true, decide_eq_true_eq] at h
  generalize text.toList = cs at h
  induction cs with
  | nil => rfl
  | cons c cs ih =>
      have hc := h c (by simp)
      have hcs := ih fun d hd => h d (by simp [hd])
      simp only [List.mem_cons, List.not_mem_nil, or_false, not_or] at hc
      simp [balance, hc, hcs]

/-- A template literal reads back as its chunks and sources. -/
theorem reads_template {tag first : String} {slots rest : List String}
    (htag : isBareCode tag = true) (hfirst : isChunk first = true)
    (hrest : ∀ q ∈ rest, isChunk q = true) (hslots : ∀ s ∈ slots, SelfContained s)
    (hlength : rest.length = slots.length) :
    Reads 0 0 (tag ++ "\x60" ++ (first ++ literalTail slots rest) ++ "\x60").toList
      [⟨first :: rest, slots⟩] := by
  obtain ⟨state, hscan, hstate⟩ := Text.exists_scanChunk_of_isChunk hfirst
  intro depth text literals below
  have hchars : (tag ++ "\x60" ++ (first ++ literalTail slots rest) ++ "\x60").toList =
      tag.toList ++ '\x60' :: (first.toList ++ ((literalTail slots rest).toList ++ ['\x60'])) := by
    simp
  have htick (t : List Char) :
      step (.code depth t literals :: below) '\x60' =
        some (.template .plain ['\x60'] [] {} :: .code depth t literals :: below) := by
    simp [step]
  -- the tag is code, the backtick opens the literal, and no substitution stands before its first
  -- chunk
  rw [hchars, run_append, reads_of_balance (balance_of_isBareCode htag 0), Option.bind_some, run,
    List.append_nil, Nat.add_zero, htick, Option.bind_some, run_append, run_chunk hscan,
    Option.bind_some, List.nil_append, run_literalTail hstate _ _ _ _ hlength hslots hrest, resume]
  simp

/-! ## Properties of object literals -/

/-- Hexadecimal digits neither end a string nor escape anything in it. -/
theorem readsQuoted_hexDigits (n : Nat) : ReadsQuoted '"' (Text.hexDigits n) := by
  have hdigit (d : Nat) : ReadsQuoted '"' [d.digitChar] :=
    readsQuoted_plain (Nat.digitChar_ne '\\' (by decide)) (Nat.digitChar_ne '"' (by decide))
  induction n using Nat.strongRecOn with
  | ind n ih =>
      rw [Text.hexDigits, Nat.toDigits_eq_if (by decide)]
      by_cases hn : n < 16
      · rw [if_pos hn]
        exact hdigit n
      · -- the digits of the quotient, and one more
        rw [if_neg hn]
        exact (ih (n / 16) (by omega)).append (hdigit (n % 16))

/-- Neither do zeros before them. -/
theorem readsQuoted_hexDigitsPadded (width n : Nat) :
    ReadsQuoted '"' (Text.hexDigitsPadded width n) := by
  have hzeros : ReadsQuoted '"' (List.replicate (width - (Text.hexDigits n).length) '0') := by
    rw [← List.flatMap_singleton' (List.replicate _ _)]
    refine readsQuoted_flatMap fun c hc => ?_
    rw [List.eq_of_mem_replicate hc]
    exact readsQuoted_plain (by decide) (by decide)
  exact hzeros.append (readsQuoted_hexDigits n)

/-- What a character is written as between double quotes does not end the string, -/
theorem readsQuoted_escapeChar (c : Char) : ReadsQuoted '"' (Json.escapeChar c) := by
  unfold Json.escapeChar
  split
  · exact readsQuoted_escape _ _
  · exact readsQuoted_escape _ _
  · exact readsQuoted_escape _ _
  · exact readsQuoted_escape _ _
  · exact readsQuoted_escape _ _
  · exact readsQuoted_escape _ _
  · exact readsQuoted_escape _ _
  · split
    · exact (readsQuoted_escape _ 'u').append (readsQuoted_hexDigitsPadded 4 c.toNat)
    · exact readsQuoted_plain ‹_› ‹_›

/-- and no more does what it is written as in a key. -/
theorem readsQuoted_escapeKeyChar (c : Char) : ReadsQuoted '\'' (Text.escapeKeyChar c) := by
  unfold Text.escapeKeyChar
  split
  · exact readsQuoted_escape _ _
  · exact readsQuoted_escape _ _
  · exact readsQuoted_escape _ _
  · exact readsQuoted_escape _ _
  · exact readsQuoted_plain ‹_› ‹_›

/-- A text in quotes is self-contained, whatever the text. -/
theorem selfContained_writeText (text : String) : SelfContained (Json.writeText text) := by
  have hreads : ReadsQuoted '"' (text.toList.flatMap Json.escapeChar) :=
    readsQuoted_flatMap fun c _ => readsQuoted_escapeChar c
  refine Shifts.selfContained ⟨[], ?_⟩
  rw [Json.writeText, String.toList_ofList]
  exact reads_quoted (.inr rfl) hreads

/-- Bare code is self-contained. -/
theorem selfContained_of_isBareCode {text : String} (h : isBareCode text = true) :
    SelfContained text :=
  (shifts_of_balance (balance_of_isBareCode h 0)).selfContained

/-- So is nothing at all. -/
theorem selfContained_empty : SelfContained "" :=
  selfContained_of_isBareCode rfl

/-- An identifier is bare code. -/
theorem isBareCode_of_isIdentifier {name : String} (h : Text.isIdentifier name = true) :
    isBareCode name = true := by
  have hplain (c : Char) (hc : c ∈ ['\'', '"', '\x60', '\x7b', '\x7d']) :
      Text.isIdentifierTail c = false := by
    simp only [List.mem_cons, List.not_mem_nil, or_false] at hc
    rcases hc with rfl | rfl | rfl | rfl | rfl <;> rfl
  rw [isBareCode, List.all_eq_true]
  intro c hc
  rw [decide_eq_true_eq]
  intro hmem
  exact absurd (Text.isIdentifierTail_of_mem h c hc) (by simp [hplain c hmem])

/-- A key of an object literal is self-contained, whatever the name. -/
theorem selfContained_propertyKey (name : String) : SelfContained (Text.propertyKey name) := by
  unfold Text.propertyKey
  split
  · next h => exact selfContained_of_isBareCode (isBareCode_of_isIdentifier h)
  · have hreads : ReadsQuoted '\'' (name.toList.flatMap Text.escapeKeyChar) :=
      readsQuoted_flatMap fun c _ => readsQuoted_escapeKeyChar c
    refine Shifts.selfContained ⟨[], ?_⟩
    rw [String.toList_ofList]
    exact reads_quoted (.inl rfl) hreads

/-- A property is self-contained if its code is, should it have any. -/
theorem selfContained_prop {a : Attribute} (h : ∀ s ∈ a.source?, SelfContained s) :
    SelfContained a.prop := by
  have hcolon : Shifts 0 0 ":" := shifts_of_balance rfl
  have hkey := ((selfContained_propertyKey a.name).shifts 0).append hcolon
  obtain ⟨name, content⟩ := a
  cases content with
  | bare =>
      have htrue : Shifts 0 0 "true" := shifts_of_balance rfl
      exact (hkey.append htrue).selfContained
  | static text => exact (hkey.append ((selfContained_writeText text).shifts 0)).selfContained
  | code source => exact (hkey.append ((h source rfl).shifts 0)).selfContained

/-- So are properties with commas between them. -/
theorem selfContained_propsText {attributes : List Attribute}
    (h : ∀ s ∈ attributes.filterMap Attribute.source?, SelfContained s) :
    SelfContained (propsText attributes) := by
  refine (Shifts.intercalate (shifts_of_balance rfl) fun s hs => ?_).selfContained
  obtain ⟨a, ha, rfl⟩ := List.mem_map.mp hs
  refine (selfContained_prop fun code hcode => h code ?_).shifts 0
  exact List.mem_filterMap.mpr ⟨a, ha, hcode⟩

/-! ## Bodies -/

/-- The sources that a mixin brings along: its parameters, or the code of its attributes. -/
def Role.embedded : Role → List String
  | .definition args => args.toList
  | .call attributes => attributes.filterMap Attribute.source?

/-- A body of self-contained parts: its name, its statements and its literal can each stand in
code. -/
structure Body.Sealed (tag : String) (body : Body) : Prop where
  name : SelfContained body.name
  statements : ∀ w ∈ body.statements, SelfContained w.text
  tagged : SelfContained (body.tagged ⟨tag, {}⟩)

namespace Body.Sealed

variable {tag : String} {body : Body}

/-- Statements with a self-contained separator between them are self-contained. -/
theorem code (h : body.Sealed tag) {separator : String} (hseparator : SelfContained separator) :
    SelfContained (body.code separator) := by
  refine (Shifts.intercalate (hseparator.shifts 0) fun s hs => ?_).selfContained
  obtain ⟨w, hw, rfl⟩ := List.mem_map.mp hs
  exact (h.statements w hw).shifts 0

/-- The body as an expression is self-contained, in each of its three forms. -/
theorem expression (h : body.Sealed tag) : SelfContained (body.expression ⟨tag, {}⟩) := by
  unfold Body.expression
  split_ifs
  · exact h.tagged
  · have hopen : Shifts 0 0 "(" := shifts_of_balance rfl
    have hcomma : Shifts 0 0 "," := shifts_of_balance rfl
    have hclose : Shifts 0 0 ")" := shifts_of_balance rfl
    exact (hopen.append ((h.code hcomma.selfContained).shifts 0) |>.append hcomma
      |>.append (h.tagged.shifts 0) |>.append hclose).selfContained
  · -- the statements and the literal stand inside a brace, which is closed at the end
    have hopen : Shifts 0 1 "(()=>\x7b" := shifts_of_balance rfl
    have hsemicolon : Shifts 0 0 ";" := shifts_of_balance rfl
    have hreturn : Shifts 1 1 ";return " := shifts_of_balance rfl
    have hclose : Shifts 1 0 "\x7d)()" := shifts_of_balance rfl
    exact (hopen.append ((h.code hsemicolon.selfContained).shifts 1) |>.append hreturn
      |>.append (h.tagged.shifts 1) |>.append hclose).selfContained

/-- The body as a function is self-contained, if its parameters are. -/
theorem function (h : body.Sealed tag) {args : String} (hargs : SelfContained args) :
    SelfContained (body.function ⟨tag, {}⟩ args) := by
  have hsemicolon : Shifts 0 0 ";" := shifts_of_balance rfl
  have hfunction : Shifts 0 0 "function " := shifts_of_balance rfl
  have hparen : Shifts 0 0 "(" := shifts_of_balance rfl
  have hopen : Shifts 0 1 ")\x7b" := shifts_of_balance rfl
  have hreturn : Shifts 1 1 "\nreturn " := shifts_of_balance rfl
  have hclose : Shifts 1 0 "\x7d" := shifts_of_balance rfl
  rw [function_default]
  exact (hfunction.append (h.name.shifts 0) |>.append hparen |>.append (hargs.shifts 0)
    |>.append hopen |>.append ((h.code hsemicolon.selfContained).shifts 1) |>.append hreturn
    |>.append (h.tagged.shifts 1) |>.append hclose).selfContained

/-- An iteration over the body is self-contained. -/
theorem eachText (h : body.Sealed tag) {object value : String} {key : Option String}
    (hobject : SelfContained object) (hvalue : SelfContained value)
    (hkey : ∀ k ∈ key, SelfContained k) :
    SelfContained (eachText ⟨tag, {}⟩ object value key body) := by
  have hentry : Shifts 0 0 (key.getD "_") := by
    cases key with
    | none => exact shifts_of_balance rfl
    | some k => exact (hkey k rfl).shifts 0
  have hsemicolon : Shifts 0 0 ";" := shifts_of_balance rfl
  have hentries : Shifts 0 0 "Object.entries(" := shifts_of_balance rfl
  have hmap : Shifts 0 0 ").map(([" := shifts_of_balance rfl
  have hcomma : Shifts 0 0 "," := shifts_of_balance rfl
  have hopen : Shifts 0 1 "])=>\x7b" := shifts_of_balance rfl
  have hreturn : Shifts 1 1 "\n return " := shifts_of_balance rfl
  have hclose : Shifts 1 0 "\x7d)" := shifts_of_balance rfl
  rw [eachText_default]
  exact (hentries.append (hobject.shifts 0) |>.append hmap |>.append hentry |>.append hcomma
    |>.append (hvalue.shifts 0) |>.append hopen
    |>.append ((h.code hsemicolon.selfContained).shifts 1) |>.append hreturn
    |>.append (h.tagged.shifts 1) |>.append hclose).selfContained

/-- A branching into sealed bodies is self-contained. -/
theorem branchText (h : body.Sealed tag) {test : String} {alternate : Option Body}
    (htest : SelfContained test) (halternate : ∀ b ∈ alternate, b.Sealed tag) :
    SelfContained (branchText ⟨tag, {}⟩ test body alternate) := by
  have hotherwise : Shifts 0 0 (alternate.elim "null" (Body.expression ⟨tag, {}⟩)) := by
    cases alternate with
    | none =>
        have hnull : Shifts 0 0 "null" := shifts_of_balance rfl
        exact hnull
    | some b => exact (halternate b rfl).expression.shifts 0
  have hquestion : Shifts 0 0 " ? " := shifts_of_balance rfl
  have hcolon : Shifts 0 0 " : " := shifts_of_balance rfl
  rw [branchText_default]
  exact ((htest.shifts 0).append hquestion |>.append (h.expression.shifts 0) |>.append hcolon
    |>.append hotherwise).selfContained

/-- A mixin with a sealed body is self-contained, if the sources that it brings along are. -/
theorem mixinText (h : body.Sealed tag) {role : Role}
    (hrole : ∀ s ∈ role.embedded, SelfContained s) :
    SelfContained (mixinText ⟨tag, {}⟩ role body) := by
  cases role with
  | definition args =>
      refine h.function ?_
      cases args with
      | none => exact selfContained_empty
      | some args => exact hrole args (by simp [Role.embedded])
  | call attributes =>
      have hopen : Shifts 0 1 "(\x7b" := shifts_of_balance rfl
      have hclose : Shifts 1 0 "\x7d, " := shifts_of_balance rfl
      have hparen : Shifts 0 0 ")" := shifts_of_balance rfl
      rw [mixinText_call_default]
      exact ((h.name.shifts 0).append hopen |>.append ((selfContained_propsText hrole).shifts 1)
        |>.append hclose |>.append (h.expression.shifts 0) |>.append hparen).selfContained

end Body.Sealed

/-! ## Embedded sources -/

mutual

/-- The sources in a node that are written as they stand, at any depth. -/
def Node.embedded : Node → List String
  | .block b => b.embedded
  | .each object value key b => object :: value :: (key.toList ++ b.embedded)
  | .condition test alternate b => test :: (b.embedded ++ alternateEmbedded alternate)
  | .mixin role b => role.embedded ++ b.embedded
  | .root _ b => b.embedded

/-- The name of a block, and the sources inside it. -/
def Block.embedded : Block Node → List String
  | ⟨name, code, _, slots⟩ => name :: (pieceEmbedded slots ++ pieceEmbedded code)

/-- The sources in a branch that may not be there. -/
def alternateEmbedded : Option (Block Node) → List String
  | none => []
  | some b => b.embedded

/-- The sources in a list of statements or slots. -/
def pieceEmbedded : List (Piece Node) → List String
  | [] => []
  | .source text :: pieces => text :: pieceEmbedded pieces
  | .node n :: pieces => n.embedded ++ pieceEmbedded pieces

end

/-- The sources in a template that are written as they stand. -/
def Root.embedded (root : Root) : List String :=
  root.imports ++ root.block.embedded

mutual

/-- The blocks and sources inside a block of a node are among those of the node. -/
theorem Node.subset_of_mem_blocks {b : Block Node} (n : Node) (h : b ∈ n.blocks) :
    b.blocks ⊆ n.blocks ∧ b.embedded ⊆ n.embedded := by
  match n with
  | .block body => exact Block.subset_of_mem_blocks body h
  | .each object value key body =>
      obtain ⟨hblocks, hembedded⟩ := Block.subset_of_mem_blocks body h
      exact ⟨hblocks, fun s hs => by simp [Node.embedded, hembedded hs]⟩
  | .condition test alternate body =>
      rw [Node.blocks, Node.embedded]
      rw [Node.blocks, List.mem_append] at h
      obtain h | h := h
      · obtain ⟨hblocks, hembedded⟩ := Block.subset_of_mem_blocks body h
        exact ⟨fun x hx => by simp [hblocks hx], fun s hs => by simp [hembedded hs]⟩
      · obtain ⟨hblocks, hembedded⟩ := subset_of_mem_alternateBlocks alternate h
        exact ⟨fun x hx => by simp [hblocks hx], fun s hs => by simp [hembedded hs]⟩
  | .mixin role body =>
      obtain ⟨hblocks, hembedded⟩ := Block.subset_of_mem_blocks body h
      exact ⟨hblocks, fun s hs => by simp [Node.embedded, hembedded hs]⟩
  | .root imports body => exact Block.subset_of_mem_blocks body h

/-- The same for a block. -/
theorem Block.subset_of_mem_blocks {b : Block Node} (body : Block Node) (h : b ∈ body.blocks) :
    b.blocks ⊆ body.blocks ∧ b.embedded ⊆ body.embedded := by
  match body with
  | ⟨name, code, quasis, slots⟩ =>
      rw [Block.blocks, List.mem_cons, List.mem_append] at h
      obtain rfl | h | h := h
      · exact ⟨List.Subset.refl _, List.Subset.refl _⟩
      · obtain ⟨hblocks, hembedded⟩ := subset_of_mem_pieceBlocks slots h
        exact ⟨fun x hx => by simp [Block.blocks, hblocks hx],
          fun s hs => by simp [Block.embedded, hembedded hs]⟩
      · obtain ⟨hblocks, hembedded⟩ := subset_of_mem_pieceBlocks code h
        exact ⟨fun x hx => by simp [Block.blocks, hblocks hx],
          fun s hs => by simp [Block.embedded, hembedded hs]⟩

/-- The same for a branch that may not be there. -/
theorem subset_of_mem_alternateBlocks {b : Block Node} (alternate : Option (Block Node))
    (h : b ∈ alternateBlocks alternate) :
    b.blocks ⊆ alternateBlocks alternate ∧ b.embedded ⊆ alternateEmbedded alternate := by
  match alternate with
  | none => cases h
  | some body => exact Block.subset_of_mem_blocks body h

/-- The same for statements or slots. -/
theorem subset_of_mem_pieceBlocks {b : Block Node} (pieces : List (Piece Node))
    (h : b ∈ pieceBlocks pieces) :
    b.blocks ⊆ pieceBlocks pieces ∧ b.embedded ⊆ pieceEmbedded pieces := by
  match pieces with
  | [] => cases h
  | .source text :: pieces =>
      obtain ⟨hblocks, hembedded⟩ := subset_of_mem_pieceBlocks pieces h
      exact ⟨hblocks, fun s hs => by simp [pieceEmbedded, hembedded hs]⟩
  | .node n :: pieces =>
      rw [pieceBlocks, pieceEmbedded]
      rw [pieceBlocks, List.mem_append] at h
      obtain h | h := h
      · obtain ⟨hblocks, hembedded⟩ := Node.subset_of_mem_blocks n h
        exact ⟨fun x hx => by simp [hblocks hx], fun s hs => by simp [hembedded hs]⟩
      · obtain ⟨hblocks, hembedded⟩ := subset_of_mem_pieceBlocks pieces h
        exact ⟨fun x hx => by simp [hblocks hx], fun s hs => by simp [hembedded hs]⟩

end

/-! ## Trees -/

/-- Blocks and sources of which a template can be put together: the blocks are closed, their quasis
are chunks, and the sources are self-contained. -/
structure Composable (blocks : List (Block Node)) (sources : List String) : Prop where
  isClosed : ∀ b ∈ blocks, b.isClosed = true
  isChunk : ∀ b ∈ blocks, ∀ q ∈ b.quasis, isChunk q = true
  selfContained : ∀ s ∈ sources, SelfContained s

/-- Less of composable blocks and sources is composable. -/
theorem Composable.mono {blocks fewer : List (Block Node)} {sources less : List String}
    (h : Composable blocks sources) (hblocks : fewer ⊆ blocks) (hsources : less ⊆ sources) :
    Composable fewer less where
  isClosed b hb := h.isClosed b (hblocks hb)
  isChunk b hb := h.isChunk b (hblocks hb)
  selfContained s hs := h.selfContained s (hsources hs)

variable {tag : String}

/-- The literal of a block reads back as its quasis and slots. -/
theorem lex_tagged (htag : isBareCode tag = true) {b : Block Node} (hclosed : b.isClosed = true)
    (hquasis : ∀ q ∈ b.quasis, isChunk q = true)
    (hslots : ∀ slot ∈ b.slots, SelfContained (slot.toSource ⟨tag, {}⟩)) :
    lex (b.tagged ⟨tag, {}⟩) = some [⟨b.quasis, b.slots.map (Piece.toSource ⟨tag, {}⟩)⟩] := by
  obtain ⟨first, rest, hq, hlength, hhtml⟩ := html_of_isClosed hclosed ⟨tag, {}⟩
  have htagged : b.tagged ⟨tag, {}⟩ = tag ++ "\x60" ++ b.html ⟨tag, {}⟩ ++ "\x60" := rfl
  rw [hq, List.forall_mem_cons] at hquasis
  rw [lex_eq_some_iff, htagged, hhtml, hq]
  exact reads_template htag hquasis.1 hquasis.2 (List.forall_mem_map.mpr hslots)
    (by simpa using hlength)

mutual

/-- A node of composable blocks and sources has a self-contained source. -/
theorem selfContained_toSource (htag : isBareCode tag = true) (n : Node)
    (h : Composable n.blocks n.embedded) : SelfContained (n.toSource ⟨tag, {}⟩) := by
  match n with
  | .block b => exact (sealed_bodyOf htag b h).expression
  | .each object value key b =>
      rw [Node.blocks, Node.embedded] at h
      have hbody := sealed_bodyOf htag b (h.mono (by simp) fun s hs => by simp [hs])
      have hkey : ∀ k ∈ key, SelfContained k := fun k hk => h.selfContained k (by simp_all)
      exact hbody.eachText (h.selfContained object (by simp)) (h.selfContained value (by simp)) hkey
  | .condition test alternate b =>
      rw [Node.blocks, Node.embedded] at h
      have hbody := sealed_bodyOf htag b (h.mono (by simp) fun s hs => by simp [hs])
      have halternate :=
        sealed_alternateOf htag alternate (h.mono (by simp) fun s hs => by simp [hs])
      exact hbody.branchText (h.selfContained test (by simp)) halternate
  | .mixin role b =>
      rw [Node.blocks, Node.embedded] at h
      have hbody := sealed_bodyOf htag b (h.mono (by simp) (by simp))
      exact hbody.mixinText fun s hs => h.selfContained s (by simp [hs])
  | .root imports b => exact (sealed_bodyOf htag b h).function selfContained_empty

/-- The parts of a written block are self-contained: its literal is, because its slots are. -/
theorem sealed_bodyOf (htag : isBareCode tag = true) (b : Block Node)
    (h : Composable b.blocks b.embedded) : (bodyOf ⟨tag, {}⟩ b).Sealed tag := by
  match b with
  | ⟨name, code, quasis, slots⟩ =>
      rw [Block.blocks, Block.embedded] at h
      have hcode := selfContained_pieces htag code
        (h.mono (fun x hx => by simp [hx]) fun s hs => by simp [hs])
      have hslots := selfContained_pieces htag slots
        (h.mono (fun x hx => by simp [hx]) fun s hs => by simp [hs])
      have hself : (⟨name, code, quasis, slots⟩ : Block Node) ∈
          ⟨name, code, quasis, slots⟩ :: (pieceBlocks slots ++ pieceBlocks code) := by simp
      have hlex := lex_tagged htag (h.isClosed _ hself) (h.isChunk _ hself) hslots
      refine ⟨h.selfContained name (by simp), fun w hw => ?_, Option.isSome_of_eq_some hlex⟩
      -- a statement that is a node is written like a slot
      have htext := List.mem_map_of_mem (f := Written.text) hw
      rw [bodyOf, text_statementsOf] at htext
      obtain ⟨statement, hmem, heq⟩ := List.mem_map.mp htext
      exact heq ▸ hcode statement hmem

/-- The same for a branch that may not be there. -/
theorem sealed_alternateOf (htag : isBareCode tag = true) (alternate : Option (Block Node))
    (h : Composable (alternateBlocks alternate) (alternateEmbedded alternate)) :
    ∀ body ∈ alternateOf ⟨tag, {}⟩ alternate, body.Sealed tag := by
  match alternate with
  | none => nofun
  | some b =>
      rintro body ⟨⟩
      exact sealed_bodyOf htag b h

/-- The same for statements or slots. -/
theorem selfContained_pieces (htag : isBareCode tag = true) (pieces : List (Piece Node))
    (h : Composable (pieceBlocks pieces) (pieceEmbedded pieces)) :
    ∀ piece ∈ pieces, SelfContained (piece.toSource ⟨tag, {}⟩) := by
  match pieces with
  | [] => nofun
  | .source text :: pieces =>
      rw [pieceBlocks, pieceEmbedded] at h
      have hrest := selfContained_pieces htag pieces (h.mono (by simp) (by simp))
      exact List.forall_mem_cons.mpr ⟨h.selfContained text (by simp), hrest⟩
  | .node n :: pieces =>
      rw [pieceBlocks, pieceEmbedded] at h
      have hnode := selfContained_toSource htag n (h.mono (by simp) (by simp))
      have hrest := selfContained_pieces htag pieces (h.mono (by simp) (by simp))
      exact List.forall_mem_cons.mpr ⟨hnode, hrest⟩

end

/-! ## Templates -/

/-- Nesting composes under the default options.  If the blocks of a template are closed, their
quasis are chunks and the sources in it are self-contained, then all forms of the template are
self-contained, and the literal of every block reads back as the quasis and slots of the block. -/
theorem selfContained_of_embedded {root : Root} {args : String} (htag : isBareCode tag = true)
    (hclosed : ∀ b ∈ root.blocks, b.isClosed = true)
    (hquasis : ∀ b ∈ root.blocks, ∀ q ∈ b.quasis, isChunk q = true)
    (hembedded : ∀ s ∈ root.embedded, SelfContained s) (hargs : SelfContained args) :
    SelfContained (root.toSource ⟨tag, {}⟩) ∧
    SelfContained (root.function ⟨tag, {}⟩ args) ∧
    SelfContained (root.moduleSource ⟨tag, {}⟩ args) ∧
    ∀ b ∈ root.blocks,
      lex (b.tagged ⟨tag, {}⟩) = some [⟨b.quasis, b.slots.map (Piece.toSource ⟨tag, {}⟩)⟩] := by
  have h : Composable root.blocks root.embedded := ⟨hclosed, hquasis, hembedded⟩
  have hblock : Composable root.block.blocks root.block.embedded :=
    h.mono (List.Subset.refl _) (List.subset_append_right _ _)
  have hbody := sealed_bodyOf htag root.block hblock
  refine ⟨hbody.function selfContained_empty, hbody.function hargs, ?_, fun b hb => ?_⟩
  · have hnewline : Shifts 0 0 "\n" := shifts_of_balance rfl
    have hexport : Shifts 0 0 "\nexport default " := shifts_of_balance rfl
    have himports : Shifts 0 0 ("\n".intercalate root.imports) :=
      hnewline.intercalate fun s hs => (hembedded s (by simp [Root.embedded, hs])).shifts 0
    rw [moduleSource_default]
    exact (himports.append hexport |>.append ((hbody.function hargs).shifts 0)).selfContained
  · obtain ⟨hblocks, hsources⟩ := Block.subset_of_mem_blocks root.block hb
    have hb' := hblock.mono hblocks hsources
    rw [Block.blocks_eq, Block.embedded] at hb'
    have hslots := selfContained_pieces htag b.slots
      (hb'.mono (fun x hx => by simp [hx]) fun s hs => by simp [hs])
    exact lex_tagged htag (hclosed b hb) (hquasis b hb) hslots

/-- Quotes, braces and backticks in the static value of an attribute, two literals deep. -/
theorem selfContained_moduleSource_card :
    SelfContained (Root.moduleSource ⟨"html", {}⟩
      ⟨⟨"page", [], ["<p>", "</p>"], [.node (.condition "ok" none
        ⟨"page", [.source "f('\x7d')"], ["\\\x60", ""],
          [.node (.mixin (.call [⟨"it's", .static "\"\x60\x7d"⟩]) ⟨"card", [], ["x"], []⟩)]⟩)]⟩,
        ["import a from 'a'"]⟩ "\x7buser\x7d") :=
  (selfContained_of_embedded (by decide) (by decide) (by decide) (by decide) (by decide)).2.2.1

end Taglit.Compiled
