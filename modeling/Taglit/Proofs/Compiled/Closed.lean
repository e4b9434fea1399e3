import Taglit.Proofs.Compiled.Blocks

/-!
# Every block of a compiled template is closed

A block is closed if it has one more quasi than slots.  Only then does its template literal show
every slot: `interleave` leaves out the slots that no quasi follows.  `closed_of_mem_blocks` says
that every block of a compiled template is closed, and how its literal reads.
-/

namespace Taglit.Compiled

open Taglit.Output (Format Options)

/-! ## Literals of closed blocks -/

/-- The source of a statement or a slot. -/
def Piece.toSource (format : Format) : Piece Node → String
  | .source text => text
  | .node n => n.toSource format

/-- Slots are written one by one. -/
theorem slotsOf_eq_map (format : Format) (slots : List (Piece Node)) :
    slotsOf format slots = slots.map (Piece.toSource format) := by
  induction slots with
  | nil => rfl
  | cons slot slots ih => cases slot <;> simp [slotsOf, Piece.toSource, ih]

/-- So are statements, if it does not count which of them are expressions. -/
theorem text_statementsOf (format : Format) (code : List (Piece Node)) :
    (statementsOf format code).map Written.text = code.map (Piece.toSource format) := by
  induction code with
  | nil => rfl
  | cons statement code ih => cases statement <;> simp [statementsOf, Piece.toSource, ih]

/-- A slot as it stands in a template literal. -/
def substitution (source : String) : String :=
  "$\x7b" ++ source ++ "\x7d"

/-- Slots with the quasis after them, as they stand in a template literal. -/
def literalTail (slots quasis : List String) : String :=
  String.join (List.zipWith (fun slot quasi => substitution slot ++ quasi) slots quasis)

/-- With one more quasi than slots, every slot is shown once, before the quasi that follows it. -/
theorem join_interleave (first : String) (rest slots : List String)
    (h : rest.length = slots.length) :
    String.join (interleave (first :: rest) slots) = first ++ literalTail slots rest := by
  induction rest generalizing first slots with
  | nil =>
      obtain rfl := List.length_eq_zero_iff.mp h.symm
      simp [interleave, literalTail]
  | cons quasi rest ih =>
      -- the next slot stands before the next quasi, which is the first of the rest
      obtain ⟨slot, slots, rfl⟩ := List.exists_cons_of_length_eq_add_one h.symm
      have hrest : rest.length = slots.length := Nat.succ.inj h
      simp only [interleave, String.join_cons, ih quasi slots hrest, literalTail,
        List.zipWith_cons_cons, substitution, String.append_assoc]

/-- Each slot finishes one quasi. -/
theorem length_finished (pending : String) (marks : List Mark) :
    (finished pending marks).length = (slotsIn marks).length := by
  fun_induction finished pending marks with
  | case1 => rfl
  | case2 pending text marks ih => exact ih
  | case3 pending text marks ih => exact ih
  | case4 pending piece marks ih => exact congrArg (· + 1) ih

/-- What is left after the last slot is one more quasi, so that an enclosed body is closed. -/
theorem isClosed_enclosed (name : String) (statements : List String) (marks : List Mark) :
    (enclosed name statements marks).isClosed = true := by
  simp [Block.isClosed, enclosed, length_finished]

/-! ## Compiled templates -/

/-- Every block of a template is an enclosed body, and so closed. -/
theorem isClosed_of_mem_blocks {tree : Markup.Node} {name : String} {options : Options}
    {b : Block Node} (hb : b ∈ (rootOf tree name options).blocks) : b.isClosed = true := by
  rw [(blocks_rootOf_perm tree name options).mem_iff, List.mem_cons, List.mem_map] at hb
  obtain rfl | ⟨site, -, rfl⟩ := hb
  · exact isClosed_enclosed name [] _
  · exact isClosed_enclosed site.name _ _

/-- The literal of a closed block shows every slot exactly once: slot `i` between the quasis `i` and
`i + 1`. -/
theorem html_of_isClosed {b : Block Node} (h : b.isClosed = true) (format : Format) :
    ∃ first rest, b.quasis = first :: rest ∧ rest.length = b.slots.length ∧
      b.html format = first ++ literalTail (b.slots.map (Piece.toSource format)) rest := by
  have hlen : b.quasis.length = b.slots.length + 1 := by simpa [Block.isClosed] using h
  obtain ⟨first, rest, hq⟩ := List.exists_cons_of_length_eq_add_one hlen
  have hrest : rest.length = b.slots.length := by simpa [hq] using hlen
  refine ⟨first, rest, hq, hrest, ?_⟩
  obtain ⟨name, code, quasis, slots⟩ := b
  obtain rfl : quasis = first :: rest := hq
  rw [Block.html, bodyOf, slotsOf_eq_map]
  exact join_interleave first rest _ (by simpa using hrest)

/-- Every block of a compiled template is closed, so its literal shows every slot exactly once. -/
theorem closed_of_mem_blocks {tree : Markup.Node} {name : String} {options : Options} {root : Root}
    (h : compileTree tree name options = .ok root) :
    ∀ b ∈ root.blocks, b.isClosed = true ∧ ∀ format : Format,
      ∃ first rest, b.quasis = first :: rest ∧ rest.length = b.slots.length ∧
        b.html format = first ++ literalTail (b.slots.map (Piece.toSource format)) rest := by
  intro b hb
  obtain ⟨-, rfl⟩ := compileTree_eq_ok_iff.mp h
  have hclosed := isClosed_of_mem_blocks hb
  exact ⟨hclosed, html_of_isClosed hclosed⟩

/-- The call of a mixin without a body, in the alternate of a condition. -/
theorem isClosed_alternate_mixin :
    compileTree (.conditional "a" [.text "x"]
      (some (.block [.code "y" true, .mixin "m" none none true []]))) "t" {} =
        .ok ⟨⟨"t", [], ["", ""], [.node (.condition "a"
          (some ⟨"t", [], ["", "", ""],
            [.source "y", .node (.mixin (.call []) ⟨"m", [], [""], []⟩)]⟩)
          ⟨"t", [], ["x"], []⟩)]⟩, []⟩ ∧
    (⟨"m", [], [""], []⟩ : Block Node).isClosed = true := by
  have h : compileTree (.conditional "a" [.text "x"]
      (some (.block [.code "y" true, .mixin "m" none none true []]))) "t" {} =
        .ok ⟨⟨"t", [], ["", ""], [.node (.condition "a"
          (some ⟨"t", [], ["", "", ""],
            [.source "y", .node (.mixin (.call []) ⟨"m", [], [""], []⟩)]⟩)
          ⟨"t", [], ["x"], []⟩)]⟩, []⟩ := by
    have hattributes : compileAttributes {} [] = [] := by
      rw [compileAttributes, List.map_nil, settle]
    rw [compileTree_eq_ok_iff]
    refine ⟨rfl, ?_⟩
    simp only [rootOf, marks, alternateBlock, marksAll, hattributes]
    rfl
  refine ⟨h, (closed_of_mem_blocks h _ ?_).1⟩
  simp [Root.blocks, Block.blocks, Node.blocks, pieceBlocks, alternateBlocks]

end Taglit.Compiled
