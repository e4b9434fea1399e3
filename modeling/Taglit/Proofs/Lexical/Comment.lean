import Taglit.Proofs.Text.Chunk

/-!
# Comments in scripts

Scripts are read character by character as code, strings, template literals and comments, the latter
up to the end of the line or up to `*/`.  A substitution of a template literal is code again, up to
the brace that closes it.  Regular expressions are not told apart from other code.

`withoutComments` is the text of a script outside its comments.  A source is *complete* if a line
end after it leads back to code: it ends in code or in a comment of the first kind.  What is put
after such a comment on the same line belongs to it, and `withoutComments_semicolon_iff` says that
this is the only way for text to get lost.
-/

namespace Taglit.Lexical

open Taglit.Text (ChunkState)

/-- The delimiter of a string. -/
inductive Quote where
  | single
  | double
  deriving DecidableEq, Repr

/-- The character of a delimiter. -/
def Quote.char : Quote → Char
  | single => '\''
  | double => '"'

/-- What a reader of scripts is in the midst of: code, code after a slash that may open a comment, a
comment up to the end of the line, one up to `*/` (`star` after an asterisk), a string (`escaped`
after a backslash), or a chunk of a template literal. -/
inductive Place where
  | code
  | slash
  | lineComment
  | blockComment (star : Bool)
  | quoted (quote : Quote) (escaped : Bool)
  | template (state : ChunkState)
  deriving DecidableEq, Repr

/-- Where a reader of scripts is: what it is in the midst of, and the number of braces open in each
of the substitutions around that, inner ones first. -/
structure Position where
  place : Place := .code
  depths : List Nat := []
  deriving DecidableEq, Repr

/-- Whether a character ends a line. -/
def isLineEnd (c : Char) : Bool :=
  c == '\n' || c == '\r' || c == '\u2028' || c == '\u2029'

namespace Position

/-- Read a character of code that has nothing to do with comments. -/
def nextInCode (depths : List Nat) (c : Char) : Position :=
  if c = '\'' then ⟨.quoted .single false, depths⟩
  else if c = '"' then ⟨.quoted .double false, depths⟩
  else if c = '\x60' then ⟨.template .plain, depths⟩
  else if c = '\x7b' then ⟨.code, depths.modifyHead (· + 1)⟩
  else if c = '\x7d' then
    match depths with
    | [] => ⟨.code, []⟩
    | 0 :: depths => ⟨.template .plain, depths⟩
    | (depth + 1) :: depths => ⟨.code, depth :: depths⟩
  else ⟨.code, depths⟩

/-- Read one character. -/
def next (p : Position) (c : Char) : Position :=
  match p.place with
  | .code => if c = '/' then { p with place := .slash } else nextInCode p.depths c
  | .slash =>
    if c = '/' then { p with place := .lineComment }
    else if c = '*' then { p with place := .blockComment false }
    else nextInCode p.depths c
  | .lineComment => if isLineEnd c then { p with place := .code } else p
  | .blockComment star =>
    if star && c == '/' then { p with place := .code }
    else { p with place := .blockComment (c == '*') }
  | .quoted quote escaped =>
    if escaped then { p with place := .quoted quote false }
    else if c = '\\' then { p with place := .quoted quote true }
    else if c = quote.char then { p with place := .code }
    else p
  | .template state =>
    match state.step c with
    | some state => { p with place := .template state }
    | none => if c = '\x60' then { p with place := .code } else ⟨.code, 0 :: p.depths⟩

/-- Read characters one after the other. -/
def after (p : Position) (cs : List Char) : Position :=
  cs.foldl next p

/-- A slash that may still open a comment. -/
def held (p : Position) : List Char :=
  if p.place = .slash then ['/'] else []

/-- What is known to stand outside comments once a character is read.  The end of a line is no part
of the comment before it. -/
def shows (p : Position) (c : Char) : List Char :=
  match p.place with
  | .code => if c = '/' then [] else [c]
  | .slash => if c = '/' ∨ c = '*' then [] else ['/', c]
  | .lineComment => if isLineEnd c then [c] else []
  | .blockComment _ => []
  | .quoted _ _ => [c]
  | .template _ => [c]

/-- The characters outside comments. -/
def shown (p : Position) : List Char → List Char
  | [] => p.held
  | c :: cs => p.shows c ++ (p.next c).shown cs

/-- The same position, less the chance that a slash opens a comment. -/
def settled (p : Position) : Position :=
  if p.place = .slash then { p with place := .code } else p

/-- Characters after characters are read one after the other. -/
theorem after_append (p : Position) (xs ys : List Char) :
    p.after (xs ++ ys) = (p.after xs).after ys :=
  List.foldl_append

/-- Text is read on from where the text before it has led, if the latter does not end in a slash
that opens a comment. -/
theorem shown_append (p : Position) (xs ys : List Char)
    (h : (p.after xs).shown ys = (p.after xs).held ++ (p.after xs).settled.shown ys) :
    p.shown (xs ++ ys) = p.shown xs ++ (p.after xs).settled.shown ys := by
  induction xs generalizing p with
  | nil => exact h
  | cons x xs ih =>
      rw [List.cons_append, shown, ih (p.next x) h, ← List.append_assoc]
      rfl

/-- A slash before a character that makes no comment of it stands outside comments. -/
theorem shown_append_cons (p : Position) (xs : List Char) {c : Char} (hslash : c ≠ '/')
    (hstar : c ≠ '*') (ys : List Char) :
    p.shown (xs ++ c :: ys) = p.shown xs ++ (p.after xs).settled.shown (c :: ys) := by
  refine shown_append p xs (c :: ys) ?_
  by_cases hplace : (p.after xs).place = .slash
  · simp [shown, shows, next, held, settled, hplace, hslash, hstar]
  · simp [held, settled, hplace]

/-- In a comment, nothing is shown before the line ends. -/
theorem isLineEnd_of_shown_lineComment {depths : List Nat} {cs rest : List Char} {c : Char}
    (h : (Position.mk .lineComment depths).shown cs = c :: rest) : isLineEnd c = true := by
  induction cs with
  | nil => cases h
  | cons x xs ih =>
      by_cases hx : isLineEnd x = true
      · simp [shown, shows, hx] at h
        rw [← h.1, hx]
      · simp [shown, shows, next, hx] at h
        exact ih h

/-- A line end leads to code from code and from a comment up to the end of the line, and from
nowhere else. -/
theorem settled_of_next_newline {p : Position} (h : p.next '\n' = {}) :
    p.settled = {} ∨ p = ⟨.lineComment, []⟩ := by
  obtain ⟨place, depths⟩ := p
  cases place with
  | code => exact .inl h
  | slash => exact .inl h
  | lineComment =>
      have hdepths : depths = [] := congrArg Position.depths h
      exact .inr (hdepths ▸ rfl)
  | blockComment star =>
      have hplace := congrArg Position.place h
      cases star <;> cases hplace
  | quoted quote escaped =>
      have hplace := congrArg Position.place h
      cases quote <;> cases escaped <;> cases hplace
  | template state =>
      have hplace := congrArg Position.place h
      cases state <;> cases hplace

end Position

/-! ## Sources -/

/-- The text of a source outside its comments. -/
def withoutComments (source : String) : String :=
  .ofList (({} : Position).shown source.toList)

/-- Whether a source leads from code back to code. -/
def leadsToCode (source : String) : Bool :=
  ({} : Position).after source.toList == {}

/-- Whether a source with a line end after it leads from code back to code. -/
def isComplete (source : String) : Bool :=
  leadsToCode (source ++ "\n")

/-- Whether a source ends in a comment up to the end of the line. -/
def endsInComment (source : String) : Bool :=
  (({} : Position).after source.toList).place == .lineComment

/-- A source that leads to code leaves the text after it as it is. -/
theorem withoutComments_append {s : String} (h : leadsToCode s = true) (t : String) :
    withoutComments (s ++ t) = withoutComments s ++ withoutComments t := by
  have hafter : ({} : Position).after s.toList = {} := beq_iff_eq.mp h
  have hshown := Position.shown_append {} s.toList t.toList (by rw [hafter]; rfl)
  rw [withoutComments, String.toList_append, hshown, hafter, String.ofList_append]
  rfl

/-- Where a complete source leads. -/
theorem settled_of_isComplete {s : String} (h : isComplete s = true) :
    (({} : Position).after s.toList).settled =
      if endsInComment s then ⟨.lineComment, []⟩ else {} := by
  have hnext : (({} : Position).after s.toList).next '\n' = {} := by
    rw [isComplete, leadsToCode, beq_iff_eq, String.toList_append, Position.after_append] at h
    exact h
  rcases Position.settled_of_next_newline hnext with hcode | hcomment
  · have hend : endsInComment s = false := by
      rw [endsInComment, beq_eq_false_iff_ne]
      intro hplace
      have hsettled := congrArg Position.place hcode
      rw [Position.settled, hplace, if_neg (by decide), hplace] at hsettled
      cases hsettled
    rw [hcode, hend]
    rfl
  · rw [endsInComment, hcomment]
    rfl

/-- What is read after a complete source: the rest of a comment, or code. -/
theorem withoutComments_append_of_isComplete {s t : String} (h : isComplete s = true) {c : Char}
    {cs : List Char} (ht : t.toList = c :: cs) (hslash : c ≠ '/') (hstar : c ≠ '*') :
    withoutComments (s ++ t) = withoutComments s ++
      .ofList ((if endsInComment s then Position.mk .lineComment [] else {}).shown t.toList) := by
  rw [withoutComments, String.toList_append, ht,
    Position.shown_append_cons {} s.toList hslash hstar, settled_of_isComplete h,
    String.ofList_append]
  rfl

/-- A line end leads out of whatever a complete source ends in. -/
theorem withoutComments_newline {s : String} (h : isComplete s = true) (t : String) :
    withoutComments (s ++ ("\n" ++ t)) = withoutComments s ++ ("\n" ++ withoutComments t) := by
  have ht : ("\n" ++ t).toList = '\n' :: t.toList := String.toList_append
  have hrest :
      (if endsInComment s then Position.mk .lineComment [] else {}).shown ('\n' :: t.toList) =
        '\n' :: ({} : Position).shown t.toList := by
    cases endsInComment s <;> rfl
  rw [withoutComments_append_of_isComplete h ht (by decide) (by decide), ht, hrest,
    String.ofList_cons]
  rfl

/-- A semicolon after a complete source is lost, and the text after it, iff the source ends in a
comment. -/
theorem withoutComments_semicolon_iff {s : String} (h : isComplete s = true) {t rest : String} :
    withoutComments (s ++ (";" ++ t)) = withoutComments s ++ (";" ++ rest) ↔
      endsInComment s = false ∧ withoutComments t = rest := by
  have ht : (";" ++ t).toList = ';' :: t.toList := String.toList_append
  rw [withoutComments_append_of_isComplete h ht (by decide) (by decide), String.append_right_inj,
    ht]
  cases endsInComment s with
  | true =>
      -- up to the end of the line nothing is shown, and then the line end is
      refine iff_of_false (fun heq => ?_) (fun hfalse => Bool.noConfusion hfalse.1)
      have hchars := congrArg String.toList heq
      rw [String.toList_ofList, String.toList_append] at hchars
      exact absurd (Position.isLineEnd_of_shown_lineComment hchars) (by decide)
  | false =>
      have hcode : ({} : Position).shown (';' :: t.toList) =
          ';' :: ({} : Position).shown t.toList := rfl
      rw [if_neg Bool.false_ne_true, hcode, String.ofList_cons]
      exact (String.append_right_inj ";").trans (and_iff_right rfl).symm

/-- Sources, each of them with a semicolon after it. -/
def terminated (sources : List String) : String :=
  String.join (sources.map (· ++ ";"))

/-- The first of the sources, and the others after its semicolon. -/
theorem terminated_cons (s : String) (sources : List String) :
    terminated (s :: sources) = s ++ (";" ++ terminated sources) := by
  rw [terminated, List.map_cons, String.join_cons, String.append_assoc, terminated]

/-- Complete sources in a row show their own texts, and leave what follows as it is, iff none of
them ends in a comment. -/
theorem withoutComments_terminated_iff {sources : List String}
    (h : ∀ s ∈ sources, isComplete s = true) {t rest : String} :
    withoutComments (terminated sources ++ t) = terminated (sources.map withoutComments) ++ rest ↔
      (∀ s ∈ sources, endsInComment s = false) ∧ withoutComments t = rest := by
  induction sources with
  | nil => simp [terminated]
  | cons s sources ih =>
      obtain ⟨hs, hsources⟩ := List.forall_mem_cons.mp h
      rw [terminated_cons, List.map_cons, terminated_cons, String.append_assoc, String.append_assoc,
        String.append_assoc, String.append_assoc, withoutComments_semicolon_iff hs, ih hsources,
        List.forall_mem_cons, and_assoc]

/-! ## Sources with semicolons between them -/

/-- Semicolons between sources terminate all but the last one. -/
theorem intercalate_concat (sources : List String) (last : String) :
    ";".intercalate (sources ++ [last]) = terminated sources ++ last := by
  induction sources with
  | nil =>
      rw [List.nil_append, String.intercalate_singleton]
      exact String.empty_append.symm
  | cons s sources ih =>
      rw [List.cons_append, String.intercalate_cons_of_ne_nil (by simp), ih, terminated_cons]
      simp only [String.append_assoc]

/-- With one more semicolon, the last one is terminated too. -/
theorem intercalate_append_semicolon {sources : List String} (hne : sources ≠ []) (t : String) :
    ";".intercalate sources ++ (";" ++ t) = terminated sources ++ t := by
  rcases List.eq_nil_or_concat sources with rfl | ⟨init, last, rfl⟩
  · exact absurd rfl hne
  · rw [List.concat_eq_append, intercalate_concat]
    simp [terminated, String.append_assoc]

/-- The same with a semicolon after the last source. -/
theorem withoutComments_intercalate_semicolon_iff {sources : List String} (hne : sources ≠ [])
    (h : ∀ s ∈ sources, isComplete s = true) {t rest : String} :
    withoutComments (";".intercalate sources ++ (";" ++ t)) =
        ";".intercalate (sources.map withoutComments) ++ (";" ++ rest) ↔
      (∀ s ∈ sources, endsInComment s = false) ∧ withoutComments t = rest := by
  rw [intercalate_append_semicolon hne, intercalate_append_semicolon (by simpa using hne),
    withoutComments_terminated_iff h]

/-- With a line end after the last source, that one may end in a comment. -/
theorem withoutComments_intercalate_newline_iff {sources : List String}
    (h : ∀ s ∈ sources, isComplete s = true) {t rest : String} :
    withoutComments (";".intercalate sources ++ ("\n" ++ t)) =
        ";".intercalate (sources.map withoutComments) ++ ("\n" ++ rest) ↔
      (∀ s ∈ sources.dropLast, endsInComment s = false) ∧ withoutComments t = rest := by
  rcases List.eq_nil_or_concat sources with rfl | ⟨init, last, rfl⟩
  · have hnewline := withoutComments_append (s := "\n") rfl t
    rw [List.map_nil, String.intercalate_nil, String.empty_append, String.empty_append, hnewline]
    exact (String.append_right_inj "\n").trans (and_iff_right (by simp)).symm
  · -- the sources before the last one have semicolons after them, the last one the line end
    have hlast : isComplete last = true := h last (by simp)
    have hinit : ∀ s ∈ init, isComplete s = true := fun s hs => h s (by simp [hs])
    rw [List.concat_eq_append, List.map_append, List.map_singleton, intercalate_concat,
      intercalate_concat, String.append_assoc, String.append_assoc,
      withoutComments_terminated_iff hinit, withoutComments_newline hlast, String.append_right_inj,
      String.append_right_inj, List.dropLast_concat]

end Taglit.Lexical
