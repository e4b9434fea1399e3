import Mathlib.Tactic.SplitIfs
import Taglit.Proofs.Text.Chunk

/-!
# A lexer of scripts with a stack of modes

Scripts are read character by character in one of three modes: code, which counts the braces open in
it, a quoted string, and a template literal.  A substitution of a template literal is code again, so
the modes stand on a stack.  Comments and regular expressions are not told apart from other code.

A source is *self-contained* if reading it from code with no brace open leads back there, without
closing a brace that it did not open.  `lex` gives the template literals at the top of such a
source: the raw texts of their chunks, and the sources of their substitutions.

The main statement is `run_graft`: what can be read from a stack can also be read when the code at
its bottom continues other code.
-/

namespace Taglit.Lexical

open Taglit.Text (ChunkState)

/-- A template literal that has been read: the raw texts of its chunks, and the sources of its
substitutions. -/
structure Literal where
  chunks : List String := []
  sources : List String := []
  deriving DecidableEq, Repr

/-- A mode on the stack, with all that has been read in it.  Code has `depth` braces open, and
template literals in it; a string is `escaped` after a backslash; and of a template literal there
are the chunk that is being read and the parts before it. -/
inductive Frame where
  | code (depth : Nat) (text : List Char) (literals : List Literal)
  | quoted (quote : Char) (escaped : Bool) (text : List Char)
  | template (state : ChunkState) (text chunk : List Char) (parts : Literal)
  deriving DecidableEq, Repr

/-- Go back to the code below a string or a template literal that has ended. -/
def resume (text : List Char) (found : List Literal) : List Frame → Option (List Frame)
  | .code depth before literals :: below =>
    some (.code depth (before ++ text) (literals ++ found) :: below)
  | _ => none

/-- Read a closing brace in code: it closes a brace of the code, or else the substitution. -/
def closeBrace (text : List Char) (literals : List Literal) : Nat → List Frame → Option (List Frame)
  | depth + 1, below => some (.code depth (text ++ ['\x7d']) literals :: below)
  | 0, .template _ before _ parts :: below =>
    some (.template .plain (before ++ (text ++ ['\x7d'])) []
      { parts with sources := parts.sources ++ [.ofList text] } :: below)
  | 0, _ => none

/-- Read one character. -/
def step : List Frame → Char → Option (List Frame)
  | [], _ => none
  | .code depth text literals :: below, c =>
    if c = '\'' ∨ c = '"' then some (.quoted c false [c] :: .code depth text literals :: below)
    else if c = '\x60' then some (.template .plain [c] [] {} :: .code depth text literals :: below)
    else if c = '\x7b' then some (.code (depth + 1) (text ++ [c]) literals :: below)
    else if c = '\x7d' then closeBrace text literals depth below
    else some (.code depth (text ++ [c]) literals :: below)
  | .quoted quote escaped text :: below, c =>
    if escaped then some (.quoted quote false (text ++ [c]) :: below)
    else if c = '\\' then some (.quoted quote true (text ++ [c]) :: below)
    else if c = quote then resume (text ++ [c]) [] below
    else some (.quoted quote false (text ++ [c]) :: below)
  | .template state text chunk parts :: below, c =>
    match state.step c with
    | some next => some (.template next (text ++ [c]) (chunk ++ [c]) parts :: below)
    | none =>
      if c = '\x60' then
        resume (text ++ [c]) [{ parts with chunks := parts.chunks ++ [.ofList chunk] }] below
      else
        -- the dollar sign before the brace is no part of the chunk
        some (.code 0 [] [] :: .template .plain (text ++ [c]) []
          { parts with chunks := parts.chunks ++ [.ofList chunk.dropLast] } :: below)

/-- Read characters one after the other. -/
def run (stack : List Frame) : List Char → Option (List Frame)
  | [] => some stack
  | c :: cs => (step stack c).bind fun next => run next cs

/-- The template literals at the top of a self-contained source. -/
def lex (source : String) : Option (List Literal) :=
  match run [.code 0 [] []] source.toList with
  | some [.code 0 _ literals] => some literals
  | _ => none

/-- Whether a source leads from code with no brace open back to it, and closes no other brace. -/
def SelfContained (source : String) : Prop :=
  (lex source).isSome = true

instance (source : String) : Decidable (SelfContained source) :=
  inferInstanceAs (Decidable (_ = true))

/-- Characters after characters are read one after the other. -/
theorem run_append (stack : List Frame) (xs ys : List Char) :
    run stack (xs ++ ys) = (run stack xs).bind fun next => run next ys := by
  induction xs generalizing stack with
  | nil => rfl
  | cons x xs ih =>
      rw [List.cons_append, run, run, Option.bind_assoc]
      exact congrArg _ (funext ih)

/-! ## What has been read is kept -/

/-- All that has been read in a frame. -/
def Frame.text : Frame → List Char
  | .code _ text _ => text
  | .quoted _ _ text => text
  | .template _ text _ _ => text

/-- All that has been read, from the bottom of the stack to its top. -/
def spelled : List Frame → List Char
  | [] => []
  | frame :: below => spelled below ++ frame.text

/-- Going back to code keeps what was read in the string or template literal. -/
theorem spelled_resume {text : List Char} {found : List Literal} {below next : List Frame}
    (h : resume text found below = some next) : spelled next = spelled below ++ text := by
  unfold resume at h
  split at h
  · obtain rfl := Option.some.inj h
    simp [spelled, Frame.text]
  · cases h

/-- A closing brace keeps what was read in the code. -/
theorem spelled_closeBrace {text : List Char} {literals : List Literal} {depth : Nat}
    {below next : List Frame} (h : closeBrace text literals depth below = some next) :
    spelled next = spelled below ++ (text ++ ['\x7d']) := by
  unfold closeBrace at h
  split at h
  · obtain rfl := Option.some.inj h
    rfl
  · obtain rfl := Option.some.inj h
    simp [spelled, Frame.text]
  · cases h

/-- Every character is added to what has been read. -/
theorem spelled_step {stack next : List Frame} {c : Char} (h : step stack c = some next) :
    spelled next = spelled stack ++ [c] := by
  unfold step at h
  split at h
  · cases h
  · -- code
    split_ifs at h with hquote htick hopen hclose
    · obtain rfl := Option.some.inj h
      rfl
    · obtain rfl := Option.some.inj h
      rfl
    · obtain rfl := Option.some.inj h
      simp [spelled, Frame.text]
    · rw [spelled_closeBrace h, hclose]
      simp [spelled, Frame.text]
    · obtain rfl := Option.some.inj h
      simp [spelled, Frame.text]
  · -- a quoted string
    split_ifs at h with hescaped hslash hquote
    · obtain rfl := Option.some.inj h
      simp [spelled, Frame.text]
    · obtain rfl := Option.some.inj h
      simp [spelled, Frame.text]
    · rw [spelled_resume h]
      simp [spelled, Frame.text]
    · obtain rfl := Option.some.inj h
      simp [spelled, Frame.text]
  · -- a template literal
    split at h
    · obtain rfl := Option.some.inj h
      simp [spelled, Frame.text]
    · split_ifs at h with htick
      · rw [spelled_resume h]
        simp [spelled, Frame.text]
      · obtain rfl := Option.some.inj h
        simp [spelled, Frame.text]

/-- All characters are added to what has been read. -/
theorem spelled_run {stack next : List Frame} {cs : List Char} (h : run stack cs = some next) :
    spelled next = spelled stack ++ cs := by
  induction cs generalizing stack with
  | nil =>
      obtain rfl := Option.some.inj h
      simp
  | cons c cs ih =>
      obtain ⟨mid, hstep, hrun⟩ := Option.bind_eq_some_iff.mp h
      rw [ih hrun, spelled_step hstep, List.append_assoc, List.singleton_append]

/-! ## Reading inside other code -/

section

variable (depth : Nat) (text : List Char) (literals : List Literal) (below : List Frame)

/-- A stack whose bottom continues code that was read before, on top of other frames. -/
def graft : List Frame → List Frame
  | [] => below
  | [.code d t ls] => .code (depth + d) (text ++ t) (literals ++ ls) :: below
  | frame :: frames => frame :: graft frames

/-- Only the bottom of a stack is changed. -/
theorem graft_cons_cons (frame next : Frame) (frames : List Frame) :
    graft depth text literals below (frame :: next :: frames) =
      frame :: graft depth text literals below (next :: frames) := by
  cases frame <;> rfl

/-- A string is not changed. -/
theorem graft_quoted (quote : Char) (escaped : Bool) (t : List Char) (frames : List Frame) :
    graft depth text literals below (.quoted quote escaped t :: frames) =
      .quoted quote escaped t :: graft depth text literals below frames := by
  cases frames <;> rfl

/-- Nor is a template literal. -/
theorem graft_template (state : ChunkState) (t chunk : List Char) (parts : Literal)
    (frames : List Frame) :
    graft depth text literals below (.template state t chunk parts :: frames) =
      .template state t chunk parts :: graft depth text literals below frames := by
  cases frames <;> rfl

/-- Going back to code is the same above other code. -/
theorem resume_graft {more : List Char} {found : List Literal} {stack next : List Frame}
    (h : resume more found stack = some next) :
    resume more found (graft depth text literals below stack) =
      some (graft depth text literals below next) := by
  unfold resume at h
  split at h
  · next d t ls rest =>
      obtain rfl := Option.some.inj h
      cases rest with
      | nil => simp [graft, resume]
      | cons frame rest => rw [graft_cons_cons, graft_cons_cons, resume]
  · cases h

/-- A closing brace above the bottom closes what it would close alone. -/
theorem closeBrace_graft {t : List Char} {ls : List Literal} {d : Nat} {frame : Frame}
    {frames next : List Frame} (h : closeBrace t ls d (frame :: frames) = some next) :
    closeBrace t ls d (graft depth text literals below (frame :: frames)) =
      some (graft depth text literals below next) := by
  cases d with
  | succ d =>
      obtain rfl := Option.some.inj h
      rw [graft_cons_cons, closeBrace]
  | zero =>
      cases frame with
      | code d t ls => cases h
      | quoted quote escaped t => cases h
      | template state before chunk parts =>
          obtain rfl := Option.some.inj h
          rw [graft_template, graft_template, closeBrace]

/-- In the code at the bottom, a closing brace needs one that was opened since. -/
theorem step_graft_bottom {d : Nat} {t : List Char} {ls : List Literal} {next : List Frame}
    {c : Char} (h : step [.code d t ls] c = some next) :
    step (graft depth text literals below [.code d t ls]) c =
      some (graft depth text literals below next) := by
  rw [step] at h
  rw [graft, step]
  split_ifs at h ⊢ with hquote htick hopen hclose
  · obtain rfl := Option.some.inj h
    rfl
  · obtain rfl := Option.some.inj h
    rfl
  · obtain rfl := Option.some.inj h
    simp [graft, Nat.add_assoc]
  · -- with no brace opened since, there would have been no step
    cases d with
    | zero => cases h
    | succ d =>
        obtain rfl := Option.some.inj h
        simp [graft, closeBrace]
  · obtain rfl := Option.some.inj h
    simp [graft]

/-- Code in a substitution stands above the bottom and does not know of it. -/
theorem step_graft_code {d : Nat} {t : List Char} {ls : List Literal} {frame : Frame}
    {frames next : List Frame} {c : Char}
    (h : step (.code d t ls :: frame :: frames) c = some next) :
    step (graft depth text literals below (.code d t ls :: frame :: frames)) c =
      some (graft depth text literals below next) := by
  rw [step] at h
  rw [graft_cons_cons, step]
  split_ifs at h ⊢ with hquote htick hopen hclose
  · obtain rfl := Option.some.inj h
    rw [graft_cons_cons, graft_cons_cons]
  · obtain rfl := Option.some.inj h
    rw [graft_cons_cons, graft_cons_cons]
  · obtain rfl := Option.some.inj h
    rw [graft_cons_cons]
  · exact closeBrace_graft depth text literals below h
  · obtain rfl := Option.some.inj h
    rw [graft_cons_cons]

/-- A string does not know of the bottom either. -/
theorem step_graft_quoted {quote : Char} {escaped : Bool} {t : List Char} {frames next : List Frame}
    {c : Char} (h : step (.quoted quote escaped t :: frames) c = some next) :
    step (graft depth text literals below (.quoted quote escaped t :: frames)) c =
      some (graft depth text literals below next) := by
  rw [step] at h
  rw [graft_quoted, step]
  split_ifs at h ⊢ with hescaped hslash hquote
  · obtain rfl := Option.some.inj h
    rw [graft_quoted]
  · obtain rfl := Option.some.inj h
    rw [graft_quoted]
  · exact resume_graft depth text literals below h
  · obtain rfl := Option.some.inj h
    rw [graft_quoted]

/-- Nor does a template literal. -/
theorem step_graft_template {state : ChunkState} {t chunk : List Char} {parts : Literal}
    {frames next : List Frame} {c : Char}
    (h : step (.template state t chunk parts :: frames) c = some next) :
    step (graft depth text literals below (.template state t chunk parts :: frames)) c =
      some (graft depth text literals below next) := by
  rw [step] at h
  rw [graft_template, step]
  cases hstep : state.step c with
  | some after =>
      rw [hstep] at h
      obtain rfl := Option.some.inj h
      rw [graft_template]
  | none =>
      rw [hstep] at h
      dsimp only at h ⊢
      split_ifs at h ⊢ with htick
      · exact resume_graft depth text literals below h
      · obtain rfl := Option.some.inj h
        rw [graft_cons_cons, graft_template]

/-- A step from a stack is a step when its bottom stands in other code. -/
theorem step_graft {stack next : List Frame} {c : Char} (h : step stack c = some next) :
    step (graft depth text literals below stack) c =
      some (graft depth text literals below next) := by
  match stack with
  | [] => cases h
  | [.code d t ls] => exact step_graft_bottom depth text literals below h
  | .code d t ls :: frame :: frames => exact step_graft_code depth text literals below h
  | .quoted quote escaped t :: frames => exact step_graft_quoted depth text literals below h
  | .template state t chunk parts :: frames => exact step_graft_template depth text literals below h

/-- What can be read from a stack can be read when its bottom stands in other code. -/
theorem run_graft {stack next : List Frame} {cs : List Char} (h : run stack cs = some next) :
    run (graft depth text literals below stack) cs =
      some (graft depth text literals below next) := by
  induction cs generalizing stack with
  | nil =>
      obtain rfl := Option.some.inj h
      rfl
  | cons c cs ih =>
      obtain ⟨mid, hstep, hrun⟩ := Option.bind_eq_some_iff.mp h
      rw [run, step_graft depth text literals below hstep]
      exact ih hrun

end

end Taglit.Lexical
