import Taglit.Json.Cause

/-!
# Reading: faults and numbers

Readers work on the characters of a text from some place on.  A reader gives what it read together
with the characters after it, which are fewer, or a `Fault`.  A fault counts its place from the end:
`left` is the number of bytes that lie beyond it.

A number is read digit by digit into 64 bits; digits that no longer fit only move the point.
-/

namespace Taglit.Json

/-- A reason to refuse a text, and the number of bytes beyond the place where it was seen. -/
structure Fault where
  cause : Cause
  left : Nat

/-- The number of bytes of a list of characters. -/
def byteLength (cs : List Char) : Nat :=
  cs.foldr (fun c n => c.utf8Size + n) 0

/-- The fault at the next byte, which has been looked at but not passed. -/
def Fault.here (cause : Cause) (cs : List Char) : Fault :=
  ⟨cause, byteLength cs - 1⟩

/-- The fault just before the next byte. -/
def Fault.before (cause : Cause) (cs : List Char) : Fault :=
  ⟨cause, byteLength cs⟩

/-- The characters after a part of `cs` that is not empty. -/
abbrev Rest (cs : List Char) := { rest : List Char // rest.length < cs.length }

/-- What is left of a part, as what is left of the whole. -/
def Rest.within {part cs : List Char} (rest : Rest part) (h : part.length < cs.length) : Rest cs :=
  ⟨rest.val, Nat.lt_trans rest.property h⟩

/-- The result of reading something at the start of `cs`. -/
abbrev Read (α : Type) (cs : List Char) := Except Fault (α × Rest cs)

/-- The white space of a JSON text. -/
def isBlank (c : Char) : Bool :=
  c == ' ' || c == '\t' || c == '\n' || c == '\r'

/-- The characters from the first one on that is not blank. -/
def skipBlank (cs : List Char) : List Char :=
  cs.dropWhile isBlank

/-- Skipping blanks does not make a text longer. -/
theorem length_skipBlank_le (cs : List Char) : (skipBlank cs).length ≤ cs.length :=
  (List.dropWhile_sublist isBlank).length_le

/-- What is shorter than the characters after blanks, is shorter than all of them. -/
theorem length_lt_of_skipBlank {cs start rest : List Char} (hcs : skipBlank cs = start)
    (hrest : rest.length < start.length) : rest.length < cs.length := by
  rw [← hcs] at hrest
  exact Nat.lt_of_lt_of_le hrest (length_skipBlank_le cs)

/-- What follows the first character after blanks is shorter than the text. -/
theorem length_lt_of_skipBlank_cons {cs rest : List Char} {c : Char}
    (hcs : skipBlank cs = c :: rest) : rest.length < cs.length :=
  length_lt_of_skipBlank hcs (Nat.lt_succ_self _)

/-! ## The value of a number -/

/-- The greatest number of 64 bits. -/
def wordMax : Nat := 0xffffffffffffffff

/-- Append digits to a number while it fits into 64 bits.  The second part counts the digits that
were taken. -/
def takeDigits (n taken : Nat) : List Char → Nat × Nat
  | [] => (n, taken)
  | c :: cs =>
    let next := n * 10 + (c.toNat - 48)
    if wordMax < next then (n, taken) else takeDigits next (taken + 1) cs

/-- A power of ten. -/
def powerOfTen (e : Nat) : Float :=
  Float.ofScientific 1 false e

/-- Divide by a power of ten, in steps that each are within the range of a double. -/
def scaleDown (x : Float) (e : Nat) : Float :=
  if e ≤ 308 then x / powerOfTen e
  else if x == 0 then x
  else scaleDown (x / powerOfTen 308) (e - 308)
termination_by e

/-- `significand * 10 ^ exponent` as a double; `none` if it is too large. -/
def scale (significand : Nat) (exponent : Int) : Option Float :=
  let x := Float.ofNat significand
  if exponent < 0 then some (scaleDown x exponent.natAbs)
  else if 308 < exponent then if significand = 0 then some x else none
  else
    let y := x * powerOfTen exponent.toNat
    if y.isInf then none else some y

/-- The double of the given sign and parts, at a place before `cs`. -/
def makeFloat (negative : Bool) (significand : Nat) (exponent : Int) (cs : List Char) :
    Except Fault Number :=
  match scale significand exponent with
  | some x => .ok (.float (if negative then -x else x))
  | none => .error (.before .numberTooLarge cs)

/-- The integer of the given sign; a negative zero and what does not fit into 64 bits are
doubles. -/
def makeInteger (negative : Bool) (significand : Nat) : Number :=
  if negative then
    if significand = 0 ∨ 0x8000000000000000 < significand then .float (-Float.ofNat significand)
    else .neg significand
  else .nat significand

/-! ## Reading a number -/

/-- The greatest exponent that is read as such. -/
def exponentMax : Nat := 0x7fffffff

/-- Read the digits of an exponent, and the characters after them.  The first part is `none` as soon
as the exponent is too large, and then the digits after that one are not read. -/
def takeExponent (n : Nat) : List Char → Option Nat × List Char
  | [] => (some n, [])
  | c :: cs =>
    if c.isDigit then
      let next := n * 10 + (c.toNat - 48)
      if exponentMax < next then (none, cs) else takeExponent next cs
    else (some n, c :: cs)

/-- The sign of an exponent, and the characters after it. -/
def exponentSign : List Char → Bool × List Char
  | '-' :: cs => (true, cs)
  | '+' :: cs => (false, cs)
  | cs => (false, cs)

/-- Keep an exponent within 32 bits. -/
def clampExponent (e : Int) : Int :=
  max (-0x80000000) (min e 0x7fffffff)

/-- Read an exponent after its letter, and finish the number. -/
def readExponent (negative : Bool) (significand : Nat) (exponent : Int) (cs : List Char) :
    Except Fault (Number × List Char) := do
  let (down, digits) := exponentSign cs
  match digits with
  | [] => throw ⟨.valueUnfinished, 0⟩
  | c :: _ =>
    if !c.isDigit then throw (.here .invalidNumber digits)
    match takeExponent 0 digits with
    | (some e, rest) =>
      let final := clampExponent (if down then exponent - e else exponent + e)
      return (← makeFloat negative significand final rest, rest)
    | (none, rest) =>
      -- too large a power of ten is refused, and too small a one gives zero
      if significand ≠ 0 ∧ !down then throw (.before .numberTooLarge rest)
      return (.float (if negative then -0.0 else 0.0), rest.dropWhile Char.isDigit)

/-- Finish a number that is no integer: read its exponent if it has one. -/
def readScale (negative : Bool) (significand : Nat) (exponent : Int) (cs : List Char) :
    Except Fault (Number × List Char) :=
  match cs with
  | 'e' :: rest | 'E' :: rest => readExponent negative significand exponent rest
  | _ => do return (← makeFloat negative significand exponent cs, cs)

/-- Read the digits after the point of a number, and finish it. -/
def readFraction (negative : Bool) (significand : Nat) (exponent : Int) (cs : List Char) :
    Except Fault (Number × List Char) := do
  let digits := cs.takeWhile Char.isDigit
  let rest := cs.dropWhile Char.isDigit
  if digits.isEmpty then
    throw (if rest.isEmpty then ⟨.valueUnfinished, 0⟩ else .here .invalidNumber rest)
  let (significand, taken) := takeDigits significand 0 digits
  readScale negative significand (exponent - taken) rest

/-- Read a number without its sign, from its first digit on. -/
def readUnsigned (negative : Bool) (cs : List Char) : Except Fault (Number × List Char) := do
  let digits := cs.takeWhile Char.isDigit
  let rest := cs.dropWhile Char.isDigit
  match digits with
  | [] => throw (if cs.isEmpty then ⟨.valueUnfinished, 0⟩ else .here .invalidNumber cs)
  -- no zero stands before other digits
  | '0' :: _ :: _ => throw (.here .invalidNumber (cs.drop 1))
  | _ =>
    -- digits that did not fit are powers of ten
    let (significand, taken) := takeDigits 0 0 digits
    let dropped := digits.length - taken
    match rest with
    | '.' :: rest => readFraction negative significand dropped rest
    | 'e' :: _ | 'E' :: _ => readScale negative significand dropped rest
    | _ =>
      if dropped = 0 then return (makeInteger negative significand, rest)
      else readScale negative significand dropped rest

/-- Read a number. -/
def readNumber (cs : List Char) : Except Fault (Number × List Char) :=
  match cs with
  | '-' :: rest => readUnsigned true rest
  | _ => readUnsigned false cs

/-! ## Reading a number makes progress -/

/-- Taking the sign of an exponent off does not make a text longer. -/
theorem length_exponentSign_le (cs : List Char) : (exponentSign cs).2.length ≤ cs.length := by
  unfold exponentSign
  split <;> simp

/-- Neither does taking its digits, whether the exponent fits or is cut off. -/
theorem length_takeExponent_le (n : Nat) (cs : List Char) :
    (takeExponent n cs).2.length ≤ cs.length := by
  fun_induction takeExponent n cs with
  | case1 => exact Nat.le_refl _
  | case2 => exact Nat.le_succ _
  | case3 _ _ _ _ _ _ ih => exact Nat.le_succ_of_le ih
  | case4 => exact Nat.le_refl _

/-- Neither does dropping digits. -/
theorem length_dropDigits_le (cs : List Char) : (cs.dropWhile Char.isDigit).length ≤ cs.length :=
  (List.dropWhile_sublist Char.isDigit).length_le

/-- What is left after an exponent is no longer than the text from its sign on. -/
theorem length_readExponent_le {negative : Bool} {significand : Nat} {exponent : Int}
    {cs rest : List Char} {n : Number}
    (h : readExponent negative significand exponent cs = .ok (n, rest)) :
    rest.length ≤ cs.length := by
  have hsign := length_exponentSign_le cs
  unfold readExponent at h
  simp only [bind, Except.bind, pure, Except.pure, throw, throwThe, MonadExceptOf.throw] at h
  grind [length_takeExponent_le, length_dropDigits_le]

/-- What is left after a number is no longer than the text after its last digit. -/
theorem length_readScale_le {negative : Bool} {significand : Nat} {exponent : Int}
    {cs rest : List Char} {n : Number}
    (h : readScale negative significand exponent cs = .ok (n, rest)) : rest.length ≤ cs.length := by
  unfold readScale at h
  split at h
  · exact Nat.le_succ_of_le (length_readExponent_le h)
  · exact Nat.le_succ_of_le (length_readExponent_le h)
  · cases hf : makeFloat negative significand exponent cs with
    | error e => simp [hf, bind, Except.bind] at h
    | ok x => simp [hf, bind, Except.bind, pure, Except.pure] at h; simp [h.2]

/-- What is left after a number is no longer than the text after its point. -/
theorem length_readFraction_le {negative : Bool} {significand : Nat} {exponent : Int}
    {cs rest : List Char} {n : Number}
    (h : readFraction negative significand exponent cs = .ok (n, rest)) :
    rest.length ≤ cs.length := by
  unfold readFraction at h
  simp only [bind, Except.bind, throw, throwThe, MonadExceptOf.throw] at h
  split at h
  · cases h
  · exact Nat.le_trans (length_readScale_le h) (length_dropDigits_le cs)

/-- A number without a sign has a digit, so that less is left than there was. -/
theorem length_readUnsigned_lt {negative : Bool} {cs rest : List Char}
    {n : Number} (h : readUnsigned negative cs = .ok (n, rest)) : rest.length < cs.length := by
  have hsplit :
      (cs.takeWhile Char.isDigit).length + (cs.dropWhile Char.isDigit).length = cs.length := by
    rw [← List.length_append, List.takeWhile_append_dropWhile]
  unfold readUnsigned at h
  simp only [pure, Except.pure, throw, throwThe, MonadExceptOf.throw] at h
  split at h
  · cases h
  · cases h
  · -- one digit at least is taken, and each way to go on from the digits drops no character back
    rename_i hnil _
    have hpos : 0 < (cs.takeWhile Char.isDigit).length := List.length_pos_iff.mpr hnil
    split at h
    · rename_i hrest
      have := length_readFraction_le h
      simp only [hrest, List.length_cons] at hsplit
      omega
    · have := length_readScale_le h
      omega
    · have := length_readScale_le h
      omega
    · split at h
      · cases h
        omega
      · have := length_readScale_le h
        omega

/-- Reading a number leaves less than there was. -/
theorem length_readNumber_lt {cs rest : List Char} {n : Number}
    (h : readNumber cs = .ok (n, rest)) : rest.length < cs.length := by
  unfold readNumber at h
  split at h
  · exact Nat.lt_succ_of_lt (length_readUnsigned_lt h)
  · exact length_readUnsigned_lt h

/-- Read a number as a value, with the proof that something was read. -/
def numberValue (cs : List Char) : Read Json cs :=
  match h : readNumber cs with
  | .ok (n, rest) => .ok (.number n, ⟨rest, length_readNumber_lt h⟩)
  | .error fault => .error fault

end Taglit.Json
