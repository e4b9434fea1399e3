/-!
# Characters and numbers in text

* `Runs` keeps a character class of a standard, which is a few hundred runs of consecutive code
  points, by the ascending list of the code points at which membership changes.  `Runs.contains`
  looks a character up by bisection: it belongs to the set iff an odd number of changes lie at or
  below it.
* `isBlank` is white space in the sense of the Unicode property `White_Space`.  Neither the zero
  width space U+200B nor the byte order mark U+FEFF belongs to it.
* `hexNumber?` and `hexDigits` read and write numbers in base sixteen, as the escapes of quoted text
  have them.
-/

namespace Taglit.Text

/-! ## Sets of characters -/

/-- A set of characters, given by the ascending code points at which membership changes: the bounds
at even places open a run, those at odd places close it. -/
structure Runs where
  bounds : Array Nat

namespace Runs

/-- The number of bounds at or below `n`, for a search between the places `lo` and `hi`. -/
def rank (bounds : Array Nat) (n lo hi : Nat) : Nat :=
  if lo < hi then
    let mid := (lo + hi) / 2
    if bounds.getD mid 0 ≤ n then rank bounds n (mid + 1) hi else rank bounds n lo mid
  else lo
termination_by hi - lo
decreasing_by all_goals omega

/-- Whether a character belongs to the set. -/
def contains (runs : Runs) (c : Char) : Bool :=
  rank runs.bounds c.toNat 0 runs.bounds.size % 2 == 1

end Runs

/-! ## Blank characters -/

/-- Whether a character has the property `White_Space`. -/
def isBlank (c : Char) : Bool :=
  let n := c.toNat
  (0x09 ≤ n && n ≤ 0x0d) || n == 0x20 || n == 0x85 || n == 0xa0 || n == 0x1680
    || (0x2000 ≤ n && n ≤ 0x200a) || n == 0x2028 || n == 0x2029 || n == 0x202f || n == 0x205f
    || n == 0x3000

/-- A text without the blanks at its start and at its end. -/
def trimBlank (cs : List Char) : List Char :=
  ((cs.dropWhile isBlank).reverse.dropWhile isBlank).reverse

/-! ## Numbers -/

/-- The value of a hexadecimal digit. -/
def hexValue? (c : Char) : Option Nat :=
  if '0' ≤ c ∧ c ≤ '9' then some (c.toNat - 48)
  else if 'a' ≤ c ∧ c ≤ 'f' then some (c.toNat - 87)
  else if 'A' ≤ c ∧ c ≤ 'F' then some (c.toNat - 55)
  else none

/-- The number written by a list of hexadecimal digits, if all of them are digits. -/
def hexNumber? (digits : List Char) : Option Nat :=
  digits.foldlM (fun n c => (hexValue? c).map (n * 16 + ·)) 0

/-- The hexadecimal digits of a number, in lower case and without leading zeros. -/
def hexDigits (n : Nat) : List Char :=
  Nat.toDigits 16 n

/-- The hexadecimal digits of a number, with zeros before them up to the given width. -/
def hexDigitsPadded (width n : Nat) : List Char :=
  List.replicate (width - (hexDigits n).length) '0' ++ hexDigits n

/-- Numbers with the same decimal form are equal: reading the digits gives the number back. -/
theorem eq_of_repr_eq {m n : Nat} (h : Nat.repr m = Nat.repr n) : m = n := by
  rw [Nat.repr_eq_ofList_toDigits, Nat.repr_eq_ofList_toDigits, String.ofList_inj] at h
  calc m = Nat.ofDigitChars 10 (Nat.toDigits 10 m) 0 := Nat.ofDigitChars_ten_toDigits.symm
    _ = Nat.ofDigitChars 10 (Nat.toDigits 10 n) 0 := by rw [h]
    _ = n := Nat.ofDigitChars_ten_toDigits

end Taglit.Text
