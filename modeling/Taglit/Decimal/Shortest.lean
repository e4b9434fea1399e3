/-!
# The shortest decimal of a floating point number

A positive double is `m * 2 ^ q`.  The reals that round to it form an interval, and among the
decimals of the fewest digits in that interval the nearest to the number is taken.  All comparisons
are between natural numbers.
-/

namespace Taglit.Decimal

/-- A positive decimal number: `digits * 10 ^ exponent`. -/
structure Scientific where
  digits : Nat
  exponent : Int

/-- A positive rational number, as a pair of natural numbers. -/
structure Ratio where
  num : Nat
  den : Nat

/-- `n * 2 ^ q`. -/
def Ratio.ofScaled (n : Nat) (q : Int) : Ratio :=
  if 0 ≤ q then ⟨n <<< q.toNat, 1⟩ else ⟨n, 1 <<< (-q).toNat⟩

/-- A ratio divided by `10 ^ k`. -/
def Ratio.shift (r : Ratio) (k : Int) : Ratio :=
  if 0 ≤ k then ⟨r.num, r.den * Nat.pow 10 k.toNat⟩ else ⟨r.num * Nat.pow 10 (-k).toNat, r.den⟩

/-- The least `j ≤ bound` with `10 ^ j * r ≥ 1`. -/
def Ratio.lift (r : Ratio) : Nat → Nat → Nat
  | 0, j => j
  | bound + 1, j => if r.den ≤ r.num * Nat.pow 10 j then j else r.lift bound (j + 1)

/-- The power of ten of the first digit of a ratio. -/
def Ratio.magnitude (r : Ratio) : Int :=
  if r.den ≤ r.num then ((Nat.toDigits 10 (r.num / r.den)).length : Int) - 1
  else -(r.lift 400 0 : Int)

/-- A double without its sign, `mantissa * 2 ^ exponent`, with the interval of reals that round to
it, in quarters of the last place: from `4 * mantissa - below` to `4 * mantissa + 2`. -/
structure Binary where
  mantissa : Nat
  exponent : Int
  below : Nat

/-- The parts of a double, from its bits. -/
def Binary.ofBits (bits : UInt64) : Binary :=
  let fraction : Nat := bits.toNat % (1 <<< 52)
  let biased : Nat := (bits.toNat >>> 52) % (1 <<< 11)
  if biased = 0 then ⟨fraction, -1074, 2⟩
  -- below a power of two the numbers are twice as dense, except at the least of these
  else ⟨fraction + (1 <<< 52), (biased : Int) - 1075, if fraction = 0 ∧ 1 < biased then 1 else 2⟩

/-- Whether `n * 10 ^ k` rounds to the double. -/
def Binary.admits (b : Binary) (n : Nat) (k : Int) : Bool :=
  let low := (Ratio.ofScaled (4 * b.mantissa - b.below) (b.exponent - 2)).shift k
  let high := (Ratio.ofScaled (4 * b.mantissa + 2) (b.exponent - 2)).shift k
  -- a number halfway between two doubles goes to the even one
  if b.mantissa % 2 = 0 then low.num ≤ n * low.den && n * high.den ≤ high.num
  else low.num < n * low.den && n * high.den < high.num

/-- The better of the two neighbours of the double among the multiples of `10 ^ k`, if one of them
rounds to it: the nearer one, and the even one if they are equally near. -/
def Binary.nearest? (b : Binary) (k : Int) : Option Scientific :=
  let r := (Ratio.ofScaled b.mantissa b.exponent).shift k
  let down := r.num / r.den
  let twice := 2 * (r.num % r.den)
  let up := down + 1
  let preferUp := r.den < twice || (twice = r.den && down % 2 = 1)
  let (first, second) := if preferUp then (up, down) else (down, up)
  if b.admits first k then some ⟨first, k⟩
  else if b.admits second k then some ⟨second, k⟩
  else none

/-- The first hit on ever finer grids, from `count` digits on. -/
def Binary.search (b : Binary) (magnitude : Int) : Nat → Nat → Scientific
  -- not reached from one digit on, since seventeen always suffice
  | 0, count => ⟨b.mantissa, magnitude - count⟩
  | bound + 1, count =>
    match b.nearest? (magnitude + 1 - count) with
    | some d => d
    | none => b.search magnitude bound (count + 1)

/-- The shortest decimal that rounds to a double other than zero. -/
def Binary.shortest (b : Binary) : Scientific :=
  b.search (Ratio.ofScaled b.mantissa b.exponent).magnitude 17 1

/-! ## Writing -/

/-- A decimal without zeros at the end of its digits; `bound` limits the zeros taken off. -/
def Scientific.stripped (d : Scientific) : Nat → Scientific
  | 0 => d
  | bound + 1 =>
    if d.digits % 10 = 0 ∧ d.digits ≠ 0 then
      Scientific.stripped ⟨d.digits / 10, d.exponent + 1⟩ bound
    else d

/-- The exponents that are written positionally, by the powers of ten of the first digit. -/
structure Layout where
  least : Int
  greatest : Int

/-- Numbers from a hundred thousandth to below ten to the sixteenth are written positionally. -/
def plainLayout : Layout := ⟨-5, 15⟩

/-- A decimal as text: positional with at least one digit after the point, or with an exponent that
always has a sign. -/
def Scientific.write (layout : Layout) (d : Scientific) : List Char :=
  let d := d.stripped 20
  let digits := Nat.toDigits 10 d.digits
  let power := d.exponent + digits.length - 1
  if layout.least ≤ power ∧ power ≤ layout.greatest then
    if 0 ≤ d.exponent then digits ++ List.replicate d.exponent.toNat '0' ++ ['.', '0']
    else if 0 ≤ power then
      let whole := (power + 1).toNat
      digits.take whole ++ '.' :: digits.drop whole
    else '0' :: '.' :: List.replicate (-power - 1).toNat '0' ++ digits
  else
    let fraction := if digits.length = 1 then [] else '.' :: digits.drop 1
    let sign := if power < 0 then '-' else '+'
    digits.take 1 ++ fraction ++ 'e' :: sign :: Nat.toDigits 10 power.natAbs

/-- A finite double as text, by the fewest digits that read back. -/
def writeFloat (x : Float) : String :=
  let bits := x.toBits
  let sign := if bits.toNat >>> 63 = 1 then ['-'] else []
  let b := Binary.ofBits bits
  let digits := if b.mantissa = 0 then ['0', '.', '0'] else b.shortest.write plainLayout
  .ofList (sign ++ digits)

end Taglit.Decimal
