import StartPage.Text.Digits

/-! Decimal numerals for binary floating point numbers. A finite double stands
for the interval of numbers that round to it; `Decimal.ofFloat` picks the
numeral with the fewest digits in that interval, and of those the nearest. The
search compares exact natural numbers only. `Decimal.text` lays a numeral out,
positionally for moderate sizes and with an exponent for the others. -/
namespace StartPage

/-- The number `digits * 10 ^ exponent`, with a sign of its own so that zero
has one too. -/
structure Decimal where
  negative : Bool
  digits : Nat
  exponent : Int
  deriving DecidableEq, Repr

namespace Decimal

/-- A positive double `mantissa * 2 ^ exponent`. The spacing below it is half
of the spacing above it when the mantissa is the least of its binade. -/
structure Binary where
  mantissa : Nat
  exponent : Int
  leastOfBinade : Bool

/-- The number of values that the fraction of a double can take. -/
def fractions : Nat := 0x10000000000000

/-- The double whose bits, the sign left out, are `bits`. -/
def Binary.ofBits (bits : Nat) : Binary :=
  let fraction := bits % fractions
  let biased : Nat := bits / fractions
  if biased = 0 then ⟨fraction, -1074, false⟩
  else ⟨fractions + fraction, (biased : Int) - 1075, fraction = 0 && biased ≠ 1⟩

/-- Compare `c * 10 ^ k` with `n * 2 ^ q`, exactly. -/
def comparePowers (c : Nat) (k : Int) (n : Nat) (q : Int) : Ordering :=
  compare (c * Nat.pow 10 k.toNat * Nat.pow 2 (-q).toNat)
    (n * Nat.pow 2 q.toNat * Nat.pow 10 (-k).toNat)

/-- The number `c * 10 ^ k` rounds to the double. The ends of the interval
count if the mantissa is even. -/
def Binary.readsBack (b : Binary) (c : Nat) (k : Int) : Bool :=
  let low := 4 * b.mantissa - (if b.leastOfBinade then 1 else 2)
  let high := 4 * b.mantissa + 2
  let closed := b.mantissa % 2 = 0
  let above := comparePowers c k low (b.exponent - 2)
  let below := comparePowers c k high (b.exponent - 2)
  (above == .gt || closed && above == .eq) && (below == .lt || closed && below == .eq)

/-- The neighbour of the double on the grid of step `10 ^ k` that rounds to it,
if there is one. Of two such neighbours the nearer is taken, and the even one
when they are equally near. -/
def Binary.onGrid? (b : Binary) (k : Int) : Option Nat :=
  let c := b.mantissa * Nat.pow 2 b.exponent.toNat * Nat.pow 10 (-k).toNat
    / (Nat.pow 10 k.toNat * Nat.pow 2 (-b.exponent).toNat)
  match b.readsBack c k, b.readsBack (c + 1) k with
  | true, true =>
    match comparePowers (2 * c + 1) k (2 * b.mantissa) b.exponent with
    | .gt => some c
    | .lt => some (c + 1)
    | .eq => some (if c % 2 = 0 then c else c + 1)
  | true, false => some c
  | false, true => some (c + 1)
  | false, false => none

/-- The first grid with a neighbour, from the step `10 ^ k` on to finer ones.
Twenty grids below the size of the double always hold one. -/
def Binary.search (b : Binary) : Nat → Int → Nat × Int
  | 0, k => (0, k)
  | fuel + 1, k =>
    match b.onGrid? k with
    | some c => (c, k)
    | none => b.search fuel (k - 1)

/-- A numeral with as few digits as the double allows, the sign left out. -/
def Binary.shortest (b : Binary) : Nat × Int :=
  let size := b.exponent + Nat.log2 b.mantissa + 1
  b.search 22 (size * 30103 / 100000 + 1)

/-- The shortest numeral that rounds to a finite double. -/
def ofFloat (x : Float) : Decimal :=
  let bits := x.toBits.toNat
  let magnitude := bits % 0x8000000000000000
  if magnitude = 0 then ⟨bits ≠ 0, 0, 0⟩
  else
    let (digits, exponent) := (Binary.ofBits magnitude).shortest
    ⟨bits ≠ magnitude, digits, exponent⟩

/-- The exponents of the leading digit for which a numeral is written positionally. -/
def isPositional (e : Int) : Bool := -5 ≤ e && e ≤ 15

/-- A positional numeral, with a digit on either side of the point. -/
def positional (ds : List Char) (exponent : Int) : List Char :=
  if 0 ≤ exponent then ds ++ List.replicate exponent.toNat '0' ++ ['.', '0']
  else
    let places := (-exponent).toNat
    let ds := List.replicate (places + 1 - ds.length) '0' ++ ds
    ds.take (ds.length - places) ++ '.' :: ds.drop (ds.length - places)

/-- A numeral with one digit before the point, and an exponent with a sign. -/
def scientific (ds : List Char) (e : Int) : List Char :=
  ds.take 1 ++ (if ds.length = 1 then [] else '.' :: ds.drop 1) ++
    ['e', if 0 ≤ e then '+' else '-'] ++ Text.digits e.natAbs

def text (d : Decimal) : String :=
  let ds := Text.digits d.digits
  let e := d.exponent + ds.length - 1
  let body := if isPositional e then positional ds d.exponent else scientific ds e
  String.ofList (if d.negative then '-' :: body else body)

end Decimal

end StartPage
