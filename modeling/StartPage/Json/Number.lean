import StartPage.Json.Reader

/-! Numbers in JSON texts. An integer that fits a word of 64 bits, signed or
not, is kept exactly; every other numeral stands for a double. At most 64 bits
of its digits are used for the double, and one that is too large for any double
is refused. -/
namespace StartPage.Json

inductive Number where
  | integer (n : Int)
  | float (x : Float)

/-- What a wrongly placed number is called. -/
def Number.found : Number → Found
  | .integer n => .integer n
  | .float x => .float (.ofFloat x)

namespace Number

/-- The largest significand that is kept exactly. -/
def maxSignificand : Nat := 0xFFFFFFFFFFFFFFFF

/-- The largest exponent that is read digit by digit. -/
def maxExponent : Nat := 0x7FFFFFFF

/-- Append digits to a significand as long as it stays within its bound. The
answer is the significand and the number of digits that were left over. -/
def absorb (significand : Nat) : List Char → Nat × Nat
  | [] => (significand, 0)
  | d :: ds =>
    let next := 10 * significand + (d.toNat - 48)
    if next ≤ maxSignificand then absorb next ds else (significand, ds.length + 1)

/-- Read exponent digits as long as the exponent stays within its bound. The
answer is the exponent, or none if it is too large, and the number of digits
behind the one that made it so. -/
def exponentOf (exponent : Nat) : List Char → Option Nat × Nat
  | [] => (some exponent, 0)
  | d :: ds =>
    let next := 10 * exponent + (d.toNat - 48)
    if next ≤ maxExponent then exponentOf next ds else (none, ds.length)

/-- Divide by ten to the power of `exponent`, in steps whose divisors are doubles. -/
def shrink (x : Float) (exponent : Nat) : Float :=
  if exponent ≤ 308 then x / Float.ofScientific 1 false exponent
  else if x == 0 then x
  else shrink (x / Float.ofScientific 1 false 308) (exponent - 308)
  termination_by exponent

/-- The double nearest to the significand, scaled by a power of ten. It is none
if the result is too large. -/
def scale (significand : Nat) (exponent : Int) : Option Float :=
  let x := Float.ofNat significand
  if exponent < 0 then some (shrink x exponent.natAbs)
  else if 308 < exponent then if x == 0 then some x else none
  else
    let y := x * Float.ofScientific 1 false exponent.toNat
    if y.isInf then none else some y

/-- The double of a numeral whose significand has been read. -/
def ofParts (negative : Bool) (significand : Nat) (exponent : Int) : Reader Number :=
  match scale significand exponent with
  | some x => return .float (if negative then -x else x)
  | none => .fault .numberOutOfRange

/-- An integer numeral. Minus zero, and what no 64 bits hold, is a double. -/
def ofDigits (negative : Bool) (significand : Nat) : Number :=
  if !negative then .integer significand
  else if significand = 0 || 0x8000000000000000 < significand then
    .float (-(Float.ofNat significand))
  else .integer (-(significand : Int))

/-- A numeral by its parts, the minus sign left out. The sign of the exponent
is true when it is negative. -/
structure Numeral where
  whole : List Char
  fraction : Option (List Char)
  exponent : Option (Bool × List Char)
  deriving DecidableEq, Repr

/-- The digits before the point, the first of which has been read. A zero at
the front stands alone. -/
def wholeFrom (first : Char) : Reader (List Char) := do
  if first = '0' then
    match ← Reader.lookahead with
    | some d => if Text.isDigit d then .fault .invalidNumber 1 else return [first]
    | none => return [first]
  else return first :: (← Reader.takeAll Text.isDigit)

/-- One digit or more. A text that ends here is refused with `atEnd`. -/
def someDigits (atEnd : Cause) : Reader (List Char) := do
  match ← Reader.takeAll Text.isDigit with
  | [] => .refuse atEnd .invalidNumber
  | ds => return ds

/-- The digits behind the point, if there is one. -/
def fraction? (atEnd : Cause) : Reader (Option (List Char)) :=
  .onChar (fun c => if c = '.' then some do return some (← someDigits atEnd) else none)
    (pure none)

/-- The sign of an exponent, which may be left out. -/
def exponentSign : Reader Bool :=
  .onChar
    (fun c =>
      if c = '+' then some (pure false) else if c = '-' then some (pure true) else none)
    (pure false)

/-- The sign and the digits of the exponent, if there is one. -/
def exponent? (atEnd : Cause) : Reader (Option (Bool × List Char)) :=
  .onChar
    (fun c =>
      if c = 'e' || c = 'E' then some do return some (← exponentSign, ← someDigits atEnd)
      else none)
    (pure none)

/-- A numeral whose first digit has been read. -/
def numeralFrom (atEnd : Cause) (first : Char) : Reader Numeral := do
  return ⟨← wholeFrom first, ← fraction? atEnd, ← exponent? atEnd⟩

/-- A numeral whose minus sign has been read. -/
def numeral (atEnd : Cause) : Reader Numeral :=
  .onChar (fun c => if Text.isDigit c then some (numeralFrom atEnd c) else none)
    (.refuse atEnd .invalidNumber)

/-- The value of a numeral that has just been read. -/
def ofNumeral (negative : Bool) (n : Numeral) : Reader Number :=
  let (kept, dropped) := absorb 0 n.whole
  let fraction := n.fraction.getD []
  let (significand, excess) := absorb kept fraction
  let start : Int := (dropped : Int) - (fraction.length - excess : Nat)
  match n.exponent with
  | none =>
    if n.fraction.isNone && dropped = 0 then return ofDigits negative significand
    else ofParts negative significand start
  | some (below, ds) =>
    match exponentOf 0 ds with
    | (some e, _) => ofParts negative significand (if below then start - e else start + e)
    | (none, behind) =>
      if significand ≠ 0 && !below then .faultBehind .numberOutOfRange behind
      else return .float (if negative then -0 else 0)

/-- A number whose first digit has been read. -/
def readFrom (first : Char) : Reader Number := do
  ofNumeral false (← numeralFrom .endInValue first)

/-- A number whose minus sign has been read. -/
def readNegative : Reader Number := do
  ofNumeral true (← numeral .endInValue)

end Number

end StartPage.Json
