import StartPage.Text.Digits
import StartPage.Text.Quoted

/-! Addresses of 128 bits: eight pieces of four hexadecimal digits at most, of
which one stretch of zeros may be left out. The last two pieces may be written
as four decimal bytes. Printing leaves out the first of the longest stretches of
two zeros or more. -/
namespace StartPage.Url.Ipv6

/-- The number of pieces in an address. -/
def size : Nat := 8

def isHexDigit (c : Char) : Bool := (Text.hexValue? c).isSome

/-- The value of hexadecimal digits. -/
def hexNumber (ds : List Char) : Nat :=
  ds.foldl (fun n c => 16 * n + (Text.hexValue? c).getD 0) 0

/-- A decimal byte without leading zeros, as it stands at the front of a text. -/
def byte? (s : List Char) : Option (Nat × List Char) :=
  let ds := s.takeWhile Text.isDigit
  let n := Text.value ds
  if ds = [] || n > 255 || (ds.length ≠ 1 && ds.head? = some '0') then none
  else some (n, s.dropWhile Text.isDigit)

/-- Four decimal bytes with points between them, as two pieces. -/
def bytes? (s : List Char) : Option (List Nat) :=
  match byte? s with
  | some (a, '.' :: s) => match byte? s with
    | some (b, '.' :: s) => match byte? s with
      | some (c, '.' :: s) => match byte? s with
        | some (d, []) => some [a * 256 + b, c * 256 + d]
        | _ => none
      | _ => none
    | _ => none
  | _ => none

/-- What has been read of an address: its pieces in reverse, and how many of
them come before the place where zeros are left out. -/
structure Partly where
  pieces : List Nat := []
  gap : Option Nat := none

/-- The pieces of an address, as far as they are written. The place where zeros
are left out counts as one piece of zero. -/
def pieces? (p : Partly) (s : List Char) : Option Partly :=
  match s with
  | [] => some p
  | c :: rest =>
    if size ≤ p.pieces.length then none
    else if c = ':' then
      if p.gap.isSome then none
      else pieces? ⟨0 :: p.pieces, some (p.pieces.length + 1)⟩ rest
    else
      let ds := ((c :: rest).take 4).takeWhile isHexDigit
      match _hs : (c :: rest).drop ds.length with
      | [] => some { p with pieces := hexNumber ds :: p.pieces }
      | ':' :: more =>
        if more = [] then none
        else pieces? { p with pieces := hexNumber ds :: p.pieces } more
      | '.' :: _ =>
        if ds = [] || size < p.pieces.length + 2 then none
        else (bytes? (c :: rest)).map fun last => { p with pieces := last.reverse ++ p.pieces }
      | _ => none
  termination_by s.length
  decreasing_by
    · exact Nat.lt_succ_self _
    · have hlen := congrArg List.length _hs
      rw [List.length_drop, List.length_cons, List.length_cons] at hlen
      rw [List.length_cons]
      omega

/-- The address that a text denotes, without its brackets. -/
def parse? (s : List Char) : Option (List Nat) := do
  let start : Option (Partly × List Char) := match s with
    | ':' :: ':' :: rest => some (⟨[0], some 1⟩, rest)
    | ':' :: _ => none
    | [] => none
    | [_] => none
    | _ => some ({}, s)
  let (p, rest) ← start
  let p ← pieces? p rest
  let pieces := p.pieces.reverse
  match p.gap with
  | none => if pieces.length = size then some pieces else none
  | some g =>
    some (pieces.take g ++ List.replicate (size - pieces.length) 0 ++ pieces.drop g)

/-- The length of the stretch of zeros at the front. -/
def zeros (pieces : List Nat) : Nat := (pieces.takeWhile (· = 0)).length

/-- The first of the longest stretches of zeros, as a place and a length. -/
def longestZeros : List Nat → Nat × Nat
  | [] => (0, 0)
  | n :: pieces =>
    let (place, length) := longestZeros pieces
    let here := zeros (n :: pieces)
    if length ≤ here then (0, here) else (place + 1, length)

/-- Pieces in hexadecimal digits, with colons between them. -/
def joined (pieces : List Nat) : List Char :=
  [':'].intercalate (pieces.map Text.hexDigits)

/-- The text of an address, without brackets. -/
def chars (pieces : List Nat) : List Char :=
  let (place, length) := longestZeros pieces
  if length < 2 then joined pieces
  else joined (pieces.take place) ++ ':' :: ':' :: joined (pieces.drop (place + length))

end StartPage.Url.Ipv6
