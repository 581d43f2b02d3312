import StartPage.Text.Digits
import StartPage.Text.Split

/-! Addresses of 32 bits. They are written with one to four numbers, each
decimal, octal or hexadecimal by its beginning; the last number fills all bytes
that the others leave. They are printed as four decimal bytes. -/
namespace StartPage.Url.Ipv4

/-- The value of digits in a base, if all of them are digits of it. -/
def digitsValue? (base : Nat) (ds : List Char) : Option Nat :=
  ds.foldlM (fun n c => do
    let d ← Text.hexValue? c
    if d < base then some (base * n + d) else none) 0

/-- The value of a number. A prefix without digits behind it counts as zero. -/
def number? : List Char → Option Nat
  | [] => none
  | '0' :: 'x' :: ds => digitsValue? 16 ds
  | '0' :: 'X' :: ds => digitsValue? 16 ds
  | '0' :: d :: ds => digitsValue? 8 (d :: ds)
  | ds => digitsValue? 10 ds

/-- The labels of a name, less an empty one at its end. -/
def labels (name : List Char) : List (List Char) :=
  let parts := Text.splitAll (· = '.') name
  if parts.getLast? = some [] then parts.dropLast else parts

/-- The last label of a name is a number, so the name can only be an address. -/
def endsInNumber (name : List Char) : Bool :=
  match (labels name).getLast? with
  | none => false
  | some [] => false
  | some last => last.all Text.isDigit || (number? last).isSome

/-- The address that numbers denote: every one but the last is a byte. -/
def combine : List Nat → Nat → Option Nat
  | [], _ => none
  | [last], place => if last < Nat.pow 256 (place + 1) then some last else none
  | n :: ns, place =>
    if n < 256 then (combine ns (place - 1)).map (n * Nat.pow 256 place + ·) else none

/-- The address that a name denotes. -/
def parse? (name : List Char) : Option Nat := do
  let parts := labels name
  if 4 < parts.length then none
  else combine (← parts.mapM number?) 3

/-- The four bytes of an address, with points between them. -/
def chars (address : Nat) : List Char :=
  let byte (place : Nat) := Text.digits (address / Nat.pow 256 place % 256)
  ['.'].intercalate [byte 3, byte 2, byte 1, byte 0]

end StartPage.Url.Ipv4
