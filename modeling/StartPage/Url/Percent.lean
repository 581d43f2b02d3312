import StartPage.Text.Digits
import StartPage.Text.Utf8

/-! Percent-encoding. A character that may not stand for itself is written as
the bytes of its UTF-8 form, each as a percent sign and two hexadecimal digits.
Which characters those are depends on the part of an address: each part has a
set of its own, and every set holds the controls and all that is not ASCII. -/
namespace StartPage.Url

/-- A hexadecimal digit with a capital letter from ten on. -/
def upperHexDigit (d : Nat) : Char :=
  if d < 10 then Char.ofNat (48 + d) else Char.ofNat (55 + d)

/-- A byte as a percent sign and two digits. -/
def percentByte (b : UInt8) : List Char :=
  ['%', upperHexDigit (b.toNat / 16), upperHexDigit (b.toNat % 16)]

/-- A character in its percent-encoded form. -/
def percentChar (c : Char) : List Char := (Text.Utf8.encodeChar c).flatMap percentByte

/-- The text with the characters of a set percent-encoded. -/
def percentEncode (set : Char → Bool) (s : List Char) : List Char :=
  s.flatMap fun c => if set c then percentChar c else [c]

/-- The bytes of a text, in which a percent sign with two hexadecimal digits
stands for one byte. Any other percent sign stands for itself. -/
def percentDecode : List Char → List UInt8
  | [] => []
  | '%' :: a :: b :: s =>
    match Text.hexValue? a, Text.hexValue? b with
    | some high, some low => UInt8.ofNat (16 * high + low) :: percentDecode s
    | _, _ => 0x25 :: percentDecode (a :: b :: s)
  | c :: s => Text.Utf8.encodeChar c ++ percentDecode s

namespace EncodeSet

def controls (c : Char) : Bool := c.toNat < 0x20 || 0x7E < c.toNat

def fragment (c : Char) : Bool :=
  controls c || c = ' ' || c = '\"' || c = '<' || c = '>' || c = '\x60'

def path (c : Char) : Bool :=
  fragment c || c = '#' || c = '?' || c = '\x7b' || c = '\x7d'

def userinfo (c : Char) : Bool :=
  path c || c = '/' || c = ':' || c = ';' || c = '=' || c = '@' || c = '[' || c = '\\' ||
    c = ']' || c = '^' || c = '|'

/-- The set of the query, which is larger by the apostrophe in special schemes. -/
def query (special : Bool) (c : Char) : Bool :=
  controls c || c = ' ' || c = '\"' || c = '#' || c = '<' || c = '>' ||
    (special && c = '\x27')

end EncodeSet

end StartPage.Url
