import StartPage.Text.Digits
import StartPage.Text.Unprintable

/-! A text in double quotes for a reader's eye. Quote, backslash and the
common controls have short escapes; every other character that would not show
is written by its code point, and all else stands for itself. -/
namespace StartPage.Text

/-- The hexadecimal digits of a number, with small letters. -/
def hexDigits (n : Nat) : List Char :=
  if n < 16 then [digitChar n] else hexDigits (n / 16) ++ [digitChar (n % 16)]

namespace Quoted

/-- How one character is written between the quotes. -/
def encodeChar (c : Char) : List Char :=
  if c = '\x00' then ['\\', '0']
  else if c = '\t' then ['\\', 't']
  else if c = '\r' then ['\\', 'r']
  else if c = '\n' then ['\\', 'n']
  else if c = '\"' then ['\\', '\"']
  else if c = '\\' then ['\\', '\\']
  else if isUnprintable c then '\\' :: 'u' :: '\x7b' :: hexDigits c.toNat ++ ['\x7d']
  else [c]

/-- The text between double quotes. -/
def encode (s : List Char) : List Char := '\"' :: s.flatMap encodeChar ++ ['\"']

end Quoted

end StartPage.Text
