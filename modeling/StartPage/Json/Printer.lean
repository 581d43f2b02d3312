import StartPage.Text.Digits

/-! JSON texts without white space. A string escapes quotes, backslashes and
controls, the common ones by a letter and the others by their code; every
other character stands for itself. Items and members keep their order. -/
namespace StartPage.Json.Printer

def char (c : Char) : List Char :=
  if c = '\"' then ['\\', '\"']
  else if c = '\\' then ['\\', '\\']
  else if c = '\x08' then ['\\', 'b']
  else if c = '\x0c' then ['\\', 'f']
  else if c = '\n' then ['\\', 'n']
  else if c = '\r' then ['\\', 'r']
  else if c = '\t' then ['\\', 't']
  else if c.toNat < 0x20 then
    ['\\', 'u', '0', '0', Text.digitChar (c.toNat / 16), Text.digitChar (c.toNat % 16)]
  else [c]

def string (s : List Char) : List Char := '\"' :: s.flatMap char ++ ['\"']

def text (s : String) : List Char := string s.toList

def word (n : UInt32) : List Char := Text.digits n.toNat

/-- Texts with a comma between any two of them. -/
def commas (items : List (List Char)) : List Char := [','].intercalate items

def list (items : List (List Char)) : List Char := '[' :: commas items ++ [']']

def member (name : String) (value : List Char) : List Char := text name ++ ':' :: value

def object (members : List (List Char)) : List Char := '\x7b' :: commas members ++ ['\x7d']

end StartPage.Json.Printer
