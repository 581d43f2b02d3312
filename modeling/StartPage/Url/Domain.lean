import StartPage.Text.Digits
import StartPage.Text.Split
import StartPage.Text.Utf8
import StartPage.Url.Basic
import StartPage.Url.Percent
import StartPage.Url.Punycode

/-! Domain names. A name is written in ASCII: capital letters are lowered, and a
label with other letters is marked and encoded. A label that bears the mark
already has to decode to a label with such letters.

This is the mapping of international names (UTS 46) for ASCII and the Latin-1
block only. Beyond them a letter stays as it is: capitals are not lowered, wide
forms and ligatures are not taken apart, and nothing is dropped, soft hyphens
included. Labels are divided at `.` and at no other full stop; nothing is composed,
and neither joiners nor the direction of writing are checked. The rest of the
library relies on `not_isForbidden_of_toAscii?` and on nothing else of it. -/
namespace StartPage.Url.Domain

def mark : List Char := ['x', 'n', '-', '-']

/-- A letter in its small form, in ASCII and the Latin-1 block. -/
def lower (c : Char) : Char :=
  if 'A' ≤ c && c ≤ 'Z' || 'À' ≤ c && c ≤ 'Þ' && c ≠ '×' then Char.ofNat (c.toNat + 32)
  else c

def isAscii (c : Char) : Bool := c.toNat < 0x80

/-- A character beyond ASCII that a label may hold: it is visible and small. -/
def isLetter (c : Char) : Bool := 0xA0 < c.toNat && lower c = c

/-- A character of ASCII that no domain name may hold. -/
def isForbidden (c : Char) : Bool :=
  EncodeSet.controls c || c = ' ' || c = '%' || c = '#' || c = '/' || c = ':' || c = '<' ||
    c = '>' || c = '?' || c = '@' || c = '[' || c = '\\' || c = ']' || c = '^' || c = '|'

/-- A marked label decodes to one with letters beyond ASCII. -/
def isEncoded (label : List Char) : Bool :=
  match Punycode.decode? (label.drop mark.length) with
  | none => false
  | some decoded =>
    decoded.any (!isAscii ·) && decoded.all fun c => isAscii c || isLetter c

def label? (label : List Char) : Option (List Char) :=
  if label.all isAscii then
    if mark.isPrefixOf label && !isEncoded label then none else some label
  else if mark.isPrefixOf label then none
  else if label.all (fun c => isAscii c || isLetter c) then
    some (mark ++ Punycode.encode label)
  else none

def toAscii? (name : List Char) : Option (List Char) := do
  let labels ← (Text.splitAll (· = '.') (name.map lower)).mapM label?
  let ascii := ['.'].intercalate labels
  if ascii.any isForbidden then none else some ascii

/-- A name that has been accepted holds no character that would end it. -/
theorem not_isForbidden_of_toAscii? {name ascii : List Char} (h : toAscii? name = some ascii) :
    ascii.any isForbidden = false := by
  unfold toAscii? at h
  rw [Option.bind_eq_bind, Option.bind_eq_some_iff] at h
  obtain ⟨labels, -, h⟩ := h
  dsimp only at h
  split at h
  · cases h
  · next hAllowed =>
      cases h
      exact eq_false_of_ne_true hAllowed

end StartPage.Url.Domain
