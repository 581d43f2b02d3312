import StartPage.Json.Number
import StartPage.Json.Str

/-! Readers of values whose type is known beforehand: texts, words of 32 bits
and lists. A value of another type is read far enough to say what stands there,
and a fault inside it counts before its type does. -/
namespace StartPage.Json

variable {α : Type}

/-- Refuses a value of another type than the expected one. Its own faults come first. -/
def mismatch (expected : String) : Reader α :=
  let refused (found : Found) : Reader α := .fault (.wrongType found expected)
  .onChar
    (fun c =>
      if c = 'n' then some do literal ['u', 'l', 'l']; refused .null
      else if c = 't' then some do literal ['r', 'u', 'e']; refused (.boolean true)
      else if c = 'f' then some do literal ['a', 'l', 's', 'e']; refused (.boolean false)
      else if c = '-' then some do refused (← Number.readNegative).found
      else if Text.isDigit c then some do refused (← Number.readFrom c).found
      else if c = '\"' then some do refused (.string (← stringBody))
      else none) do
    match ← Reader.lookahead with
    | some '[' => refused .sequence
    | some '\x7b' => refused .map
    | _ => .refuse .endInValue .expectedValue

def text : Reader String := do
  Reader.space
  .onChar (fun c => if c = '\"' then some do return String.ofList (← stringBody) else none)
    (mismatch "a string")

def toWord : Number → Reader UInt32
  | .integer n =>
    if 0 ≤ n && n < 0x100000000 then return UInt32.ofNat n.toNat
    else .fault (.wrongValue (.integer n) "u32")
  | .float x => .fault (.wrongType (.float (.ofFloat x)) "u32")

/-- A whole number below `2 ^ 32`. -/
def word : Reader UInt32 := do
  Reader.space
  .onChar
    (fun c =>
      if c = '-' then some do toWord (← Number.readNegative)
      else if Text.isDigit c then some do toWord (← Number.readFrom c)
      else none)
    (mismatch "u32")

/-- What comes after an item of a list: a closing bracket, which is answered by
`false`, or a comma with an item behind it. -/
def commaInList : Reader Bool := do
  Reader.space
  .onChar
    (fun c =>
      if c = ']' then some (pure false)
      else if c = ',' then some do
        Reader.space
        match ← Reader.lookahead with
        | some ']' => .fault .trailingComma 1
        | some _ => return true
        | none => .refuse .endInValue .expectedValue
      else none)
    (.refuse .endInList .expectedCommaOrBracket)

/-- What comes after the opening bracket of a list: a closing bracket, which is
answered by `false`, or an item. -/
def listHasItem : Reader Bool := do
  Reader.space
  .onChar (fun c => if c = ']' then some (pure false) else none) do
    match ← Reader.lookahead with
    | some _ => return true
    | none => .refuse .endInList .expectedValue

/-- One more item of a list. The items before it are kept in reverse. -/
def listStep (item : Reader α) (before : List α) : Reader (List α ⊕ List α) := do
  if ← commaInList then return .inl ((← item) :: before) else return .inr before.reverse

theorem commaInList_progresses : commaInList.Progresses :=
  .bind_right fun _ => .onChar .refuse

theorem listStep_progresses (item : Reader α) (before : List α) :
    (listStep item before).Progresses Reader.GoesOn :=
  .bind_left commaInList_progresses

/-- A list, whose items are read one after the other. -/
def list (item : Reader α) : Reader (List α) := do
  Reader.space
  .onChar
    (fun c => if c = '[' then some do
        if ← listHasItem then
          let first ← item
          .iterate (listStep item) (listStep_progresses item) [first]
        else return []
      else none)
    (mismatch "a sequence")

def parse (r : Reader α) (text : List Char) : Except Fault α := do
  let (a, rest) ← r.run text
  match rest.dropWhile Reader.isSpace with
  | [] => return a
  | rest => throw ⟨.trailingCharacters, Text.Utf8.size rest - 1⟩

end StartPage.Json
