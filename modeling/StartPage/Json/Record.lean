import StartPage.Json.Skip
import StartPage.Json.Typed

/-! Readers of records. A record may be written as an object, whose members come
in any order and whose unknown members are skipped, or as an array of its fields
in their order. What is wrong with the record as a whole is found when its end
has been read. -/
namespace StartPage.Json

variable {α σ : Type}

/-- A field of a record that is put together in a state of type `σ`. -/
structure Field (σ : Type) where
  name : String
  isSet : σ → Bool
  read : σ → Reader σ

/-- How the text of a record was written: as an object, or as an array that
ended after a number of fields. -/
inductive Written where
  | object
  | array (length : Nat)

/-- A record type: its name in messages, its fields in their order, the state
in which none of them is set, and what a state amounts to in the end. -/
structure Record (σ α : Type) where
  name : String
  fields : List (Field σ)
  start : σ
  finish : Written → σ → Except Cause α

namespace Record

/-- Refuses a record as a whole. The place is behind the closing bracket, if it
comes next. -/
def reject (close : Char) (cause : Cause) : Reader α := do
  Reader.space
  expect close (pure ())
  .fault cause

/-- The record that a state amounts to, after its closing bracket. -/
def conclude (r : Record σ α) (written : Written) (st : σ) : Reader α :=
  match r.finish written st with
  | .ok a => return a
  | .error cause => .fault cause

def colon : Reader Unit := do
  Reader.space
  expect ':' (.refuse .endInObject .expectedColon)

/-- A member whose opening quote has been read. A field that is set already is
refused before its value is read. -/
def member (r : Record σ α) (st : σ) : Reader σ := do
  let name := String.ofList (← stringBody)
  match r.fields.find? (·.name == name) with
  | some field =>
    if field.isSet st then reject '\x7d' (.duplicateField field.name)
    else
      colon
      field.read st
  | none =>
    colon
    Skip.value
    return st

/-- The members after the first one, or the closing brace. -/
def memberStep (r : Record σ α) (st : σ) : Reader (σ ⊕ σ) := do
  Reader.space
  .onChar
    (fun c =>
      if c = '\x7d' then some (pure (.inr st))
      else if c = ',' then some do
        Reader.space
        .onChar
          (fun d =>
            if d = '\"' then some do return .inl (← r.member st)
            else if d = '\x7d' then some (.fault .trailingComma)
            else none)
          (.refuse .endInValue .keyNotString)
      else none)
    (.refuse .endInObject .expectedCommaOrBrace)

theorem memberStep_progresses (r : Record σ α) (st : σ) :
    (r.memberStep st).Progresses Reader.GoesOn :=
  .bind_right fun _ => .onChar .refuse

/-- The members of an object, whose opening brace has been read. -/
def members (r : Record σ α) : Reader σ := do
  Reader.space
  .onChar
    (fun c =>
      if c = '\x7d' then some (pure r.start)
      else if c = '\"' then some do
        let st ← r.member r.start
        .iterate r.memberStep r.memberStep_progresses st
      else none)
    (.refuse .endInObject .keyNotString)

/-- The end of an array that has an item for every field. -/
def endOfArray : Reader Unit := do
  Reader.space
  .onChar
    (fun c =>
      if c = ']' then some (pure ())
      else if c = ',' then some do
        Reader.space
        match ← Reader.lookahead with
        | some ']' => .fault .trailingComma 1
        | _ => .fault .trailingCharacters 1
      else none)
    (.refuse .endInList .trailingCharacters)

/-- The items of an array for the fields that are left, `count` fields having
been read. `hasItem` reads up to the next item. -/
def itemsFrom (r : Record σ α) (count : Nat) (st : σ) (hasItem : Reader Bool) :
    List (Field σ) → Reader α
  | [] => do
    endOfArray
    r.conclude (.array count) st
  | field :: fields => do
    if ← hasItem then
      let st ← field.read st
      itemsFrom r (count + 1) st commaInList fields
    else r.conclude (.array count) st

def read (r : Record σ α) : Reader α := do
  Reader.space
  .onChar
    (fun c =>
      if c = '\x7b' then some do r.conclude .object (← r.members)
      else if c = '[' then some (r.itemsFrom 0 r.start listHasItem r.fields)
      else none)
    (mismatch ("struct " ++ r.name))

end Record

end StartPage.Json
