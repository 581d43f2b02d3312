import StartPage.Json.Number
import StartPage.Json.Str

/-! Skipping a value that nobody wants. It still has to be a JSON value, but
numbers have no range and brackets may be nested to any depth: the open
brackets are kept in a list, and the loop takes one token at a time. -/
namespace StartPage.Json.Skip

/-- A bracket that has been opened and not yet closed. -/
inductive Bracket where
  | list
  | object
  deriving DecidableEq, Repr

def Bracket.close : Bracket → Char
  | .list => ']'
  | .object => '\x7d'

def Bracket.atEnd : Bracket → Cause
  | .list => .endInList
  | .object => .endInObject

def Bracket.noComma : Bracket → Cause
  | .list => .expectedCommaOrBracket
  | .object => .expectedCommaOrBrace

/-- Where the loop stands, with the open brackets from the inside out. -/
inductive State where
  /-- A value has to come. -/
  | value (opened : List Bracket)
  /-- An item of the bracket `inner` has just ended. -/
  | after (inner : Bracket) (opened : List Bracket)
  deriving DecidableEq, Repr

/-- A value has ended: either the whole value or an item of a bracket. -/
def ended : List Bracket → State ⊕ Unit
  | [] => .inr ()
  | inner :: opened => .inl (.after inner opened)

/-- The rest of a member's name and the colon behind it. -/
def restOfKey : Reader Unit := do
  skipString
  Reader.space
  expect ':' (.refuse .endInObject .expectedColon)

def key : Reader Unit := do
  Reader.space
  .onChar (fun c => if c = '\"' then some restOfKey else none)
    (.refuse .endInObject .keyNotString)

/-- What comes before the next item of a bracket that takes items. -/
def beforeItem (inner : Bracket) (opened : List Bracket) : Reader (State ⊕ Unit) :=
  match inner with
  | .list => return .inl (.value (inner :: opened))
  | .object => do key; return .inl (.value (inner :: opened))

/-- What comes after an opening bracket: its closing bracket or an item. -/
def afterOpening (inner : Bracket) (opened : List Bracket) : Reader (State ⊕ Unit) := do
  Reader.space
  .onChar (fun c => if c = inner.close then some (pure (ended opened)) else none) do
    match ← Reader.lookahead with
    | none => .refuse inner.atEnd .expectedValue
    | some _ => beforeItem inner opened

def valueFrom? (opened : List Bracket) (c : Char) : Option (Reader (State ⊕ Unit)) :=
  let done : State ⊕ Unit := ended opened
  if c = 'n' then some do literal ['u', 'l', 'l']; return done
  else if c = 't' then some do literal ['r', 'u', 'e']; return done
  else if c = 'f' then some do literal ['a', 'l', 's', 'e']; return done
  else if c = '-' then some do let _ ← Number.numeral .invalidNumber; return done
  else if Text.isDigit c then some do
    let _ ← Number.numeralFrom .invalidNumber c
    return done
  else if c = '\"' then some do skipString; return done
  else if c = '[' then some (afterOpening .list opened)
  else if c = '\x7b' then some (afterOpening .object opened)
  else none

def step : State → Reader (State ⊕ Unit)
  | .value opened => do
    Reader.space
    .onChar (valueFrom? opened) (.refuse .endInValue .expectedValue)
  | .after inner opened => do
    Reader.space
    .onChar
      (fun c =>
        if c = ',' then some (beforeItem inner opened)
        else if c = inner.close then some (pure (ended opened))
        else none)
      (.refuse inner.atEnd inner.noComma)

theorem step_progresses (st : State) : (step st).Progresses Reader.GoesOn := by
  cases st with
  | value opened => exact .bind_right fun _ => .onChar .refuse
  | after inner opened => exact .bind_right fun _ => .onChar .refuse

def value : Reader Unit := .iterate step step_progresses (.value [])

end StartPage.Json.Skip
