/-! Key presses as a page sees them. A browser describes a key by a logical
name, a physical code and, in older engines, a bare number; `KeyCode.ofDom`
settles on one meaning for the three. Only Enter outside of an input method
composition submits the search. -/
namespace StartPage

/-- The meaning of a key. A key with no meaning of its own keeps both names. -/
inductive KeyCode where
  | char (c : Char)
  | enter
  | escape
  | backspace
  | tab
  | unidentified (key code : String)
  deriving DecidableEq, Repr

namespace KeyCode

/-- The number that older engines report for Enter. -/
def enterNumber : UInt32 := 13

/-- The meaning of a logical name that is not a single character. -/
def ofKeyName? : String → Option KeyCode
  | "Enter" => some .enter
  | "Escape" => some .escape
  | "Esc" => some .escape
  | "Backspace" => some .backspace
  | "Tab" => some .tab
  | "Spacebar" => some (.char ' ')
  | _ => none

/-- The meaning of a physical code. -/
def ofCodeName? : String → Option KeyCode
  | "Enter" => some .enter
  | "NumpadEnter" => some .enter
  | "Escape" => some .escape
  | "Backspace" => some .backspace
  | "Tab" => some .tab
  | _ => none

/-- A name that tells nothing about the key. -/
def isUninformative (name : String) : Bool := name == "" || name == "Unidentified"

/-- The meaning of a key. A single character stands for itself; otherwise the
logical name decides before the physical code, and the number counts only
when neither name tells anything. -/
def ofDom (key code : String) (number : UInt32) : KeyCode :=
  match key.toList with
  | [c] => .char c
  | _ =>
    match ofKeyName? key <|> ofCodeName? code with
    | some meaning => meaning
    | none =>
      if isUninformative key && isUninformative code && number == enterNumber then .enter
      else .unidentified key code

end KeyCode

/-- One key press. -/
structure KeyInput where
  code : KeyCode
  /-- An input method is composing a character. -/
  composing : Bool := false
  deriving DecidableEq, Repr

namespace KeyInput

def ofDom (key code : String) (number : UInt32) (composing : Bool) : KeyInput :=
  ⟨.ofDom key code number, composing⟩

/-- Enter that is not part of a composition submits the search. -/
def submits (k : KeyInput) : Bool := !k.composing && k.code == .enter

end KeyInput

end StartPage
