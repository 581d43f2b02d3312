import StartPage.Json.Reader

/-! Strings and fixed words in JSON texts. A string is read after its opening
quote. Escaped surrogates must come in pairs; a string whose value nobody wants
is held to a weaker rule, in which four hexadecimal digits are enough. -/
namespace StartPage.Json

def literal : List Char → Reader Unit
  | [] => pure ()
  | c :: word =>
    .onChar (fun d => if d = c then some (literal word) else none)
      (.refuse .endInValue .expectedLiteral)

/-- The character that an escape of one letter stands for. -/
def shortEscape? : Char → Option Char
  | '\"' => some '\"'
  | '\\' => some '\\'
  | '/' => some '/'
  | 'b' => some '\x08'
  | 'f' => some '\x0c'
  | 'n' => some '\n'
  | 'r' => some '\r'
  | 't' => some '\t'
  | _ => none

def hexNumber? (a b c d : Char) : Option Nat := do
  return ((16 * (← Text.hexValue? a) + (← Text.hexValue? b)) * 16 + (← Text.hexValue? c)) * 16
    + (← Text.hexValue? d)

/-- Four hexadecimal digits. With fewer than four bytes left the text has ended
too early, whatever they are. -/
def fourHex : Reader Nat where
  run s := match s with
    | a :: b :: c :: d :: rest => match hexNumber? a b c d with
      | some n => .ok (n, rest)
      | none => .error ⟨.invalidEscape, Text.Utf8.size s - 4⟩
    | _ =>
      if Text.Utf8.size s < 4 then .error ⟨.endInString, 0⟩
      else .error ⟨.invalidEscape, Text.Utf8.size s - 4⟩
  length_le {s n rest} h := by
    split at h
    · split at h
      · injection h with h
        injection h with _ h
        rw [← h]
        simp only [List.length_cons]
        omega
      · cases h
    · split at h <;> cases h

def isHighSurrogate (n : Nat) : Bool := 0xD800 ≤ n && n ≤ 0xDBFF

def isLowSurrogate (n : Nat) : Bool := 0xDC00 ≤ n && n ≤ 0xDFFF

def pairSurrogates (high low : Nat) : Nat :=
  (high - 0xD800) * 0x400 + (low - 0xDC00) + 0x10000

def expect (c : Char) (otherwise : Reader Unit) : Reader Unit :=
  .onChar (fun d => if d = c then some (pure ()) else none) otherwise

/-- The character of an escape by code units, whose `u` has been read. -/
def codeEscape : Reader Char := do
  let n ← fourHex
  if isLowSurrogate n then .fault .loneSurrogate
  else if isHighSurrogate n then do
    expect '\\' (.refuse .endInString .unpairedSurrogate)
    expect 'u' (.refuse .endInString .unpairedSurrogate)
    let low ← fourHex
    if isLowSurrogate low then return Char.ofNat (pairSurrogates n low)
    else .fault .loneSurrogate
  else return Char.ofNat n

def escape : Reader Char :=
  .onChar (fun c => if c = 'u' then some codeEscape else (shortEscape? c).map pure)
    (.refuse .endInString .invalidEscape)

/-- A character that may not stand in a string by itself. -/
def isControl (c : Char) : Bool := c.toNat < 0x20

/-- One character of a string, or its closing quote. The characters before it
are kept in reverse. -/
def stringStep (before : List Char) : Reader (List Char ⊕ List Char) :=
  .onChar
    (fun c =>
      if c = '\"' then some (pure (.inr before.reverse))
      else if c = '\\' then some do return .inl ((← escape) :: before)
      else if isControl c then none
      else some (pure (.inl (c :: before))))
    (.refuse .endInString .controlCharacter)

theorem stringStep_progresses (before : List Char) :
    (stringStep before).Progresses Reader.GoesOn :=
  .onChar .refuse

/-- The characters of a string up to its closing quote. -/
def stringBody : Reader (List Char) := .iterate stringStep stringStep_progresses []

/-- An escape whose value nobody wants, whose backslash has been read. -/
def skipEscape : Reader Unit :=
  .onChar
    (fun c =>
      if c = 'u' then some do let _ ← fourHex
      else (shortEscape? c).map fun _ => pure ())
    (.refuse .endInString .invalidEscape)

/-- One character of a string whose value nobody wants, or its closing quote.
A control character is refused where it stands. -/
def skipStringStep (_ : Unit) : Reader (Unit ⊕ Unit) :=
  .onChar
    (fun c =>
      if c = '\"' then some (pure (.inr ()))
      else if c = '\\' then some do skipEscape; return .inl ()
      else if isControl c then none
      else some (pure (.inl ())))
    (.refuse .endInString .controlCharacter 0)

theorem skipStringStep_progresses (u : Unit) :
    (skipStringStep u).Progresses Reader.GoesOn :=
  .onChar .refuse

def skipString : Reader Unit := .iterate skipStringStep skipStringStep_progresses ()

end StartPage.Json
