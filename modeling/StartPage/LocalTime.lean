import StartPage.Text.Digits

/-! A time of day to the second. Every value is in range by its type, so
the three views of it (its parts, its seconds since midnight and its text)
describe the same instant. Parts that come from outside are checked by
`LocalTime.ofParts`; seconds wrap at one day. -/
namespace StartPage

/-- The parts of a time of day, most significant first. -/
inductive TimeField where
  | hour
  | minute
  | second
  deriving DecidableEq, Repr

def TimeField.name : TimeField → String
  | .hour => "hour"
  | .minute => "minute"
  | .second => "second"

/-- A part that is too large, with the value that was offered for it. -/
structure TimeError where
  field : TimeField
  value : UInt32
  deriving DecidableEq, Repr

def TimeError.message (e : TimeError) : String :=
  e.field.name ++ " out of range: " ++ Text.decimal e.value.toNat

structure LocalTime where
  hour : Fin 24
  minute : Fin 60
  second : Fin 60
  deriving DecidableEq, Repr

namespace LocalTime

def secondsPerDay : UInt32 := 86400

def midnight : LocalTime := ⟨0, 0, 0⟩

instance : Inhabited LocalTime := ⟨midnight⟩

/-- Times are compared by the hour, then by the minute, then by the second. -/
instance : Ord LocalTime where
  compare s t :=
    (compare s.hour t.hour).then ((compare s.minute t.minute).then (compare s.second t.second))

/-- One part of a time, refused if it is not below `bound`. -/
def part (field : TimeField) (bound : Nat) (value : UInt32) : Except TimeError (Fin bound) :=
  if h : value.toNat < bound then .ok ⟨value.toNat, h⟩ else .error ⟨field, value⟩

/-- The time with the given parts. The first part that is out of range is
reported, in the order hour, minute, second. -/
def ofParts (hour minute second : UInt32) : Except TimeError LocalTime := do
  let hour ← part .hour 24 hour
  let minute ← part .minute 60 minute
  let second ← part .second 60 second
  return ⟨hour, minute, second⟩

theorem toNat_mod_day_lt (secs : UInt32) : (secs % secondsPerDay).toNat < 3600 * 24 :=
  Nat.mod_lt secs.toNat (by decide)

/-- The time that is `secs` seconds after midnight, days being left out. -/
def ofSeconds (secs : UInt32) : LocalTime :=
  { hour := ⟨(secs % secondsPerDay / 3600).toNat, Nat.div_lt_of_lt_mul (toNat_mod_day_lt secs)⟩
    minute := ⟨(secs % secondsPerDay / 60 % 60).toNat, Nat.mod_lt _ (by decide)⟩
    second := ⟨(secs % secondsPerDay % 60).toNat, Nat.mod_lt _ (by decide)⟩ }

def seconds (t : LocalTime) : UInt32 :=
  UInt32.ofNat t.hour * 3600 + UInt32.ofNat t.minute * 60 + UInt32.ofNat t.second

/-- The characters of `HH:MM:SS`, each part with two digits. -/
def chars (t : LocalTime) : List Char :=
  Text.padded 2 t.hour ++ ':' :: Text.padded 2 t.minute ++ ':' :: Text.padded 2 t.second

def text (t : LocalTime) : String := String.ofList t.chars

/-- The times in ascending order. Equal times are all kept. -/
def sort (times : List LocalTime) : List LocalTime :=
  times.mergeSort fun s t => (compare s t).isLE

end LocalTime

end StartPage
