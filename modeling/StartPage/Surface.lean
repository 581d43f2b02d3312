import StartPage.LocalTime
import StartPage.Log

/-! What one tick shows, and the surface that shows it. A frame is computed
from the time and the name alone, so two ticks at one instant show the same
frame. A surface keeps the texts written last and counts the writes. -/
namespace StartPage

structure ClockFrame where
  clockText : String
  greeting : Greeting
  title : String
  deriving DecidableEq, Repr

def ClockFrame.render (now : LocalTime) (name : String) : ClockFrame :=
  let greeting := Greeting.ofHour (UInt8.ofNat now.hour)
  { clockText := now.text, greeting, title := greeting.title name }

def ClockFrame.event (frame : ClockFrame) : LogEvent :=
  .tick frame.clockText frame.greeting

/-- The clock element and the title of a page, unset until the first write. -/
structure Surface where
  clockText : Option String := none
  title : Option String := none
  writes : Nat := 0
  deriving DecidableEq, Repr

namespace Surface

def setClockText (s : Surface) (text : String) : Surface :=
  { s with clockText := some text, writes := s.writes + 1 }

def setTitle (s : Surface) (text : String) : Surface :=
  { s with title := some text, writes := s.writes + 1 }

/-- Show a frame: the clock text is written before the title. -/
def draw (s : Surface) (frame : ClockFrame) : Surface :=
  (s.setClockText frame.clockText).setTitle frame.title

end Surface

end StartPage
