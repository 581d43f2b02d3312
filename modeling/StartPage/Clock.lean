import StartPage.LocalTime

/-! A clock that moves only when it is told to: it can be set to a time and
moved forward by a number of seconds, past midnight if need be. -/
namespace StartPage

/-- A clock, which is the time that it shows. -/
structure Clock where
  now : LocalTime := .midnight
  deriving DecidableEq, Repr

namespace Clock

instance : Inhabited Clock := ⟨{}⟩

def set (_ : Clock) (time : LocalTime) : Clock := ⟨time⟩

/-- The clock `secs` seconds later. Whole days are taken off first, so the
sum stays far below the word size. -/
def advance (c : Clock) (secs : UInt32) : Clock :=
  ⟨.ofSeconds (c.now.seconds + secs % LocalTime.secondsPerDay)⟩

/-- What can be asked of a clock from outside: parts need not be in range. -/
inductive Command where
  | set (hour minute second : UInt32)
  | advance (secs : UInt32)
  deriving DecidableEq, Repr

/-- A command that is refused leaves the clock as it was. -/
def perform (c : Clock) : Command → Except TimeError Clock
  | .set hour minute second => return c.set (← LocalTime.ofParts hour minute second)
  | .advance secs => return c.advance secs

/-- The clock after a command, whether accepted or refused. -/
def after (c : Clock) (command : Command) : Clock :=
  match c.perform command with
  | .ok c' => c'
  | .error _ => c

/-- What each of several commands answers in turn: the time after it, or why it
was refused. -/
def answers (c : Clock) : List Command → List (Except TimeError LocalTime)
  | [] => []
  | command :: commands =>
    (c.perform command).map Clock.now :: (c.after command).answers commands

/-- The clock after several commands. -/
def afterAll (c : Clock) (commands : List Command) : Clock := commands.foldl Clock.after c

end Clock

end StartPage
