/-! The greeting of the hour and the page title made from it. -/
namespace StartPage

inductive Greeting where
  | morning
  | afternoon
  | evening
  deriving DecidableEq, Ord, Repr

namespace Greeting

/-- The name shown when none is configured. -/
def defaultName : String := "Unknown"

/-- Morning lasts until noon and afternoon through the hour that starts at
18:00. Every later hour, also one that no clock shows, is evening. -/
def ofHour (hour : UInt8) : Greeting :=
  if hour < 12 then .morning else if hour < 19 then .afternoon else .evening

def label : Greeting → String
  | .morning => "Morning"
  | .afternoon => "Afternoon"
  | .evening => "Evening"

/-- The page title that greets `name`. -/
def title (g : Greeting) (name : String) : String :=
  "Good " ++ g.label ++ ", " ++ name

end Greeting

end StartPage
