import StartPage.Surface

/-! Keeping the clock and the title of a page up to date. Each update draws the
frame of an instant and reports it to the log; nothing is kept from one update
to the next. A time that is out of range leaves the surface alone. -/
namespace StartPage

/-- Writes the frames of one name. It keeps nothing from tick to tick. -/
structure ClockUpdater where
  displayName : String
  deriving DecidableEq, Repr

namespace ClockUpdater

/-- What an update answers: the surface after it, the frame drawn and the
events logged. -/
structure Update where
  surface : Surface
  frame : ClockFrame
  log : List LogEvent
  deriving DecidableEq, Repr

/-- Draw the frame of an instant. -/
def update (u : ClockUpdater) (surface : Surface) (now : LocalTime) : Update :=
  let frame := ClockFrame.render now u.displayName
  { surface := surface.draw frame, frame, log := [frame.event] }

/-- What can be done to a surface in turn: an update at a time that may be out
of range, or a direct write to one of the two elements. -/
inductive Step where
  | update (hour minute second : UInt32)
  | clockText (text : String)
  | title (text : String)
  deriving DecidableEq, Repr

/-- What a step answers. The frame is absent for a direct write. -/
structure Outcome where
  surface : Surface
  frame : Option (Except TimeError ClockFrame) := none
  log : List LogEvent := []

/-- Perform one step. A time out of range writes and logs nothing. -/
def perform (u : ClockUpdater) (surface : Surface) : Step → Outcome
  | .update hour minute second =>
    match LocalTime.ofParts hour minute second with
    | .error e => { surface, frame := some (.error e) }
    | .ok now =>
      let done := u.update surface now
      { surface := done.surface, frame := some (.ok done.frame), log := done.log }
  | .clockText text => { surface := surface.setClockText text }
  | .title text => { surface := surface.setTitle text }

/-- The outcomes of a list of steps, each on the surface that the one before it left. -/
def run (u : ClockUpdater) (surface : Surface) : List Step → List Outcome
  | [] => []
  | step :: steps =>
    let outcome := u.perform surface step
    outcome :: u.run outcome.surface steps

end ClockUpdater

end StartPage
