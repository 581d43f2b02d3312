import StartPage.Page.Basic

/-! A page that is run step by step, with a clock and a surface of its own and a
navigator that records where it went. The navigator may be bounded: after as
many navigations it refuses every further one. -/
namespace StartPage

/-- A navigator that records the addresses it went to. -/
structure History where
  visited : List Url := []
  /-- The number of navigations that are accepted; all of them without a bound. -/
  bound : Option Nat := none
  deriving DecidableEq, Repr

/-- Why a recording navigator refuses. -/
inductive History.Refusal where
  | blocked
  deriving DecidableEq, Repr

def History.Refusal.message : Refusal → String
  | .blocked => "blocked"

namespace History

/-- One more navigation is within the bound. -/
def accepts (h : History) : Bool :=
  match h.bound with
  | none => true
  | some k => h.visited.length < k

instance : Navigator History History.Refusal where
  navigate url h :=
    if h.accepts then (.ok (), { h with visited := h.visited ++ [url] })
    else (.error .blocked, h)

end History

/-- A page with all that its steps act on. -/
structure PageRun where
  page : Page
  clock : Clock := {}
  surface : Surface := {}
  history : History := {}

namespace PageRun

inductive Step where
  | tick
  | clock (command : Clock.Command)
  | key (input : KeyInput) (text : String)
  | redirect (text : String)
  /-- Ask where the navigator went, which changes nothing. -/
  | recall
  deriving DecidableEq, Repr

inductive Answer where
  | drawn (frame : ClockFrame)
  | moved (now : Except TimeError LocalTime)
  | pressed (outcome : Except History.Refusal KeyOutcome)
  | left (url : Except History.Refusal Url)
  | recalled (visited : List Url)

/-- The run after a step, what the step answered and the events logged by it. -/
structure Outcome where
  run : PageRun
  answer : Answer
  log : List LogEvent

def perform (r : PageRun) : Step → Outcome
  | .tick =>
    let done := r.page.tick r.clock r.surface
    { run := { r with surface := done.surface }, answer := .drawn done.frame, log := done.log }
  | .clock command =>
    { run := { r with clock := r.clock.after command }
      answer := .moved ((r.clock.perform command).map Clock.now)
      log := [] }
  | .key input text =>
    let d := r.page.handleKey input text r.history
    { run := { r with history := d.navigator }, answer := .pressed d.answer, log := d.log }
  | .redirect text =>
    let d := r.page.redirect text r.history
    { run := { r with history := d.navigator }, answer := .left d.answer, log := d.log }
  | .recall => { run := r, answer := .recalled r.history.visited, log := [] }

def performAll (r : PageRun) : List Step → List Outcome
  | [] => []
  | step :: steps =>
    let outcome := r.perform step
    outcome :: outcome.run.performAll steps

end PageRun

end StartPage
