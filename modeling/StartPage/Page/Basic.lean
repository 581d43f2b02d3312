import StartPage.Clock
import StartPage.ClockUpdater
import StartPage.Key
import StartPage.SearchEngine
import StartPage.Selector

/-! The start page itself: what it shows and where it leads, made from settings
that have been found valid. It keeps no state of its own. A tick draws the frame
of an instant, and a key press that submits leaves for the search results
through whatever navigator it is given. -/
namespace StartPage

inductive PageError where
  /-- A required element is absent from the document, or is not what it should be. -/
  | missingElement (selector : Selector)
  | config (error : ConfigError)
  | host (reason : String)
  deriving DecidableEq, Repr

namespace PageError

def message : PageError → String
  | .missingElement selector => "missing element: " ++ selector.text
  | .config error => "config: " ++ error.message
  | .host reason => "host: " ++ reason

/-- The error that lies behind this one. -/
def source? : PageError → Option ConfigError
  | .config error => some error
  | _ => none

end PageError

/-- Something that can leave the page for an address. It may refuse with an
error, and its state changes either way. -/
class Navigator (ν : Type) (ε : outParam Type) where
  navigate : Url → ν → Except ε Unit × ν

structure Page where
  engine : SearchEngine
  updater : ClockUpdater
  links : List QuickLink
  tickMillis : UInt32
  deriving DecidableEq

inductive KeyOutcome where
  | ignored
  | redirected (url : Url)
  deriving DecidableEq, Repr

namespace Page

def displayName (p : Page) : String := p.updater.displayName

def configuredEvent (p : Page) : LogEvent :=
  .configured p.displayName p.engine.base.text p.tickMillis

/-- The page that some settings describe, with the events logged on the way.
Nothing is logged if the settings are refused. -/
def create (c : Config) : Except ConfigError Page × List LogEvent :=
  match c.validate, c.searchEngine.build with
  | .error e, _ => (.error e, [])
  | .ok (), .error e => (.error e, [])
  | .ok (), .ok engine =>
    let page : Page :=
      { engine, updater := ⟨c.shownName⟩, links := c.quickLinks, tickMillis := c.tickMillis }
    (.ok page, [page.configuredEvent])

def tick (p : Page) (clock : Clock) (surface : Surface) : ClockUpdater.Update :=
  p.updater.update surface clock.now

/-- What leaving the page answers: an address or an outcome, the navigator
after it and the events logged. -/
structure Departure (ν ε α : Type) where
  answer : Except ε α
  navigator : ν
  log : List LogEvent

variable {ν ε : Type} [Navigator ν ε]

/-- Leave for the search results of a text. The event is logged before the
navigator is asked, so it is there when the navigator refuses. -/
def redirect (p : Page) (text : String) (nav : ν) : Departure ν ε Url :=
  let url := p.engine.redirectUrl text
  let (went, nav) := Navigator.navigate url nav
  { answer := went.map fun _ => url, navigator := nav, log := [.redirect url.text] }

/-- React to a key press. The text is that of the search field at that moment. -/
def handleKey (p : Page) (key : KeyInput) (text : String) (nav : ν) :
    Departure ν ε KeyOutcome :=
  if key.submits then
    let d := p.redirect text nav
    { answer := d.answer.map .redirected, navigator := d.navigator, log := d.log }
  else { answer := .ok .ignored, navigator := nav, log := [] }

end Page

end StartPage
