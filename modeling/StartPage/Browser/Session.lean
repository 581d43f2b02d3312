import StartPage.BringUp
import StartPage.Browser.World
import StartPage.Config.Text

/-! Bringing a page up in a document and taking it down. Bringing up goes
through its stages in a fixed order and stops at the first that fails; the timer
and the listener come last, and both are in place or neither. Taking down
releases everything that the handle holds, whatever the browser refuses. -/
namespace StartPage.Browser

/-- The settings as they are handed over: not at all, as one of the two empty
values, as a value with a JSON text, or as one whose text cannot be had because asking
for it throws. A value that answers with no text at all, such as a function, is not
among them. -/
inductive Options where
  | none
  | undefined
  | null
  | json (text : String)
  | throws (text : String)
  deriving DecidableEq, Repr

def Options.config : Options → Except PageError Config
  | .none => .ok .default
  | .undefined => .ok .default
  | .null => .ok .default
  | .json text => match Config.ofText text with
    | .ok c => .ok c
    | .error e => .error (.config e)
  | .throws text => .error (.host (Thrown.debug (.text text)))

def openPage (options : Options) : Action Page := do
  match options.config with
  | .error e => Action.fail e
  | .ok config =>
    let (page, log) := Page.create config
    Action.update (·.logged log)
    match page with
    | .error e => Action.fail (.config e)
    | .ok page => return page

/-- The search field, which has to be an input. -/
def findSearchField (document : DocumentId) : Action ElementId := do
  let element ← Action.queryRequired document .searchField
  match (← getThe World).elements[element]? with
  | some e =>
    if e.tag = "input" then return element else Action.fail (.missingElement .searchField)
  | none => Action.fail (.missingElement .searchField)

/-- Fill the element for the links, if there is one, with an anchor per link. -/
def renderLinks (document : DocumentId) (links : List QuickLink) : Action Unit := do
  match ← Action.query document .links with
  | none => return
  | some container =>
    Action.update (·.modifyElement container (·.setText ""))
    links.forM fun link => do
      Action.createAnchor
      Action.appendAnchor container ⟨link.name, link.url⟩

/-- Draw the frame of the present time into the elements of a wiring. -/
def World.tick (w : World) (wiring : Wiring) : World :=
  let frame := ClockFrame.render w.now wiring.page.displayName
  let w := w.logged [frame.event]
  let w := w.modifyElement wiring.clock (·.setText frame.clockText)
  w.modifyElement wiring.title (·.setText frame.title)

/-- The largest timeout that a browser takes. -/
def maxTimeout : Nat := 0x7FFFFFFF

/-- The milliseconds between two ticks, as the browser is told. -/
def timeoutOf (page : Page) : Nat := min page.tickMillis.toNat maxTimeout

/-- The page and its elements, all of them found. -/
def gather (document : DocumentId) (options : Options) : Action Wiring := do
  let page ← openPage options
  let searchField ← findSearchField document
  let clock ← Action.queryRequired document .clock
  let title ← Action.queryRequired document .title
  let w ← getThe World
  if w.isBroken .window then Action.fail (.host "no window")
  let id := w.wiringsMade + 1
  Action.update ({ · with wiringsMade := id })
  return { id, page, searchField, clock, title }

/-- Bring a page up in a document. The handle that is answered is running. -/
def bringUp (document : DocumentId) (options : Options) : Action Handle := do
  let wiring ← gather document options
  renderLinks document wiring.page.links
  Action.update (·.tick wiring)
  let interval ← startTimerThenListen
    (Action.setInterval (timeoutOf wiring.page) wiring)
    (Action.addListener document wiring)
    (fun id => modifyThe World (·.clearInterval id))
  Action.update (·.logged [.running wiring.page.tickMillis])
  return { document := some document, interval := some interval,
           onKeydown := some wiring.id, onTick := some wiring.id }

/-- Stop the interval of a handle. It is left to itself if there is no window to stop it. -/
def World.stopTimer (w : World) (h : Handle) : World :=
  match h.interval with
  | some id => if w.isBroken .window then w else w.clearInterval id
  | none => w

/-- Take the listener of a handle off. One that cannot be taken off is reported. -/
def World.detach (w : World) (h : Handle) : World :=
  match h.document, h.onKeydown with
  | some document, some wiring =>
    match (Action.removeListener document wiring).run.run w with
    | (.ok (), w) => w
    | (.error e, w) => w.logged [.detachFailed e.debug]
  | _, _ => w

def World.takeDown (w : World) (h : Handle) : World :=
  let w := (w.stopTimer h).detach h
  if h.onTick.isSome then w.logged [.stopped] else w

/-- Take down the present handle, if there is one, and put another in its place. -/
def World.replaceHandle (w : World) (handle : Option Handle) : World :=
  match w.handle with
  | some old => World.takeDown { w with handle } old
  | none => { w with handle }

/-- React to a key press with the callback of a wiring. -/
def World.keydown (w : World) (wiring : Wiring) (key : KeyInput) : World :=
  let d := wiring.page.handleKey key (w.valueOf wiring.searchField) w
  let w := d.navigator.logged d.log
  match d.answer with
  | .ok _ => w
  | .error e => w.logged [.redirectFailed e.debug]

end StartPage.Browser
