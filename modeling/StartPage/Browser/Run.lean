import StartPage.Browser.Session

/-! A browser that is driven step by step: by the page that hosts the start
page, which makes and frees handles, by a user who types and presses keys, and
by changes and failures of the browser itself. -/
namespace StartPage.Browser

inductive Step where
  /-- Put an idle handle in the place of the present one. -/
  | newHandle
  | init (options : Options) (document : DocumentId)
  /-- Bring the page up in the main document, through a handle of its own. -/
  | start (options : Options)
  | destroy
  | free
  | key (input : KeyInput) (document : DocumentId)
  /-- Call every running interval once. -/
  | fire
  | setTime (hour minute second : UInt32)
  | type (text : String) (document : DocumentId)
  | remove (selector : Selector) (document : DocumentId)
  | put (selector : Selector) (tag : String) (document : DocumentId)
  | breakDown (facility : Facility)
  | fix (facility : Facility)
  deriving DecidableEq, Repr

inductive Result where
  | done
  | noHandle
  | failed (e : Thrown)
  /-- How many callbacks were called, and how many could not be called because
  their handle has released them. -/
  | delivered (called dead : Nat)
  deriving DecidableEq, Repr

namespace World

/-- The callback for key presses is still held by the present handle. -/
def hearsKeys (w : World) (wiring : Wiring) : Bool :=
  match w.handle with
  | some h => h.onKeydown = some wiring.id
  | none => false

/-- The callback for ticks is still held by the present handle. -/
def ticks (w : World) (wiring : Wiring) : Bool :=
  match w.handle with
  | some h => h.onTick = some wiring.id
  | none => false

/-- Bring a page up through the present handle, which is taken down before. -/
def init (w : World) (options : Options) (document : DocumentId) : Result × World :=
  match w.handle with
  | none => (.noHandle, w)
  | some _ =>
    match (bringUp document options).run.run (w.replaceHandle (some {})) with
    | (.ok h, w) => (.done, { w with handle := some h })
    | (.error e, w) => (.failed e, w)

/-- Bring a page up in the main document. The present handle is taken down only
after that has succeeded. -/
def start (w : World) (options : Options) : Result × World :=
  let action : Action Handle := do
    if w.isBroken .window || w.isBroken .document then Action.fail (.host "no document")
    bringUp .main options
  match action.run.run w with
  | (.ok h, w) => (.done, w.replaceHandle (some h))
  | (.error e, w) => (.failed e, w)

def press (w : World) (input : KeyInput) (document : DocumentId) : Result × World :=
  let wirings := (w.listeners.filter (·.document = document)).map Listener.wiring
  let live := wirings.filter w.hearsKeys
  (.delivered live.length (wirings.length - live.length),
    live.foldl (fun w wiring => w.keydown wiring input) w)

/-- Call every running interval once. -/
def fire (w : World) : Result × World :=
  let wirings := w.timers.map Timer.wiring
  let live := wirings.filter w.ticks
  (.delivered live.length (wirings.length - live.length), live.foldl World.tick w)

/-- Show a new, empty element in a document. -/
def put (w : World) (selector : Selector) (tag : String) (document : DocumentId) : World :=
  let shown := (w.document document).place selector (some w.elements.length)
  { w.setDocument document shown with elements := w.elements ++ [{ tag }] }

def perform (w : World) : Step → Result × World
  | .newHandle => (.done, w.replaceHandle (some {}))
  | .init options document => w.init options document
  | .start options => w.start options
  | .destroy =>
    match w.handle with
    | none => (.noHandle, w)
    | some _ => (.done, w.replaceHandle (some {}))
  | .free => (.done, w.replaceHandle none)
  | .key input document => w.press input document
  | .fire => w.fire
  | .setTime hour minute second => (.done, { w with hour, minute, second })
  | .type text document =>
    (.done, match w.find document .searchField with
      | some id => w.modifyElement id ({ · with value := text })
      | none => w)
  | .remove selector document =>
    (.done, w.setDocument document ((w.document document).place selector none))
  | .put selector tag document => (.done, w.put selector tag document)
  | .breakDown facility => (.done, { w with broken := facility :: w.broken })
  | .fix facility => (.done, { w with broken := w.broken.filter (· ≠ facility) })

/-- Perform one step and keep only the calls and the events of that step. -/
def performAfresh (w : World) (step : Step) : Result × World :=
  World.perform { w with calls := [], log := [] } step

/-- The answers of several steps in turn, each with the browser after it. -/
def trace (w : World) : List Step → List (Result × World)
  | [] => []
  | step :: steps =>
    let done := w.performAfresh step
    done :: done.2.trace steps

end World

end StartPage.Browser
