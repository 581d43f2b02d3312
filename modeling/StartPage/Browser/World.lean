import StartPage.Browser.Document
import StartPage.Page.Basic

/-! A browser in memory: two documents, timers, key listeners and a clock. Each
operation can be broken, and then throws and does nothing. The calls that a page
makes and the events that it logs are kept in order, so that they can be told
apart step by step. -/
namespace StartPage.Browser

/-- An operation of the browser that can be broken. -/
inductive Facility where
  /-- Without it there is no window. -/
  | window
  /-- Without it the window has no document. -/
  | document
  | query (selector : Selector)
  | createElement
  | appendChild
  | setInterval
  | addEventListener
  | removeEventListener
  | replace
  /-- Without it new elements are of an unknown class. -/
  | anchorClass
  deriving DecidableEq, Repr

def Facility.text : Facility → String
  | .window => "window"
  | .document => "document"
  | .query selector => "query " ++ selector.text
  | .createElement => "createElement"
  | .appendChild => "appendChild"
  | .setInterval => "setInterval"
  | .addEventListener => "addEventListener"
  | .removeEventListener => "removeEventListener"
  | .replace => "replace"
  | .anchorClass => "anchorClass"

/-- A value that has been thrown: a text, or an element of the wrong class. -/
inductive Thrown where
  | text (s : String)
  | element
  deriving DecidableEq, Repr

/-- How a thrown value is shown to somebody who debugs. -/
def Thrown.debug : Thrown → String
  | .text s => "JsValue(\"" ++ s ++ "\")"
  | .element => "JsValue(HtmlElement)"

inductive HostCall where
  | query (selector : Selector)
  | setInterval (timeout : Nat)
  | clearInterval (id : Nat)
  | addListener (document : DocumentId)
  | removeListener (document : DocumentId)
  | replace (url : String)
  deriving DecidableEq, Repr

def HostCall.text : HostCall → String
  | .query selector => "query " ++ selector.text
  | .setInterval timeout => "setInterval " ++ Text.decimal timeout
  | .clearInterval id => "clearInterval " ++ Text.decimal id
  | .addListener document => "addEventListener keydown on " ++ document.name
  | .removeListener document => "removeEventListener keydown on " ++ document.name
  | .replace url => "replace " ++ url

/-- What the callbacks of one bring-up hold on to: the page and the elements
that were found for it. The number tells bring-ups apart. -/
structure Wiring where
  id : Nat
  page : Page
  searchField : ElementId
  clock : ElementId
  title : ElementId
  deriving DecidableEq

structure Timer where
  id : Nat
  timeout : Nat
  wiring : Wiring
  deriving DecidableEq

structure Listener where
  document : DocumentId
  wiring : Wiring
  deriving DecidableEq

/-- What a page keeps of its bring-up: the document, the interval and the two
callbacks, each by the number of its wiring. -/
structure Handle where
  document : Option DocumentId := none
  interval : Option Nat := none
  onKeydown : Option Nat := none
  onTick : Option Nat := none
  deriving DecidableEq, Repr

def Handle.isRunning (h : Handle) : Bool := h.interval.isSome

structure World where
  elements : List Element
  main : Document
  other : Document
  timers : List Timer := []
  listeners : List Listener := []
  timersStarted : Nat := 0
  wiringsMade : Nat := 0
  broken : List Facility := []
  hour : UInt32 := 0
  minute : UInt32 := 0
  second : UInt32 := 0
  handle : Option Handle := none
  calls : List HostCall := []
  log : List LogEvent := []
  deriving DecidableEq

namespace World

/-- Two documents that have an element for every selector, and no page. -/
def initial : World :=
  let shown : List Element :=
    [{ tag := "input", text := "-" }, { tag := "div", text := "-" },
     { tag := "title", text := "-" }, { tag := "div", text := "-" }]
  { elements := shown ++ shown
    main := { searchField := some 0, clock := some 1, title := some 2, links := some 3 }
    other := { searchField := some 4, clock := some 5, title := some 6, links := some 7 } }

def document (w : World) : DocumentId → Document
  | .main => w.main
  | .other => w.other

def setDocument (w : World) (id : DocumentId) (d : Document) : World :=
  match id with
  | .main => { w with main := d }
  | .other => { w with other := d }

def find (w : World) (id : DocumentId) (selector : Selector) : Option ElementId :=
  (w.document id).find selector

def isBroken (w : World) (f : Facility) : Bool := w.broken.contains f

def modifyElement (w : World) (id : ElementId) (f : Element → Element) : World :=
  { w with elements := w.elements.modify id f }

/-- The local time, days being left out. -/
def now (w : World) : LocalTime := .ofSeconds (w.hour * 3600 + w.minute * 60 + w.second)

def valueOf (w : World) (id : ElementId) : String := (w.elements[id]?.map Element.value).getD ""

def record (w : World) (call : HostCall) : World := { w with calls := w.calls ++ [call] }

def logged (w : World) (events : List LogEvent) : World := { w with log := w.log ++ events }

end World

/-- An action on the browser that may throw. What was done before stays done. -/
abbrev Action := ExceptT Thrown (StateM World)

namespace Action

def update (f : World → World) : Action Unit := modifyThe World f

/-- Throw the text that says which operation is broken, if it is. -/
def require (f : Facility) : Action Unit := do
  if (← getThe World).isBroken f then throw (.text (f.text ++ " failed"))

def fail {α : Type} (e : PageError) : Action α := throw (.text e.message)

def query (document : DocumentId) (selector : Selector) : Action (Option ElementId) := do
  update (·.record (.query selector))
  require (.query selector)
  return (← getThe World).find document selector

/-- Look for an element that has to be there. -/
def queryRequired (document : DocumentId) (selector : Selector) : Action ElementId := do
  match ← query document selector with
  | some element => return element
  | none => fail (.missingElement selector)

/-- Make an anchor. An element of another class is thrown. -/
def createAnchor : Action Unit := do
  require .createElement
  if (← getThe World).isBroken .anchorClass then throw .element

/-- Put an anchor behind the children of an element. -/
def appendAnchor (parent : ElementId) (anchor : Anchor) : Action Unit := do
  require .appendChild
  update (·.modifyElement parent fun e => { e with children := e.children ++ [anchor] })

/-- Start an interval. A failed attempt uses up no number. -/
def setInterval (timeout : Nat) (wiring : Wiring) : Action Nat := do
  update (·.record (.setInterval timeout))
  require .setInterval
  let id := (← getThe World).timersStarted + 1
  update fun w => { w with timersStarted := id, timers := w.timers ++ [⟨id, timeout, wiring⟩] }
  return id

def addListener (document : DocumentId) (wiring : Wiring) : Action Unit := do
  update (·.record (.addListener document))
  require .addEventListener
  update fun w => { w with listeners := w.listeners ++ [⟨document, wiring⟩] }

/-- Take the listener of a wiring off a document. -/
def removeListener (document : DocumentId) (wiring : Nat) : Action Unit := do
  update (·.record (.removeListener document))
  require .removeEventListener
  update fun w =>
    { w with listeners := w.listeners.filter fun l =>
        !(l.document = document && l.wiring.id = wiring) }

end Action

namespace World

/-- Stop an interval, if it is running. -/
def clearInterval (w : World) (id : Nat) : World :=
  { w.record (.clearInterval id) with timers := w.timers.filter (·.id ≠ id) }

/-- The browser leaves its page by replacing it, so that nothing is kept to go
back to. -/
instance : Navigator World Thrown where
  navigate url w :=
    let action : Action Unit := do
      Action.update (·.record (.replace url.text))
      Action.require .replace
    action.run.run w

end World

end StartPage.Browser
