import StartPage.Selector

/-! Documents in memory. An element is known by a number that it keeps for ever,
so that whoever has found it holds on to it even when the document shows another
one in its place. A document has at most one element for each selector. -/
namespace StartPage.Browser

structure Anchor where
  text : String
  href : String
  deriving DecidableEq, Repr

/-- An element. Its text is its own, without that of its children. -/
structure Element where
  tag : String
  text : String := ""
  value : String := ""
  children : List Anchor := []
  deriving DecidableEq, Repr

/-- Replace the text, which removes all children. -/
def Element.setText (e : Element) (text : String) : Element := { e with text, children := [] }

/-- An element, by the number of elements that were made before it. -/
abbrev ElementId := Nat

inductive DocumentId where
  | main
  | other
  deriving DecidableEq, Repr

def DocumentId.name : DocumentId → String
  | .main => "main"
  | .other => "other"

structure Document where
  searchField : Option ElementId := none
  clock : Option ElementId := none
  title : Option ElementId := none
  links : Option ElementId := none
  deriving DecidableEq, Repr

namespace Document

def find (d : Document) : Selector → Option ElementId
  | .searchField => d.searchField
  | .clock => d.clock
  | .title => d.title
  | .links => d.links

/-- The document in which a selector finds the given element, or nothing. -/
def place (d : Document) (selector : Selector) (element : Option ElementId) : Document :=
  match selector with
  | .searchField => { d with searchField := element }
  | .clock => { d with clock := element }
  | .title => { d with title := element }
  | .links => { d with links := element }

@[simp] theorem find_place (d : Document) (s t : Selector) (element : Option ElementId) :
    (d.place s element).find t = if t = s then element else d.find t := by
  cases s <;> cases t <;> rfl

end Document

end StartPage.Browser
