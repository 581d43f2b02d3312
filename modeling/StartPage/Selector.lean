/-! The elements that a page looks for in a document, each by its selector. -/
namespace StartPage

inductive Selector where
  | searchField
  | clock
  | title
  | links
  deriving DecidableEq, Repr

namespace Selector

def text : Selector → String
  | .searchField => "input.searchField"
  | .clock => ".clock"
  | .title => "title"
  | .links => ".links"

/-- All selectors, in the order in which they are documented. -/
def all : List Selector := [.searchField, .clock, .title, .links]

def ofText? (s : String) : Option Selector := all.find? fun selector => selector.text == s

end Selector

end StartPage
