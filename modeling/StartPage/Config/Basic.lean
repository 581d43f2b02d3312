import StartPage.Greeting
import StartPage.Text.Blank

/-! The settings of a start page, as somebody wrote them: they may be invalid,
blank or incomplete. The effective values, which the page shows, are computed
from them: a name that is not blank and exactly four links. -/
namespace StartPage

/-- A named shortcut. -/
structure QuickLink where
  name : String := "DuckDuckGo"
  url : String := "https://duckduckgo.com"
  deriving DecidableEq, Repr

/-- The link of a slot that is not configured. -/
def QuickLink.default : QuickLink := {}

/-- The search engine that is asked for: a base address, and the parameter that
carries the search text. -/
structure EngineConfig where
  base : String := "https://duckduckgo.com/?t=ffab"
  queryParam : String := "q"
  deriving DecidableEq, Repr

def EngineConfig.default : EngineConfig := {}

/-- The number of links that a page shows. -/
def quickLinkSlots : Nat := 4

/-- Settings of a start page. -/
structure Config where
  displayName : String := Greeting.defaultName
  searchEngine : EngineConfig := .default
  /-- Milliseconds between two updates of the clock. -/
  tickMillis : UInt32 := 1000
  links : List QuickLink := List.replicate quickLinkSlots .default
  deriving DecidableEq, Repr

/-- The settings of a page for which nothing is configured. -/
def Config.default : Config := {}

/-- Why settings are refused. -/
inductive ConfigError where
  | invalidJson (reason : String)
  | invalidSearchBase (reason : String)
  | emptyQueryParam
  | zeroTickInterval
  deriving DecidableEq, Repr

def ConfigError.message : ConfigError → String
  | .invalidJson reason => "invalid config json: " ++ reason
  | .invalidSearchBase reason => "invalid search base url: " ++ reason
  | .emptyQueryParam => "search query parameter must not be empty"
  | .zeroTickInterval => "tick interval must be non-zero"

namespace Config

/-- The name that the page shows: without blanks around it, and never empty. -/
def shownName (c : Config) : String :=
  match Text.trim c.displayName.toList with
  | [] => Greeting.defaultName
  | name => String.ofList name

/-- The links that the page shows: the first four, and the default link in
every slot that is left. -/
def quickLinks (c : Config) : List QuickLink :=
  let kept := c.links.take quickLinkSlots
  kept ++ List.replicate (quickLinkSlots - kept.length) .default

end Config

end StartPage
