import StartPage.Config.Basic
import StartPage.Url.Form
import StartPage.Url.Parser

/-! The search engine of a page: an address that can carry a query, and the
name of the parameter for the search text. Settings are valid if an engine can
be made from them and the clock has an interval. -/
namespace StartPage

structure SearchEngine where
  base : Url
  param : String
  base_hierarchical : base.isHierarchical = true
  param_nonempty : param ≠ ""
  deriving DecidableEq

namespace SearchEngine

/-- The engine with the given base and parameter. An empty parameter is
reported before anything that is wrong with the base. -/
def create (base param : String) : Except ConfigError SearchEngine :=
  if hp : param = "" then .error .emptyQueryParam
  else match Url.parse base.toList with
    | .error e => .error (.invalidSearchBase e.message)
    | .ok url =>
      if hb : url.isHierarchical = true then
        .ok { base := url, param, base_hierarchical := hb, param_nonempty := hp }
      else .error (.invalidSearchBase (url.text ++ " cannot carry a query"))

/-- The engine of a page for which nothing is configured. -/
def default : SearchEngine where
  base :=
    { scheme := "https".toList
      authority := some { host := .name "duckduckgo.com".toList }
      path := ['/']
      query := some "t=ffab".toList }
  param := "q"
  base_hierarchical := rfl
  param_nonempty := by decide

/-- The address of the search results for a text. An empty text gives an empty value. -/
def redirectUrl (e : SearchEngine) (text : String) : Url := e.base.appendPair e.param text

end SearchEngine

def EngineConfig.build (c : EngineConfig) : Except ConfigError SearchEngine :=
  SearchEngine.create c.base c.queryParam

/-- What is wrong with some settings, if anything: the interval is checked first,
then the parameter, then the base. -/
def Config.validate (c : Config) : Except ConfigError Unit :=
  if c.tickMillis = 0 then .error .zeroTickInterval
  else c.searchEngine.build.map fun _ => ()

end StartPage
