import StartPage.Config.Basic
import StartPage.Json.Printer
import StartPage.Json.Record

/-! Settings as JSON texts. Members may come in any order; a member that is
absent takes its default, except in a link, which needs both of its members. A
blank text and `null` stand for the default settings. -/
namespace StartPage

open Json

namespace QuickLink

/-- A link of which some members have been read. -/
structure Draft where
  name : Option String := none
  url : Option String := none

/-- Both members are needed, and of two that are missing the first is named. -/
def Draft.finish (written : Written) (d : Draft) : Except Cause QuickLink :=
  match d.name, d.url, written with
  | some name, some url, _ => .ok { name, url }
  | _, _, .array length => .error (.wrongLength length "struct QuickLink with 2 elements")
  | none, _, .object => .error (.missingField "name")
  | some _, none, .object => .error (.missingField "url")

def record : Record Draft QuickLink where
  name := "QuickLink"
  start := {}
  finish := Draft.finish
  fields :=
    [{ name := "name"
       isSet := fun d => d.name.isSome
       read := fun d => do return { d with name := some (← Json.text) } },
     { name := "url"
       isSet := fun d => d.url.isSome
       read := fun d => do return { d with url := some (← Json.text) } }]

def reader : Reader QuickLink := record.read

/-- The characters of a link's text. -/
def chars (l : QuickLink) : List Char :=
  Printer.object
    [Printer.member "name" (Printer.text l.name), Printer.member "url" (Printer.text l.url)]

def toText (l : QuickLink) : String := String.ofList l.chars

end QuickLink

namespace EngineConfig

/-- A search engine of which some members have been read. -/
structure Draft where
  base : Option String := none
  queryParam : Option String := none

/-- Members that have not been read take their defaults. -/
def Draft.complete (d : Draft) : EngineConfig :=
  { base := d.base.getD EngineConfig.default.base
    queryParam := d.queryParam.getD EngineConfig.default.queryParam }

def record : Record Draft EngineConfig where
  name := "SearchEngineConfig"
  start := {}
  finish := fun _ d => .ok d.complete
  fields :=
    [{ name := "base"
       isSet := fun d => d.base.isSome
       read := fun d => do return { d with base := some (← Json.text) } },
     { name := "queryParam"
       isSet := fun d => d.queryParam.isSome
       read := fun d => do return { d with queryParam := some (← Json.text) } }]

def reader : Reader EngineConfig := record.read

/-- The characters of a search engine's text. -/
def chars (e : EngineConfig) : List Char :=
  Printer.object
    [Printer.member "base" (Printer.text e.base),
     Printer.member "queryParam" (Printer.text e.queryParam)]

def toText (e : EngineConfig) : String := String.ofList e.chars

end EngineConfig

namespace Config

/-- Settings of which some members have been read. -/
structure Draft where
  displayName : Option String := none
  searchEngine : Option EngineConfig := none
  tickMillis : Option UInt32 := none
  links : Option (List QuickLink) := none

/-- Members that have not been read take their defaults. -/
def Draft.complete (d : Draft) : Config :=
  { displayName := d.displayName.getD Config.default.displayName
    searchEngine := d.searchEngine.getD Config.default.searchEngine
    tickMillis := d.tickMillis.getD Config.default.tickMillis
    links := d.links.getD Config.default.links }

def record : Record Draft Config where
  name := "StartPageConfig"
  start := {}
  finish := fun _ d => .ok d.complete
  fields :=
    [{ name := "displayName"
       isSet := fun d => d.displayName.isSome
       read := fun d => do return { d with displayName := some (← Json.text) } },
     { name := "searchEngine"
       isSet := fun d => d.searchEngine.isSome
       read := fun d => do return { d with searchEngine := some (← EngineConfig.reader) } },
     { name := "tickMillis"
       isSet := fun d => d.tickMillis.isSome
       read := fun d => do return { d with tickMillis := some (← Json.word) } },
     { name := "links"
       isSet := fun d => d.links.isSome
       read := fun d => do return { d with links := some (← Json.list QuickLink.reader) } }]

def reader : Reader Config := record.read

/-- The characters of the text of some settings. -/
def chars (c : Config) : List Char :=
  Printer.object
    [Printer.member "displayName" (Printer.text c.displayName),
     Printer.member "searchEngine" c.searchEngine.chars,
     Printer.member "tickMillis" (Printer.word c.tickMillis),
     Printer.member "links" (Printer.list (c.links.map QuickLink.chars))]

/-- The settings as a JSON text. They always have one: no string and no number of theirs is
refused. -/
def toText (c : Config) : String := String.ofList c.chars

/-- The settings that a list of characters denotes. Faults are placed in the
text without the blanks around it. -/
def ofChars (s : List Char) : Except ConfigError Config :=
  let s := Text.trim s
  if s = [] || s = ['n', 'u', 'l', 'l'] then .ok .default
  else match Json.parse reader s with
    | .ok c => .ok c
    | .error fault => .error (.invalidJson (fault.message s))

/-- The settings that a text denotes. -/
def ofText (s : String) : Except ConfigError Config := ofChars s.toList

end Config

end StartPage
