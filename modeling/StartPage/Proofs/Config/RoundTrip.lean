import StartPage.Config.Text
import StartPage.Proofs.Json.Decode
import StartPage.Proofs.Json.Record

/-! Settings are read back from their own text. Each record is followed through the
object that is written for it; the shortcuts for blank texts and for `null` stay
out of the way, because no written text is blank at either end. -/
namespace StartPage

open Json

namespace QuickLink

/-- The members of an object for a link, each with the text of its value. -/
def members (l : QuickLink) : List (String × List Char) :=
  [("name", Printer.text l.name), ("url", Printer.text l.url)]

theorem chars_eq (l : QuickLink) : l.chars = Printer.object (l.members.map Record.memberChars) :=
  rfl

theorem sets_name (d : Draft) (hUnset : d.name = none) (name : String) :
    record.Sets d "name" (Printer.text name) { d with name := some name } :=
  ⟨_, rfl, by simp [hUnset], (text_reads name).map fun s => { d with name := some s }⟩

theorem sets_url (d : Draft) (hUnset : d.url = none) (url : String) :
    record.Sets d "url" (Printer.text url) { d with url := some url } :=
  ⟨_, rfl, by simp [hUnset], (text_reads url).map fun s => { d with url := some s }⟩

theorem reader_reads (l : QuickLink) : reader.Reads l.chars l := by
  have hFills : record.Fills record.start l.members
      { name := some l.name, url := some l.url } :=
    .cons (sets_name _ rfl l.name) (.cons (sets_url _ rfl l.url) (.nil _))
  rw [chars_eq]
  exact Record.read_reads hFills rfl

theorem starts_chars (l : QuickLink) : Starts l.chars := by
  rw [chars_eq]
  exact ⟨'\x7b', _, rfl, rfl, by decide⟩

end QuickLink

namespace EngineConfig

/-- The members of an object for a search engine, each with the text of its value. -/
def members (e : EngineConfig) : List (String × List Char) :=
  [("base", Printer.text e.base), ("queryParam", Printer.text e.queryParam)]

theorem chars_eq (e : EngineConfig) : e.chars = Printer.object (e.members.map Record.memberChars) :=
  rfl

theorem sets_base (d : Draft) (hUnset : d.base = none) (base : String) :
    record.Sets d "base" (Printer.text base) { d with base := some base } :=
  ⟨_, rfl, by simp [hUnset], (text_reads base).map fun s => { d with base := some s }⟩

theorem sets_queryParam (d : Draft) (hUnset : d.queryParam = none) (param : String) :
    record.Sets d "queryParam" (Printer.text param) { d with queryParam := some param } :=
  ⟨_, rfl, by simp [hUnset], (text_reads param).map fun s => { d with queryParam := some s }⟩

theorem reader_reads (e : EngineConfig) : reader.Reads e.chars e := by
  have hFills : record.Fills record.start e.members
      { base := some e.base, queryParam := some e.queryParam } :=
    .cons (sets_base _ rfl e.base) (.cons (sets_queryParam _ rfl e.queryParam) (.nil _))
  rw [chars_eq]
  exact Record.read_reads hFills rfl

end EngineConfig

namespace Config

/-- The members of an object for some settings, each with the text of its value. -/
def members (c : Config) : List (String × List Char) :=
  [("displayName", Printer.text c.displayName), ("searchEngine", c.searchEngine.chars),
    ("tickMillis", Printer.word c.tickMillis),
      ("links", Printer.list (c.links.map QuickLink.chars))]

theorem chars_eq (c : Config) : c.chars = Printer.object (c.members.map Record.memberChars) := rfl

theorem sets_displayName (d : Draft) (hUnset : d.displayName = none) (name : String) :
    record.Sets d "displayName" (Printer.text name) { d with displayName := some name } :=
  ⟨_, rfl, by simp [hUnset],
    (text_reads name).map fun s => { d with displayName := some s }⟩

theorem sets_searchEngine (d : Draft) (hUnset : d.searchEngine = none) (e : EngineConfig) :
    record.Sets d "searchEngine" e.chars { d with searchEngine := some e } :=
  ⟨_, rfl, by simp [hUnset], e.reader_reads.map fun e => { d with searchEngine := some e }⟩

theorem sets_tickMillis (d : Draft) (hUnset : d.tickMillis = none) (n : UInt32) :
    record.Sets d "tickMillis" (Printer.word n) { d with tickMillis := some n } :=
  ⟨_, rfl, by simp [hUnset], (word_reads n).map fun n => { d with tickMillis := some n }⟩

theorem sets_links (d : Draft) (hUnset : d.links = none) (links : List QuickLink) :
    record.Sets d "links" (Printer.list (links.map QuickLink.chars))
      { d with links := some links } :=
  ⟨_, rfl, by simp [hUnset],
    (list_reads QuickLink.reader_reads QuickLink.starts_chars links).map fun l =>
      { d with links := some l }⟩

theorem reader_reads (c : Config) : reader.Reads c.chars c := by
  have hFills : record.Fills record.start c.members
      { displayName := some c.displayName, searchEngine := some c.searchEngine
        tickMillis := some c.tickMillis, links := some c.links } :=
    .cons (sets_displayName _ rfl c.displayName) (.cons (sets_searchEngine _ rfl c.searchEngine)
      (.cons (sets_tickMillis _ rfl c.tickMillis) (.cons (sets_links _ rfl c.links) (.nil _))))
  rw [chars_eq]
  exact Record.read_reads hFills rfl

/-- An object is not blank at either end. -/
theorem trim_object (members : List (List Char)) :
    Text.trim (Printer.object members) = Printer.object members := by
  have hOpen : Text.isBlank '\x7b' = false := rfl
  have hClose : Text.isBlank '\x7d' = false := rfl
  simp [Text.trim, Text.trimStart, Text.trimEnd, Printer.object, hOpen, hClose]

/-- The text of some settings denotes these settings, whether they are valid or not. -/
theorem ofText_toText (c : Config) : ofText c.toText = .ok c := by
  have hTrim : Text.trim c.chars = c.chars := by rw [chars_eq, trim_object]
  have hShort : ¬ (c.chars = [] || c.chars = ['n', 'u', 'l', 'l']) = true := by
    simp [chars_eq, Printer.object]
  rw [ofText, toText, String.toList_ofList, ofChars, hTrim, if_neg hShort,
    parse_eq_of_reads c.reader_reads]

end Config

end StartPage
