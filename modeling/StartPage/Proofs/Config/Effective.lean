import StartPage.Proofs.Browser.Admission
import StartPage.Proofs.Config.RoundTrip
import StartPage.Proofs.Page.Name
import StartPage.Proofs.SearchEngine

/-! The settings as a page uses them: the name that is shown, the base as it is written, and all the
links. They are settings in their turn, which can be saved, and using them changes nothing more. -/
namespace StartPage

open Json

namespace Config

variable {c : Config} {base : Url}

/-- The settings as a page with the given base uses them. -/
def effectiveWith (c : Config) (base : Url) : Config where
  displayName := c.shownName
  searchEngine := { base := base.text, queryParam := c.searchEngine.queryParam }
  tickMillis := c.tickMillis
  links := c.quickLinks

/-- The settings as their own page uses them. Without a search engine there is no page. -/
def effective (c : Config) : Except ConfigError Config :=
  c.searchEngine.build.map fun engine => c.effectiveWith engine.base

/-- As many links as there are places for are shown as they are. -/
theorem quickLinks_eq_self (h : c.links.length = quickLinkSlots) : c.quickLinks = c.links := by
  have hKept : c.links.take quickLinkSlots = c.links := List.take_of_length_le (Nat.le_of_eq h)
  simp [quickLinks, hKept, h]

@[simp] theorem shownName_effectiveWith (c : Config) (base : Url) :
    (c.effectiveWith base).shownName = c.shownName := by
  obtain ⟨hBare, hSome⟩ := c.bare_shownName
  exact shownName_eq_self hBare hSome

@[simp] theorem quickLinks_effectiveWith (c : Config) (base : Url) :
    (c.effectiveWith base).quickLinks = c.quickLinks := quickLinks_eq_self c.length_quickLinks

/-- Only the base is left to choose. -/
theorem effectiveWith_effectiveWith (c : Config) (base base' : Url) :
    (c.effectiveWith base).effectiveWith base' = c.effectiveWith base' := by
  rw [effectiveWith, shownName_effectiveWith, quickLinks_effectiveWith]
  rfl

/-- An engine whose base reads as itself is made again from the effective settings. -/
theorem build_effectiveWith {engine : SearchEngine} (hBuild : c.searchEngine.build = .ok engine)
    (hStable : Url.parse engine.base.text.toList = .ok engine.base) :
    (c.effectiveWith engine.base).searchEngine.build = .ok engine := by
  obtain ⟨-, hParam⟩ := SearchEngine.eq_of_create hBuild
  change SearchEngine.create engine.base.text c.searchEngine.queryParam = .ok engine
  rw [← hParam]
  exact SearchEngine.create_of_hierarchical engine.param_nonempty hStable engine.base_hierarchical

/-- A text that is that of some settings, blanks around it aside, denotes these settings. -/
theorem ofText_of_trim {s : String} (h : Text.trim s.toList = c.chars) : ofText s = .ok c := by
  have hLong : ¬(c.chars = [] || c.chars = ['n', 'u', 'l', 'l']) = true := by
    simp [chars_eq, Printer.object]
  rw [ofText, ofChars, h, if_neg hLong, parse_eq_of_reads c.reader_reads]

/-- The effective settings have the page of the settings that they were made from. -/
theorem create_effectiveWith {engine : SearchEngine} (hBuild : c.searchEngine.build = .ok engine)
    (hStable : Url.parse engine.base.text.toList = .ok engine.base) :
    Page.create (c.effectiveWith engine.base) = Page.create c := by
  apply Page.create_congr
  · rw [build_effectiveWith hBuild hStable, hBuild]
  · exact c.shownName_effectiveWith engine.base
  · exact c.quickLinks_effectiveWith engine.base
  · rfl

end Config

namespace Browser

/-- The effective settings of a page are settings of the same page. They are their own effective
settings, and they may be saved and loaded again: a browser that is given the text brings up what it
would bring up with the settings it was made from. -/
theorem effective_loaded {c : Config} {page : Page} {log : List LogEvent}
    (hPage : Page.create c = (.ok page, log))
    (hStable : Url.parse page.engine.base.text.toList = .ok page.engine.base) :
    ∃ n, c.effective = .ok n ∧
      n = { displayName := c.shownName
            searchEngine :=
              { base := page.engine.base.text, queryParam := c.searchEngine.queryParam }
            tickMillis := c.tickMillis
            links := c.quickLinks } ∧
      Page.create n = (.ok page, log) ∧
      n.effective = .ok n ∧
      (∃ loaded, Config.ofText n.toText = .ok loaded ∧ Page.create loaded = (.ok page, log)) ∧
      ∀ options : Options, options.config = .ok c → ∀ w : World,
        (∀ document, w.init (.json n.toText) document = w.init options document) ∧
          w.start (.json n.toText) = w.start options := by
  obtain ⟨-, hCreate, hBuild, -⟩ := Page.of_create (congrArg Prod.fst hPage)
  let n := c.effectiveWith page.engine.base
  have hSame : Page.create n = Page.create c := Config.create_effectiveWith hBuild hStable
  have hLoaded : Config.ofText n.toText = .ok n := by
    apply Config.ofText_of_trim
    rw [Config.toText, String.toList_ofList, Config.chars_eq, Config.trim_object]
  refine ⟨n, ?_, rfl, hSame.trans hPage, ?_, ⟨n, hLoaded, hSame.trans hPage⟩, ?_⟩
  · rw [Config.effective, hBuild]
    rfl
  · rw [Config.effective, Config.build_effectiveWith hBuild hStable]
    exact congrArg Except.ok (c.effectiveWith_effectiveWith _ _)
  · intro options hOptions w
    have hPages : (Options.json n.toText).page = options.page := by
      rw [Options.page, Options.page, Options.config_json, hLoaded, hOptions]
      dsimp only
      rw [hSame]
    exact ⟨World.init_eq_of_page hPages w, World.start_eq_of_page hPages w⟩

/-- A name with blanks around it, a base that is not in normal form and more links than are
shown. -/
theorem effective_loaded_blanks :
    let links := List.replicate 5 { name := "é", url := "" }
    let c : Config :=
      { displayName := "　 Ada B	", searchEngine := { base := "HTTP://H:80/?x'y#f f" }, links }
    ∃ page log n, Page.create c = (.ok page, log) ∧
      Url.parse page.engine.base.text.toList = .ok page.engine.base ∧
      c.effective = .ok n ∧ n.displayName = "Ada B" ∧
        n.searchEngine.base = "http://h/?x%27y#f%20f" ∧
      n.links.length = 4 ∧ Page.create n = (.ok page, log) ∧ n.effective = .ok n := by
  intro links c
  let engine : SearchEngine :=
    ⟨{ scheme := "http".toList, authority := some { host := .name ['h'] }, path := ['/'],
       query := some "x%27y".toList, fragment := some "f%20f".toList }, "q", rfl, by decide⟩
  have hBuild : c.searchEngine.build = .ok engine := by decide +kernel
  have hValid : c.validate = .ok () := Config.validate_of_build (by decide) hBuild
  obtain ⟨page, hPage, hOwn, -⟩ := Page.create_of_ok hValid
  have hEngine : page.engine = engine := Except.ok.inj (hOwn.symm.trans hBuild)
  have hStable : Url.parse page.engine.base.text.toList = .ok page.engine.base := by
    rw [hEngine]
    decide +kernel
  have hBase : page.engine.base.text = "http://h/?x%27y#f%20f" := by
    rw [hEngine]
    decide +kernel
  have hShown : c.shownName = "Ada B" := by decide +kernel
  obtain ⟨n, hEffective, rfl, hSame, hAgain, -⟩ := effective_loaded hPage hStable
  exact ⟨page, _, _, hPage, hStable, hEffective, hShown, hBase, c.length_quickLinks, hSame, hAgain⟩

end Browser

end StartPage
