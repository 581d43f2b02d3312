import StartPage.Proofs.Browser.Release
import StartPage.Proofs.Config.Validity
import StartPage.Proofs.Page.Basic

/-! Settings are admitted in the same way wherever they come in. What is refused as a text or as
settings is refused for the same reason when a page is made from it and when a page is brought
up with it, and a bring-up that is refused has not looked at any document. -/
namespace StartPage.Browser

/-- The page that the options describe, or why they describe none. -/
def Options.page (options : Options) : Except PageError Page :=
  match options.config with
  | .error e => .error e
  | .ok config => match (Page.create config).1 with
    | .error e => .error (.config e)
    | .ok page => .ok page

theorem Options.config_json (text : String) :
    (Options.json text).config = match Config.ofText text with
      | .ok c => .ok c
      | .error e => .error (.config e) := rfl

/-- No options at all are those of an empty text and of the text that stands for nothing. -/
theorem Options.config_absent {absent : Options}
    (hAbsent : absent ∈ [Options.none, .undefined, .null]) {text : String}
    (hText : text ∈ ["", "null"]) : absent.config = (Options.json text).config := by
  have hDefault : absent.config = .ok .default := by
    simp only [List.mem_cons, List.not_mem_nil, or_false] at hAbsent
    obtain rfl | rfl | rfl := hAbsent <;> rfl
  have hRead : Config.ofText text = .ok .default := by
    simp only [List.mem_cons, List.not_mem_nil, or_false] at hText
    obtain rfl | rfl := hText <;> rfl
  rw [hDefault, config_json, hRead]

theorem run_openPage (options : Options) (w : World) :
    (openPage options).run.run w = match options.page with
      | .error e => (.error (.text e.message), w)
      | .ok page => (.ok page, w.logged [page.configuredEvent]) := by
  unfold openPage Options.page
  cases options.config with
  | error e => rfl
  | ok config =>
      dsimp only
      cases hValid : config.validate with
      | error e =>
          rw [Page.create_of_error hValid]
          change (_, w.logged []) = _
          rw [World.logged_nil]
      | ok valid =>
          obtain ⟨page, hCreate, -⟩ := Page.create_of_ok hValid
          rw [hCreate]
          rfl

/-- Without a page nothing is looked at and nothing is written. -/
theorem run_bringUp_of_error {options : Options} {e : PageError} (h : options.page = .error e)
    (document : DocumentId) (w : World) :
    (bringUp document options).run.run w = (.error (.text e.message), w) := by
  have hOpen := run_openPage options w
  rw [h] at hOpen
  rw [bringUp, ExceptT.run_bind, StateT.run_bind, gather, ExceptT.run_bind, StateT.run_bind, hOpen]
  rfl

/-- A bring-up depends on the options only by the page that they describe. -/
theorem bringUp_congr {options options' : Options} (h : options.page = options'.page)
    (document : DocumentId) :
    bringUp document options = bringUp document options' := by
  have hOpen : openPage options = openPage options' := by
    apply ExceptT.ext
    funext w
    have hRun : (openPage options).run.run w = (openPage options').run.run w := by
      rw [run_openPage, run_openPage, h]
    exact hRun
  unfold bringUp gather
  rw [hOpen]

theorem Options.page_congr {options options' : Options} (h : options.config = options'.config) :
    options.page = options'.page := by
  rw [Options.page, Options.page, h]

/-- Options that describe a page have settings with that page. -/
theorem Options.exists_config {options : Options} {page : Page} (h : options.page = .ok page) :
    ∃ config, options.config = .ok config ∧ (Page.create config).1 = .ok page := by
  unfold Options.page at h
  cases hConfig : options.config with
  | error e =>
      rw [hConfig] at h
      cases h
  | ok config =>
      rw [hConfig] at h
      dsimp only at h
      cases hMade : (Page.create config).1 with
      | error e =>
          rw [hMade] at h
          cases h
      | ok made =>
          rw [hMade] at h
          cases h
          exact ⟨config, rfl, hMade⟩

namespace World

variable {options options' : Options}

theorem init_eq_of_page (h : options.page = options'.page) (w : World) (document : DocumentId) :
    w.init options document = w.init options' document := by
  unfold init
  rw [bringUp_congr h]

theorem start_eq_of_page (h : options.page = options'.page) (w : World) :
    w.start options = w.start options' := by
  unfold start
  rw [bringUp_congr h]

theorem init_congr (h : options.config = options'.config) (w : World) (document : DocumentId) :
    w.init options document = w.init options' document :=
  init_eq_of_page (Options.page_congr h) w document

theorem start_congr (h : options.config = options'.config) (w : World) :
    w.start options = w.start options' :=
  start_eq_of_page (Options.page_congr h) w

theorem performAfresh_destroy {w : World} (hHandle : w.handle.isSome) :
    (w.performAfresh .destroy).2 = replaceHandle { w with calls := [], log := [] } (some {}) := by
  obtain ⟨old, hOld⟩ := Option.isSome_iff_exists.mp hHandle
  unfold performAfresh perform
  dsimp only
  rw [hOld]

/-- A bring-up through the present handle that is refused for its options does what taking that
handle down does. -/
theorem init_of_error {e : PageError} (h : options.page = .error e) {w : World}
    (hHandle : w.handle.isSome) (document : DocumentId) :
    w.performAfresh (.init options document) =
      (.failed (.text e.message), (w.performAfresh .destroy).2) := by
  rw [performAfresh_destroy hHandle]
  obtain ⟨old, hOld⟩ := Option.isSome_iff_exists.mp hHandle
  change init { w with calls := [], log := [] } options document = _
  unfold init
  dsimp only
  rw [hOld]
  dsimp only
  rw [run_bringUp_of_error h]

/-- A bring-up has been refused for its options. It has taken the present page down and has done
nothing else: it has looked for no element, and the documents are as they were. -/
structure TurnedAway (w : World) (e : ConfigError) (done : Result × World) : Prop where
  answer : done = (.failed (.text ("config: " ++ e.message)), (w.performAfresh .destroy).2)
  unasked : ∀ selector, .query selector ∉ done.2.calls
  elements : done.2.elements = w.elements
  main : done.2.main = w.main
  other : done.2.other = w.other

theorem turnedAway {w : World} {text : String} {e : ConfigError}
    (hPage : (Options.json text).page = .error (.config e)) (hHandle : w.handle.isSome)
    (document : DocumentId) :
    TurnedAway w e (w.performAfresh (.init (.json text) document)) := by
  have hDone := init_of_error hPage hHandle document
  have hDown := takenDown_replaceHandle { w with calls := [], log := [] } (some {})
  rw [← performAfresh_destroy hHandle] at hDown
  rw [hDone]
  refine ⟨rfl, fun selector => ?_, hDown.shown, hDown.main, hDown.other⟩
  rw [performAfresh_destroy hHandle, (calls_replaceHandle _ _).1]
  exact Handle.query_not_mem_releaseCalls _ _ selector

/-- A text that is refused, or whose settings are refused, describes no page for the same reason. -/
theorem page_of_refused {text : String} {e : ConfigError}
    (h : Config.ofText text = .error e ∨ ∃ c, Config.ofText text = .ok c ∧ c.validate = .error e) :
    (Options.json text).page = .error (.config e) := by
  unfold Options.page
  rw [Options.config_json]
  rcases h with hText | ⟨c, hText, hValid⟩
  · rw [hText]
  · rw [hText]
    dsimp only
    rw [Page.create_of_error hValid]

/-- A text that is refused, or that gives settings that are refused, is refused for that reason by
the page and by every bring-up. -/
structure RefusedAlike (text : String) (e : ConfigError) : Prop where
  page : ∀ c, Config.ofText text = .ok c → Page.create c = (.error e, [])
  bringUp : ∀ (w : World) (document : DocumentId), w.handle.isSome →
    TurnedAway w e (w.performAfresh (.init (.json text) document))

/-- Settings have a page with their engine, and making it reports them in one event. -/
structure MadeOnce (c : Config) (page : Page) (event : LogEvent) : Prop where
  create : Page.create c = (.ok page, [event])
  engine : c.searchEngine.build = .ok page.engine
  level : event.level = .info
  message : event.message = "start page configured"
  fields : event = .configured c.shownName page.engine.base.text c.tickMillis

/-- Every way in admits the same settings. A text that is refused is refused everywhere for the same
reason, valid settings have a page, and of several faults in settings the first one counts. Options
that are no settings at all are those of an empty text. -/
theorem admits_alike :
    (∀ text e,
      (Config.ofText text = .error e ∨ ∃ c, Config.ofText text = .ok c ∧ c.validate = .error e) →
      RefusedAlike text e) ∧
    (∀ c : Config, c.validate = .ok () → ∃ page event, MadeOnce c page event) ∧
    (∀ c : Config, c.CheckedInOrder) ∧
    ∀ absent ∈ [Options.none, .undefined, .null], ∀ text ∈ ["", "null"], ∀ (w : World),
      (∀ document, w.init absent document = w.init (.json text) document) ∧
        w.start absent = w.start (.json text) := by
  refine ⟨fun text e hRefused => ⟨fun c hText => ?_, fun w document hHandle => ?_⟩,
    fun c hValid => ?_, Config.checkedInOrder, fun absent hAbsent text hText w => ?_⟩
  · obtain hFault | ⟨d, hRead, hFault⟩ := hRefused
    · rw [hText] at hFault
      cases hFault
    · rw [hText] at hRead
      cases hRead
      exact Page.create_of_error hFault
  · exact turnedAway (page_of_refused hRefused) hHandle document
  · obtain ⟨page, hCreate, hBuild, hUpdater, -, hTick⟩ := Page.create_of_ok hValid
    refine ⟨page, page.configuredEvent, hCreate, hBuild, rfl, rfl, ?_⟩
    rw [Page.configuredEvent, Page.displayName, hUpdater, hTick]
  · have hSame := Options.config_absent hAbsent hText
    exact ⟨init_congr hSame w, start_congr hSame w⟩

end World

end StartPage.Browser
