import Mathlib.Algebra.Group.Nat.Defs
import StartPage.Proofs.Browser.Failure
import StartPage.Proofs.Browser.Kept
import StartPage.Proofs.Browser.Lifecycle
import StartPage.Proofs.Config.Interval

/-! The interval from the text to the browser. What is written is the interval of the page and of
its reports, and the browser is asked for it once, or for the largest timeout that it takes if that
is less. So no timeout is zero, and a longer interval never makes a shorter timeout. -/
namespace StartPage.Browser

/-- The timeout of a call that starts an interval. -/
def HostCall.timeout? : HostCall → Option Nat
  | .setInterval timeout => some timeout
  | _ => none

/-- The timeouts of the intervals that the browser has been asked to start. -/
def World.timeouts (w : World) : List Nat := w.calls.filterMap HostCall.timeout?

/-- The timeout of the page that the options describe, if they describe one. -/
def Options.timeouts (options : Options) : List Nat :=
  match options.page with
  | .ok page => [timeoutOf page]
  | .error _ => []

namespace World

theorem timeouts_record (w : World) (call : HostCall) :
    (w.record call).timeouts = w.timeouts ++ call.timeout?.toList := by
  unfold timeouts record
  rw [List.filterMap_append]
  cases call <;> rfl

/-- Every other call leaves the timeouts as they are. -/
theorem timeouts_record_of_none (w : World) {call : HostCall} (h : call.timeout? = none) :
    (w.record call).timeouts = w.timeouts := by
  rw [timeouts_record, h]
  exact List.append_nil _

theorem overlooks_timeouts : Overlooks timeouts where
  query w _ := w.timeouts_record_of_none rfl
  modifyElement _ _ _ := rfl

theorem timeouts_replaceHandle (w : World) (handle : Option Handle) :
    (w.replaceHandle handle).timeouts = w.timeouts := by
  have hNone (h : Handle) : (h.releaseCalls w).filterMap HostCall.timeout? = [] := by
    unfold Handle.releaseCalls Handle.stopCalls Handle.detachCalls
    rw [List.filterMap_append]
    split
    · split <;> split <;> rfl
    · split <;> rfl
  rw [timeouts, (calls_replaceHandle w handle).1, List.filterMap_append, hNone,
    List.append_nil, timeouts]

end World

variable {options : Options} {page : Page}

theorem timeouts_gather (document : DocumentId) (options : Options) :
    (gather document options).Keeps World.timeouts := by
  intro w
  apply World.overlooks_timeouts.ends_gather (fun _ _ => rfl) document
  unfold Action.Ends
  rw [run_openPage]
  cases options.page <;> rfl

/-- The interval is asked for once, whether it is started or not and whether it is then stopped. -/
theorem timeouts_startTimerThenListen (timeout : Nat) (wiring : Wiring) (document : DocumentId)
    (w : World) :
    Action.Ends
      (startTimerThenListen (Action.setInterval timeout wiring) (Action.addListener document wiring)
        fun id => modifyThe World (·.clearInterval id)) w
      (fun _ w' => w'.timeouts = w.timeouts ++ [timeout])
        (·.timeouts = w.timeouts ++ [timeout]) := by
  have hAsked : (w.record (.setInterval timeout)).timeouts = w.timeouts ++ [timeout] :=
    w.timeouts_record _
  apply (ends_setInterval timeout wiring w).bind
  · rintro id started ⟨-, rfl⟩
    have hStarted : (w.withTimer timeout wiring).timeouts = w.timeouts ++ [timeout] := hAsked
    have hListening : ((w.withTimer timeout wiring).record (.addListener document)).timeouts =
        (w.withTimer timeout wiring).timeouts := World.timeouts_record_of_none _ rfl
    have hListen := ends_addListener document wiring (w.withTimer timeout wiring)
    apply (hListen.tryCatch _).bind _ fun _ hThrown => hThrown
    · rintro e u rfl
      have hStopped :
          (((w.withTimer timeout wiring).record (.addListener document)).clearInterval
            id).timeouts = w.timeouts ++ [timeout] :=
        (World.timeouts_record_of_none _ rfl).trans (hListening.trans hStarted)
      exact hStopped
    · rintro _ u rfl
      exact .pure (hListening.trans hStarted)
  · rintro left rfl
    exact hAsked

theorem Options.timeouts_of_page (hPage : options.page = .ok page) :
    options.timeouts = [timeoutOf page] := by
  rw [timeouts, hPage]

theorem Options.timeouts_of_error {e : PageError} (hPage : options.page = .error e) :
    options.timeouts = [] := by
  rw [timeouts, hPage]

/-- A bring-up asks for the interval of its page if it gets as far as that. -/
theorem timeouts_bringUp (document : DocumentId) (options : Options) (w : World) :
    (bringUp document options).Ends w
      (fun _ w' => (∃ page, options.page = .ok page) ∧ w'.timeouts = w.timeouts ++ options.timeouts)
      (fun w' => w'.timeouts = w.timeouts ∨ w'.timeouts = w.timeouts ++ options.timeouts) := by
  cases hPage : options.page with
  | error e =>
      unfold Action.Ends
      rw [run_bringUp_of_error hPage]
      exact .inl rfl
  | ok page =>
      rw [Options.timeouts_of_page hPage]
      have hOwn := @asks_gather 0 _ _ hPage document w
      apply ((timeouts_gather document options w).and hOwn).bind _ fun _ hThrown => .inl hThrown.1
      rintro wiring u ⟨hGathered, -, rfl⟩
      have hRender :=
        (World.overlooks_timeouts.keeps_renderLinks document wiring.page.links).after hGathered
      apply hRender.bind _ fun _ hThrown => .inl hThrown
      intro _ v hRendered
      have hTicked : (v.tick wiring).timeouts = w.timeouts := hRendered
      have hTimer :=
        timeouts_startTimerThenListen (timeoutOf wiring.page) wiring document (v.tick wiring)
      rw [hTicked] at hTimer
      apply Action.Ends.update_bind
      apply hTimer.bind _ fun _ hThrown => .inr hThrown
      intro _ x hStarted
      exact .update_bind (.pure ⟨⟨wiring.page, rfl⟩, hStarted⟩)

namespace World

/-- Between the two worlds no interval has been asked for but that of the page of the options, and
that has been asked for if the page has been brought up. -/
structure Asked (options : Options) (result : Result) (w w' : World) : Prop where
  done : result = .done → (∃ page, options.page = .ok page) ∧
    w'.timeouts = w.timeouts ++ options.timeouts
  always : w'.timeouts = w.timeouts ∨ w'.timeouts = w.timeouts ++ options.timeouts

theorem asked_init (options : Options) (document : DocumentId) (w : World) :
    Asked options (w.init options document).1 w (w.init options document).2 := by
  have hEnds := timeouts_bringUp document options (w.replaceHandle (some {}))
  rw [timeouts_replaceHandle] at hEnds
  rcases init_of_ends hEnds with ⟨-, hInit⟩ | ⟨e, left, hInit, hThrown⟩ | ⟨handle, up, hInit, hUp⟩
  · rw [hInit]
    exact ⟨nofun, .inl rfl⟩
  · rw [hInit]
    exact ⟨nofun, hThrown⟩
  · rw [hInit]
    exact ⟨fun _ => hUp, .inr hUp.2⟩

theorem asked_start (options : Options) (w : World) :
    Asked options (w.start options).1 w (w.start options).2 := by
  rcases start_of_ends (.inl rfl) (timeouts_bringUp .main options w) with
    ⟨e, left, hStart, hThrown⟩ | ⟨handle, up, hStart, -, hUp⟩
  · rw [hStart]
    exact ⟨nofun, hThrown⟩
  · rw [← up.timeouts_replaceHandle (some handle)] at hUp
    rw [hStart]
    exact ⟨fun _ => hUp, .inr hUp.2⟩

variable {step : Step} {document : DocumentId}

/-- A step that brings a page up asks for the interval of the page once. One that fails may have
done so before. -/
theorem timeouts_performAfresh (w : World) (hOpens : step.opens = some (options, document)) :
    ((w.performAfresh step).1 = .done →
      (∃ page, options.page = .ok page) ∧ (w.performAfresh step).2.timeouts = options.timeouts) ∧
    ((w.performAfresh step).2.timeouts = [] ∨
      (w.performAfresh step).2.timeouts = options.timeouts) := by
  cases step with
  | init _ _ =>
      cases hOpens
      have hAsked := asked_init options document { w with calls := [], log := [] }
      exact ⟨hAsked.done, hAsked.always⟩
  | start _ =>
      cases hOpens
      have hAsked := asked_start options { w with calls := [], log := [] }
      exact ⟨hAsked.done, hAsked.always⟩
  | newHandle | destroy | free | key | fire | setTime | type | remove | put | breakDown | fix =>
      cases hOpens

end World

namespace Interval

variable {text : String} {n : Int} {c : Config}

/-- An integer that is no word, or zero, leaves the text without a page. -/
theorem page_of_refused (h : Config.WritesInterval text n c) (hNo : n ≤ 0 ∨ 2 ^ 32 ≤ n) :
    ∃ e, (Options.json text).page = .error e := by
  have hRead := h.meaning
  split_ifs at hRead with hWord
  · obtain rfl : n = 0 := by omega
    exact ⟨_, World.page_of_refused (.inr ⟨_, hRead, Config.validate_of_zero rfl⟩)⟩
  · obtain ⟨reason, hReason⟩ := hRead
    exact ⟨_, World.page_of_refused (.inl hReason)⟩

/-- Every other integer is the interval of the page of the text. -/
theorem page_of_word (h : Config.WritesInterval text n c) (hPositive : 0 < n) (hWord : n < 2 ^ 32) :
    ∃ page, Config.ofText text = .ok { c with tickMillis := page.tickMillis } ∧
      Page.create { c with tickMillis := page.tickMillis } = (.ok page, [page.configuredEvent]) ∧
      (page.tickMillis.toNat : Int) = n ∧ (Options.json text).page = .ok page := by
  have hRead := h.meaning
  rw [if_pos ⟨Int.le_of_lt hPositive, hWord⟩] at hRead
  have hTick : (UInt32.ofNat n.toNat).toNat = n.toNat := by
    exact UInt32.toNat_ofNat_of_lt' (by rw [UInt32.size]; omega)
  have hSome : UInt32.ofNat n.toNat ≠ 0 := by
    intro hZero
    rw [hZero] at hTick
    change 0 = n.toNat at hTick
    omega
  obtain ⟨page, hCreate, -, -, -, hOwn⟩ :=
    Page.create_of_ok (Config.validate_interval h.valid hSome)
  have hPage : (Options.json text).page = .ok page := by
    rw [Options.page, Options.config_json, hRead]
    dsimp only
    rw [hCreate]
  refine ⟨page, ?_, ?_, ?_, hPage⟩
  · rw [hOwn]
    exact hRead
  · rw [hOwn]
    exact hCreate
  · rw [hOwn]
    change ((UInt32.ofNat n.toNat).toNat : Int) = n
    omega

theorem timeouts_json (h : Config.WritesInterval text n c) :
    (Options.json text).timeouts =
      if 0 < n ∧ n < 2 ^ 32 then [min n.toNat (2 ^ 31 - 1)] else [] := by
  split_ifs with hWord
  · obtain ⟨page, -, -, hTick, hPage⟩ := page_of_word h hWord.1 hWord.2
    rw [Options.timeouts_of_page hPage, timeoutOf, ← hTick]
    rfl
  · obtain ⟨e, hPage⟩ := page_of_refused h (by omega)
    exact Options.timeouts_of_error hPage

/-- A timeout that is asked for is that of the integer. -/
theorem eq_of_mem_timeouts (h : Config.WritesInterval text n c) {w : World} {step : Step}
    {document : DocumentId} (hOpens : step.opens = some (.json text, document)) {t : Nat}
    (hMem : t ∈ (w.performAfresh step).2.timeouts) :
    0 < n ∧ n < 2 ^ 32 ∧ t = min n.toNat (2 ^ 31 - 1) := by
  have hOwn : t ∈ (Options.json text).timeouts := by
    rcases (World.timeouts_performAfresh w hOpens).2 with hNone | hOwn
    · rw [hNone] at hMem
      cases hMem
    · rwa [hOwn] at hMem
  rw [timeouts_json h] at hOwn
  split_ifs at hOwn with hWord
  · exact ⟨hWord.1, hWord.2, List.mem_singleton.mp hOwn⟩
  · cases hOwn

end Interval

namespace World

variable {w : World} {step : Step} {options : Options} {document : DocumentId} {page : Page}

/-- With settings that are read and valid, the other stages decide whether the page comes up. -/
theorem init_eq_done_iff_of_page (hPage : options.page = .ok page) (hHandle : w.handle.isSome) :
    (w.performAfresh (.init options document)).1 = .done ↔
      ∀ stage, stage ≠ .configText → stage ≠ .validation →
        Stage.failure? w options document stage = none := by
  obtain ⟨config, hConfig, hMade⟩ := Options.exists_config hPage
  have hValid := (Page.of_create hMade).1
  rw [performAfresh_init_eq_done_iff hHandle]
  refine ⟨fun hWorks stage _ _ => hWorks stage, fun hOthers stage => ?_⟩
  by_cases hText : stage = .configText
  · rw [hText, Stage.failure?, hConfig]
  by_cases hCheck : stage = .validation
  · rw [hCheck, Stage.failure?, hConfig]
    dsimp only [Except.map]
    rw [hValid]
  · exact hOthers stage hText hCheck

/-- A page that is brought up is reported with its settings, and then as running. -/
theorem arrival_performAfresh {l : Ledger} (h : l.Accounts w) (hPage : options.page = .ok page)
    (hOpens : step.opens = some (options, document)) (hDone : (w.performAfresh step).1 = .done) :
    (w.performAfresh step).2.log.filter LogEvent.isArrival = page.arrival := by
  obtain ⟨made, hMade, hArrival⟩ := (announces_performAfresh h step).arrived h hOpens hDone
  obtain rfl := Except.ok.inj (hPage.symm.trans hMade)
  have hAmong (event : LogEvent) (hArrives : event.isArrival = true) : event.isLifecycle = true :=
    (Bool.or_eq_true_iff.mp hArrives).elim isLifecycle_of_informs isLifecycle_of_informs
  rw [← filter_within hAmong, hArrival]

end World

/-- A text whose settings are refused for an interval of zero, by whoever looks at them. -/
structure RefusedForZero (text : String) (c : Config) : Prop where
  read : Config.ofText text = .ok { c with tickMillis := 0 }
  invalid : Config.validate { c with tickMillis := 0 } = .error .zeroTickInterval
  noPage : Page.create { c with tickMillis := 0 } = (.error .zeroTickInterval, [])
  bringUp : ∀ (w : World) document, w.handle.isSome →
    (w.performAfresh (.init (.json text) document)).1 =
      .failed (.text "config: tick interval must be non-zero")

/-- Where this page is brought up for the text, the browser is asked once for the interval, or for
the largest timeout that there is, and both reports tell the interval itself. -/
structure AsksOnce (text : String) (n : Int) (c : Config) (page : Page) (found : World) : Prop where
  stages : ∀ document, found.handle.isSome →
    ((found.performAfresh (.init (.json text) document)).1 = .done ↔
      ∀ stage, stage ≠ .configText → stage ≠ .validation →
        Stage.failure? found (.json text) document stage = none)
  timeouts : ∀ step document, step.opens = some (.json text, document) →
    (found.performAfresh step).1 = .done →
    (found.performAfresh step).2.timeouts = [min n.toNat (2 ^ 31 - 1)]
  reports : ∀ step document, step.opens = some (.json text, document) →
    (found.performAfresh step).1 = .done →
    (found.performAfresh step).2.log.filter LogEvent.isArrival =
      [.configured c.shownName page.engine.base.text page.tickMillis, .running page.tickMillis]
  atMost : ∀ step document, step.opens = some (.json text, document) →
    (found.performAfresh step).2.timeouts = [] ∨
      (found.performAfresh step).2.timeouts = [min n.toNat (2 ^ 31 - 1)]

/-- The integer is the interval of the settings and of this page, and every browser is told so. -/
structure KeptBy (text : String) (n : Int) (c : Config) (page : Page) : Prop where
  read : Config.ofText text = .ok { c with tickMillis := page.tickMillis }
  made : Page.create { c with tickMillis := page.tickMillis } = (.ok page, [page.configuredEvent])
  tick : (page.tickMillis.toNat : Int) = n
  asks : ∀ elements main other past, AsksOnce text n c page
    (World.after { elements, main, other } past)

/-- What becomes of an integer that a text gives as the interval of its settings. What is no word is
refused with the text and zero with the settings, and then no browser is asked for an interval;
everything else is kept. Every timeout that is asked for is positive, and of two intervals the
longer one never has the shorter timeout. -/
structure KeepsInterval (text : String) (n : Int) (c : Config) : Prop where
  noWord : n < 0 ∨ 2 ^ 32 ≤ n → ∃ reason, Config.ofText text = .error (.invalidJson reason)
  zero : n = 0 → RefusedForZero text c
  unasked : n ≤ 0 ∨ 2 ^ 32 ≤ n →
    ∀ (w : World) step document, step.opens = some (.json text, document) →
    (w.performAfresh step).1 ≠ .done ∧ (w.performAfresh step).2.timeouts = []
  word : 0 < n → n < 2 ^ 32 → ∃ page, KeptBy text n c page
  monotone : ∀ (w : World) step document, step.opens = some (.json text, document) →
    ∀ t ∈ (w.performAfresh step).2.timeouts, 0 < t ∧
      ∀ text' n' c', Config.WritesInterval text' n' c' → n ≤ n' →
        ∀ (w' : World) step' document', step'.opens = some (.json text', document') →
          ∀ t' ∈ (w'.performAfresh step').2.timeouts, t ≤ t'

theorem refusedForZero {text : String} {c : Config} (hText : Config.WritesInterval text 0 c) :
    RefusedForZero text c := by
  have hRead := hText.meaning
  rw [if_pos (by omega)] at hRead
  have hInvalid : Config.validate { c with tickMillis := 0 } = .error .zeroTickInterval :=
    Config.validate_of_zero rfl
  refine ⟨hRead, hInvalid, Page.create_of_error hInvalid, fun w document hHandle => ?_⟩
  rw [World.init_of_error (World.page_of_refused (.inr ⟨_, hRead, hInvalid⟩)) hHandle document]
  rfl

theorem keptBy {text : String} {n : Int} {c : Config} (hText : Config.WritesInterval text n c)
    (hPositive : 0 < n) (hWord : n < 2 ^ 32) : ∃ page, KeptBy text n c page := by
  obtain ⟨page, hRead, hCreate, hTick, hPage⟩ := Interval.page_of_word hText hPositive hWord
  have hTimeouts := Interval.timeouts_json hText
  rw [if_pos ⟨hPositive, hWord⟩] at hTimeouts
  refine ⟨page, hRead, hCreate, hTick, fun elements main other past => ?_⟩
  have hBlank := Ledger.Accounts.blank elements main other
  have hAsked (step : Step) (document : DocumentId)
      (hOpens : step.opens = some (.json text, document)) :=
    World.timeouts_performAfresh (World.after { elements, main, other } past) hOpens
  rw [hTimeouts] at hAsked
  refine
    { stages := fun document hHandle => World.init_eq_done_iff_of_page hPage hHandle
      timeouts := fun step document hOpens hDone => ((hAsked step document hOpens).1 hDone).2
      reports := fun step document hOpens hDone => ?_
      atMost := fun step document hOpens => (hAsked step document hOpens).2 }
  rw [World.arrival_performAfresh (hBlank.after past) hPage hOpens hDone]
  obtain ⟨-, -, -, hUpdater, -⟩ := Page.of_create (congrArg Prod.fst hCreate)
  rw [Page.arrival, Page.configuredEvent, Page.displayName, hUpdater]
  rfl

/-- Every integer that is written in plain decimal as the interval of otherwise valid settings is
either the interval, unchanged, or it is refused. -/
theorem interval_kept {text : String} {n : Int} {c : Config}
    (hText : Config.WritesInterval text n c) :
    KeepsInterval text n c := by
  refine ⟨fun hNo => ?_, ?_, fun hNo w step document hOpens => ?_, keptBy hText,
    fun w step document hOpens t hMem => ?_⟩
  · have hRead := hText.meaning
    rwa [if_neg (by omega)] at hRead
  · rintro rfl
    exact refusedForZero hText
  · obtain ⟨e, hPage⟩ := Interval.page_of_refused hText hNo
    obtain ⟨hDone, hAlways⟩ := World.timeouts_performAfresh w hOpens
    rw [Options.timeouts_of_error hPage, or_self] at hAlways
    refine ⟨fun hUp => ?_, hAlways⟩
    obtain ⟨⟨page, hOther⟩, -⟩ := hDone hUp
    cases hPage.symm.trans hOther
  · obtain ⟨hPositive, hWord, rfl⟩ := Interval.eq_of_mem_timeouts hText hOpens hMem
    refine ⟨by omega, fun text' n' c' hText' hLess w' step' document' hOpens' t' hMem' => ?_⟩
    obtain ⟨-, -, rfl⟩ := Interval.eq_of_mem_timeouts hText' hOpens' hMem'
    omega

/-- An interval between the largest timeout and the largest word. It is kept, but the browser waits
less. -/
theorem interval_kept_above :
    let text := "\x7b\"displayName\":\"Ada\",\"tickMillis\":3000000000\x7d"
    let done := (World.initial.after [.newHandle]).performAfresh (.init (.json text) .other)
    Config.WritesInterval text 3000000000 { displayName := "Ada" } ∧ done.1 = .done ∧
      done.2.timeouts = [2147483647] ∧ ∃ base, done.2.log.filter LogEvent.isArrival =
        [.configured "Ada" base 3000000000, .running 3000000000] := by
  intro text done
  have hNone : Json.Spaces [] := by simp [Json.Spaces]
  have hBare {core : List Char} {v : Json.Value} (hCore : Json.Denotes core (.value v)) :
      Json.Denotes core (.item v) := by
    have hItem := Json.Denotes.item hNone hCore hNone
    rwa [List.nil_append, List.append_nil] at hItem
  have hDigits : Text.digits 3000000000 = "3000000000".toList := by decide +kernel
  have hWhole : Json.Number.Whole "3000000000".toList :=
    hDigits ▸ Json.Number.whole_digits 3000000000
  have hNumber : Json.Denotes "3000000000".toList
      (.value (.number false ⟨"3000000000".toList, none, none⟩)) :=
    .number (@Json.Number.Numeral.Denotes.intro "3000000000".toList [] [] none none
      hWhole .absent .absent)
  have hName : Json.Denotes "\"Ada\"".toList (.value (.string "Ada")) :=
    .string (Json.Printer.spellsAll_flatMap_char "Ada".toList)
  have hCore :
      Json.Denotes "\x7b\"displayName\":\"Ada\",\"tickMillis\":3000000000\x7d".toList
        (.value (.object
          [("displayName", .string "Ada"),
            ("tickMillis", .number false ⟨"3000000000".toList, none, none⟩)])) :=
    .object
      (.member hNone (Json.Printer.spellsAll_flatMap_char "displayName".toList) hNone (hBare hName))
      (.moreMembers
        (.member hNone (Json.Printer.spellsAll_flatMap_char "tickMillis".toList) hNone
          (hBare hNumber))
        .noMoreMembers)
  have hText : Config.WritesInterval text 3000000000 { displayName := "Ada" } := by
    refine @Config.WritesInterval.intro _ _ _ _ _ [("displayName", .string "Ada")] []
      (hBare hCore) rfl ?_ (by decide) rfl (by decide +kernel)
    have hText : (Text.decimalInt 3000000000).toList = "3000000000".toList := by decide +kernel
    rw [hText]
    exact hNumber
  have hDone : done.1 = .done := by decide +kernel
  obtain ⟨page, hKept⟩ := (interval_kept hText).word (by decide) (by decide)
  have hAsks :=
    hKept.asks World.initial.elements World.initial.main World.initial.other [.newHandle]
  have hTimeouts := hAsks.timeouts (.init (.json text) .other) .other rfl hDone
  have hArrival := hAsks.reports (.init (.json text) .other) .other rfl hDone
  have hOwn : page.tickMillis = 3000000000 := by
    have hTick := hKept.tick
    apply UInt32.toNat_inj.mp
    change page.tickMillis.toNat = 3000000000
    omega
  rw [hOwn] at hArrival
  have hShown : Config.shownName { displayName := "Ada" } = "Ada" := by decide +kernel
  rw [hShown] at hArrival
  exact ⟨hText, hDone, hTimeouts, page.engine.base.text, hArrival⟩

end StartPage.Browser
