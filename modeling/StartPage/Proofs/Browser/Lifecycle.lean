import StartPage.Proofs.Browser.Failure
import StartPage.Proofs.Browser.HandOver
import StartPage.Proofs.Browser.Kept
import StartPage.Proofs.Browser.Service

/-! What is reported of the life of a page: that it has been made, that it runs, that it has been
taken down. Along a run the reports of running pages and those of stopped ones balance, up to the
page that is running at the end. -/
namespace StartPage

namespace LogEvent

/-- The event informs with this message. -/
def informs (message : String) (event : LogEvent) : Bool :=
  event.level = .info && event.message = message

/-- The event informs of a page that has been made, or of one that runs. -/
def isArrival (event : LogEvent) : Bool :=
  event.informs "start page configured" || event.informs "start page running"

/-- The event informs of a page that has been taken down, or warns of one that has been so only in
part. -/
def isDeparture (event : LogEvent) : Bool :=
  event.message = "start page stopped" || event.message = "failed to remove keydown listener"

/-- The event belongs to the making or the taking down of a page. -/
def isLifecycle : LogEvent → Bool
  | .configured .. | .running _ | .stopped | .detachFailed _ => true
  | .tick .. | .redirect _ | .redirectFailed _ => false

end LogEvent

/-- The reports of a page that has been made and brought up. -/
def Page.arrival (p : Page) : List LogEvent := [p.configuredEvent, .running p.tickMillis]

namespace Browser

/-- The reports of settings that have a page, whatever becomes of it. -/
def Options.setup (options : Options) : List LogEvent :=
  match options.page with
  | .ok page => [page.configuredEvent]
  | .error _ => []

namespace World

/-- The reports of the present handle when it is taken down. -/
def farewell (w : World) : List LogEvent := (w.handle.getD {}).releaseLog w

/-- There is a handle, and it is running. -/
def isRunning (w : World) : Bool := w.handle.any Handle.isRunning

/-- The events of several steps in turn. -/
def events (w : World) (steps : List Step) : List LogEvent := (w.trace steps).flatMap (·.2.log)

/-- Between the two worlds this has been reported of the lifecycle. -/
def Told (w w' : World) (reports : List LogEvent) : Prop :=
  w'.log.filter LogEvent.isLifecycle = w.log.filter LogEvent.isLifecycle ++ reports

namespace Told

variable {u v w : World} {reports later : List LogEvent}

theorem of_log (h : v.log = u.log) : Told u v [] := by
  rw [Told, h, List.append_nil]

theorem of_append (events : List LogEvent) (h : v.log = u.log ++ events) :
    Told u v (events.filter LogEvent.isLifecycle) := by
  rw [Told, h, List.filter_append]

theorem trans (h : Told u v reports) (k : Told v w later) : Told u w (reports ++ later) := by
  rw [Told, k, h, List.append_assoc]

theorem silent (h : Told u v reports) (k : Told v w []) : Told u w reports := by
  simpa using h.trans k

theorem tick (w : World) (wiring : Wiring) : Told w (w.tick wiring) [] :=
  of_append [(ClockFrame.render w.now wiring.page.displayName).event] rfl

end Told

end World

namespace Action

variable {α β : Type} {x : Action α} {f : α → Action β}

/-- However the action ends, it has reported nothing of the lifecycle. -/
def Silent (x : Action α) : Prop :=
  ∀ w, x.Ends w (fun _ w' => World.Told w w' []) (World.Told w · [])

namespace Silent

/-- What leaves the log alone reports nothing. -/
theorem of_keeps (h : x.Keeps World.log) : x.Silent :=
  fun w => (h w).imp (fun _ _ => .of_log) fun _ => .of_log

/-- What has been reported before stays all that has been. -/
theorem after (h : x.Silent) {u w : World} {reports : List LogEvent}
    (hTold : World.Told u w reports) :
    x.Ends w (fun _ v => World.Told u v reports) (World.Told u · reports) :=
  (h w).imp (fun _ _ hNone => hTold.silent hNone) fun _ hNone => hTold.silent hNone

end Silent

end Action

theorem World.overlooks_log : Overlooks World.log where
  query _ _ := rfl
  modifyElement _ _ _ := rfl

theorem silent_renderLinks (document : DocumentId) (links : List QuickLink) :
    (renderLinks document links).Silent :=
  .of_keeps (World.overlooks_log.keeps_renderLinks document links)

theorem silent_startTimerThenListen (timeout : Nat) (wiring : Wiring) (document : DocumentId) :
    Action.Silent
      (startTimerThenListen (Action.setInterval timeout wiring) (Action.addListener document wiring)
      fun id => modifyThe World (·.clearInterval id)) := by
  have hStart : (Action.setInterval timeout wiring).Keeps World.log := by
    refine Action.Keeps.update_bind (fun _ => rfl) ?_
    apply (Action.Keeps.require _).bind
    intro _
    apply Action.Keeps.get_bind
    intro w
    exact .update_bind (fun _ => rfl) (.pure _)
  have hListen : (Action.addListener document wiring).Keeps World.log := by
    refine Action.Keeps.update_bind (fun _ => rfl) ?_
    exact (Action.Keeps.require _).bind fun _ => .update fun _ => rfl
  have hStop (id : Nat) (e : Thrown) : Action.Keeps (do
      liftM (modifyThe World (·.clearInterval id) : StateM World Unit)
      throw e : Action Unit) World.log := fun w => rfl
  apply Action.Silent.of_keeps
  apply hStart.bind
  intro id
  exact (hListen.tryCatch (hStop id)).bind fun _ => .pure _

theorem Options.setup_of_page {options : Options} {page : Page} (h : options.page = .ok page) :
    options.setup = [page.configuredEvent] := by
  rw [setup, h]

variable {options : Options} {page : Page}

/-- Whoever finds all the elements has reported the page, and so has whoever misses one. -/
theorem told_gather (hPage : options.page = .ok page) (document : DocumentId) (w : World) :
    (gather document options).Ends w (fun _ w' => World.Told w w' [page.configuredEvent])
      (World.Told w · [page.configuredEvent]) := by
  have hOpen : (openPage options).Ends w (fun _ u => u.log = w.log ++ [page.configuredEvent])
      (·.log = w.log ++ [page.configuredEvent]) := by
    unfold Action.Ends
    rw [run_openPage, hPage]
    rfl
  have hLog := World.overlooks_log.ends_gather (fun _ _ => rfl) document hOpen
  exact hLog.imp (fun _ _ => .of_append [page.configuredEvent]) fun _ =>
    .of_append [page.configuredEvent]

/-- A page that is brought up is reported twice, and one that cannot be brought up only when it is
made. -/
theorem told_bringUp (document : DocumentId) (options : Options) (w : World) :
    (bringUp document options).Ends w
      (fun _ w' => ∃ page, options.page = .ok page ∧ World.Told w w' page.arrival)
      (World.Told w · options.setup) := by
  cases hPage : options.page with
  | error e =>
      unfold Action.Ends
      rw [run_bringUp_of_error hPage, Options.setup, hPage]
      exact .of_log rfl
  | ok page =>
      have hFailed :
          (bringUp document options).Ends w (fun _ _ => True)
          (World.Told w · [page.configuredEvent]) := by
        apply (told_gather hPage document w).bind _ fun _ hThrown => hThrown
        intro wiring u hGathered
        have hRender := (silent_renderLinks document wiring.page.links).after hGathered
        apply hRender.bind _ fun _ hThrown => hThrown
        intro _ v hRendered
        apply Action.Ends.update_bind
        apply ((silent_startTimerThenListen _ wiring document).after
          (hRendered.silent (.tick v wiring))).bind _
          fun _ hThrown => hThrown
        intro _ x _
        exact .update_bind (.pure trivial)
      rw [Options.setup_of_page hPage]
      apply ((made_bringUp document options w).and hFailed).imp
      · rintro _ w' ⟨⟨made, hMade, hBrought⟩, -⟩
        obtain rfl := Except.ok.inj (hPage.symm.trans hMade)
        exact ⟨page, rfl, .of_append _ hBrought.log⟩
      · rintro w' ⟨-, hTold⟩
        exact hTold

namespace World

/-- What is reported of the lifecycle in a step, by what the step is and what it answers. -/
inductive Announces (w : World) : Step → Result → List LogEvent → Prop where
  | quiet {step : Step} {result : Result}
    (hQuiet : step.isQuiet = true) : Announces w step result []
  | dropped {step : Step} {result : Result} (hDrops : step ∈ [.newHandle, .destroy, .free]) :
      Announces w step result w.farewell
  | unheld {options : Options} {document : DocumentId} (hNone : w.handle = none) :
      Announces w (.init options document) .noHandle []
  | initFailed {options : Options} {document : DocumentId} (e : Thrown) :
      Announces w (.init options document) (.failed e) (w.farewell ++ options.setup)
  | initDone {options : Options} {document : DocumentId} {page : Page}
    (hPage : options.page = .ok page) :
      Announces w (.init options document) .done (w.farewell ++ page.arrival)
  | startRefused {options : Options} (e : Thrown) : Announces w (.start options) (.failed e) []
  | startFailed {options : Options} (e : Thrown) : Announces w (.start options)
    (.failed e) options.setup
  | startDone {options : Options} {page : Page} (hPage : options.page = .ok page) :
      Announces w (.start options) .done (page.arrival ++ w.farewell)

/-- What has been called and logged before does not matter for what is reported. -/
theorem Announces.of_afresh {w : World} {step : Step} {result : Result} {reports : List LogEvent}
    (h : Announces { w with calls := [], log := [] } step result reports) :
    Announces w step result reports := by
  cases h with
  | quiet hQuiet => exact .quiet hQuiet
  | dropped hDrops => exact .dropped hDrops
  | unheld hNone => exact .unheld hNone
  | initFailed e => exact .initFailed e
  | initDone hPage => exact .initDone hPage
  | startRefused e => exact .startRefused e
  | startFailed e => exact .startFailed e
  | startDone hPage => exact .startDone hPage

theorem filter_releaseLog (h : Handle) (w : World) :
    (h.releaseLog w).filter LogEvent.isLifecycle = h.releaseLog w := by
  rw [List.filter_eq_self]
  intro event hMem
  rcases List.mem_append.mp hMem with hDetach | hStop
  · unfold Handle.detachLog at hDetach
    split at hDetach
    · split at hDetach
      · rw [List.mem_singleton.mp hDetach]
        rfl
      · cases hDetach
    · cases hDetach
  · split at hStop
    · rw [List.mem_singleton.mp hStop]
      rfl
    · cases hStop

theorem SameView.farewell {w w' : World} (h : SameView w w') : w'.farewell = w.farewell := by
  rw [World.farewell, World.farewell, h.handle]
  exact (h.releaseCalls _).2

theorem told_replaceHandle (w : World) (handle : Option Handle) :
    Told w (w.replaceHandle handle) w.farewell := by
  have hLog := (calls_replaceHandle w handle).2
  have hTold := Told.of_append _ hLog
  rwa [filter_releaseLog] at hTold

theorem told_foldl {f : World → Wiring → World} (h : ∀ w wiring, Told w (f w wiring) [])
    (wirings : List Wiring) (w : World) : Told w (wirings.foldl f w) [] :=
  foldl_induction (R := (Told · · [])) (fun _ => .of_log rfl)
    (fun _ _ _ h k => h.silent k) h wirings w

theorem filter_departureLog (w : World) (url : Url) :
    (w.departureLog url).filter LogEvent.isLifecycle = [] := by
  unfold departureLog
  split <;> rfl

theorem told_keydown (w : World) (wiring : Wiring) (key : KeyInput) :
    Told w (w.keydown wiring key) [] := by
  cases hSubmits : key.submits with
  | false =>
      rw [keydown_of_not_submits w wiring hSubmits]
      exact .of_log rfl
  | true =>
      rw [keydown_of_submits w wiring hSubmits]
      let url := wiring.page.engine.redirectUrl (w.valueOf wiring.searchField)
      have hTold : Told w ((w.record (.replace url.text)).logged (w.departureLog url))
          ((w.departureLog url).filter LogEvent.isLifecycle) := .of_append _ rfl
      rwa [filter_departureLog] at hTold

/-- A quiet step reports nothing of the lifecycle. -/
theorem told_quiet (w : World) {step : Step} (hQuiet : step.isQuiet = true) :
    Told w (w.perform step).2 [] := by
  cases step with
  | newHandle | init | start | destroy | free => cases hQuiet
  | key input document => exact told_foldl (fun w wiring => told_keydown w wiring input) _ _
  | fire => exact told_foldl .tick _ _
  | setTime | breakDown | fix => exact .of_log rfl
  | type text document =>
      apply Told.of_log
      dsimp only [perform]
      split <;> rfl
  | remove selector document => cases document <;> exact .of_log rfl
  | put selector tag document => cases document <;> exact .of_log rfl

theorem announces_init (w : World) (options : Options) (document : DocumentId) :
    ∃ reports, Told w (w.init options document).2 reports ∧
      Announces w (.init options document) (w.init options document).1 reports := by
  have hTaken := told_replaceHandle w (some {})
  rcases init_of_ends (told_bringUp document options (w.replaceHandle (some {}))) with
    ⟨hNone, hInit⟩ | ⟨e, left, hInit, hTold⟩ | ⟨handle, up, hInit, page, hPage, hTold⟩
  · rw [hInit]
    exact ⟨[], .of_log rfl, .unheld hNone⟩
  · rw [hInit]
    exact ⟨_, hTaken.trans hTold, .initFailed e⟩
  · rw [hInit]
    exact ⟨_, hTaken.trans hTold, .initDone hPage⟩

theorem announces_start {w : World} (hFresh : ∀ t ∈ w.timers, t.id ≤ w.timersStarted)
    (options : Options) :
    ∃ reports, Told w (w.start options).2 reports ∧
      Announces w (.start options) (w.start options).1 reports := by
  -- Where there is no document not even the settings are read, so a failure may report nothing at
  -- all.
  have hEnds := ((ends_bringUp .main options hFresh).and (told_bringUp .main options w)).imp
    (U := fun left => Told w left [] ∨ Told w left options.setup) (fun _ _ hUp => hUp)
      fun _ hFailed => .inr hFailed.2
  rcases start_of_ends (.inl (.of_log rfl)) hEnds with
    ⟨e, left, hStart, hNone | hTold⟩ |
      ⟨handle, up, hStart, -, ⟨wiring, hWired, -⟩, page, hPage, hTold⟩
  · rw [hStart]
    exact ⟨_, hNone, .startRefused e⟩
  · rw [hStart]
    exact ⟨_, hTold, .startFailed e⟩
  · have hTaken := told_replaceHandle up (some handle)
    rw [hWired.toSameView.farewell] at hTaken
    rw [hStart]
    exact ⟨_, hTold.trans hTaken, .startDone hPage⟩

theorem announces_perform {w : World} (hFresh : ∀ t ∈ w.timers, t.id ≤ w.timersStarted)
    (step : Step) :
    ∃ reports, Told w (w.perform step).2 reports ∧ Announces w step (w.perform step).1 reports := by
  cases step with
  | newHandle => exact ⟨_, told_replaceHandle w (some {}), .dropped (by simp)⟩
  | free => exact ⟨_, told_replaceHandle w none, .dropped (by simp)⟩
  | destroy =>
      dsimp only [perform]
      split
      · next hNone =>
          have hIdle : w.farewell = [] := by
            unfold farewell
            rw [hNone]
            rfl
          exact ⟨[], .of_log rfl, hIdle ▸ .dropped (by simp)⟩
      · exact ⟨_, told_replaceHandle w (some {}), .dropped (by simp)⟩
  | init options document => exact announces_init w options document
  | start options => exact announces_start hFresh options
  | key | fire | setTime | type | remove | put | breakDown | fix =>
      exact ⟨[], told_quiet w rfl, .quiet rfl⟩

/-- What the log of a step holds of the lifecycle. -/
theorem announces_performAfresh {l : Ledger} {w : World} (h : l.Accounts w) (step : Step) :
    Announces w step (w.performAfresh step).1
      ((w.performAfresh step).2.log.filter LogEvent.isLifecycle) := by
  obtain ⟨reports, hTold, hAnnounces⟩ := announces_perform h.afresh.registers.fresh step
  have hLog : (w.performAfresh step).2.log.filter LogEvent.isLifecycle = reports := hTold
  rw [hLog]
  exact hAnnounces.of_afresh

variable {l : Ledger} {w : World} {step : Step} {result : Result} {reports : List LogEvent}

/-- The handle of a browser that is as its ledger says is running if that holds a registration. -/
theorem isRunning_eq (h : l.Accounts w) : w.isRunning = l.current.isSome := by
  have hSame : w.isRunning = (w.handle.getD {}).isRunning := by
    unfold isRunning
    cases w.handle <;> rfl
  rw [hSame, h.handle]
  unfold Ledger.handle
  cases l.current <;> rfl

/-- A page that is taken down is reported once to have stopped, and no page is reported so when none
is running. -/
theorem filter_farewell (h : l.Accounts w) {p : LogEvent → Bool}
    (hDetach : ∀ e, p (.detachFailed e) = false) :
    w.farewell.filter p = if w.isRunning then [LogEvent.stopped].filter p else [] := by
  rw [isRunning_eq h, farewell, h.handle]
  unfold Ledger.handle
  cases l.current with
  | none => rfl
  | some r =>
      dsimp only [Registration.handle, Handle.running, Handle.releaseLog, Handle.detachLog]
      rw [List.filter_append]
      split <;> simp [hDetach]

theorem farewell_of_idle (h : l.Accounts w) (hIdle : w.isRunning = false) : w.farewell = [] := by
  rw [isRunning_eq h, Option.isSome_eq_false_iff, Option.isNone_iff_eq_none] at hIdle
  rw [farewell, h.handle, Ledger.handle, hIdle]
  rfl

end World

/-- The step takes the present handle down if that is running. -/
def Step.takesDown : Step → Result → Bool
  | .newHandle, _ | .destroy, _ | .free, _ | .init .., _ => true
  | .start _, result => result = .done
  | _, _ => false

/-- A page has been brought up by the step if that has been answered. -/
def Step.hasOpened (step : Step) (result : Result) : Bool := step.opens.isSome && result = .done

namespace World

variable {l : Ledger} {w : World} {step : Step} {result : Result} {reports : List LogEvent}

theorem quiet_moves (hQuiet : step.isQuiet = true) (result : Result) :
    step.opens = none ∧ step.takesDown result = false := by
  cases step with
  | newHandle | init | start | destroy | free => cases hQuiet
  | key | fire | setTime | type | remove | put | breakDown | fix => exact ⟨rfl, rfl⟩

theorem dropped_moves (hDrops : step ∈ [.newHandle, .destroy, .free]) (result : Result) :
    step.opens = none ∧ step.takesDown result = true := by
  simp only [List.mem_cons, List.not_mem_nil, or_false] at hDrops
  obtain rfl | rfl | rfl := hDrops <;> exact ⟨rfl, rfl⟩

theorem filter_setup (options : Options) {p : LogEvent → Bool}
    (hConfigured : ∀ name base tick, p (.configured name base tick) = false) :
    options.setup.filter p = [] := by
  unfold Options.setup
  split
  · simp [Page.configuredEvent, hConfigured]
  · rfl

/-- A step reports a page to have stopped once if it takes down a running one, and not otherwise. -/
theorem Announces.stopped (hAnnounces : Announces w step result reports) (h : l.Accounts w) :
    reports.filter (·.informs "start page stopped") =
      if w.isRunning && step.takesDown result then [.stopped] else [] := by
  have hFarewell : w.farewell.filter (·.informs "start page stopped") =
      if w.isRunning then [.stopped] else [] :=
    filter_farewell h fun _ => rfl
  have hSetup (options : Options) : options.setup.filter (·.informs "start page stopped") = [] :=
    filter_setup options fun _ _ _ => by simp [LogEvent.informs, LogEvent.message]
  have hArrival (page : Page) : page.arrival.filter (·.informs "start page stopped") = [] := by
    simp [Page.arrival, Page.configuredEvent, LogEvent.informs, LogEvent.message]
  cases hAnnounces with
  | quiet hQuiet => simp [(quiet_moves hQuiet result).2]
  | dropped hDrops => simp [hFarewell, (dropped_moves hDrops result).2]
  | unheld hNone => simp [isRunning, hNone]
  | initFailed => simp [hFarewell, hSetup, Step.takesDown]
  | initDone => simp [hFarewell, hArrival, Step.takesDown]
  | startRefused => simp [Step.takesDown]
  | startFailed => simp [hSetup, Step.takesDown]
  | startDone => simp [hFarewell, hArrival, Step.takesDown]

/-- What is looked for may be looked for among less. -/
theorem filter_within {p q : LogEvent → Bool} (h : ∀ event, p event = true → q event = true)
    (log : List LogEvent) : (log.filter q).filter p = log.filter p := by
  rw [List.filter_filter]
  congr 1
  funext event
  cases hTold : p event with
  | false => rfl
  | true => exact h event hTold

theorem isLifecycle_of_informs {event : LogEvent} {message : String}
    (h : event.informs message = true) : event.isLifecycle = true := by
  cases event <;> simp_all [LogEvent.informs, LogEvent.level, LogEvent.isLifecycle]

/-- A page that is brought up is reported as made and then as running, and never again. -/
theorem Announces.arrived (hAnnounces : Announces w step result reports) (h : l.Accounts w)
    {options : Options} {document : DocumentId} (hOpens : step.opens = some (options, document))
    (hDone : result = .done) :
    ∃ page, options.page = .ok page ∧ reports.filter LogEvent.isArrival = page.arrival := by
  have hFarewell : w.farewell.filter LogEvent.isArrival = [] := by
    rw [filter_farewell h fun _ => rfl]
    simp [LogEvent.isArrival, LogEvent.informs, LogEvent.message]
  have hArrival (page : Page) : page.arrival.filter LogEvent.isArrival = page.arrival := by
    simp [Page.arrival, Page.configuredEvent, LogEvent.isArrival, LogEvent.informs,
      LogEvent.message, LogEvent.level]
  cases hAnnounces with
  | initDone hPage | startDone hPage =>
      cases hOpens
      exact ⟨_, hPage, by rw [List.filter_append, hFarewell, hArrival]; simp⟩
  | quiet hQuiet => cases (quiet_moves hQuiet result).1.symm.trans hOpens
  | dropped hDrops => cases (dropped_moves hDrops result).1.symm.trans hOpens
  | unheld | initFailed | startRefused | startFailed => cases hDone

/-- No page is reported as running unless one is brought up. -/
theorem Announces.not_arrived (hAnnounces : Announces w step result reports) (h : l.Accounts w)
    (hNone : step.hasOpened result = false) :
    reports.filter (·.informs "start page running") = [] := by
  have hFarewell : w.farewell.filter (·.informs "start page running") = [] := by
    rw [filter_farewell h fun _ => rfl]
    simp [LogEvent.informs, LogEvent.message]
  have hSetup (options : Options) : options.setup.filter (·.informs "start page running") = [] :=
    filter_setup options fun _ _ _ => by simp [LogEvent.informs, LogEvent.message]
  cases hAnnounces with
  | quiet | unheld | startRefused => rfl
  | dropped => exact hFarewell
  | initFailed => rw [List.filter_append, hFarewell, hSetup]; rfl
  | startFailed => exact hSetup _
  | initDone | startDone => cases hNone

/-- Where no page is running there is none to be taken down. -/
theorem Announces.not_departed (hAnnounces : Announces w step result reports)
    (hIdle : w.farewell = []) :
    reports.filter LogEvent.isDeparture = [] := by
  have hSetup (options : Options) : options.setup.filter LogEvent.isDeparture = [] :=
    filter_setup options fun _ _ _ => by simp [LogEvent.isDeparture, LogEvent.message]
  have hArrival (page : Page) : page.arrival.filter LogEvent.isDeparture = [] := by
    simp [Page.arrival, Page.configuredEvent, LogEvent.isDeparture, LogEvent.message]
  cases hAnnounces with
  | quiet | unheld | startRefused => rfl
  | dropped => rw [hIdle]; rfl
  | initFailed => rw [hIdle]; exact hSetup _
  | initDone => rw [hIdle]; exact hArrival _
  | startFailed => exact hSetup _
  | startDone => rw [hIdle, List.append_nil]; exact hArrival _

/-- A step that only takes a page down reports nothing but that. -/
theorem log_dropped (w : World) (hDrops : step ∈ [.newHandle, .destroy, .free]) :
    (w.performAfresh step).2.log = w.farewell := by
  have hReplaced (handle : Option Handle) :=
    (calls_replaceHandle { w with calls := [], log := [] } handle).2
  simp only [List.mem_cons, List.not_mem_nil, or_false] at hDrops
  obtain rfl | rfl | rfl := hDrops
  · exact hReplaced (some {})
  · dsimp only [performAfresh, perform, farewell]
    split
    · next hNone =>
        rw [hNone]
        rfl
    · exact hReplaced (some {})
  · exact hReplaced none

theorem isSome_current_next (l : Ledger) (w : World) (step : Step) (result : Result) :
    (l.next w step result).current.isSome =
      (step.hasOpened result || l.current.isSome && !step.takesDown result) := by
  cases step <;> cases result <;>
    simp [Ledger.next, Ledger.release, Ledger.acquire, Step.hasOpened, Step.opens, Step.takesDown]

/-- Whoever brings a page up has taken down the one that was there. -/
theorem takesDown_of_hasOpened (step : Step) (result : Result) :
    step.hasOpened result = true → step.takesDown result = true := by
  cases step <;> cases result <;> simp_all [Step.hasOpened, Step.opens, Step.takesDown]

/-- How many of the events inform of a running page. -/
def arrivals (log : List LogEvent) : Nat := log.countP (·.informs "start page running")

/-- How many of the events inform of a stopped page. -/
def departures (log : List LogEvent) : Nat := log.countP (·.informs "start page stopped")

/-- A step changes the difference of the two counts by as much as it changes whether a page is
running. -/
theorem balance_step (h : l.Accounts w) (step : Step) :
    arrivals (w.performAfresh step).2.log + w.isRunning.toNat =
      departures (w.performAfresh step).2.log + (w.performAfresh step).2.isRunning.toNat := by
  have hAnnounces := announces_performAfresh h step
  have hDeparted : departures (w.performAfresh step).2.log =
      (w.isRunning && step.takesDown (w.performAfresh step).1).toNat := by
    rw [departures, List.countP_eq_length_filter, ← filter_within fun _ => isLifecycle_of_informs,
      hAnnounces.stopped h]
    cases w.isRunning && step.takesDown (w.performAfresh step).1 <;> rfl
  have hArrived :
      arrivals (w.performAfresh step).2.log = (step.hasOpened (w.performAfresh step).1).toNat := by
    rw [arrivals, List.countP_eq_length_filter, ← filter_within fun _ => isLifecycle_of_informs]
    cases hOpened : step.hasOpened (w.performAfresh step).1 with
    | false => rw [hAnnounces.not_arrived h hOpened]; rfl
    | true =>
        obtain ⟨hOpens, hDone⟩ := Bool.and_eq_true_iff.mp hOpened
        obtain ⟨⟨options, document⟩, hOpens⟩ := Option.isSome_iff_exists.mp hOpens
        obtain ⟨page, -, hArrival⟩ := hAnnounces.arrived h hOpens (of_decide_eq_true hDone)
        have hAmong (event : LogEvent) (hInforms : event.informs "start page running" = true) :
            event.isArrival = true := by rw [LogEvent.isArrival, hInforms, Bool.or_true]
        rw [← filter_within hAmong, hArrival]
        simp [Page.arrival, Page.configuredEvent, LogEvent.informs,
          LogEvent.message, LogEvent.level]
  rw [hArrived, hDeparted, isRunning_eq (h.next step), isSome_current_next, ← isRunning_eq h]
  have hTaken := takesDown_of_hasOpened step (w.performAfresh step).1
  revert hTaken
  cases step.hasOpened (w.performAfresh step).1 <;>
    cases step.takesDown (w.performAfresh step).1 <;>
    cases w.isRunning <;> simp

/-- Along a run these differences add up. -/
theorem balance_after (h : l.Accounts w) (steps : List Step) :
    arrivals (w.events steps) + w.isRunning.toNat =
      departures (w.events steps) + (w.after steps).isRunning.toNat := by
  induction steps generalizing l w with
  | nil => rfl
  | cons step steps ih =>
      have hStep := balance_step h step
      have hLater := ih (h.next step)
      have hAfter : w.after (step :: steps) = (w.performAfresh step).2.after steps := rfl
      have hEvents : w.events (step :: steps) =
          (w.performAfresh step).2.log ++ (w.performAfresh step).2.events steps := rfl
      rw [hAfter, hEvents]
      unfold arrivals departures at *
      rw [List.countP_append, List.countP_append]
      omega

/-- Whatever the browser refuses, the log tells how many pages run: one more is reported as running
than as stopped if the present handle is running, and as many otherwise. A step that brings a page
up reports it as made and then as running, with its settings, and no other step reports a running
page. A step that takes a running page down reports once that it has stopped, and where no page is
running none is taken down in the log. -/
theorem lifecycle_after (past : List Step) :
    let found := World.initial.after past
    let told := World.initial.events past
    told.countP (·.informs "start page running") =
      told.countP (·.informs "start page stopped") + (if found.isRunning then 1 else 0) ∧
    ∀ step : Step,
      let done := found.performAfresh step
      (∀ options document, step.opens = some (options, document) → done.1 = .done →
        ∃ config page, options.config = .ok config ∧
          Page.create config = (.ok page, [page.configuredEvent]) ∧
          done.2.log.filter LogEvent.isArrival =
            [.configured config.shownName page.engine.base.text config.tickMillis,
              .running config.tickMillis]) ∧
      (step.hasOpened done.1 = false → ∀ event ∈ done.2.log, ¬event.informs "start page running") ∧
      done.2.log.filter (·.informs "start page stopped") =
        (if found.isRunning && step.takesDown done.1 then [.stopped] else []) ∧
      (found.isRunning = false →
        (∀ event ∈ done.2.log, ¬event.isDeparture) ∧
          (step ∈ [.newHandle, .destroy, .free] → done.2.log = [])) := by
  intro found told
  have hAccounts : (Ledger.after {} World.initial past).Accounts found :=
    Ledger.Accounts.initial.after past
  refine ⟨?_, fun step => ?_⟩
  · have hBalance : told.countP (·.informs "start page running") =
        told.countP (·.informs "start page stopped") + found.isRunning.toNat :=
      balance_after Ledger.Accounts.initial past
    rw [hBalance]
    cases found.isRunning <;> rfl
  intro done
  have hAnnounces := announces_performAfresh hAccounts step
  have hInforming (message : String) :
      (done.2.log.filter LogEvent.isLifecycle).filter (·.informs message) =
        done.2.log.filter (·.informs message) :=
    filter_within (fun _ => isLifecycle_of_informs) done.2.log
  refine ⟨fun options document hOpens hDone => ?_, fun hNone => ?_, ?_,
    fun hIdle => ⟨?_, fun hDrops => ?_⟩⟩
  · obtain ⟨page, hPage, hArrival⟩ := hAnnounces.arrived hAccounts hOpens hDone
    obtain ⟨config, hConfig, hMade⟩ := Options.exists_config hPage
    obtain ⟨-, hCreate, -, hUpdater, -, hTick⟩ := Page.of_create hMade
    have hAmong (event : LogEvent) (hArrives : event.isArrival = true) : event.isLifecycle = true :=
      (Bool.or_eq_true_iff.mp hArrives).elim isLifecycle_of_informs isLifecycle_of_informs
    refine ⟨config, page, hConfig, hCreate, ?_⟩
    rw [← filter_within hAmong, hArrival, Page.arrival, Page.configuredEvent,
      Page.displayName, hUpdater, hTick]
  · apply List.filter_eq_nil_iff.mp
    rw [← hInforming]
    exact hAnnounces.not_arrived hAccounts hNone
  · rw [← hInforming]
    exact hAnnounces.stopped hAccounts
  · have hAmong (event : LogEvent) (hDeparts : event.isDeparture = true) :
        event.isLifecycle = true := by
      cases event <;> simp_all [LogEvent.isDeparture, LogEvent.message, LogEvent.isLifecycle]
    apply List.filter_eq_nil_iff.mp
    rw [← filter_within hAmong]
    exact hAnnounces.not_departed (farewell_of_idle hAccounts hIdle)
  · rw [log_dropped found hDrops]
    exact farewell_of_idle hAccounts hIdle

end World

end Browser

end StartPage
