import StartPage.Proofs.Browser.Action

/-! What bringing up and taking down do to a browser. A bring-up that answers has
registered one interval and one listener, both under numbers that were free; one
that throws has registered nothing. -/
namespace StartPage.Browser

/-- The wiring holds the page that the options describe and the elements that the
world shows in the document. -/
structure Wiring.Describes (wiring : Wiring) (options : Options)
    (document : DocumentId) (w : World) : Prop where
  page : ∃ config log, options.config = .ok config ∧ Page.create config = (.ok wiring.page, log)
  searchField : w.find document .searchField = some wiring.searchField
  clock : w.find document .clock = some wiring.clock
  title : w.find document .title = some wiring.title

theorem endsSteady_openPage (options : Options) (w : World) :
    (openPage options).EndsSteady w fun page =>
      ∃ config log, options.config = .ok config ∧ Page.create config = (.ok page, log) := by
  unfold openPage
  cases hConfig : options.config with
  | error e => exact .fail
  | ok config =>
      dsimp only
      rcases hPage : Page.create config with ⟨e | page, log⟩
      all_goals refine .bind (.update (.logged w _)) fun _ u _ _ => ?_
      · exact .fail
      · exact .pure ⟨config, log, rfl, hPage⟩

theorem endsSteady_findSearchField (document : DocumentId) (w : World) :
    (findSearchField document).EndsSteady w (w.find document .searchField = some ·) := by
  refine .bind (.queryRequired document .searchField) fun element u _ hFound => ?_
  refine .bind .get fun v _ _ _ => ?_
  split
  · split
    · exact .pure hFound
    · exact .fail
  · exact .fail

theorem endsSteady_renderLinks (document : DocumentId) (links : List QuickLink) (w : World) :
    (renderLinks document links).EndsSteady w fun _ => True := by
  refine .bind (.query document .links) fun container u _ _ => ?_
  cases container with
  | none => exact .pure trivial
  | some container =>
      refine .bind (.update (.modifyElement u container _)) fun _ v _ _ => ?_
      exact .forM (fun link v => .bind .createAnchor fun _ _ _ _ => .appendAnchor container _) v

namespace World

/-- Between the two worlds the next wiring has been made, but not put to use. -/
structure Prepared (w w' : World) (wiring : Wiring) : Prop extends SameView w w' where
  id : wiring.id = w.wiringsMade + 1
  timers : w'.timers = w.timers
  listeners : w'.listeners = w.listeners
  timersStarted : w'.timersStarted = w.timersStarted
  wiringsMade : w'.wiringsMade = w.wiringsMade + 1

theorem Prepared.steady {u v w : World} {wiring : Wiring} (h : Prepared u v wiring)
    (k : Steady v w) : Prepared u w wiring :=
  { h.toSameView.trans k.toSameView with
    id := h.id
    timers := k.timers.trans h.timers
    listeners := k.listeners.trans h.listeners
    timersStarted := k.timersStarted.trans h.timersStarted
    wiringsMade := k.wiringsMade.trans h.wiringsMade }

theorem Prepared.sameCallbacks {w w' : World} {wiring : Wiring} (h : Prepared w w' wiring) :
    SameCallbacks w w' :=
  ⟨h.handle, h.timers, h.listeners, Nat.le_of_eq h.timersStarted.symm,
    Nat.le_trans (Nat.le_succ _) (Nat.le_of_eq h.wiringsMade.symm)⟩

end World

theorem ends_gather (document : DocumentId) (options : Options) (w : World) :
    (gather document options).Ends w
      (fun wiring w' => wiring.Describes options document w ∧ World.Prepared w w' wiring)
        (World.Steady w) := by
  refine .after (.refl w) (endsSteady_openPage options w) fun page w₁ h₁ hPage => ?_
  refine .after h₁ (endsSteady_findSearchField document w₁) fun field w₂ h₂ hField => ?_
  refine .after h₂ (.queryRequired document .clock) fun clock w₃ h₃ hClock => ?_
  refine .after h₃ (.queryRequired document .title) fun title w₄ h₄ hTitle => ?_
  refine .get_bind ?_
  split
  · exact .fail_bind h₄
  · have hNumber : w₄.wiringsMade + 1 = w.wiringsMade + 1 := by rw [h₄.wiringsMade]
    refine .update_bind (.pure ⟨⟨hPage, ?_, ?_, ?_⟩, ?_⟩)
    · rw [← hField, h₁.find]
    · rw [← hClock, h₂.find]
    · rw [← hTitle, h₃.find]
    · exact { h₄ with id := hNumber, wiringsMade := hNumber }

namespace World

/-- The browser after an interval has been started. -/
def withTimer (w : World) (timeout : Nat) (wiring : Wiring) : World :=
  { w.record (.setInterval timeout) with
    timersStarted := w.timersStarted + 1
    timers := w.timers ++ [⟨w.timersStarted + 1, timeout, wiring⟩] }

/-- The browser after a listener has been registered. -/
def withListener (w : World) (document : DocumentId) (wiring : Wiring) : World :=
  { w.record (.addListener document) with listeners := w.listeners ++ [⟨document, wiring⟩] }

theorem SameView.withTimer (w : World) (timeout : Nat) (wiring : Wiring) :
    SameView w (w.withTimer timeout wiring) := by
  have hRecorded : SameView w (w.record (.setInterval timeout)) := .record w (by simp)
  exact { hRecorded with }

theorem SameView.withListener (w : World) (document : DocumentId) (wiring : Wiring) :
    SameView w (w.withListener document wiring) := by
  have hRecorded : SameView w (w.record (.addListener document)) := .record w (by simp)
  exact { hRecorded with }

theorem SameView.clearInterval (w : World) (id : Nat) : SameView w (w.clearInterval id) := by
  have hRecorded : SameView w (w.record (.clearInterval id)) := .record w (by simp)
  exact { hRecorded with }

/-- An interval that is stopped right after it was started leaves no trace among the
running ones. Its number stays used up. -/
theorem timers_clearInterval_withTimer {w : World} (hFresh : ∀ t ∈ w.timers, t.id ≤ w.timersStarted)
    (timeout : Nat) (wiring : Wiring) (call : HostCall) :
    (((w.withTimer timeout wiring).record call).clearInterval (w.timersStarted + 1)).timers =
      w.timers := by
  change (w.timers ++ [_]).filter _ = w.timers
  rw [List.filter_append, List.filter_eq_self.mpr]
  · simp
  · intro t hMem
    have hLe := hFresh t hMem
    simp only [ne_eq, decide_not, Bool.not_eq_eq_eq_not, Bool.not_true, decide_eq_false_iff_not]
    omega

end World

theorem ends_setInterval (timeout : Nat) (wiring : Wiring) (w : World) :
    (Action.setInterval timeout wiring).Ends w
      (fun id w' => id = w.timersStarted + 1 ∧ w' = w.withTimer timeout wiring)
      (· = w.record (.setInterval timeout)) := by
  refine .update_bind (.require_bind (fun _ => ?_) fun _ => rfl)
  exact .get_bind (.update_bind (.pure ⟨rfl, rfl⟩))

theorem ends_addListener (document : DocumentId) (wiring : Wiring) (w : World) :
    (Action.addListener document wiring).Ends w (fun _ w' => w' = w.withListener document wiring)
      (· = w.record (.addListener document)) := by
  exact .update_bind (.require_bind (fun _ => .update rfl) fun _ => rfl)

/-- Both the timer and the listener are in place, or everything is registered as it was. -/
theorem ends_startTimerThenListen (timeout : Nat) (wiring : Wiring) (document : DocumentId)
    {w : World} (hFresh : ∀ t ∈ w.timers, t.id ≤ w.timersStarted) :
    Action.Ends
      (startTimerThenListen (Action.setInterval timeout wiring) (Action.addListener document wiring)
        fun id => modifyThe World (·.clearInterval id)) w
      (fun id w' => id = w.timersStarted + 1 ∧
        w' = (w.withTimer timeout wiring).withListener document wiring)
      (fun w' => World.SameCallbacks w w' ∧ World.SameView w w') := by
  refine .bind (ends_setInterval timeout wiring w) ?_ ?_
  · rintro _ _ ⟨rfl, rfl⟩
    have hListen := ends_addListener document wiring (w.withTimer timeout wiring)
    refine .bind (.tryCatch hListen fun e u hRefused =>
      ?_) (fun _ u hListened => .pure ⟨rfl, hListened⟩)
      fun _ hThrown => hThrown
    have hStopped :=
      World.timers_clearInterval_withTimer hFresh timeout wiring (.addListener document)
    have hView : World.SameView (w.withTimer timeout wiring) u := by
      rw [hRefused]
      exact .record _ (by simp)
    have hStop : World.SameCallbacks w (u.clearInterval (w.timersStarted + 1)) ∧
        World.SameView w (u.clearInterval (w.timersStarted + 1)) := by
      refine ⟨?_,
        (World.SameView.withTimer w timeout wiring).trans (hView.trans (.clearInterval u _))⟩
      rw [hRefused]
      exact ⟨rfl, hStopped, rfl, Nat.le_succ _, Nat.le_refl _⟩
    exact hStop
  · rintro _ rfl
    have hRecorded : World.Steady w (w.record (.setInterval timeout)) := .record w (by simp)
    exact ⟨hRecorded.sameCallbacks, hRecorded.toSameView⟩

/-- The second world is the first one after the wiring has been put to use: its timer
and its listener come behind all others, and it has drawn a first frame. -/
structure World.Wired (w w' : World) (options : Options) (document : DocumentId) (wiring : Wiring) :
    Prop extends SameView w w' where
  describes : wiring.Describes options document w
  id : wiring.id = w.wiringsMade + 1
  timers : w'.timers = w.timers ++ [⟨w.timersStarted + 1, timeoutOf wiring.page, wiring⟩]
  listeners : w'.listeners = w.listeners ++ [⟨document, wiring⟩]
  timersStarted : w'.timersStarted = w.timersStarted + 1
  wiringsMade : w'.wiringsMade = w.wiringsMade + 1
  drawn : ∃ u, SameView w u ∧ w'.elements = (u.tick wiring).elements

/-- A wiring is put to use after it has drawn its first frame. -/
theorem World.Prepared.wired {w rendered : World} {options : Options} {document : DocumentId}
    {wiring : Wiring} (h : Prepared w rendered wiring)
    (hDescribes : wiring.Describes options document w) (events : List LogEvent) :
    Wired w
      ((((rendered.tick wiring).withTimer (timeoutOf wiring.page) wiring).withListener
        document wiring).logged events)
      options document wiring := by
  have hTicked := h.steady (.tick rendered wiring)
  have hRegistered :=
    (SameView.withTimer (rendered.tick wiring) (timeoutOf wiring.page) wiring).trans
      (.withListener _ document wiring)
  exact
    { hTicked.toSameView.trans (hRegistered.trans (.logged _ events)) with
      describes := hDescribes
      id := h.id
      timers := by
        change (rendered.tick wiring).timers ++ [_] = _
        rw [hTicked.timers, hTicked.timersStarted]
      listeners := by
        change (rendered.tick wiring).listeners ++ [_] = _
        rw [hTicked.listeners]
      timersStarted := congrArg (· + 1) hTicked.timersStarted
      wiringsMade := hTicked.wiringsMade
      drawn := ⟨rendered, h.toSameView, rfl⟩ }

/-- The handle of a page that has been brought up. -/
def Handle.running (document : DocumentId) (interval wiring : Nat) : Handle :=
  { document := some document, interval := some interval, onKeydown := some wiring,
    onTick := some wiring }

/-- A bring-up that throws leaves everything registered as it was. -/
theorem ends_bringUp (document : DocumentId) (options : Options) {w : World}
    (hFresh : ∀ t ∈ w.timers, t.id ≤ w.timersStarted) :
    (bringUp document options).Ends w
      (fun h w' => ∃ wiring, World.Wired w w' options document wiring ∧
        h = .running document (w.timersStarted + 1) wiring.id)
      (fun w' => World.SameCallbacks w w' ∧ World.SameView w w') := by
  refine .bind (ends_gather document options w) ?_ fun _ hThrown =>
    ⟨hThrown.sameCallbacks, hThrown.toSameView⟩
  rintro wiring gathered ⟨hDescribes, hGathered⟩
  refine .bind (endsSteady_renderLinks document wiring.page.links gathered) ?_
    fun _ hThrown => ⟨(hGathered.steady hThrown).sameCallbacks,
      (hGathered.steady hThrown).toSameView⟩
  rintro _ rendered ⟨hRendered, -⟩
  have hPrepared := hGathered.steady hRendered
  have hTicked := hPrepared.steady (.tick rendered wiring)
  have hFreshTicked :
      ∀ t ∈ (rendered.tick wiring).timers, t.id ≤ (rendered.tick wiring).timersStarted := by
    rw [hTicked.timers, hTicked.timersStarted]
    exact hFresh
  refine .update_bind (.bind (ends_startTimerThenListen _ wiring document hFreshTicked) ?_
    fun _ hThrown => ⟨hTicked.sameCallbacks.trans hThrown.1, hTicked.toSameView.trans hThrown.2⟩)
  rintro _ _ ⟨rfl, rfl⟩
  exact .update_bind (.pure
    ⟨wiring, hPrepared.wired hDescribes _, by rw [hTicked.timersStarted]; rfl⟩)

namespace World

/-- The browser after a listener has been taken off. -/
def withoutListener (w : World) (document : DocumentId) (wiring : Nat) : World :=
  { w.record (.removeListener document) with
    listeners := w.listeners.filter fun l => !(l.document = document && l.wiring.id = wiring) }

theorem SameView.withoutListener (w : World) (document : DocumentId) (wiring : Nat) :
    SameView w (w.withoutListener document wiring) := by
  have hRecorded : SameView w (w.record (.removeListener document)) := .record w (by simp)
  exact { hRecorded with }

theorem ends_removeListener (document : DocumentId) (wiring : Nat) (w : World) :
    (Action.removeListener document wiring).Ends w
      (fun _ w' => w.isBroken .removeEventListener = false ∧ w' = w.withoutListener document wiring)
      (fun w' => w.isBroken .removeEventListener = true ∧
        w' = w.record (.removeListener document)) := by
  exact .update_bind (.require_bind (fun hWorking => .update ⟨hWorking, rfl⟩)
    fun hBroken => ⟨hBroken, rfl⟩)

/-- The second world is the first one after a handle has been taken down. What the
browser refuses to release stays registered. -/
structure TakenDown (w w' : World) (h : Handle) : Prop extends SameView w w' where
  shown : w'.elements = w.elements
  timers : w'.timers = w.timers.filter fun t => w.isBroken .window || h.interval ≠ some t.id
  listeners : w'.listeners = w.listeners.filter fun l =>
    w.isBroken .removeEventListener ||
      !(h.document = some l.document && h.onKeydown = some l.wiring.id)
  timersStarted : w'.timersStarted = w.timersStarted
  wiringsMade : w'.wiringsMade = w.wiringsMade

/-- Of the intervals all but that of the handle stay, and without a window that too. -/
theorem stopTimer_spec (w : World) (h : Handle) :
    SameView w (w.stopTimer h) ∧ (w.stopTimer h).elements = w.elements ∧
      (w.stopTimer h).listeners = w.listeners ∧ (w.stopTimer h).timersStarted = w.timersStarted ∧
      (w.stopTimer h).wiringsMade = w.wiringsMade ∧
      (w.stopTimer h).timers =
        w.timers.filter fun t => w.isBroken .window || h.interval ≠ some t.id := by
  unfold stopTimer
  cases h.interval with
  | none => exact ⟨.refl w, rfl, rfl, rfl, rfl, (List.filter_eq_self.mpr (by simp)).symm⟩
  | some id =>
      cases w.isBroken .window with
      | true => exact ⟨.refl w, rfl, rfl, rfl, rfl, (List.filter_eq_self.mpr (by simp)).symm⟩
      | false => exact ⟨.clearInterval w id, rfl, rfl, rfl, rfl, by simp [clearInterval, eq_comm]⟩

/-- Of the listeners all but that of the handle stay, and if the browser refuses that too. -/
theorem detach_spec (w : World) (h : Handle) :
    SameView w (w.detach h) ∧ (w.detach h).elements = w.elements ∧ (w.detach h).timers = w.timers ∧
      (w.detach h).timersStarted = w.timersStarted ∧ (w.detach h).wiringsMade = w.wiringsMade ∧
      (w.detach h).listeners = w.listeners.filter fun l =>
        w.isBroken .removeEventListener ||
          !(h.document = some l.document && h.onKeydown = some l.wiring.id) := by
  unfold detach
  split
  · next document wiring hDocument hWiring =>
      have hRemove := ends_removeListener document wiring w
      split
      · next released hRun =>
          obtain ⟨hWorking, rfl⟩ := hRemove.of_ok hRun
          refine ⟨.withoutListener w document wiring, rfl, rfl, rfl, rfl, ?_⟩
          rw [hWorking, hDocument, hWiring]
          simp [withoutListener, eq_comm]
      · next e released hRun =>
          obtain ⟨hBroken, rfl⟩ := hRemove.of_error hRun
          have hRecorded : SameView w (w.record (.removeListener document)) := .record w (by simp)
          refine ⟨hRecorded.trans (.logged _ _), rfl, rfl, rfl, rfl, ?_⟩
          exact (List.filter_eq_self.mpr (by simp [hBroken])).symm
  · next hIdle =>
      refine ⟨.refl w, rfl, rfl, rfl, rfl, (List.filter_eq_self.mpr fun l _ => ?_).symm⟩
      have hOther : ¬(h.document = some l.document ∧ h.onKeydown = some l.wiring.id) :=
        fun hHeld => hIdle _ _ hHeld.1 hHeld.2
      simp only [Bool.or_eq_true, Bool.not_eq_true', Bool.and_eq_false_imp, decide_eq_true_eq,
        decide_eq_false_iff_not]
      exact .inr fun hDocument hWiring => hOther ⟨hDocument, hWiring⟩

theorem takenDown (w : World) (h : Handle) : TakenDown w (w.takeDown h) h := by
  obtain ⟨hStopView, hStopShown, hStopListeners, hStopStarted, hStopMade, hStopTimers⟩ :=
    stopTimer_spec w h
  obtain ⟨hView, hShown, hTimers, hStarted, hMade, hListeners⟩ := detach_spec (w.stopTimer h) h
  have hDown : TakenDown w ((w.stopTimer h).detach h) h :=
    { hStopView.trans hView with
      shown := hShown.trans hStopShown
      timers := hTimers.trans hStopTimers
      listeners := by rw [hListeners, hStopView.isBroken, hStopListeners]
      timersStarted := hStarted.trans hStopStarted
      wiringsMade := hMade.trans hStopMade }
  unfold takeDown
  dsimp only
  split
  · exact
      { hDown.toSameView.trans (.logged _ [.stopped]) with
        shown := hDown.shown
        timers := hDown.timers
        listeners := hDown.listeners
        timersStarted := hDown.timersStarted
        wiringsMade := hDown.wiringsMade }
  · exact hDown

/-- The handle is put in place before the one that was there is taken down. -/
theorem takenDown_replaceHandle (w : World) (handle : Option Handle) :
    TakenDown { w with handle } (w.replaceHandle handle) (w.handle.getD {}) := by
  unfold replaceHandle
  cases w.handle with
  | none => exact takenDown { w with handle } {}
  | some old => exact takenDown { w with handle } old

end World

end StartPage.Browser
