import StartPage.Proofs.Browser.Lifecycle
import StartPage.Proofs.Browser.Refinement

/-! A browser whose page has been taken down. No callback is held any more, so whatever the browser
still calls is dead. Until a page is brought up again nothing is asked of the browser, nothing is
reported and no element is written into, whatever else happens. -/
namespace StartPage.Browser

/-- The step changes which elements a document shows. -/
def Step.rearranges : Step → Bool
  | .remove .. | .put .. => true
  | _ => false

/-- A step of a run has brought a page up, and this is how the page is registered. -/
structure World.OpenedAt (w : World) (steps before : List Step) (opening : Step)
    (between : List Step) (options : Options) (r : Registration) : Prop where
  steps_eq : steps = before ++ opening :: between
  opens : opening.opens = some (options, r.document)
  done : ((w.after before).performAfresh opening).1 = .done
  interval : r.interval = (w.after before).timersStarted + 1

namespace Ledger

theorem current_next_cases {l : Ledger} {w : World} {step : Step} {result : Result}
    {r : Registration} (h : (l.next w step result).current = some r) :
    l.current = some r ∨ result = .done ∧ r.interval = w.timersStarted + 1 ∧
      ∃ options, step.opens = some (options, r.document) := by
  cases step with
  | newHandle | destroy | free => cases h
  | key | fire | setTime | type | remove | put | breakDown | fix => exact .inl h
  | init options document =>
      cases result with
      | done =>
          cases h
          exact .inr ⟨rfl, rfl, options, rfl⟩
      | noHandle | failed | delivered => cases h
  | start options =>
      cases result with
      | done =>
          cases h
          exact .inr ⟨rfl, rfl, options, rfl⟩
      | noHandle | failed | delivered => exact .inl h

/-- A page that runs after a run was brought up in the course of it, or ran before. -/
theorem exists_opening {l : Ledger} {w : World} {steps : List Step} {r : Registration}
    (h : (l.after w steps).current = some r) :
    l.current = some r ∨ ∃ before opening between options,
      w.OpenedAt steps before opening between options r := by
  induction steps generalizing l w with
  | nil => exact .inl h
  | cons step steps ih =>
      rcases ih h with hNext | ⟨before, opening, between, options, hLater⟩
      · rcases current_next_cases hNext with hOld | ⟨hDone, hInterval, options, hOpens⟩
        · exact .inl hOld
        · exact .inr ⟨[], step, steps, options, rfl, hOpens, hDone, hInterval⟩
      · exact .inr ⟨step :: before, opening, between, options,
          { hLater with steps_eq := congrArg (step :: ·) hLater.steps_eq }⟩

end Ledger

namespace World

/-- No callback is held: there is no handle, or the one that there is holds nothing. -/
def Idle (w : World) : Prop := w.handle.getD {} = {}

/-- Both worlds show the same elements with the same texts and children. What is typed into them may
differ. -/
structure SameContents (w w' : World) : Prop where
  main : w'.main = w.main
  other : w'.other = w.other
  elements : w'.elements.map (fun e => { e with value := "" }) = w.elements.map fun e =>
    { e with value := "" }

theorem SameContents.of_eq {w w' : World} (hMain : w'.main = w.main) (hOther : w'.other = w.other)
    (hElements : w'.elements = w.elements) : SameContents w w' :=
  ⟨hMain, hOther, congrArg _ hElements⟩

theorem SameContents.trans {u v w : World} (h : SameContents u v) (k : SameContents v w) :
    SameContents u w :=
  ⟨k.main.trans h.main, k.other.trans h.other, k.elements.trans h.elements⟩

/-- Nothing has been called or logged on the way to the second world, in which no callback is
held. -/
structure Rests (w : World) : Prop where
  idle : w.Idle
  calls : w.calls = []
  log : w.log = []

namespace Idle

variable {w : World} {step : Step} {steps : List Step}

theorem hearsKeys_eq (h : w.Idle) (wiring : Wiring) : w.hearsKeys wiring = false := by
  unfold Idle at h
  unfold hearsKeys
  cases hHandle : w.handle with
  | none => rfl
  | some held =>
      rw [hHandle, Option.getD_some] at h
      rw [h]
      rfl

theorem ticks_eq (h : w.Idle) (wiring : Wiring) : w.ticks wiring = false := by
  unfold Idle at h
  unfold ticks
  cases hHandle : w.handle with
  | none => rfl
  | some held =>
      rw [hHandle, Option.getD_some] at h
      rw [h]
      rfl

/-- Every listener that is left is found dead. -/
theorem press_eq (h : w.Idle) (input : KeyInput) (d : DocumentId) :
    w.press input d = (.delivered 0 (w.listeners.filter (·.document = d)).length, w) := by
  have hNone (wirings : List Wiring) : wirings.filter w.hearsKeys = [] :=
    List.filter_eq_nil_iff.mpr fun wiring _ => by simp [h.hearsKeys_eq wiring]
  unfold press
  dsimp only
  rw [hNone, List.length_map]
  rfl

/-- Every interval that is left is found dead. -/
theorem fire_eq (h : w.Idle) : w.fire = (.delivered 0 w.timers.length, w) := by
  have hNone (wirings : List Wiring) : wirings.filter w.ticks = [] :=
    List.filter_eq_nil_iff.mpr fun wiring _ => by simp [h.ticks_eq wiring]
  unfold fire
  dsimp only
  rw [hNone, List.length_map]
  rfl

/-- There is nothing to be released. -/
theorem replaceHandle_eq (h : w.Idle) (handle : Option Handle) :
    w.replaceHandle handle = { w with handle } := by
  unfold Idle at h
  unfold replaceHandle
  cases hHandle : w.handle with
  | none => rfl
  | some held =>
      rw [hHandle, Option.getD_some] at h
      rw [h]
      rfl

theorem afresh (h : w.Idle) : Idle { w with calls := [], log := [] } := h

/-- Taking down what has been taken down does nothing at all. -/
theorem performAfresh_destroy (h : w.Idle) :
    (w.performAfresh .destroy).2 = { w with calls := [], log := [] } := by
  dsimp only [performAfresh, perform]
  split
  · rfl
  · next held hHandle =>
      have hHeld : w.handle = some held := hHandle
      have hEmpty : held = {} := by
        unfold Idle at h
        rwa [hHeld, Option.getD_some] at h
      rw [h.afresh.replaceHandle_eq, ← hEmpty, ← hHeld]

/-- A step that brings no page up finds nobody to call and nothing to release. -/
theorem rests_performAfresh (h : w.Idle) (hNone : step.opens = none) :
    (w.performAfresh step).2.Rests := by
  have hFresh : Rests { w with calls := [], log := [] } := ⟨h, rfl, rfl⟩
  cases step with
  | init | start => cases hNone
  | newHandle | free =>
      dsimp only [performAfresh, perform]
      rw [h.afresh.replaceHandle_eq]
      exact ⟨rfl, rfl, rfl⟩
  | destroy =>
      rw [h.performAfresh_destroy]
      exact hFresh
  | key input d =>
      dsimp only [performAfresh, perform]
      rw [h.afresh.press_eq]
      exact hFresh
  | fire =>
      dsimp only [performAfresh, perform]
      rw [h.afresh.fire_eq]
      exact hFresh
  | setTime | breakDown | fix => exact ⟨h, rfl, rfl⟩
  | type text d =>
      dsimp only [performAfresh, perform]
      split <;> exact ⟨h, rfl, rfl⟩
  | remove selector d | put selector tag d => cases d <;> exact ⟨h, rfl, rfl⟩

/-- If the step leaves the documents as they are, they go on showing what they show. -/
theorem sameContents_performAfresh (h : w.Idle) (hNone : step.opens = none)
    (hStays : step.rearranges = false) :
    SameContents w (w.performAfresh step).2 := by
  cases step with
  | init | start => cases hNone
  | remove | put => cases hStays
  | newHandle | free =>
      dsimp only [performAfresh, perform]
      rw [h.afresh.replaceHandle_eq]
      exact .of_eq rfl rfl rfl
  | destroy =>
      rw [h.performAfresh_destroy]
      exact .of_eq rfl rfl rfl
  | key input d =>
      dsimp only [performAfresh, perform]
      rw [h.afresh.press_eq]
      exact .of_eq rfl rfl rfl
  | fire =>
      dsimp only [performAfresh, perform]
      rw [h.afresh.fire_eq]
      exact .of_eq rfl rfl rfl
  | setTime | breakDown | fix => exact .of_eq rfl rfl rfl
  | type text d =>
      have hView := (w.steady_type text d).toSameView
      exact ⟨hView.main, hView.other, w.map_value_type text d⟩

theorem after (h : w.Idle) (hNone : ∀ step ∈ steps, step.opens = none) : (w.after steps).Idle := by
  induction steps generalizing w with
  | nil => exact h
  | cons step steps ih =>
      have hStep := h.rests_performAfresh (hNone step List.mem_cons_self)
      exact ih hStep.idle fun later hMem => hNone later (List.mem_cons_of_mem _ hMem)

/-- Along a run that brings no page up nothing is called and nothing is logged. -/
theorem rests_trace (h : w.Idle) (hNone : ∀ step ∈ steps, step.opens = none) :
    ∀ answered ∈ w.trace steps, answered.2.Rests := by
  induction steps generalizing w with
  | nil =>
      intro answered hMem
      cases hMem
  | cons step steps ih =>
      have hStep := h.rests_performAfresh (hNone step List.mem_cons_self)
      intro answered hMem
      rcases List.mem_cons.mp hMem with rfl | hLater
      · exact hStep
      · exact ih hStep.idle (fun later hMem =>
          hNone later (List.mem_cons_of_mem _ hMem)) answered hLater

theorem sameContents_after (h : w.Idle) (hNone : ∀ step ∈ steps, step.opens = none)
    (hStays : ∀ step ∈ steps, step.rearranges = false) : SameContents w (w.after steps) := by
  induction steps generalizing w with
  | nil => exact .of_eq rfl rfl rfl
  | cons step steps ih =>
      have hFirst := hNone step List.mem_cons_self
      have hStep := h.sameContents_performAfresh hFirst (hStays step List.mem_cons_self)
      refine hStep.trans (ih (h.rests_performAfresh hFirst).idle (fun later hMem => ?_)
        fun later hMem => ?_)
      · exact hNone later (List.mem_cons_of_mem _ hMem)
      · exact hStays later (List.mem_cons_of_mem _ hMem)

end Idle

/-- A step that takes a page down puts an idle handle in its place, or none, and asks for nothing
but the release of what the old one holds. -/
theorem performAfresh_dropped (w : World) {drop : Step}
    (hDrop : drop ∈ [.newHandle, .destroy, .free]) :
    (w.performAfresh drop).2.Idle ∧
      (w.performAfresh drop).2.calls = (w.handle.getD {}).releaseCalls w ∧
      (w.performAfresh drop).2.elements = w.elements ∧ (w.performAfresh drop).2.main = w.main ∧
        (w.performAfresh drop).2.other = w.other := by
  have hReplaced (handle : Option Handle) (hIdle : handle.getD {} = {}) :
      let left := replaceHandle { w with calls := [], log := [] } handle
      left.Idle ∧ left.calls = (w.handle.getD {}).releaseCalls w ∧ left.elements = w.elements ∧
        left.main = w.main ∧ left.other = w.other := by
    have hDown := takenDown_replaceHandle { w with calls := [], log := [] } handle
    have hCalls := (calls_replaceHandle { w with calls := [], log := [] } handle).1
    refine ⟨?_, hCalls, hDown.shown, hDown.main, hDown.other⟩
    rw [Idle, hDown.handle]
    exact hIdle
  simp only [List.mem_cons, List.not_mem_nil, or_false] at hDrop
  obtain rfl | rfl | rfl := hDrop
  · exact hReplaced (some {}) rfl
  · dsimp only [performAfresh, perform]
    split
    · next hNone =>
        have hIdle : w.handle.getD {} = {} := by rw [hNone]; rfl
        exact ⟨hIdle, by rw [hIdle]; rfl, rfl, rfl, rfl⟩
    · exact hReplaced (some {}) rfl
  · exact hReplaced none rfl

/-- The page that was running after a run has been taken down. Its interval is stopped unless there
is no window, and its listener is taken off the document of its bring-up; a browser that refuses
this is reported. -/
structure Released (start : World) (past : List Step) (down : World) (r : Registration) : Prop where
  handle : (start.after past).handle = some r.handle
  opened : ∃ before opening between options, start.OpenedAt past before opening between options r
  calls : down.calls =
    (if (start.after past).isBroken .window then [] else [.clearInterval r.interval]) ++
      [.removeListener r.document]
  log : down.log =
    (if (start.after past).isBroken .removeEventListener then
      [.detachFailed (Thrown.text "removeEventListener failed").debug] else []) ++ [.stopped]

/-- A page that was running in one world has been taken down in the next, and nothing happens along
the steps that follow. -/
structure StaysSilent (found down : World) (later : List Step) : Prop where
  quiet : ∀ answered ∈ down.trace later, answered.2.calls = [] ∧ answered.2.log = []
  contents : (∀ step ∈ later, step.rearranges = false) → SameContents found (down.after later)
  destroy : ((down.after later).performAfresh .destroy).2 =
    { down.after later with calls := [], log := [] }
  fire : (down.after later).performAfresh .fire =
    (.delivered 0 (down.after later).timers.length,
      { down.after later with calls := [], log := [] })
  key : ∀ input d, (down.after later).performAfresh (.key input d) =
    (.delivered 0 ((down.after later).listeners.filter (·.document = d)).length,
      { down.after later with calls := [], log := [] })

/-- Two documents may hold anything, and any run may have gone before. Taking the page down then
asks for its interval to be stopped, unless there is no window, and for its listener to be taken off
the document of its bring-up, and writes into no element. Until a page is brought up again no step
asks the browser for anything or reports anything, whatever was refused before. What the documents
show stays as long as nobody rearranges them. Every callback that is left is dead, and taking down
once more does nothing. -/
theorem silent_after_teardown (elements : List Element) (main other : Document)
    (past later : List Step) {drop : Step} (hDrop : drop ∈ [.newHandle, .destroy, .free])
    (hLater : ∀ step ∈ later, step.opens = none) :
    let start : World := { elements, main, other }
    let found := start.after past
    let down := (found.performAfresh drop).2
    (found.isRunning = false → down.calls = [] ∧ down.log = []) ∧
    (found.isRunning = true → ∃ r, Released start past down r) ∧
    (down.elements = found.elements ∧ down.main = found.main ∧ down.other = found.other) ∧
    StaysSilent found down later := by
  intro start found down
  have hAccounts : (Ledger.after {} start past).Accounts found :=
    (Ledger.Accounts.blank elements main other).after past
  obtain ⟨hIdle, hCalls, hElements, hMain, hOther⟩ := performAfresh_dropped found hDrop
  have hLog := log_dropped found hDrop
  have hLeft : (down.after later).Idle := hIdle.after hLater
  refine ⟨fun hStopped => ⟨?_, ?_⟩, fun hRunning => ?_, ⟨hElements, hMain, hOther⟩,
    fun answered hMem => ?_, fun hStays => ?_, hLeft.performAfresh_destroy,
    hLeft.afresh.fire_eq, hLeft.afresh.press_eq⟩
  · rw [isRunning_eq hAccounts, Option.isSome_eq_false_iff, Option.isNone_iff_eq_none] at hStopped
    rw [hCalls, hAccounts.handle, Ledger.handle, hStopped]
    rfl
  · rw [hLog]
    exact farewell_of_idle hAccounts hStopped
  · rw [isRunning_eq hAccounts] at hRunning
    obtain ⟨r, hCurrent⟩ := Option.isSome_iff_exists.mp hRunning
    have hHolds : found.handle.getD {} = r.handle := by
      rw [hAccounts.handle, Ledger.handle, hCurrent]
    refine ⟨r, ?_, (Ledger.exists_opening hCurrent).resolve_left fun hBefore => ?_, ?_, ?_⟩
    · cases hHandle : found.handle with
      | none =>
          rw [hHandle] at hHolds
          cases hHolds
      | some held =>
          rw [hHandle] at hHolds
          exact congrArg some hHolds
    · cases hBefore
    · rw [hCalls, hHolds]
      rfl
    · rw [hLog, farewell, hHolds]
      rfl
  · have hRests := hIdle.rests_trace hLater answered hMem
    exact ⟨hRests.calls, hRests.log⟩
  · exact (SameContents.of_eq hMain hOther hElements).trans (hIdle.sameContents_after hLater hStays)

/-- A page that is taken down without a window, while the browser refuses to take listeners off. The
interval and the listener stay, and both are dead. -/
theorem silent_after_teardown_refused :
    let past : List Step :=
      [.newHandle, .init .none .other, .breakDown .window, .breakDown .removeEventListener]
    let later : List Step :=
      [.fire, .type "a b" .other, .key ⟨.enter, false⟩ .other, .setTime 19 0 0,
        .fix .window, .destroy]
    let found := World.initial.after past
    let down := (found.performAfresh .destroy).2
    let left := down.after later
    found.isRunning = true ∧ down.calls = [.removeListener .other] ∧
      (∀ answered ∈ down.trace later, answered.2.calls = [] ∧ answered.2.log = []) ∧
        SameContents found left ∧
      (left.performAfresh .fire).1 = .delivered 0 1 ∧
      (left.performAfresh (.key ⟨.enter, false⟩ .other)).1 = .delivered 0 1 := by
  intro past later found down left
  have hRunning : found.isRunning = true := by decide +kernel
  obtain ⟨-, hReleased, -, hSilent⟩ :=
    @silent_after_teardown World.initial.elements World.initial.main World.initial.other
      past later .destroy (by decide) (by decide)
  obtain ⟨r, hRelease⟩ := hReleased hRunning
  refine ⟨hRunning, ?_, hSilent.quiet, hSilent.contents (by decide), ?_, ?_⟩
  · have hOwn : found.handle = some (Registration.handle ⟨.other, 1, 1⟩) := by decide +kernel
    obtain rfl : r = ⟨.other, 1, 1⟩ := by
      obtain ⟨document, interval, wiring⟩ := r
      cases hOwn.symm.trans hRelease.handle
      rfl
    exact hRelease.calls
  · exact (congrArg Prod.fst hSilent.fire).trans (by decide +kernel)
  · exact (congrArg Prod.fst (hSilent.key _ _)).trans (by decide +kernel)

end World

end StartPage.Browser
