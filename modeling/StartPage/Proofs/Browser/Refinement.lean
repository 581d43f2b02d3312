import StartPage.Proofs.Browser.Service

/-! A page in a browser is the page of its settings. It leaves for what the search field
holds when a key press submits, and it shows the frames of the times that it is called at,
in the elements that were found when it was brought up. -/
namespace StartPage.Browser

namespace World

variable {w : World} {l : Ledger} {options : Options} {document : DocumentId}
    {wiring : Wiring} {step : Step}

theorem current_next (hOpens : step.opens = some (options, document)) :
    (l.next w step .done).current = some ⟨document, w.timersStarted + 1, w.wiringsMade + 1⟩ := by
  cases step with
  | init | start =>
      cases hOpens
      rfl
  | newHandle | destroy | free | key | fire | setTime | type | remove | put | breakDown | fix =>
      cases hOpens

/-- A bring-up that is answered is served from then on, and shows its first frame at once. -/
theorem serves_performAfresh (h : l.Accounts w) (hTidy : w.Tidy)
    (hOpens : step.opens = some (options, document)) (hDone : (w.performAfresh step).1 = .done) :
    ∃ wiring : Wiring, wiring.Describes options document w ∧
      (w.performAfresh step).2.Serves document wiring ∧
      (w.performAfresh step).2.Shows wiring.clock wiring.title
        (ClockFrame.render w.now wiring.page.displayName) := by
  obtain ⟨wiring, hOpened⟩ := opened_performAfresh h.registers.fresh hOpens hDone
  obtain ⟨u, hNow, hLength, hDrawn⟩ := hOpened.drawn
  have hDescribes : wiring.Describes options document w := { hOpened.describes with }
  have hClock := hTidy.exists_of_find hDescribes.clock
  have hTitle := hTidy.exists_of_find hDescribes.title
  have hApart : wiring.clock ≠ wiring.title := by
    intro hSame
    have hSelector := hTidy.eq_of_find hDescribes.clock (hSame ▸ hDescribes.title)
    cases hSelector
  have hElements : (w.performAfresh step).2.elements.length = w.elements.length := by
    rw [hDrawn, (SameView.tick u wiring).elements, hLength]
  have hNext := h.next step
  rw [hDone] at hNext
  refine ⟨wiring, hDescribes, Serves.of_accounts hNext (current_next hOpens) ?_ ?_ ?_ ?_ hApart, ?_⟩
  · intro t hMem hId
    refine (hOpened.timers t hMem).resolve_left fun hOld => ?_
    have hUsed := (h.registers.le_of_mem_timers hOld).2
    rw [hId] at hUsed
    exact Nat.not_succ_le_self _ hUsed
  · intro k hMem hId
    refine (hOpened.listeners k hMem).resolve_left fun hOld => ?_
    have hUsed := h.registers.le_of_mem_listeners hOld
    rw [hId] at hUsed
    exact Nat.not_succ_le_self _ hUsed
  · rw [hElements]
    exact hClock
  · rw [hElements]
    exact hTitle
  · have hShows := shows_tick u (hLength ▸ hClock) (hLength ▸ hTitle) hApart
    have hTime : u.now = w.now := hNow
    unfold Shows textOf at *
    rw [hDrawn, ← hTime]
    exact hShows

/-- The text that a step submits: that of the search field, if a key press in the document
submits. -/
def submission (w : World) (document : DocumentId) (field : ElementId) : Step → Option String
  | .key input d => if d = document ∧ input.submits then some (w.valueOf field) else none
  | _ => none

/-- The texts that several steps in turn submit. -/
def submissions (w : World) (document : DocumentId) (field : ElementId) : List Step → List String
  | [] => []
  | step :: steps =>
    (w.submission document field step).toList ++ (w.performAfresh step).2.submissions
      document field steps

namespace Serves

theorem afresh (h : w.Serves document wiring) :
    { w with calls := [], log := [] }.Serves document wiring :=
  h.same ⟨rfl, rfl, rfl, Nat.le_refl _, Nat.le_refl _⟩ (Nat.le_refl _)

/-- A key press calls the browser to leave for what it submits, and does nothing else. -/
theorem key_eq (h : w.Serves document wiring) (input : KeyInput) (d : DocumentId) :
    (w.performAfresh (.key input d)).2 =
      { w with
        calls := (w.submission document wiring.searchField (.key input d)).toList.map fun text =>
          .replace (wiring.page.engine.redirectUrl text).text
        log := (w.submission document wiring.searchField (.key input d)).toList.flatMap fun text =>
          w.departureLog (wiring.page.engine.redirectUrl text) } := by
  refine (h.afresh.press_eq input d).trans ?_
  by_cases hHere : d = document
  · rw [if_pos hHere]
    cases hSubmits : input.submits with
    | true =>
        have hText : w.submission document wiring.searchField (.key input d) =
            some (w.valueOf wiring.searchField) := if_pos ⟨hHere, hSubmits⟩
        rw [keydown_of_submits _ _ hSubmits, hText, Option.toList_some, List.flatMap_singleton]
        rfl
    | false =>
        have hText : w.submission document wiring.searchField (.key input d) = none :=
          if_neg (by simp [hSubmits])
        rw [keydown_of_not_submits _ _ hSubmits, hText]
        rfl
  · have hText : w.submission document wiring.searchField (.key input d) = none :=
      if_neg fun hBoth => hHere hBoth.1
    rw [if_neg hHere, hText]
    rfl

theorem performAfresh_fire (h : w.Serves document wiring) :
    (w.performAfresh .fire).2 = { w with calls := [], log := [] }.tick wiring :=
  h.afresh.fire_eq

theorem fire_shows (h : w.Serves document wiring) :
    (w.performAfresh .fire).2.Shows wiring.clock wiring.title
      (ClockFrame.render w.now wiring.page.displayName) := by
  rw [h.performAfresh_fire]
  exact shows_tick { w with calls := [], log := [] } h.clock h.title h.apart

/-- A quiet step makes no element go away. -/
theorem length_le_performAfresh (h : w.Serves document wiring) (hQuiet : step.isQuiet = true) :
    w.elements.length ≤ (w.performAfresh step).2.elements.length := by
  cases step with
  | newHandle | init | start | destroy | free => cases hQuiet
  | key input d =>
      exact Nat.le_of_eq (congrArg (·.elements.length) (h.key_eq input d).symm)
  | fire => exact Nat.le_of_eq (steady_fire { w with calls := [], log := [] }).elements.symm
  | setTime | breakDown | fix => exact Nat.le_refl _
  | type text d => exact Nat.le_of_eq (w.steady_type text d).elements.symm
  | remove selector d => cases d <;> exact Nat.le_refl _
  | put selector tag d =>
      have hElements : (w.performAfresh (.put selector tag d)).2.elements =
          w.elements ++ [{ tag := tag }] := rfl
      rw [hElements, List.length_append]
      exact Nat.le_add_right _ _

/-- Whoever is served stays so through every quiet step. -/
theorem next (h : w.Serves document wiring) (hQuiet : step.isQuiet = true) :
    (w.performAfresh step).2.Serves document wiring :=
  h.same (w.sameCallbacks_performAfresh hQuiet) (h.length_le_performAfresh hQuiet)

theorem after {steps : List Step} (h : w.Serves document wiring)
    (hQuiet : ∀ step ∈ steps, step.isQuiet = true) :
    (w.after steps).Serves document wiring := by
  induction steps generalizing w with
  | nil => exact h
  | cons step steps ih =>
      have hStep := hQuiet step List.mem_cons_self
      exact ih (h.next hStep) fun later hMem => hQuiet later (List.mem_cons_of_mem _ hMem)

/-- A quiet step asks the browser to leave for what it submits, and for nothing else. -/
theorem calls_performAfresh (h : w.Serves document wiring) (hQuiet : step.isQuiet = true) :
    (w.performAfresh step).2.calls =
      (w.submission document wiring.searchField step).toList.map fun text =>
        .replace (wiring.page.engine.redirectUrl text).text := by
  cases step with
  | newHandle | init | start | destroy | free => cases hQuiet
  | key input d => rw [h.key_eq]
  | fire =>
      rw [h.performAfresh_fire]
      rfl
  | setTime | breakDown | fix => rfl
  | type text d =>
      dsimp only [performAfresh, perform]
      split <;> rfl
  | remove selector d => cases d <;> rfl
  | put selector tag d => cases d <;> rfl

theorem calls_trace {steps : List Step} (h : w.Serves document wiring)
    (hQuiet : ∀ step ∈ steps, step.isQuiet = true) :
    (w.trace steps).flatMap (·.2.calls) =
      (w.submissions document wiring.searchField steps).map fun text =>
        .replace (wiring.page.engine.redirectUrl text).text := by
  induction steps generalizing w with
  | nil => rfl
  | cons step steps ih =>
      have hStep := hQuiet step List.mem_cons_self
      have hLater := ih (h.next hStep) fun later hMem => hQuiet later (List.mem_cons_of_mem _ hMem)
      unfold trace submissions
      rw [List.flatMap_cons, hLater, h.calls_performAfresh hStep, List.map_append]

end Serves

theorem not_mem_calls (hFresh : ∀ t ∈ w.timers, t.id ≤ w.timersStarted)
    (hOpens : step.opens = some (options, document)) (url : String) :
    .replace url ∉ (w.performAfresh step).2.calls := by
  obtain ⟨handle, hView⟩ := sameView_performAfresh hFresh (Step.isQuiet_of_opens hOpens)
  obtain ⟨made, hMade, hNone⟩ := hView.calls
  rw [hMade]
  exact hNone url

/-- Typing changes elements in their values only. -/
theorem map_value_type (w : World) (text : String) (d : DocumentId) :
    (w.performAfresh (.type text d)).2.elements.map (fun e => { e with value := "" }) =
      w.elements.map fun e => { e with value := "" } := by
  dsimp only [performAfresh, perform]
  split
  · refine List.ext_getElem? fun i => ?_
    unfold modifyElement
    dsimp only
    rw [List.getElem?_map, List.getElem?_map, List.getElem?_modify]
    cases w.elements[i]? with
    | none => rfl
    | some e => split <;> rfl
  · rfl

/-- The browser reports a time of day. Three numbers whose seconds do not fit into a word
stand for no time in particular. -/
def Reports (w : World) (t : LocalTime) : Prop :=
  w.hour.toNat * 3600 + w.minute.toNat * 60 + w.second.toNat < UInt32.size →
    t.total = (w.hour.toNat * 3600 + w.minute.toNat * 60 + w.second.toNat) % 86400

/-- A page that has been brought up leaves for what its search field holds at each key
press that submits in its document, in that order and at no other time. Its first frame
and that of every tick are those of the time that the browser reports then. A key press
adds calls and events and changes nothing else; a refusal to leave adds one warning. What
is typed goes into a value, so no text and no registration changes. -/
theorem page_after {past steps : List Step} {opening : Step} {options : Options}
    {document : DocumentId} (hOpens : opening.opens = some (options, document))
    (hDone : ((World.initial.after past).performAfresh opening).1 = .done)
    (hQuiet : ∀ step ∈ steps, step.isQuiet = true) :
    let found := World.initial.after past
    let opened := (found.performAfresh opening).2
    ∃ config page log field clock title,
      options.config = .ok config ∧ Page.create config = (.ok page, log) ∧
      found.find document .searchField = some field ∧ found.find document .clock = some clock ∧
      found.find document .title = some title ∧
      (∀ url, .replace url ∉ opened.calls) ∧
      (opened.trace steps).flatMap (·.2.calls) =
        (opened.submissions document field steps).map
          (fun text => .replace (page.engine.redirectUrl text).text) ∧
      (∃ t, found.Reports t ∧ opened.Shows clock title (ClockFrame.render t page.displayName)) ∧
      ∀ before step later, steps = before ++ step :: later →
        let w := opened.after before
        let w' := (w.performAfresh step).2
        (step = .fire → ∃ t, w.Reports t ∧
          w'.Shows clock title (ClockFrame.render t page.displayName)) ∧
        (∀ input d, step = .key input d →
          w' = { w with
            calls := (w.submission document field step).toList.map fun text =>
              .replace (page.engine.redirectUrl text).text
            log := (w.submission document field step).toList.flatMap fun text =>
              .redirect (page.engine.redirectUrl text).text ::
                if w.isBroken .replace then [.redirectFailed (Thrown.text "replace failed").debug]
                  else [] }) ∧
        (∀ text d, step = .type text d →
          SameCallbacks w w' ∧ w'.elements.map (fun e => { e with value := "" }) =
            w.elements.map fun e => { e with value := "" }) := by
  intro found opened
  have hAccounts : (Ledger.after {} World.initial past).Accounts found :=
    Ledger.Accounts.initial.after past
  have hTidy : found.Tidy := Tidy.initial.after Ledger.Accounts.initial past
  obtain ⟨wiring, hDescribes, hServes, hShows⟩ := serves_performAfresh hAccounts hTidy hOpens hDone
  obtain ⟨config, log, hConfig, hPage⟩ := hDescribes.page
  refine ⟨config, wiring.page, log, wiring.searchField, wiring.clock, wiring.title, hConfig, hPage,
    hDescribes.searchField, hDescribes.clock, hDescribes.title, ?_, hServes.calls_trace hQuiet,
    ⟨found.now, total_now found, hShows⟩, fun before step later hSplit => ?_⟩
  · exact not_mem_calls hAccounts.registers.fresh hOpens
  · have hHere : ∀ earlier ∈ before, earlier.isQuiet = true := fun earlier hMem =>
      hQuiet earlier (hSplit ▸ List.mem_append_left _ hMem)
    have hServed := hServes.after hHere
    refine ⟨?_, ?_, ?_⟩
    · rintro rfl
      exact ⟨_, total_now _, hServed.fire_shows⟩
    · rintro input d rfl
      exact hServed.key_eq input d
    · rintro text d rfl
      exact ⟨sameCallbacks_performAfresh _ rfl, map_value_type _ text d⟩

/-- A run in the other document, in which the browser refuses to leave. -/
theorem page_after_refusal :
    ∃ page : Page, ∃ field : ElementId,
      (World.initial.after [.newHandle]).find .other .searchField = some field ∧
      ((((World.initial.after [.newHandle]).performAfresh (.init .none .other)).2).trace
          [.type "a b" .other, .breakDown .replace, .key ⟨.enter, false⟩ .other, .fire]).flatMap
            (·.2.calls) =
        ((((World.initial.after [.newHandle]).performAfresh (.init .none .other)).2).submissions
          .other field
          [.type "a b" .other, .breakDown .replace, .key ⟨.enter, false⟩ .other, .fire]).map
            fun text => .replace (page.engine.redirectUrl text).text := by
  have hDone : ((World.initial.after [.newHandle]).performAfresh (.init .none .other)).1 =
      .done := by decide +kernel
  obtain ⟨_, page, _, field, _, _, -, -, hField, -, -, -, hCalls, -⟩ :=
    @page_after [.newHandle] [.type "a b" .other, .breakDown .replace,
      .key ⟨.enter, false⟩ .other, .fire]
      (.init .none .other) .none .other rfl hDone (by decide)
  exact ⟨page, field, hField, hCalls⟩

end World

end StartPage.Browser
