import StartPage.Proofs.Browser.Session

/-! Runs of a browser, and the steps of a run that neither bring a page up nor take
one down. Such a step calls what is registered and leaves it registered. -/
namespace StartPage.Browser

theorem run_require (f : Facility) (w : World) :
    (Action.require f).run.run w =
      (if w.isBroken f then .error (.text (f.text ++ " failed")) else .ok (), w) := by
  change (if w.isBroken f then throw _ else pure () : Action Unit).run.run w = _
  split <;> rfl

namespace World

/-- The browser after several steps in turn. -/
def after (w : World) (steps : List Step) : World :=
  steps.foldl (fun w step => (w.performAfresh step).2) w

theorem logged_logged (w : World) (events later : List LogEvent) :
    (w.logged events).logged later = w.logged (events ++ later) := by
  unfold logged
  rw [List.append_assoc]

theorem logged_nil (w : World) : w.logged [] = w := by
  unfold logged
  rw [List.append_nil]

/-- The browser is asked to leave the page, whether it then refuses or not. -/
theorem navigate_eq (w : World) (url : Url) :
    (Navigator.navigate url w : Except Thrown Unit × World) =
      (if w.isBroken .replace then .error (.text "replace failed") else .ok (),
        w.record (.replace url.text)) :=
  run_require .replace (w.record (.replace url.text))

/-- The events of a departure. A refusal only adds a warning. -/
def departureLog (w : World) (url : Url) : List LogEvent :=
  .redirect url.text ::
    if w.isBroken .replace then [.redirectFailed (Thrown.text "replace failed").debug] else []

theorem keydown_of_submits (w : World) (wiring : Wiring) {key : KeyInput} (h : key.submits = true) :
    w.keydown wiring key =
      (w.record
        (.replace (wiring.page.engine.redirectUrl (w.valueOf wiring.searchField)).text)).logged
        (w.departureLog (wiring.page.engine.redirectUrl (w.valueOf wiring.searchField))) := by
  unfold keydown Page.handleKey Page.redirect departureLog
  rw [if_pos h]
  dsimp only
  rw [navigate_eq]
  cases hBroken : w.isBroken .replace with
  | false => rfl
  | true => exact logged_logged _ _ _

theorem keydown_of_not_submits (w : World) (wiring : Wiring) {key : KeyInput}
    (h : key.submits = false) :
    w.keydown wiring key = w := by
  unfold keydown Page.handleKey
  rw [if_neg (Bool.eq_false_iff.mp h)]
  exact logged_nil w

/-- A key press writes nothing but calls and events. -/
theorem keydown_eq (w : World) (wiring : Wiring) (key : KeyInput) :
    ∃ calls log, w.keydown wiring key = { w with calls, log } := by
  cases h : key.submits with
  | false => exact ⟨w.calls, w.log, keydown_of_not_submits w wiring h⟩
  | true => exact ⟨_, _, keydown_of_submits w wiring h⟩

end World

/-- The step calls or changes something, but brings no page up and takes none down. -/
def Step.isQuiet : Step → Bool
  | .newHandle | .init .. | .start _ | .destroy | .free => false
  | _ => true

namespace World

/-- What relates the worlds before and after one callback relates those before and after
all of them. -/
theorem foldl_induction {R : World → World → Prop} (hRefl : ∀ w, R w w)
    (hTrans : ∀ u v w, R u v → R v w → R u w) {f : World → Wiring → World}
    (hStep : ∀ w wiring, R w (f w wiring)) (wirings : List Wiring) (w : World) :
    R w (wirings.foldl f w) := by
  induction wirings generalizing w with
  | nil => exact hRefl w
  | cons wiring wirings ih => exact hTrans _ _ _ (hStep w wiring) (ih _)

/-- A key press, whoever hears it, writes nothing but calls and events. -/
theorem press_eq (w : World) (input : KeyInput) (document : DocumentId) :
    ∃ calls log, (w.press input document).2 = { w with calls, log } := by
  refine foldl_induction (R := fun w w' => ∃ calls log, w' = { w with calls, log })
    (fun w => ⟨w.calls, w.log, rfl⟩) ?_ (fun w wiring => keydown_eq w wiring input) _ w
  rintro u _ _ ⟨_, _, rfl⟩ ⟨calls, log, rfl⟩
  exact ⟨calls, log, rfl⟩

theorem performAfresh_key (w : World) (input : KeyInput) (document : DocumentId) :
    ∃ calls log, (w.performAfresh (.key input document)).2 = { w with calls, log } :=
  press_eq { w with calls := [], log := [] } input document

theorem steady_fire (w : World) : Steady w w.fire.2 :=
  foldl_induction .refl (fun _ _ _ => .trans) .tick _ w

/-- What is typed goes into one field or, where there is none, nowhere. -/
theorem steady_type (w : World) (text : String) (document : DocumentId) :
    Steady { w with calls := [], log := [] } (w.performAfresh (.type text document)).2 := by
  dsimp only [performAfresh, perform]
  split
  · exact .modifyElement _ _ _
  · exact .refl _

theorem SameCallbacks.setDocument (w : World) (id : DocumentId) (d : Document) :
    SameCallbacks w (w.setDocument id d) := by
  cases id <;> exact ⟨rfl, rfl, rfl, Nat.le_refl _, Nat.le_refl _⟩

/-- A quiet step registers nothing and takes nothing off. -/
theorem sameCallbacks_performAfresh (w : World) {step : Step} (h : step.isQuiet = true) :
    SameCallbacks w (w.performAfresh step).2 := by
  have hFresh : SameCallbacks w { w with calls := [], log := [] } :=
    ⟨rfl, rfl, rfl, Nat.le_refl _, Nat.le_refl _⟩
  refine hFresh.trans ?_
  cases step with
  | newHandle | init | start | destroy | free => cases h
  | key input document =>
      obtain ⟨calls, log, hPress⟩ := performAfresh_key w input document
      rw [hPress]
      exact ⟨rfl, rfl, rfl, Nat.le_refl _, Nat.le_refl _⟩
  | fire => exact (steady_fire _).sameCallbacks
  | setTime | breakDown | fix => exact ⟨rfl, rfl, rfl, Nat.le_refl _, Nat.le_refl _⟩
  | type text document => exact (w.steady_type text document).sameCallbacks
  | remove selector document => exact .setDocument _ document _
  | put selector tag document => exact { SameCallbacks.setDocument _ document _ with }

theorem fresh_replaceHandle {w : World} (hFresh : ∀ t ∈ w.timers, t.id ≤ w.timersStarted)
    (handle : Option Handle) :
    ∀ t ∈ (w.replaceHandle handle).timers, t.id ≤ (w.replaceHandle handle).timersStarted := by
  have hDown := takenDown_replaceHandle w handle
  rw [hDown.timers, hDown.timersStarted]
  exact fun t hMem => hFresh t ((List.mem_filter.mp hMem).1)

/-- A bring-up through the present handle ends as one does after that handle has been taken down. -/
theorem init_of_ends {w : World} {options : Options} {document : DocumentId}
    {answered : Handle → World → Prop} {thrown : World → Prop}
    (h : (bringUp document options).Ends (w.replaceHandle (some {})) answered thrown) :
    (w.handle = none ∧ w.init options document = (.noHandle, w)) ∨
    (∃ e left, w.init options document = (.failed e, left) ∧ thrown left) ∨
    ∃ handle up, w.init options document = (.done, { up with handle := some handle }) ∧
      answered handle up := by
  unfold init
  split
  · next hNone => exact .inl ⟨hNone, rfl⟩
  · rcases hRun : (bringUp document options).run.run (w.replaceHandle (some {})) with
      ⟨e | handle, up⟩
    · exact .inr (.inl ⟨e, up, rfl, h.of_error hRun⟩)
    · exact .inr (.inr ⟨handle, up, rfl, h.of_ok hRun⟩)

/-- A bring-up through another handle ends as one does beside the present handle, unless there is no
document for it. -/
theorem start_of_ends {w : World} {options : Options} {answered : Handle → World → Prop}
    {thrown : World → Prop} (hRefused : thrown w)
    (h : (bringUp .main options).Ends w answered thrown) :
    (∃ e left, w.start options = (.failed e, left) ∧ thrown left) ∨
    ∃ handle up, w.start options = (.done, up.replaceHandle (some handle)) ∧
      w.isBroken .window = false ∧ answered handle up := by
  have hEnds : Action.Ends (do
      if w.isBroken .window || w.isBroken .document then Action.fail (.host "no document")
      bringUp .main options) w (fun handle up => w.isBroken .window = false ∧
        answered handle up) thrown := by
    split
    · exact .fail_bind hRefused
    · next hThere =>
        have hWindow : w.isBroken .window = false :=
          (Bool.or_eq_false_iff.mp (Bool.eq_false_iff.mpr hThere)).1
        exact h.imp (fun _ _ hAnswered => ⟨hWindow, hAnswered⟩) fun _ hThrown => hThrown
  unfold start
  dsimp only
  split
  · next handle up hRun => exact .inr ⟨handle, up, rfl, hEnds.of_ok hRun⟩
  · next e left hRun => exact .inl ⟨e, left, rfl, hEnds.of_error hRun⟩

/-- Bringing up through the present handle takes that down first. What was registered
before is then gone whether or not something else takes its place. -/
theorem init_cases {w : World} (hFresh : ∀ t ∈ w.timers, t.id ≤ w.timersStarted) (options : Options)
    (document : DocumentId) :
    (w.handle = none ∧ w.init options document = (.noHandle, w)) ∨
    (∃ e w', w.init options document = (.failed e, w') ∧
      SameCallbacks (w.replaceHandle (some {})) w' ∧ SameView (w.replaceHandle (some {})) w') ∨
    ∃ wiring up, Wired (w.replaceHandle (some {})) up options document wiring ∧
      w.init options document =
        (.done,
          { up with handle := some (.running document (w.timersStarted + 1) wiring.id) }) := by
  have hDown := takenDown_replaceHandle w (some {})
  rcases init_of_ends (ends_bringUp document options (fresh_replaceHandle hFresh (some {}))) with
    hNone | hFailed | ⟨handle, up, hInit, wiring, hWired, rfl⟩
  · exact .inl hNone
  · exact .inr (.inl hFailed)
  · rw [hDown.timersStarted] at hInit
    exact .inr (.inr ⟨wiring, up, hWired, hInit⟩)

/-- Bringing up through another handle leaves everything as it was until it has succeeded. -/
theorem start_cases {w : World} (hFresh : ∀ t ∈ w.timers, t.id ≤ w.timersStarted)
    (options : Options) :
    (∃ e w', w.start options = (.failed e, w') ∧ SameCallbacks w w' ∧ SameView w w') ∨
    ∃ wiring up, Wired w up options .main wiring ∧
      w.start options = (.done,
        up.replaceHandle (some (.running .main (w.timersStarted + 1) wiring.id))) := by
  rcases start_of_ends ⟨.refl w, .refl w⟩ (ends_bringUp .main options hFresh) with
    hFailed | ⟨handle, up, hStart, -, wiring, hWired, rfl⟩
  · exact .inl hFailed
  · exact .inr ⟨wiring, up, hWired, hStart⟩

/-- Bringing up and taking down change neither documents nor faults, and nobody leaves
the page on the way. -/
theorem sameView_performAfresh {w : World} (hFresh : ∀ t ∈ w.timers, t.id ≤ w.timersStarted)
    {step : Step} (h : step.isQuiet = false) :
    ∃ handle, SameView { w with handle, calls := [], log := [] } (w.performAfresh step).2 := by
  have hReplaced (handle : Option Handle) :=
    takenDown_replaceHandle { w with calls := [], log := [] } handle
  cases step with
  | newHandle => exact ⟨_, (hReplaced (some {})).toSameView⟩
  | free => exact ⟨_, (hReplaced none).toSameView⟩
  | destroy =>
      dsimp only [performAfresh, perform]
      split
      · exact ⟨w.handle, .refl _⟩
      · exact ⟨_, (hReplaced (some {})).toSameView⟩
  | init options document =>
      change ∃ handle, SameView _ (init { w with calls := [], log := [] } options document).2
      rcases init_cases (w := { w with calls := [], log := [] }) hFresh options document with
        ⟨-, hInit⟩ | ⟨e, w', hInit, -, hView⟩ | ⟨wiring, up, hWired, hInit⟩
      · rw [hInit]
        exact ⟨w.handle, .refl _⟩
      · rw [hInit]
        exact ⟨_, (hReplaced (some {})).toSameView.trans hView⟩
      · rw [hInit]
        exact ⟨_, { (hReplaced (some {})).toSameView.trans hWired.toSameView with handle := rfl }⟩
  | start options =>
      change ∃ handle, SameView _ (start { w with calls := [], log := [] } options).2
      rcases start_cases (w := { w with calls := [], log := [] }) hFresh options with
        ⟨e, w', hStart, -, hView⟩ | ⟨wiring, up, hWired, hStart⟩
      · rw [hStart]
        exact ⟨w.handle, hView⟩
      · have hHeld (handle : Option Handle) :
            SameView { w with handle, calls := [], log := [] } { up with handle } :=
          { hWired.toSameView with handle := rfl }
        rw [hStart]
        exact ⟨_, (hHeld _).trans (takenDown_replaceHandle up _).toSameView⟩
  | key | fire | setTime | type | remove | put | breakDown | fix => cases h

end World

end StartPage.Browser
