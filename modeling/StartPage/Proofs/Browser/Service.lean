import StartPage.Proofs.Browser.Document
import StartPage.Proofs.LocalTime

/-! A browser that serves a wiring. Of all its callbacks those of the wiring are the only
ones that are still held, and they stay so through every quiet step. -/
namespace StartPage.Browser

namespace World

/-- The text that an element shows. -/
def textOf (w : World) (id : ElementId) : Option String := w.elements[id]?.map Element.text

/-- Two elements show a frame. -/
def Shows (w : World) (clock title : ElementId) (frame : ClockFrame) : Prop :=
  w.textOf clock = some frame.clockText ∧ w.textOf title = some frame.title

/-- A tick calls the wiring and nothing else, and so does a key press in its document. -/
structure Serves (w : World) (document : DocumentId) (wiring : Wiring) : Prop where
  ticking : (w.timers.map Timer.wiring).filter w.ticks = [wiring]
  hearing : ∀ d, ((w.listeners.filter (·.document = d)).map Listener.wiring).filter w.hearsKeys =
    if d = document then [wiring] else []
  clock : wiring.clock < w.elements.length
  title : wiring.title < w.elements.length
  apart : wiring.clock ≠ wiring.title

theorem textOf_setText (w : World) {id : ElementId} (h : id < w.elements.length) (other : ElementId)
    (text : String) :
    (w.modifyElement id (·.setText text)).textOf other =
      if id = other then some text else w.textOf other := by
  unfold textOf modifyElement
  dsimp only
  rw [List.getElem?_modify]
  split
  · next hSame =>
      rw [← hSame, List.getElem?_eq_getElem h]
      rfl
  · exact congrArg _ (id_map' _)

/-- After a tick the two elements of the wiring show the frame of the present time. -/
theorem shows_tick (w : World) {wiring : Wiring} (hClock : wiring.clock < w.elements.length)
    (hTitle : wiring.title < w.elements.length) (hApart : wiring.clock ≠ wiring.title) :
    (w.tick wiring).Shows wiring.clock wiring.title
      (ClockFrame.render w.now wiring.page.displayName) := by
  let frame := ClockFrame.render w.now wiring.page.displayName
  have hLength : wiring.title < ((w.logged [frame.event]).modifyElement wiring.clock
      (·.setText frame.clockText)).elements.length := by
    rw [(SameView.modifyElement _ _ _).elements]
    exact hTitle
  refine ⟨?_, (textOf_setText _ hLength _ _).trans (if_pos rfl)⟩
  exact ((textOf_setText _ hLength _ _).trans (if_neg hApart.symm)).trans
    ((textOf_setText _ hClock _ _).trans (if_pos rfl))

/-- The local time is that of the three numbers, days being left out, unless the sum of
the seconds is too large for a word. -/
theorem total_now (w : World)
    (h : w.hour.toNat * 3600 + w.minute.toNat * 60 + w.second.toNat < UInt32.size) :
    w.now.total = (w.hour.toNat * 3600 + w.minute.toNat * 60 + w.second.toNat) % 86400 := by
  have hSum : (w.hour * 3600 + w.minute * 60 + w.second).toNat =
      w.hour.toNat * 3600 + w.minute.toNat * 60 + w.second.toNat := by
    unfold UInt32.size at h
    simp only [UInt32.toNat_add, UInt32.toNat_mul, UInt32.reduceToNat]
    omega
  rw [← hSum]
  exact LocalTime.total_ofSeconds _

/-- If all that a list looks like is dead but the last, one of its elements is alive. -/
theorem filter_of_map_eq {α β : Type} {as : List α} {f : α → β} {p : β → Bool} {dead : List β}
    {b : β} (h : as.map f = dead ++ [b]) (hDead : ∀ d ∈ dead, p d = false) (hLive : p b = true) :
    ∃ a ∈ as, f a = b ∧ as.filter (p ∘ f) = [a] := by
  have hFilter : (as.filter (p ∘ f)).map f = [b] := by
    rw [← List.filter_map, h, List.filter_append, List.filter_cons_of_pos hLive, List.filter_nil,
      List.filter_eq_nil_iff.mpr fun d hMem => by simp [hDead d hMem]]
    rfl
  obtain ⟨a, hOnly, hSame⟩ := List.map_eq_singleton_iff.mp hFilter
  have hMem : a ∈ as.filter (p ∘ f) := hOnly ▸ List.mem_singleton_self a
  exact ⟨a, List.mem_of_mem_filter hMem, hSame, hOnly⟩

namespace Serves

variable {w w' : World} {document : DocumentId} {wiring : Wiring}

/-- Nothing but a registration makes a browser serve somebody else. -/
theorem same (h : w.Serves document wiring) (hSame : SameCallbacks w w')
    (hLength : w.elements.length ≤ w'.elements.length) : w'.Serves document wiring := by
  have hTicks : w'.ticks = w.ticks := by
    funext wiring
    unfold ticks
    rw [hSame.handle]
  have hHears : w'.hearsKeys = w.hearsKeys := by
    funext wiring
    unfold hearsKeys
    rw [hSame.handle]
  exact
    { ticking := by rw [hSame.timers, hTicks]; exact h.ticking
      hearing := by rw [hSame.listeners, hHears]; exact h.hearing
      clock := Nat.lt_of_lt_of_le h.clock hLength
      title := Nat.lt_of_lt_of_le h.title hLength
      apart := h.apart }

/-- A browser that is as its ledger says serves the wiring of the present registration. -/
theorem of_accounts {l : Ledger} {r : Registration} (h : l.Accounts w)
    (hCurrent : l.current = some r)
    (hTimers : ∀ t ∈ w.timers, t.wiring.id = r.wiring → t.wiring = wiring)
    (hListeners : ∀ k ∈ w.listeners, k.wiring.id = r.wiring → k.wiring = wiring)
    (hClock : wiring.clock < w.elements.length) (hTitle : wiring.title < w.elements.length)
    (hApart : wiring.clock ≠ wiring.title) : w.Serves r.document wiring := by
  have hTimersEq := h.map_timers
  have hListenersEq := h.map_listeners
  rw [hCurrent] at hTimersEq hListenersEq
  obtain ⟨t, hTimer, hTimerId, hTicking⟩ :=
    filter_of_map_eq (p := fun entry => entry.2.2) hTimersEq (by simp) rfl
  obtain ⟨k, hListener, hListenerId, hHearing⟩ :=
    filter_of_map_eq (p := fun entry => entry.2.2) hListenersEq (by simp) rfl
  obtain ⟨hDocument, hListenerId⟩ := Prod.mk.inj hListenerId
  have hTimerWiring := hTimers t hTimer (Prod.mk.inj (Prod.mk.inj hTimerId).2).1
  have hListenerWiring := hListeners k hListener (Prod.mk.inj hListenerId).1
  refine ⟨?_, fun d => ?_, hClock, hTitle, hApart⟩
  · rw [List.filter_map]
    exact (congrArg (List.map Timer.wiring) hTicking).trans
      (congrArg (fun wiring => [wiring]) hTimerWiring)
  · have hInDocument :
        (w.listeners.filter (w.hearsKeys ∘ Listener.wiring)).filter (·.document = d) =
        [k].filter (·.document = d) := congrArg (List.filter _) hHearing
    rw [List.filter_map, List.filter_comm, hInDocument, List.filter_singleton, hDocument]
    by_cases hHere : d = r.document
    · rw [if_pos hHere, decide_eq_true hHere.symm]
      exact congrArg (fun wiring => [wiring]) hListenerWiring
    · rw [if_neg hHere, decide_eq_false (Ne.symm hHere)]
      rfl

theorem fire_eq (h : w.Serves document wiring) : w.fire.2 = w.tick wiring := by
  unfold fire
  dsimp only
  rw [h.ticking]
  rfl

theorem press_eq (h : w.Serves document wiring) (input : KeyInput) (d : DocumentId) :
    (w.press input d).2 = if d = document then w.keydown wiring input else w := by
  unfold press
  dsimp only
  rw [h.hearing]
  split <;> rfl

end Serves

/-- The second world is the first one after a wiring has been made and has taken over.
Callbacks of others may have been taken off, but none has been added. -/
structure Opened (w w' : World) (options : Options) (document : DocumentId) (wiring : Wiring) :
    Prop where
  describes : wiring.Describes options document w
  timers : ∀ t ∈ w'.timers, t ∈ w.timers ∨ t.wiring = wiring
  listeners : ∀ k ∈ w'.listeners, k ∈ w.listeners ∨ k.wiring = wiring
  drawn : ∃ u : World, u.now = w.now ∧ u.elements.length = w.elements.length ∧
    w'.elements = (u.tick wiring).elements

namespace Opened

variable {w w' : World} {options : Options} {document : DocumentId} {wiring : Wiring}

theorem of_wired (h : Wired w w' options document wiring) :
    Opened w w' options document wiring where
  describes := h.describes
  timers t hMem := by
    rw [h.timers, List.mem_append, List.mem_singleton] at hMem
    exact hMem.imp_right fun hNew => by rw [hNew]
  listeners k hMem := by
    rw [h.listeners, List.mem_append, List.mem_singleton] at hMem
    exact hMem.imp_right fun hNew => by rw [hNew]
  drawn := by
    obtain ⟨u, hView, hDrawn⟩ := h.drawn
    exact ⟨u, hView.now, hView.elements, hDrawn⟩

/-- Taking a handle down before a wiring is made only takes callbacks off. -/
theorem of_replaceHandle {handle : Option Handle}
    (h : Opened (w.replaceHandle handle) w' options document wiring) :
    Opened w w' options document wiring := by
  have hDown := takenDown_replaceHandle w handle
  have hFind := hDown.find
  obtain ⟨u, hNow, hLength, hDrawn⟩ := h.drawn
  exact
    { describes :=
        { page := h.describes.page
          searchField := (hFind _ _).symm.trans h.describes.searchField
          clock := (hFind _ _).symm.trans h.describes.clock
          title := (hFind _ _).symm.trans h.describes.title }
      timers := fun t hMem => (h.timers t hMem).imp_left fun hOld => by
        rw [hDown.timers] at hOld
        exact List.mem_of_mem_filter hOld
      listeners := fun k hMem => (h.listeners k hMem).imp_left fun hOld => by
        rw [hDown.listeners] at hOld
        exact List.mem_of_mem_filter hOld
      drawn := ⟨u, hNow.trans hDown.now, hLength.trans hDown.elements, hDrawn⟩ }

/-- Taking a handle down after a wiring has been made only takes callbacks off. -/
theorem replaceHandle (h : Opened w w' options document wiring) (handle : Option Handle) :
    Opened w (w'.replaceHandle handle) options document wiring := by
  have hDown := takenDown_replaceHandle w' handle
  obtain ⟨u, hNow, hLength, hDrawn⟩ := h.drawn
  exact
    { h with
      timers := fun t hMem => h.timers t (by
        rw [hDown.timers] at hMem
        exact List.mem_of_mem_filter hMem)
      listeners := fun k hMem => h.listeners k (by
        rw [hDown.listeners] at hMem
        exact List.mem_of_mem_filter hMem)
      drawn := ⟨u, hNow, hLength, hDown.shown.trans hDrawn⟩ }

end Opened

end World

/-- The settings and the document with which a step brings a page up. -/
def Step.opens : Step → Option (Options × DocumentId)
  | .init options document => some (options, document)
  | .start options => some (options, .main)
  | _ => none

theorem Step.isQuiet_of_opens {step : Step} {options : Options} {document : DocumentId}
    (h : step.opens = some (options, document)) : step.isQuiet = false := by
  cases step with
  | init | start => rfl
  | newHandle | destroy | free | key | fire | setTime | type | remove | put | breakDown | fix =>
      cases h

namespace World

variable {w : World} {options : Options} {document : DocumentId} {step : Step}

theorem opened_performAfresh (hFresh : ∀ t ∈ w.timers, t.id ≤ w.timersStarted)
    (hOpens : step.opens = some (options, document)) (hDone : (w.performAfresh step).1 = .done) :
    ∃ wiring, Opened { w with calls := [], log := [] }
      (w.performAfresh step).2 options document wiring := by
  cases step with
  | init _ _ =>
      cases hOpens
      change (init { w with calls := [], log := [] } options document).1 = .done at hDone
      change ∃ wiring,
        Opened _ (init { w with calls := [], log := [] } options document).2 options document wiring
      rcases init_cases (w := { w with calls := [], log := [] }) hFresh options document with
        ⟨-, hInit⟩ | ⟨e, w', hInit, -⟩ | ⟨wiring, up, hWired, hInit⟩
      · rw [hInit] at hDone
        cases hDone
      · rw [hInit] at hDone
        cases hDone
      · rw [hInit]
        exact ⟨wiring, { Opened.of_replaceHandle (.of_wired hWired) with }⟩
  | start _ =>
      cases hOpens
      change (start { w with calls := [], log := [] } options).1 = .done at hDone
      change ∃ wiring,
        Opened _ (start { w with calls := [], log := [] } options).2 options .main wiring
      rcases start_cases (w := { w with calls := [], log := [] }) hFresh options with
        ⟨e, w', hStart, -⟩ | ⟨wiring, up, hWired, hStart⟩
      · rw [hStart] at hDone
        cases hDone
      · rw [hStart]
        exact ⟨wiring, (Opened.of_wired hWired).replaceHandle _⟩
  | newHandle | destroy | free | key | fire | setTime | type | remove | put | breakDown | fix =>
      cases hOpens

end World

end StartPage.Browser
