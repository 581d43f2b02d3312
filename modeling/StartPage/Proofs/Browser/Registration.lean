import Mathlib.Data.List.Basic
import StartPage.Proofs.Browser.Run

/-! Which intervals run and which listeners are registered. A ledger says so from the
answers of the steps and the faults of the browser alone, and the browser keeps to it. -/
namespace StartPage.Browser

/-- What a bring-up registers, by its numbers. -/
structure Registration where
  document : DocumentId
  interval : Nat
  wiring : Nat
  deriving DecidableEq, Repr

/-- The handle that holds it. -/
def Registration.handle (r : Registration) : Handle := .running r.document r.interval r.wiring

/-- What ought to be registered. -/
structure Ledger where
  /-- That of the present handle, if it is running. -/
  current : Option Registration := none
  /-- Those that were given up while there was no window to stop their intervals. -/
  unstopped : List Registration := []
  /-- Those that were given up while the browser refused to take listeners off. -/
  undetached : List Registration := []
  deriving DecidableEq, Repr

namespace Ledger

/-- The present handle as it ought to be: running and complete, or idle and empty. -/
def handle (l : Ledger) : Handle :=
  match l.current with
  | some r => r.handle
  | none => {}

/-- Give up the present registration, in a browser with its faults. -/
def release (l : Ledger) (w : World) : Ledger where
  current := none
  unstopped := l.unstopped ++ if w.isBroken .window then l.current.toList else []
  undetached := l.undetached ++ if w.isBroken .removeEventListener then l.current.toList else []

/-- Take on a registration in a document, under the next numbers of a browser. -/
def acquire (l : Ledger) (w : World) (document : DocumentId) : Ledger :=
  { l with current := some ⟨document, w.timersStarted + 1, w.wiringsMade + 1⟩ }

/-- The ledger after a step that a browser has answered. A bring-up through the present
handle gives up what that handle holds even when it fails, one through a handle of
its own only when it succeeds. -/
def next (l : Ledger) (w : World) : Step → Result → Ledger
  | .newHandle, _ | .destroy, _ | .free, _ => l.release w
  | .init _ document, .done => (l.release w).acquire w document
  | .init _ _, _ => l.release w
  | .start _, .done => (l.release w).acquire w .main
  | _, _ => l

/-- The ledger after several steps in turn. -/
def after (l : Ledger) (w : World) : List Step → Ledger
  | [] => l
  | step :: steps =>
    let done := w.performAfresh step
    (l.next w step done.1).after done.2 steps

end Ledger

namespace World

/-- The registrations have ascending numbers that the browser has used up. -/
structure Numbered (w : World) (rs : List Registration) : Prop where
  ascending : rs.Pairwise fun r s => r.interval < s.interval ∧ r.wiring < s.wiring
  used : ∀ r ∈ rs, r.interval ≤ w.timersStarted ∧ r.wiring ≤ w.wiringsMade

/-- The running intervals are those of some registrations and the listeners those of
others, in order. -/
structure Registers (w : World) (running listening : List Registration) : Prop where
  timers : w.timers.map (fun t => (t.id, t.wiring.id)) = running.map fun r => (r.interval, r.wiring)
  listeners : w.listeners.map (fun l => (l.document, l.wiring.id)) = listening.map fun r =>
    (r.document, r.wiring)
  running : w.Numbered running
  listening : w.Numbered listening

/-- What is thrown out of a list is one element, or nothing if that is refused. -/
theorem filter_between {α : Type} {p : α → Bool} {before later : List α} {a : α}
    (hOut : p a = false) (hIn : ∀ b ∈ before ++ later, p b = true) (refused : Bool) :
    (before ++ a :: later).filter (fun b => refused || p b) =
      before ++ (if refused then [a] else []) ++ later := by
  cases refused with
  | true => simp
  | false =>
      rw [if_neg Bool.false_ne_true, List.append_nil, List.filter_append]
      simp only [Bool.false_or]
      rw [List.filter_cons_of_neg (by simp [hOut]), ← List.filter_append,
        List.filter_eq_self.mpr hIn]

namespace Numbered

variable {w w' : World} {rs before later : List Registration} {r : Registration}

theorem mono (h : w.Numbered rs) (hStarted : w.timersStarted ≤ w'.timersStarted)
    (hMade : w.wiringsMade ≤ w'.wiringsMade) : w'.Numbered rs where
  ascending := h.ascending
  used r hMem := ⟨Nat.le_trans (h.used r hMem).1 hStarted, Nat.le_trans (h.used r hMem).2 hMade⟩

theorem sublist {kept : List Registration} (h : w.Numbered rs) (hKept : kept.Sublist rs) :
    w.Numbered kept where
  ascending := h.ascending.sublist hKept
  used r hMem := h.used r (hKept.subset hMem)

theorem acquire (h : w.Numbered rs) (document : DocumentId)
    (hStarted : w'.timersStarted = w.timersStarted + 1)
    (hMade : w'.wiringsMade = w.wiringsMade + 1) :
    w'.Numbered (rs ++ [⟨document, w.timersStarted + 1, w.wiringsMade + 1⟩]) where
  ascending := by
    refine List.pairwise_append.mpr ⟨h.ascending, List.pairwise_singleton _ _,
      fun r hMem s hNew => ?_⟩
    have hUsed := h.used r hMem
    rw [List.mem_singleton.mp hNew]
    exact ⟨Nat.lt_succ_of_le hUsed.1, Nat.lt_succ_of_le hUsed.2⟩
  used r hMem := by
    rcases List.mem_append.mp hMem with hOld | hNew
    · have hUsed := h.used r hOld
      omega
    · rw [List.mem_singleton.mp hNew]
      exact ⟨Nat.le_of_eq hStarted.symm, Nat.le_of_eq hMade.symm⟩

/-- No other registration has a number of the one that stands between them. -/
theorem other (h : w.Numbered (before ++ r :: later)) {s : Registration}
    (hMem : s ∈ before ++ later) :
    s.interval ≠ r.interval ∧ s.wiring ≠ r.wiring := by
  obtain ⟨-, hLater, hAcross⟩ := List.pairwise_append.mp h.ascending
  rcases List.mem_append.mp hMem with hBefore | hBehind
  · have hLess := hAcross s hBefore r List.mem_cons_self
    omega
  · have hLess := List.rel_of_pairwise_cons hLater hBehind
    omega

theorem filter_interval (h : w.Numbered (before ++ r :: later)) (refused : Bool) :
    ((before ++ r :: later).filter fun s => refused || r.handle.interval ≠ some s.interval) =
      before ++ (if refused then [r] else []) ++ later := by
  refine filter_between (by simp [Registration.handle, Handle.running]) (fun s hMem => ?_) refused
  have hOther := (h.other hMem).1
  simpa [Registration.handle, Handle.running] using hOther.symm

theorem filter_listener (h : w.Numbered (before ++ r :: later)) (refused : Bool) :
    ((before ++ r :: later).filter fun s =>
        refused || !(r.handle.document = some s.document && r.handle.onKeydown = some s.wiring)) =
      before ++ (if refused then [r] else []) ++ later := by
  refine filter_between (by simp [Registration.handle, Handle.running]) (fun s hMem => ?_) refused
  have hOther := (h.other hMem).2
  simp [Registration.handle, Handle.running, hOther.symm]

end Numbered

/-- Lists that look the same still do so after what is thrown out looks the same. -/
theorem map_filter_of_map_eq {α β γ : Type} {f : α → γ} {g : β → γ} {as : List α} {bs : List β}
    (h : as.map f = bs.map g) (p : γ → Bool) :
    (as.filter (p ∘ f)).map f = (bs.filter (p ∘ g)).map g := by
  rw [← List.filter_map, h, List.filter_map]

namespace Registers

variable {w w' : World} {running listening later : List Registration} {r : Registration}

theorem same (h : w.Registers running listening) (hSame : SameCallbacks w w') :
    w'.Registers running listening where
  timers := hSame.timers ▸ h.timers
  listeners := hSame.listeners ▸ h.listeners
  running := h.running.mono hSame.timersStarted hSame.wiringsMade
  listening := h.listening.mono hSame.timersStarted hSame.wiringsMade

theorem wired (h : w.Registers running listening) {options : Options} {document : DocumentId}
    {wiring : Wiring} (hWired : Wired w w' options document wiring) :
    w'.Registers (running ++ [⟨document, w.timersStarted + 1, w.wiringsMade + 1⟩])
      (listening ++ [⟨document, w.timersStarted + 1, w.wiringsMade + 1⟩]) where
  timers := by rw [hWired.timers, List.map_append, h.timers, List.map_append, ← hWired.id]; rfl
  listeners := by
    rw [hWired.listeners, List.map_append, h.listeners, List.map_append, ← hWired.id]; rfl
  running := h.running.acquire document hWired.timersStarted hWired.wiringsMade
  listening := h.listening.acquire document hWired.timersStarted hWired.wiringsMade

theorem takenDown (h : w.Registers running listening) {handle : Handle}
    (hDown : TakenDown w w' handle) {running' listening' : List Registration}
    (hRunning : (running.filter fun r => w.isBroken .window || handle.interval ≠ some r.interval) =
      running')
    (hListening : (listening.filter fun r => w.isBroken .removeEventListener ||
      !(handle.document = some r.document && handle.onKeydown = some r.wiring)) = listening') :
    w'.Registers running' listening' where
  timers := by
    rw [hDown.timers, ← hRunning]
    exact map_filter_of_map_eq h.timers fun ids => w.isBroken .window ||
      handle.interval ≠ some ids.1
  listeners := by
    rw [hDown.listeners, ← hListening]
    exact map_filter_of_map_eq h.listeners fun ids => w.isBroken .removeEventListener ||
      !(handle.document = some ids.1 && handle.onKeydown = some ids.2)
  running := (h.running.sublist (hRunning ▸ List.filter_sublist)).mono
    (Nat.le_of_eq hDown.timersStarted.symm) (Nat.le_of_eq hDown.wiringsMade.symm)
  listening := (h.listening.sublist (hListening ▸ List.filter_sublist)).mono
    (Nat.le_of_eq hDown.timersStarted.symm) (Nat.le_of_eq hDown.wiringsMade.symm)

theorem withHandle (h : w.Registers running listening) (handle : Option Handle) :
    { w with handle }.Registers running listening :=
  { h with
    running := h.running.mono (Nat.le_refl _) (Nat.le_refl _)
    listening := h.listening.mono (Nat.le_refl _) (Nat.le_refl _) }

/-- The numbers of the intervals and of their wirings have been used up. -/
theorem le_of_mem_timers (h : w.Registers running listening) {t : Timer} (hMem : t ∈ w.timers) :
    t.id ≤ w.timersStarted ∧ t.wiring.id ≤ w.wiringsMade := by
  have hIds : (t.id, t.wiring.id) ∈ running.map fun r => (r.interval, r.wiring) :=
    h.timers ▸ List.mem_map_of_mem hMem
  obtain ⟨r, hRunning, hSame⟩ := List.mem_map.mp hIds
  obtain ⟨hInterval, hWiring⟩ := Prod.mk.inj hSame
  rw [← hInterval, ← hWiring]
  exact h.running.used r hRunning

theorem le_of_mem_listeners (h : w.Registers running listening) {k : Listener}
    (hMem : k ∈ w.listeners) :
    k.wiring.id ≤ w.wiringsMade := by
  have hIds : (k.document, k.wiring.id) ∈ listening.map fun r => (r.document, r.wiring) :=
    h.listeners ▸ List.mem_map_of_mem hMem
  obtain ⟨r, hListening, hSame⟩ := List.mem_map.mp hIds
  rw [← (Prod.mk.inj hSame).2]
  exact (h.listening.used r hListening).2

/-- The number of the next interval is free. -/
theorem fresh (h : w.Registers running listening) : ∀ t ∈ w.timers, t.id ≤ w.timersStarted :=
  fun _ hMem => (h.le_of_mem_timers hMem).1

end Registers

end World

namespace Ledger

variable {l : Ledger} {w w' : World} {later : List Registration}

theorem release_of_idle (h : l.current = none) (w : World) : l.release w = l := by
  obtain ⟨current, unstopped, undetached⟩ := l
  cases h
  simp [release]

/-- What is left when the present handle is replaced is what the ledger says. The
registrations behind its own are not touched. -/
theorem registers_replaceHandle
    (h : w.Registers (l.unstopped ++ (l.current.toList ++ later))
      (l.undetached ++ (l.current.toList ++ later)))
    (hHandle : w.handle.getD {} = l.handle) (handle : Option Handle) :
    (w.replaceHandle handle).Registers ((l.release w).unstopped ++ later)
      ((l.release w).undetached ++ later) := by
  have hDown := World.takenDown_replaceHandle w handle
  rw [hHandle] at hDown
  obtain ⟨current, unstopped, undetached⟩ := l
  cases current with
  | none =>
      have hKept : { w with handle }.Registers (unstopped ++ later) (undetached ++ later) :=
        h.withHandle handle
      refine hKept.takenDown hDown ?_ ?_ <;> simp [release, Ledger.handle]
  | some r =>
      exact (h.withHandle handle).takenDown hDown (h.running.filter_interval _)
        (h.listening.filter_listener _)

/-- The browser is as the ledger says. -/
structure Accounts (l : Ledger) (w : World) : Prop where
  registers : w.Registers (l.unstopped ++ l.current.toList) (l.undetached ++ l.current.toList)
  handle : w.handle.getD {} = l.handle

theorem release_congr (hBroken : w'.broken = w.broken) : l.release w' = l.release w := by
  unfold release World.isBroken
  rw [hBroken]

theorem unstopped_next (hWorks : w.isBroken .window = false) (step : Step) (result : Result) :
    (l.next w step result).unstopped = l.unstopped := by
  have hRelease : (l.release w).unstopped = l.unstopped := by simp [release, hWorks]
  unfold next
  split <;> first | exact hRelease | rfl

theorem undetached_next (hWorks : w.isBroken .removeEventListener = false) (step : Step)
    (result : Result) :
    (l.next w step result).undetached = l.undetached := by
  have hRelease : (l.release w).undetached = l.undetached := by simp [release, hWorks]
  unfold next
  split <;> first | exact hRelease | rfl

theorem acquire_congr (hStarted : w'.timersStarted = w.timersStarted)
    (hMade : w'.wiringsMade = w.wiringsMade) (document : DocumentId) :
    l.acquire w' document = l.acquire w document := by
  unfold acquire
  rw [hStarted, hMade]

/-- The present handle holds the callbacks of its own registration and of no other. -/
theorem map_held {before : List Registration} {β : Type}
    (h : w.Numbered (before ++ l.current.toList)) (f : Registration → β) :
    (before ++ l.current.toList).map
        (fun r => (f r, r.wiring, decide (l.handle.onTick = some r.wiring))) =
      before.map (fun r => (f r, r.wiring, false)) ++
        l.current.toList.map fun r => (f r, r.wiring, true) := by
  obtain ⟨-, -, hAcross⟩ := List.pairwise_append.mp h.ascending
  rw [List.map_append]
  unfold Ledger.handle at *
  cases hCurrent : l.current with
  | none => rfl
  | some c =>
      rw [hCurrent] at hAcross
      congr 1
      · refine List.map_congr_left fun r hMem => ?_
        have hLess := (hAcross r hMem c List.mem_cons_self).2
        simp [Registration.handle, Handle.running, Nat.ne_of_gt hLess]
      · simp [Registration.handle, Handle.running]

namespace Accounts

/-- Before the first step nothing is registered, whatever the documents hold. -/
theorem blank (elements : List Element) (main other : Document) :
    Accounts {} { elements, main, other } where
  registers := ⟨rfl, rfl, ⟨.nil, by simp⟩, ⟨.nil, by simp⟩⟩
  handle := rfl

theorem initial : Accounts {} World.initial := blank ..

theorem same (h : l.Accounts w) (hSame : World.SameCallbacks w w') : l.Accounts w' where
  registers := h.registers.same hSame
  handle := by rw [hSame.handle, h.handle]

theorem afresh (h : l.Accounts w) : l.Accounts { w with calls := [], log := [] } :=
  h.same ⟨rfl, rfl, rfl, Nat.le_refl _, Nat.le_refl _⟩

theorem current_eq_none (h : l.Accounts w) (hNone : w.handle = none) : l.current = none := by
  have hIdle : ({} : Handle) = l.handle := by rw [← h.handle, hNone]; rfl
  unfold Ledger.handle at hIdle
  split at hIdle
  · cases hIdle
  · next hCurrent => exact hCurrent

/-- An idle handle, or none, in the place of the present one. -/
theorem release (h : l.Accounts w) {handle : Option Handle} (hIdle : handle.getD {} = {}) :
    (l.release w).Accounts (w.replaceHandle handle) where
  registers := by
    have hRegisters : w.Registers (l.unstopped ++ (l.current.toList ++ []))
        (l.undetached ++ (l.current.toList ++ [])) := by simpa using h.registers
    simpa [Ledger.release] using registers_replaceHandle hRegisters h.handle handle
  handle := by
    rw [(World.takenDown_replaceHandle w handle).handle]
    exact hIdle

/-- A wiring under an idle handle, or none, and then its own handle in the place of that. -/
theorem acquire (h : l.Accounts w) (hIdle : l.current = none) {options : Options}
    {document : DocumentId} {wiring : Wiring} (hWired : World.Wired w w' options document wiring) :
    (l.acquire w document).Accounts
      { w' with handle := some (.running document (w.timersStarted + 1) wiring.id) } where
  registers := by
    have hRegisters := h.registers.wired hWired
    rw [hIdle, Option.toList_none, List.append_nil, List.append_nil] at hRegisters
    exact hRegisters.withHandle _
  handle := by
    rw [hWired.id]
    rfl

theorem init (h : l.Accounts w) (options : Options) (document : DocumentId) :
    (l.next w (.init options document) (w.init options document).1).Accounts
      (w.init options document).2 := by
  have hReleased : (l.release w).Accounts (w.replaceHandle (some {})) := h.release rfl
  rcases World.init_cases h.registers.fresh options document with
    ⟨hNone, hInit⟩ | ⟨e, w', hInit, hSame, -⟩ | ⟨wiring, up, hWired, hInit⟩
  · rw [hInit]
    change (l.release w).Accounts w
    rw [release_of_idle (h.current_eq_none hNone)]
    exact h
  · rw [hInit]
    exact hReleased.same hSame
  · have hDown := World.takenDown_replaceHandle w (some {})
    have hAcquired := hReleased.acquire rfl hWired
    rw [hInit]
    rwa [acquire_congr hDown.timersStarted hDown.wiringsMade, hDown.timersStarted] at hAcquired

theorem start (h : l.Accounts w) (options : Options) :
    (l.next w (.start options) (w.start options).1).Accounts (w.start options).2 := by
  rcases World.start_cases h.registers.fresh options with
    ⟨e, w', hStart, hSame, -⟩ | ⟨wiring, up, hWired, hStart⟩
  · rw [hStart]
    exact h.same hSame
  · have hUp := h.registers.wired hWired
    rw [List.append_assoc, List.append_assoc] at hUp
    have hHandle : up.handle.getD {} = l.handle := by rw [hWired.handle, h.handle]
    have hLeft :=
      registers_replaceHandle hUp hHandle (some (.running .main (w.timersStarted + 1) wiring.id))
    rw [release_congr hWired.broken] at hLeft
    rw [hStart]
    refine ⟨hLeft, ?_⟩
    rw [(World.takenDown_replaceHandle up _).handle, hWired.id]
    rfl

/-- Every step keeps the browser as the ledger says. -/
theorem next (h : l.Accounts w) (step : Step) :
    (l.next w step (w.performAfresh step).1).Accounts (w.performAfresh step).2 := by
  cases step with
  | newHandle => exact h.afresh.release rfl
  | init options document => exact h.afresh.init options document
  | start options => exact h.afresh.start options
  | destroy =>
      change (l.release w).Accounts _
      dsimp only [World.performAfresh, World.perform]
      split
      · next hNone =>
          rw [release_of_idle (h.current_eq_none hNone)]
          exact h.afresh
      · exact h.afresh.release rfl
  | free => exact h.afresh.release rfl
  | key | fire | setTime | type | remove | put | breakDown | fix =>
      exact h.same (w.sameCallbacks_performAfresh rfl)

theorem after (h : l.Accounts w) (steps : List Step) :
    (l.after w steps).Accounts (w.after steps) := by
  induction steps generalizing l w with
  | nil => exact h
  | cons step steps ih => exact ih (h.next step)

/-- Only the step that breaks a facility down breaks it. -/
theorem isBroken_performAfresh (h : l.Accounts w) {f : Facility} (hWorks : w.isBroken f = false)
    {step : Step} (hStep : step ≠ .breakDown f) : (w.performAfresh step).2.isBroken f = false := by
  cases hQuiet : step.isQuiet with
  | false =>
      obtain ⟨handle, hView⟩ := World.sameView_performAfresh h.registers.fresh hQuiet
      rw [hView.isBroken]
      exact hWorks
  | true =>
      cases step with
      | newHandle | init | start | destroy | free => cases hQuiet
      | key input document =>
          obtain ⟨calls, log, hPress⟩ := World.performAfresh_key w input document
          rw [hPress]
          exact hWorks
      | fire =>
          exact ((World.steady_fire { w with calls := [], log := [] }).isBroken f).trans hWorks
      | setTime => exact hWorks
      | type text document => exact ((w.steady_type text document).isBroken f).trans hWorks
      | remove selector document => cases document <;> exact hWorks
      | put selector tag document => cases document <;> exact hWorks
      | breakDown g =>
          have hOther : f ≠ g := fun hSame => hStep (congrArg Step.breakDown hSame.symm)
          change (g :: w.broken).contains f = false
          rw [List.contains_cons, beq_false_of_ne hOther]
          exact hWorks
      | fix g =>
          have hNone : f ∉ w.broken := by simpa [World.isBroken] using hWorks
          change (w.broken.filter (· ≠ g)).contains f = false
          rw [← Bool.not_eq_true, List.contains_iff_mem]
          exact fun hMem => hNone (List.mem_of_mem_filter hMem)

/-- Without the fault no interval is left behind. -/
theorem unstopped_after (h : l.Accounts w) (hWorks : w.isBroken .window = false) {steps : List Step}
    (hSteps : .breakDown .window ∉ steps) : (l.after w steps).unstopped = l.unstopped := by
  induction steps generalizing l w with
  | nil => rfl
  | cons step steps ih =>
      rw [List.mem_cons, not_or] at hSteps
      have hNext := h.isBroken_performAfresh hWorks (Ne.symm hSteps.1)
      exact (ih (h.next step) hNext hSteps.2).trans (unstopped_next hWorks step _)

/-- Without the fault no listener is left behind. -/
theorem undetached_after (h : l.Accounts w) (hWorks : w.isBroken .removeEventListener = false)
    {steps : List Step} (hSteps : .breakDown .removeEventListener ∉ steps) :
    (l.after w steps).undetached = l.undetached := by
  induction steps generalizing l w with
  | nil => rfl
  | cons step steps ih =>
      rw [List.mem_cons, not_or] at hSteps
      have hNext := h.isBroken_performAfresh hWorks (Ne.symm hSteps.1)
      exact (ih (h.next step) hNext hSteps.2).trans (undetached_next hWorks step _)

/-- The callbacks that the present handle holds are those of the ledger's own registration. -/
theorem ticks_eq (h : l.Accounts w) (wiring : Wiring) :
    w.ticks wiring = decide (l.handle.onTick = some wiring.id) := by
  rw [← h.handle]
  unfold World.ticks
  cases w.handle <;> rfl

theorem hearsKeys_eq (h : l.Accounts w) (wiring : Wiring) :
    w.hearsKeys wiring = decide (l.handle.onTick = some wiring.id) := by
  have hSame : l.handle.onKeydown = l.handle.onTick := by
    unfold Ledger.handle
    cases l.current <;> rfl
  rw [← hSame, ← h.handle]
  unfold World.hearsKeys
  cases w.handle <;> rfl

/-- Of the running intervals only that of the present handle still has a callback. -/
theorem map_timers (h : l.Accounts w) :
    w.timers.map (fun t => (t.id, t.wiring.id, w.ticks t.wiring)) =
      l.unstopped.map (fun r => (r.interval, r.wiring, false)) ++
        l.current.toList.map fun r => (r.interval, r.wiring, true) := by
  have hTimers :=
    congrArg (List.map fun ids => (ids.1, ids.2, decide (l.handle.onTick = some ids.2)))
      h.registers.timers
  rw [List.map_map, List.map_map] at hTimers
  simp only [h.ticks_eq]
  exact hTimers.trans (map_held h.registers.running Registration.interval)

/-- Of the listeners only that of the present handle still has a callback. -/
theorem map_listeners (h : l.Accounts w) :
    w.listeners.map (fun k => (k.document, k.wiring.id, w.hearsKeys k.wiring)) =
      l.undetached.map (fun r => (r.document, r.wiring, false)) ++
        l.current.toList.map fun r => (r.document, r.wiring, true) := by
  have hListeners :=
    congrArg (List.map fun ids => (ids.1, ids.2, decide (l.handle.onTick = some ids.2)))
      h.registers.listeners
  rw [List.map_map, List.map_map] at hListeners
  simp only [h.hearsKeys_eq]
  exact hListeners.trans (map_held h.registers.listening Registration.document)

/-- A tick calls the interval of the present handle, and finds those that were left
behind dead. -/
theorem fire_answer (h : l.Accounts w) :
    w.fire.1 = .delivered l.current.toList.length l.unstopped.length := by
  have hAll := congrArg List.length h.map_timers
  have hLive :=
    congrArg (fun entries => (entries.filter fun entry => entry.2.2).length) h.map_timers
  simp only [List.length_map, List.length_append] at hAll
  simp only [List.filter_map, List.filter_append, Function.comp_def, List.length_map,
    List.length_append, List.filter_false, List.filter_true, List.length_nil, Nat.zero_add] at hLive
  unfold World.fire
  simp only [List.filter_map, List.length_map, Function.comp_def, hLive, hAll, Nat.add_sub_cancel]

/-- A key press calls the listener of the present handle if it is in that document, and
finds those that were left behind there dead. -/
theorem press_answer (h : l.Accounts w) (input : KeyInput) (d : DocumentId) :
    (w.press input d).1 =
      .delivered (l.current.toList.filter (·.document = d)).length
        (l.undetached.filter (·.document = d)).length := by
  have hHere :=
    congrArg (fun entries => entries.filter fun entry => decide (entry.1 = d)) h.map_listeners
  have hAll := congrArg List.length hHere
  have hLive := congrArg (fun entries => (entries.filter fun entry => entry.2.2).length) hHere
  simp only [List.filter_map, List.filter_append, Function.comp_def, List.length_map,
    List.length_append] at hAll
  simp only [List.filter_map, List.filter_append, Function.comp_def, List.length_map,
    List.length_append, List.filter_false, List.filter_true, List.length_nil, Nat.zero_add] at hLive
  unfold World.press
  simp only [List.filter_map, List.length_map, Function.comp_def, hLive, hAll, Nat.add_sub_cancel]

end Accounts

/-- A list that looks like at most one thing has at most one element, which looks like it. -/
theorem at_most_one {α β γ : Type} {as : List α} {current : Option β} {f : α → γ} {g : β → γ}
    (h : as.map f = current.toList.map g) (live : γ → Bool) (hLive : ∀ b, live (g b) = true) :
    as.length ≤ 1 ∧ ∀ a ∈ as, live (f a) = true := by
  have hLength := congrArg List.length h
  rw [List.length_map, List.length_map] at hLength
  refine ⟨hLength ▸ Option.length_toList_le, fun a hMem => ?_⟩
  obtain ⟨b, -, hSame⟩ := List.mem_map.mp (h ▸ List.mem_map_of_mem hMem)
  rw [← hSame]
  exact hLive b

/-- After every step of every run the browser is as the ledger of the run says. The handle
is complete or empty. There is one interval for it, if it is running, and one dead one for
each running handle that was taken down without a window; and likewise one listener, in the
document of its bring-up, and one dead one for each refusal to take a listener off. Without
those two faults nothing is left behind and nothing is ever dead. -/
theorem registered_after (steps : List Step) :
    let w := World.initial.after steps
    let l := Ledger.after {} World.initial steps
    (w.handle.getD {} = l.handle ∧ ∀ h, w.handle = some h →
      h.document.isSome = h.isRunning ∧ h.interval.isSome = h.isRunning ∧
        h.onKeydown.isSome = h.isRunning ∧ h.onTick.isSome = h.isRunning) ∧
    w.timers.map (fun t => (t.id, t.wiring.id, w.ticks t.wiring)) =
      l.unstopped.map (fun r => (r.interval, r.wiring, false)) ++
        l.current.toList.map (fun r => (r.interval, r.wiring, true)) ∧
    w.listeners.map (fun k => (k.document, k.wiring.id, w.hearsKeys k.wiring)) =
      l.undetached.map (fun r => (r.document, r.wiring, false)) ++
        l.current.toList.map (fun r => (r.document, r.wiring, true)) ∧
    (w.performAfresh .fire).1 = .delivered l.current.toList.length l.unstopped.length ∧
    (∀ input d, (w.performAfresh (.key input d)).1 =
      .delivered (l.current.toList.filter (·.document = d)).length
        (l.undetached.filter (·.document = d)).length) ∧
    (l.unstopped = [] → w.timers.length ≤ 1 ∧ ∀ t ∈ w.timers, w.ticks t.wiring = true) ∧
    (l.undetached = [] → w.listeners.length ≤ 1 ∧ ∀ k ∈ w.listeners, w.hearsKeys k.wiring = true) ∧
    (.breakDown .window ∉ steps → l.unstopped = []) ∧
    (.breakDown .removeEventListener ∉ steps → l.undetached = []) := by
  intro w l
  have hAccounts : l.Accounts w := Accounts.initial.after steps
  refine ⟨⟨hAccounts.handle, fun h hHandle => ?_⟩, hAccounts.map_timers, hAccounts.map_listeners,
    hAccounts.afresh.fire_answer, hAccounts.afresh.press_answer, fun hNone => ?_, fun hNone => ?_,
    Accounts.initial.unstopped_after rfl, Accounts.initial.undetached_after rfl⟩
  · have hSame : h = l.handle := by rw [← hAccounts.handle, hHandle]; rfl
    rw [hSame]
    unfold Ledger.handle
    cases l.current <;> exact ⟨rfl, rfl, rfl, rfl⟩
  · have hTimers := hAccounts.map_timers
    rw [hNone] at hTimers
    exact at_most_one hTimers (fun entry => entry.2.2) fun _ => rfl
  · have hListeners := hAccounts.map_listeners
    rw [hNone] at hListeners
    exact at_most_one hListeners (fun entry => entry.2.2) fun _ => rfl

end Ledger

end StartPage.Browser
