import StartPage.Proofs.Browser.Failure
import StartPage.Proofs.Browser.Request

/-! A page that is brought up beside one that is there. The old page is taken down only after the
new one is up: a bring-up that fails leaves the old page running, and one that succeeds leaves
nothing of it. -/
namespace StartPage.Browser

theorem Wiring.Describes.options_page {wiring : Wiring} {options : Options} {document : DocumentId}
    {w : World} (h : wiring.Describes options document w) : options.page = .ok wiring.page := by
  obtain ⟨config, log, hConfig, hCreate⟩ := h.page
  rw [Options.page, hConfig]
  dsimp only
  rw [hCreate]

namespace Ledger.Accounts

variable {l : Ledger} {w : World}

/-- The present handle is empty or it is that of the ledger's own registration. -/
theorem idle_or_running (h : l.Accounts w) :
    w.handle.getD {} = {} ∨ ∃ r, l.current = some r ∧ w.handle.getD {} = r.handle := by
  rw [h.handle]
  unfold Ledger.handle
  cases l.current with
  | none => exact .inl rfl
  | some r => exact .inr ⟨r, rfl, rfl⟩

/-- The interval of a running handle runs, and its callback is alive. -/
theorem exists_timer (h : l.Accounts w) {r : Registration} (hCurrent : l.current = some r) :
    ∃ t ∈ w.timers, t.id = r.interval ∧ w.ticks t.wiring = true := by
  have hMem : (r.interval, r.wiring, true) ∈ w.timers.map fun t =>
      (t.id, t.wiring.id, w.ticks t.wiring) := by
    rw [h.map_timers, hCurrent]
    exact List.mem_append_right _ List.mem_cons_self
  obtain ⟨t, hTimer, hSame⟩ := List.mem_map.mp hMem
  simp only [Prod.mk.injEq] at hSame
  exact ⟨t, hTimer, hSame.1, hSame.2.2⟩

/-- The listener of a running handle is registered in its document, and its callback is alive. -/
theorem exists_listener (h : l.Accounts w) {r : Registration} (hCurrent : l.current = some r) :
    ∃ k ∈ w.listeners, k.document = r.document ∧ k.wiring.id = r.wiring ∧
      w.hearsKeys k.wiring = true := by
  have hMem : (r.document, r.wiring, true) ∈
      w.listeners.map fun k => (k.document, k.wiring.id, w.hearsKeys k.wiring) := by
    rw [h.map_listeners, hCurrent]
    exact List.mem_append_right _ List.mem_cons_self
  obtain ⟨k, hListener, hSame⟩ := List.mem_map.mp hMem
  simp only [Prod.mk.injEq] at hSame
  exact ⟨k, hListener, hSame⟩

/-- The listener that the handle holds is in the document of the handle, and has its number for
itself. -/
theorem document_of_onKeydown (h : l.Accounts w) {k : Listener} (hMem : k ∈ w.listeners)
    (hHeld : (w.handle.getD {}).onKeydown = some k.wiring.id) :
    (w.handle.getD {}).document = some k.document := by
  rcases h.idle_or_running with hIdle | ⟨r, hCurrent, hHandle⟩
  · rw [hIdle] at hHeld
    cases hHeld
  rw [hHandle] at hHeld ⊢
  have hNumber : r.wiring = k.wiring.id := Option.some.inj hHeld
  have hListening : w.Numbered (l.undetached ++ [r]) := by
    have hListening := h.registers.listening
    rwa [hCurrent] at hListening
  have hIds : (k.document, k.wiring.id) ∈ w.listeners.map fun k => (k.document, k.wiring.id) :=
    List.mem_map_of_mem hMem
  rw [h.registers.listeners, hCurrent] at hIds
  obtain ⟨s, hRegistered, hSame⟩ := List.mem_map.mp hIds
  obtain ⟨hDocument, hWiring⟩ := Prod.mk.inj hSame
  rcases List.mem_append.mp hRegistered with hLeft | hOwn
  · have hOther := hListening.other (List.mem_append_left [] hLeft)
    exact absurd (hWiring.trans hNumber.symm) hOther.2
  · rw [← hDocument, List.mem_singleton.mp hOwn]
    rfl

/-- The next numbers are not those that the handle holds. -/
theorem holds_no_fresh (h : l.Accounts w) :
    (w.handle.getD {}).interval ≠ some (w.timersStarted + 1) ∧
      (w.handle.getD {}).onKeydown ≠ some (w.wiringsMade + 1) := by
  rcases h.idle_or_running with hIdle | ⟨r, hCurrent, hHandle⟩
  · rw [hIdle]
    exact ⟨nofun, nofun⟩
  · have hUsed := h.registers.running.used r (by rw [hCurrent]; simp)
    rw [hHandle]
    simp only [Registration.handle, Handle.running, ne_eq, Option.some.injEq]
    omega

end Ledger.Accounts

namespace World

/-- The new page is up and nothing of the old one is left: not its interval, and not its listener
unless the browser has refused to take that off. Whatever was asked and reported to release the old
page comes last. -/
structure HandedOver (found left : World) (options : Options) (wiring : Wiring) : Prop where
  page : options.page = .ok wiring.page
  handle : left.handle = some (.running .main (found.timersStarted + 1) wiring.id)
  freshInterval : ∀ t ∈ found.timers, t.id ≠ found.timersStarted + 1
  freshCallbacks :
    (∀ t ∈ found.timers, t.wiring.id ≠ wiring.id) ∧ ∀ k ∈ found.listeners, k.wiring.id ≠ wiring.id
  timers : left.timers =
    found.timers.filter (fun t => (found.handle.getD {}).interval ≠ some t.id) ++
    [⟨found.timersStarted + 1, timeoutOf wiring.page, wiring⟩]
  listeners : left.listeners =
    found.listeners.filter (fun k => found.isBroken .removeEventListener ||
      (found.handle.getD {}).onKeydown ≠ some k.wiring.id) ++
    [⟨.main, wiring⟩]
  calls : left.calls = bringUpCalls .main wiring.page ++ (found.handle.getD {}).releaseCalls found
  log : left.log = bringUpLog found.now wiring.page ++ (found.handle.getD {}).releaseLog found
  released : ∀ document interval held, found.handle = some (.running document interval held) →
    found.isBroken .removeEventListener = false →
    left.calls =
      bringUpCalls .main wiring.page ++ [.clearInterval interval, .removeListener document] ∧
    left.log = bringUpLog found.now wiring.page ++ [.stopped]

/-- The old page is as it was: everything is registered as before and held by the same handle. If
that is running, its callbacks are alive, and nobody has asked for them to be taken off. -/
structure LeftAlone (found left : World) : Prop where
  handle : left.handle = found.handle
  timers : left.timers = found.timers
  listeners : left.listeners = found.listeners
  interval : ∀ id, (found.handle.getD {}).interval = some id →
    (∃ t ∈ left.timers, t.id = id ∧ left.ticks t.wiring = true) ∧ .clearInterval id ∉ left.calls
  listener : ∀ id, (found.handle.getD {}).onKeydown = some id →
    ∃ k ∈ left.listeners, (found.handle.getD {}).document = some k.document ∧ k.wiring.id = id ∧
      left.hearsKeys k.wiring = true
  attached : ∀ document, .removeListener document ∉ left.calls

/-- Bringing up through another handle makes the calls of a bring-up before it takes anything
down. -/
theorem start_asks {w : World} (hFresh : ∀ t ∈ w.timers, t.id ≤ w.timersStarted)
    (options : Options) :
    (∃ e w', w.start options = (.failed e, w') ∧ SameCallbacks w w' ∧ Tries w.timersStarted w w') ∨
    ∃ wiring up, Wired w up options .main wiring ∧ w.isBroken .window = false ∧
      Made w.timersStarted w up (bringUpCalls .main wiring.page) (bringUpLog w.now wiring.page) ∧
      w.start options = (.done,
        up.replaceHandle (some (.running .main (w.timersStarted + 1) wiring.id))) := by
  have hBoth := (ends_bringUp .main options hFresh).and (made_bringUp .main options w)
  rcases start_of_ends ⟨⟨.refl w, .refl w⟩, .refl _ w⟩ hBoth with
    ⟨e, left, hStart, ⟨hSame, -⟩, hTried⟩ |
      ⟨_, up, hStart, hWindow, ⟨wiring, hWired, rfl⟩, page, hPage, hMade⟩
  · exact .inl ⟨e, left, hStart, hSame, hTried⟩
  · have hOwn : wiring.page = page := Except.ok.inj (hWired.describes.options_page.symm.trans hPage)
    rw [← hOwn] at hMade
    exact .inr ⟨wiring, up, hWired, hWindow, hMade, hStart⟩

theorem Tries.not_mem {started : Nat} {w w' : World} (h : Tries started w w') (hNone : w.calls = [])
    {call : HostCall} (hCall : call.bringsUp started = false) : call ∉ w'.calls := by
  obtain ⟨made, hMade, hUp⟩ := h
  rw [hMade, hNone, List.nil_append]
  intro hMem
  rw [hUp call hMem] at hCall
  cases hCall

theorem SameView.releaseCalls {w w' : World} (h : SameView w w') (handle : Handle) :
    handle.releaseCalls w' = handle.releaseCalls w ∧
      handle.releaseLog w' = handle.releaseLog w := by
  unfold Handle.releaseCalls Handle.stopCalls Handle.releaseLog Handle.detachLog
  rw [h.isBroken, h.isBroken]
  exact ⟨rfl, rfl⟩

variable {l : Ledger} {found : World} {options : Options}

/-- A bring-up that fails beside a page has registered nothing and taken nothing off. -/
theorem leftAlone (hAccounts : l.Accounts found) {left : World}
    (hSame : SameCallbacks { found with calls := [], log := [] } left)
    (hTried : Tries found.timersStarted { found with calls := [], log := [] } left) :
    LeftAlone found left := by
  have hStill := hAccounts.afresh.same hSame
  refine ⟨hSame.handle, hSame.timers, hSame.listeners, fun id hInterval => ?_, fun id hHeld => ?_,
    fun document => hTried.not_mem rfl rfl⟩
  · rcases hAccounts.idle_or_running with hIdle | ⟨r, hCurrent, hHandle⟩
    · rw [hIdle] at hInterval
      cases hInterval
    · rw [hHandle] at hInterval
      obtain rfl : r.interval = id := Option.some.inj hInterval
      refine ⟨hStill.exists_timer hCurrent, hTried.not_mem rfl (decide_eq_false ?_)⟩
      obtain ⟨t, hTimer, hNumber, -⟩ := hAccounts.exists_timer hCurrent
      exact Nat.not_lt.mpr (hNumber ▸ hAccounts.registers.fresh t hTimer)
  · rcases hAccounts.idle_or_running with hIdle | ⟨r, hCurrent, hHandle⟩
    · rw [hIdle] at hHeld
      cases hHeld
    · rw [hHandle] at hHeld ⊢
      obtain rfl : r.wiring = id := Option.some.inj hHeld
      obtain ⟨k, hListener, hDocument, hNumber, hHears⟩ := hStill.exists_listener hCurrent
      exact ⟨k, hListener, congrArg some hDocument.symm, hNumber, hHears⟩

/-- Of the intervals all are left but that of the old page. -/
theorem timers_handedOver (hAccounts : l.Accounts found) {old new : Handle}
    (hOld : found.handle.getD {} = old) {up left : World}
    (hDown : TakenDown { up with handle := some new } left old)
    (hWorks : up.isBroken .window = false) {timeout : Nat} {wiring : Wiring}
    (hTimers : up.timers = found.timers ++ [⟨found.timersStarted + 1, timeout, wiring⟩]) :
    left.timers = found.timers.filter (fun t => old.interval ≠ some t.id) ++
      [⟨found.timersStarted + 1, timeout, wiring⟩] := by
  have hOwn := hAccounts.holds_no_fresh.1
  rw [hOld] at hOwn
  refine hDown.timers.trans ?_
  change up.timers.filter (fun t => up.isBroken .window || decide (old.interval ≠ some t.id)) = _
  rw [hWorks, hTimers, List.filter_append]
  simp [hOwn]

/-- Of the listeners all are left but that of the old page, which is left too if it cannot be taken
off. -/
theorem listeners_handedOver (hAccounts : l.Accounts found) {old new : Handle}
    (hOld : found.handle.getD {} = old) {up left : World}
    (hDown : TakenDown { up with handle := some new } left old)
    (hBroken : up.isBroken .removeEventListener = found.isBroken .removeEventListener)
    {wiring : Wiring} (hNumber : wiring.id = found.wiringsMade + 1)
    (hListeners : up.listeners = found.listeners ++ [⟨.main, wiring⟩]) :
    left.listeners =
      found.listeners.filter (fun k =>
        found.isBroken .removeEventListener || old.onKeydown ≠ some k.wiring.id) ++
      [⟨.main, wiring⟩] := by
  have hOwn := hAccounts.holds_no_fresh.2
  rw [hOld] at hOwn
  refine hDown.listeners.trans ?_
  change up.listeners.filter (fun k => up.isBroken .removeEventListener ||
    !(decide (old.document = some k.document) && decide (old.onKeydown = some k.wiring.id))) = _
  rw [hBroken, hListeners, List.filter_append]
  congr 1
  · refine List.filter_congr fun k hMem => ?_
    by_cases hHeld : old.onKeydown = some k.wiring.id
    · have hDocument := hAccounts.document_of_onKeydown hMem (hOld ▸ hHeld)
      rw [hOld] at hDocument
      simp [hHeld, hDocument]
    · simp [hHeld]
  · simp [hNumber, hOwn]

/-- A bring-up that succeeds beside a page is followed by the release of that page. -/
theorem handedOver (hAccounts : l.Accounts found) {up : World} {wiring : Wiring}
    (hWired : Wired { found with calls := [], log := [] } up options .main wiring)
    (hWindow : found.isBroken .window = false)
    (hMade : Made found.timersStarted { found with calls := [], log := [] } up
      (bringUpCalls .main wiring.page) (bringUpLog found.now wiring.page)) :
    HandedOver found
      (up.replaceHandle (some (.running .main (found.timersStarted + 1) wiring.id))) options
      wiring := by
  have hDown :=
    takenDown_replaceHandle up (some (.running .main (found.timersStarted + 1) wiring.id))
  obtain ⟨hCalls, hLog⟩ :=
    calls_replaceHandle up (some (.running .main (found.timersStarted + 1) wiring.id))
  obtain ⟨hReleaseCalls, hReleaseLog⟩ := hWired.toSameView.releaseCalls (found.handle.getD {})
  have hOld : up.handle.getD {} = found.handle.getD {} := by rw [hWired.handle]
  rw [hOld] at hDown hCalls hLog
  rw [hMade.calls, hReleaseCalls] at hCalls
  rw [hMade.log, hReleaseLog] at hLog
  have hWorks : up.isBroken .window = false := (hWired.isBroken .window).trans hWindow
  have hNumber : wiring.id = found.wiringsMade + 1 := hWired.id
  refine
    { page := hWired.describes.options_page
      handle := hDown.handle
      freshInterval :=
        fun t hMem => Nat.ne_of_lt (Nat.lt_succ_of_le (hAccounts.registers.fresh t hMem))
      freshCallbacks := ⟨fun t hMem => ?_, fun k hMem => ?_⟩
      timers := timers_handedOver hAccounts rfl hDown hWorks hWired.timers
      listeners :=
        listeners_handedOver hAccounts rfl hDown (hWired.isBroken _) hNumber hWired.listeners
      calls := hCalls
      log := hLog
      released := fun document interval held hHandle hRemove => ?_ }
  · rw [hNumber]
    exact Nat.ne_of_lt (Nat.lt_succ_of_le (hAccounts.registers.le_of_mem_timers hMem).2)
  · rw [hNumber]
    exact Nat.ne_of_lt (Nat.lt_succ_of_le (hAccounts.registers.le_of_mem_listeners hMem))
  · obtain ⟨hRunningCalls, hRunningLog⟩ :=
      Handle.release_running document interval held hWindow hRemove
    have hOwn : found.handle.getD {} = .running document interval held := by
      rw [hHandle, Option.getD_some]
    rw [← hRunningCalls, ← hRunningLog, ← hOwn]
    exact ⟨hCalls, hLog⟩

/-- In every state that the browser can be in, whatever the options are: the new page takes over
from the old one, or the old one is left alone. -/
theorem start_hands_over (past : List Step) (options : Options) :
    let found := World.initial.after past
    let done := found.performAfresh (.start options)
    (done.1 = .done ∧ ∃ wiring, HandedOver found done.2 options wiring) ∨
      ∃ e, done.1 = .failed e ∧ LeftAlone found done.2 := by
  intro found done
  have hAccounts : (Ledger.after {} World.initial past).Accounts found :=
    Ledger.Accounts.initial.after past
  have hAsks :=
    start_asks (w := { found with calls := [], log := [] }) hAccounts.registers.fresh options
  rcases hAsks with
    ⟨e, left, hStart, hSame, hTried⟩ | ⟨wiring, up, hWired, hWindow, hMade, hStart⟩
  · have hDone : done = (.failed e, left) := hStart
    rw [hDone]
    exact .inr ⟨e, rfl, leftAlone hAccounts hSame hTried⟩
  · have hDone : done = (.done, _) := hStart
    rw [hDone]
    exact .inl ⟨rfl, wiring, handedOver hAccounts hWired hWindow hMade⟩

/-- A page in the main document takes over from one that runs in the other. -/
theorem start_hands_over_from_other :
    let found := World.initial.after [.newHandle, .init .null .other]
    let done := found.performAfresh (.start .null)
    found.handle = some (.running .other 1 1) ∧ done.1 = .done ∧ ∃ wiring,
      done.2.handle = some (.running .main 2 wiring.id) ∧
      done.2.timers = [⟨2, timeoutOf wiring.page, wiring⟩] ∧ done.2.listeners = [⟨.main, wiring⟩] ∧
      done.2.calls = bringUpCalls .main wiring.page ++ [.clearInterval 1, .removeListener .other] ∧
      done.2.log = bringUpLog found.now wiring.page ++ [.stopped] := by
  intro found done
  have hHandle : found.handle = some (.running .other 1 1) := by decide +kernel
  have hDone : done.1 = .done := by
    refine start_eq_done_iff.mpr ⟨?_, ?_, fun stage => ?_⟩
    · decide +kernel
    · decide +kernel
    · cases stage <;> decide +kernel
  refine ⟨hHandle, hDone, ?_⟩
  rcases start_hands_over [.newHandle, .init .null .other] .null with
    ⟨-, wiring, hOver⟩ | ⟨e, hFailed, -⟩
  · obtain ⟨hCalls, hLog⟩ := hOver.released .other 1 1 hHandle (by decide +kernel)
    have hStarted : found.timersStarted = 1 := by decide +kernel
    have hTimers :
        found.timers.filter (fun t => (found.handle.getD {}).interval ≠ some t.id) = [] := by
      decide +kernel
    have hListeners : found.listeners.filter (fun k => found.isBroken .removeEventListener ||
        (found.handle.getD {}).onKeydown ≠ some k.wiring.id) = [] := by
      decide +kernel
    refine ⟨wiring, ?_, ?_, ?_, hCalls, hLog⟩
    · rw [hOver.handle, hStarted]
    · rw [hOver.timers, hTimers, hStarted, List.nil_append]
    · rw [hOver.listeners, hListeners, List.nil_append]
  · rw [hDone] at hFailed
    cases hFailed

end World

end StartPage.Browser
