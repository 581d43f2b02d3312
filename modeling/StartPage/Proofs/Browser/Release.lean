import StartPage.Proofs.Browser.Run

/-! What a browser is asked for when a handle is taken down, and what is reported. Both follow
from what the handle holds and from the faults of the browser; elements are not looked at. -/
namespace StartPage.Browser

namespace Handle

/-- The call that stops the interval of a handle. Without a window there is none. -/
def stopCalls (h : Handle) (w : World) : List HostCall :=
  match h.interval with
  | some id => if w.isBroken .window then [] else [.clearInterval id]
  | none => []

/-- The call that takes the listener of a handle off. -/
def detachCalls (h : Handle) : List HostCall :=
  match h.document, h.onKeydown with
  | some document, some _ => [.removeListener document]
  | _, _ => []

/-- The warning of a browser that refuses to take the listener of a handle off. -/
def detachLog (h : Handle) (w : World) : List LogEvent :=
  match h.document, h.onKeydown with
  | some _, some _ =>
    if w.isBroken .removeEventListener then
      [.detachFailed (Thrown.text "removeEventListener failed").debug]
    else []
  | _, _ => []

/-- The calls that take a handle down: first its interval is stopped, then its listener is
taken off. -/
def releaseCalls (h : Handle) (w : World) : List HostCall := h.stopCalls w ++ h.detachCalls

/-- The events of taking a handle down. -/
def releaseLog (h : Handle) (w : World) : List LogEvent :=
  h.detachLog w ++ if h.onTick.isSome then [.stopped] else []

/-- Without faults a running handle is released in two calls. -/
theorem release_running (document : DocumentId) (interval wiring : Nat) {w : World}
    (hWindow : w.isBroken .window = false) (hRemove : w.isBroken .removeEventListener = false) :
    (running document interval wiring).releaseCalls w = [.clearInterval interval,
      .removeListener document] ∧
      (running document interval wiring).releaseLog w = [.stopped] := by
  simp [releaseCalls, stopCalls, detachCalls, releaseLog, detachLog, running, hWindow, hRemove]

theorem query_not_mem_releaseCalls (h : Handle) (w : World) (selector : Selector) :
    .query selector ∉ h.releaseCalls w := by
  rw [releaseCalls, List.mem_append, not_or]
  constructor
  · unfold stopCalls
    split
    · split <;> simp
    · simp
  · unfold detachCalls
    split <;> simp

end Handle

namespace World

theorem run_removeListener (document : DocumentId) (wiring : Nat) (w : World) :
    (Action.removeListener document wiring).run.run w =
      if w.isBroken .removeEventListener then
        (.error (.text "removeEventListener failed"), w.record (.removeListener document))
      else (.ok (), w.withoutListener document wiring) := by
  have hRequire := run_require .removeEventListener (w.record (.removeListener document))
  have hBroken : (w.record (.removeListener document)).isBroken .removeEventListener =
      w.isBroken .removeEventListener := rfl
  change (do Action.require _; Action.update _ : Action Unit).run.run
    (w.record (.removeListener document)) = _
  rw [ExceptT.run_bind, StateT.run_bind, hRequire, hBroken]
  cases w.isBroken .removeEventListener <;> rfl

theorem calls_stopTimer (w : World) (h : Handle) :
    (w.stopTimer h).calls = w.calls ++ h.stopCalls w ∧ (w.stopTimer h).log = w.log := by
  unfold stopTimer Handle.stopCalls
  cases h.interval with
  | none => exact ⟨(List.append_nil _).symm, rfl⟩
  | some id =>
      cases w.isBroken .window with
      | true => exact ⟨(List.append_nil _).symm, rfl⟩
      | false => exact ⟨rfl, rfl⟩

theorem calls_detach (w : World) (h : Handle) :
    (w.detach h).calls = w.calls ++ h.detachCalls ∧ (w.detach h).log = w.log ++ h.detachLog w := by
  unfold detach Handle.detachCalls Handle.detachLog
  cases h.document with
  | none => exact ⟨(List.append_nil _).symm, (List.append_nil _).symm⟩
  | some document =>
      cases h.onKeydown with
      | none => exact ⟨(List.append_nil _).symm, (List.append_nil _).symm⟩
      | some wiring =>
          dsimp only
          rw [run_removeListener]
          cases w.isBroken .removeEventListener with
          | true => exact ⟨rfl, rfl⟩
          | false => exact ⟨rfl, (List.append_nil _).symm⟩

/-- Taking a handle down asks for its release, reports that, and does nothing else that is seen. -/
theorem calls_takeDown (w : World) (h : Handle) :
    (w.takeDown h).calls = w.calls ++ h.releaseCalls w ∧
      (w.takeDown h).log = w.log ++ h.releaseLog w := by
  obtain ⟨hStopCalls, hStopLog⟩ := w.calls_stopTimer h
  obtain ⟨hDetachCalls, hDetachLog⟩ := (w.stopTimer h).calls_detach h
  have hSame : h.detachLog (w.stopTimer h) = h.detachLog w := by
    unfold Handle.detachLog
    rw [(stopTimer_spec w h).1.isBroken]
  rw [hStopCalls, List.append_assoc] at hDetachCalls
  rw [hStopLog, hSame] at hDetachLog
  unfold takeDown Handle.releaseLog
  dsimp only
  split
  · exact ⟨hDetachCalls, by rw [← List.append_assoc, ← hDetachLog]; rfl⟩
  · exact ⟨hDetachCalls, by rw [List.append_nil, ← hDetachLog]⟩

/-- Whatever comes in its place, the present handle is asked to be released. -/
theorem calls_replaceHandle (w : World) (handle : Option Handle) :
    (w.replaceHandle handle).calls = w.calls ++ (w.handle.getD {}).releaseCalls w ∧
      (w.replaceHandle handle).log = w.log ++ (w.handle.getD {}).releaseLog w := by
  unfold replaceHandle
  cases w.handle with
  | none => exact ⟨(List.append_nil _).symm, (List.append_nil _).symm⟩
  | some old => exact calls_takeDown { w with handle } old

end World

end StartPage.Browser
