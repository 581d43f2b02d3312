import StartPage.Browser.Run

/-! How an action on the browser ends. It may answer or throw, and what was done
before a throw stays done, so both endings say what they leave behind. Most
actions of a page are steady: they write, but register and move nothing. -/
namespace StartPage.Browser

namespace World

/-- Both worlds show the same elements at the same time of day, with the same faults
and under the same handle, and on the way nobody has left the page. What the
elements hold may differ. -/
structure SameView (w w' : World) : Prop where
  handle : w'.handle = w.handle
  broken : w'.broken = w.broken
  main : w'.main = w.main
  other : w'.other = w.other
  elements : w'.elements.length = w.elements.length
  now : w'.now = w.now
  calls : ∃ made, w'.calls = w.calls ++ made ∧ ∀ url, .replace url ∉ made

namespace SameView

theorem refl (w : World) : SameView w w :=
  ⟨rfl, rfl, rfl, rfl, rfl, rfl, [], (List.append_nil _).symm, by simp⟩

theorem trans {u v w : World} (h : SameView u v) (k : SameView v w) : SameView u w := by
  obtain ⟨made, hMade, hNone⟩ := h.calls
  obtain ⟨later, hLater, hNoneLater⟩ := k.calls
  have hCalls : w.calls = u.calls ++ (made ++ later) := by rw [hLater, hMade, List.append_assoc]
  refine ⟨k.handle.trans h.handle, k.broken.trans h.broken, k.main.trans h.main,
    k.other.trans h.other,
    k.elements.trans h.elements, k.now.trans h.now, made ++ later, hCalls, fun url hMem => ?_⟩
  rcases List.mem_append.mp hMem with hMem | hMem
  · exact hNone url hMem
  · exact hNoneLater url hMem

theorem logged (w : World) (events : List LogEvent) : SameView w (w.logged events) :=
  { refl w with }

theorem record (w : World) {call : HostCall} (h : ∀ url, call ≠ .replace url) :
    SameView w (w.record call) :=
  { refl w with calls := ⟨[call], rfl, fun url hMem => h url (List.mem_singleton.mp hMem).symm⟩ }

theorem modifyElement (w : World) (id : ElementId) (f : Element → Element) :
    SameView w (w.modifyElement id f) :=
  { refl w with elements := List.length_modify .. }

theorem tick (w : World) (wiring : Wiring) : SameView w (w.tick wiring) :=
  ((logged w _).trans (modifyElement _ _ _)).trans (modifyElement _ _ _)

theorem isBroken {w w' : World} (h : SameView w w') (f : Facility) :
    w'.isBroken f = w.isBroken f := by
  rw [World.isBroken, World.isBroken, h.broken]

theorem find {w w' : World} (h : SameView w w') (document : DocumentId) (selector : Selector) :
    w'.find document selector = w.find document selector := by
  cases document with
  | main => exact congrArg (·.find selector) h.main
  | other => exact congrArg (·.find selector) h.other

end SameView

/-- The same callbacks are registered in both worlds and held by the same handle.
Numbers may have been used up. -/
structure SameCallbacks (w w' : World) : Prop where
  handle : w'.handle = w.handle
  timers : w'.timers = w.timers
  listeners : w'.listeners = w.listeners
  timersStarted : w.timersStarted ≤ w'.timersStarted
  wiringsMade : w.wiringsMade ≤ w'.wiringsMade

theorem SameCallbacks.refl (w : World) : SameCallbacks w w :=
  ⟨rfl, rfl, rfl, Nat.le_refl _, Nat.le_refl _⟩

theorem SameCallbacks.trans {u v w : World} (h : SameCallbacks u v) (k : SameCallbacks v w) :
    SameCallbacks u w :=
  ⟨k.handle.trans h.handle, k.timers.trans h.timers, k.listeners.trans h.listeners,
    Nat.le_trans h.timersStarted k.timersStarted, Nat.le_trans h.wiringsMade k.wiringsMade⟩

/-- Nothing changes but what is written: into elements, into the log and on the
record of calls. -/
structure Steady (w w' : World) : Prop extends SameView w w' where
  timers : w'.timers = w.timers
  listeners : w'.listeners = w.listeners
  timersStarted : w'.timersStarted = w.timersStarted
  wiringsMade : w'.wiringsMade = w.wiringsMade

namespace Steady

theorem refl (w : World) : Steady w w := ⟨.refl w, rfl, rfl, rfl, rfl⟩

theorem trans {u v w : World} (h : Steady u v) (k : Steady v w) : Steady u w :=
  ⟨h.toSameView.trans k.toSameView, k.timers.trans h.timers, k.listeners.trans h.listeners,
    k.timersStarted.trans h.timersStarted, k.wiringsMade.trans h.wiringsMade⟩

theorem logged (w : World) (events : List LogEvent) : Steady w (w.logged events) :=
  ⟨.logged w events, rfl, rfl, rfl, rfl⟩

theorem record (w : World) {call : HostCall} (h : ∀ url, call ≠ .replace url) :
    Steady w (w.record call) :=
  ⟨.record w h, rfl, rfl, rfl, rfl⟩

theorem modifyElement (w : World) (id : ElementId) (f : Element → Element) :
    Steady w (w.modifyElement id f) :=
  ⟨.modifyElement w id f, rfl, rfl, rfl, rfl⟩

theorem tick (w : World) (wiring : Wiring) : Steady w (w.tick wiring) :=
  ⟨.tick w wiring, rfl, rfl, rfl, rfl⟩

theorem sameCallbacks {w w' : World} (h : Steady w w') : SameCallbacks w w' :=
  ⟨h.handle, h.timers, h.listeners, Nat.le_of_eq h.timersStarted.symm,
    Nat.le_of_eq h.wiringsMade.symm⟩

end Steady

end World

namespace Action

variable {α β : Type}

/-- An answer of the action from a world, and the world after it, are as `answered`
says. The world after a throw is as `thrown` says. -/
def Ends (x : Action α) (w : World) (answered : α → World → Prop) (thrown : World → Prop) : Prop :=
  match x.run.run w with
  | (.ok a, w') => answered a w'
  | (.error _, w') => thrown w'

/-- The action registers nothing, and what it answers is as `answered` says. -/
def EndsSteady (x : Action α) (w : World) (answered : α → Prop) : Prop :=
  x.Ends w (fun a w' => World.Steady w w' ∧ answered a) (World.Steady w)

namespace Ends

variable {x : Action α} {f : α → Action β} {w : World} {answered : α → World → Prop}
    {thrown : World → Prop}

theorem pure {a : α} (h : answered a w) : Ends (pure a) w answered thrown := h

theorem bind {between : α → World → Prop} {thrownFirst : World → Prop} {answered : β → World → Prop}
    (hFirst : x.Ends w between thrownFirst)
    (hNext : ∀ a u, between a u → (f a).Ends u answered thrown)
    (hThrown : ∀ u, thrownFirst u → thrown u) : (x >>= f).Ends w answered thrown := by
  unfold Ends at *
  rw [ExceptT.run_bind, StateT.run_bind]
  rcases hRun : x.run.run w with ⟨e | a, u⟩
  · rw [hRun] at hFirst
    exact hThrown u hFirst
  · rw [hRun] at hFirst
    exact hNext a u hFirst

theorem update {g : World → World} {answered : Unit → World → Prop} (h : answered () (g w)) :
    Ends (update g) w answered thrown := h

theorem fail_bind {e : PageError} {answered : β → World → Prop} (h : thrown w) :
    (Action.fail e >>= f : Action β).Ends w answered thrown := h

theorem get_bind {f : World → Action β} {answered : β → World → Prop}
    (h : (f w).Ends w answered thrown) :
    (getThe World >>= f).Ends w answered thrown := h

theorem update_bind {g : World → World} {f : Unit → Action β} {answered : β → World → Prop}
    (h : (f ()).Ends (g w) answered thrown) : (Action.update g >>= f).Ends w answered thrown := h

theorem require {facility : Facility} {answered : Unit → World → Prop}
    (hWorks : w.isBroken facility = false → answered () w)
    (hBroken : w.isBroken facility = true → thrown w) :
    Ends (require facility) w answered thrown := by
  refine get_bind ?_
  split
  · next hThrown => exact hBroken hThrown
  · next hWorking => exact hWorks (Bool.not_eq_true _ ▸ hWorking)

theorem require_bind {facility : Facility} {f : Unit → Action β} {answered : β → World → Prop}
    (hWorks : w.isBroken facility = false → (f ()).Ends w answered thrown)
    (hBroken : w.isBroken facility = true → thrown w) :
    (Action.require facility >>= f).Ends w answered thrown := by
  have hRequired : Ends (Action.require facility) w (fun _ u => u = w ∧ w.isBroken facility = false)
      (fun u => u = w ∧ w.isBroken facility = true) :=
    require (fun hWorking => ⟨rfl, hWorking⟩) fun hThrown => ⟨rfl, hThrown⟩
  refine bind hRequired ?_ ?_
  · rintro _ u ⟨hSame, hWorking⟩
    rw [hSame]
    exact hWorks hWorking
  · rintro u ⟨hSame, hThrown⟩
    rw [hSame]
    exact hBroken hThrown

theorem tryCatch {handler : Thrown → Action α} {caught : World → Prop}
    (hTry : x.Ends w answered caught)
    (hCatch : ∀ e u, caught u → (handler e).Ends u answered thrown) :
    Ends (tryCatch x handler) w answered thrown := by
  unfold Ends at *
  rw [ExceptT.run_tryCatch, StateT.run_bind]
  rcases hRun : x.run.run w with ⟨e | a, u⟩
  · rw [hRun] at hTry
    exact hCatch e u hTry
  · rw [hRun] at hTry
    exact hTry

theorem of_ok {a : α} {w' : World} (h : x.Ends w answered thrown)
    (hRun : x.run.run w = (.ok a, w')) : answered a w' := by
  unfold Ends at h
  rwa [hRun] at h

theorem of_error {e : Thrown} {w' : World} (h : x.Ends w answered thrown)
    (hRun : x.run.run w = (.error e, w')) : thrown w' := by
  unfold Ends at h
  rwa [hRun] at h

theorem and {P Q : α → World → Prop} {T U : World → Prop} (h : x.Ends w P T) (k : x.Ends w Q U) :
    x.Ends w (fun a u => P a u ∧ Q a u) (fun u => T u ∧ U u) := by
  unfold Ends at *
  rcases hRun : x.run.run w with ⟨e | a, u⟩
  · rw [hRun] at h k
    exact ⟨h, k⟩
  · rw [hRun] at h k
    exact ⟨h, k⟩

theorem imp {P Q : α → World → Prop} {T U : World → Prop} (h : x.Ends w P T)
    (hAnswered : ∀ a u, P a u → Q a u) (hThrown : ∀ u, T u → U u) : x.Ends w Q U := by
  unfold Ends at *
  rcases hRun : x.run.run w with ⟨e | a, u⟩
  · rw [hRun] at h
    exact hThrown u h
  · rw [hRun] at h
    exact hAnswered a u h

end Ends

namespace EndsSteady

variable {w : World}

theorem pure {a : α} {answered : α → Prop} (h : answered a) : EndsSteady (pure a) w answered :=
  ⟨.refl w, h⟩

theorem fail {e : PageError} {answered : α → Prop} : EndsSteady (fail e) w answered :=
  World.Steady.refl w

theorem throw {e : Thrown} {answered : α → Prop} : EndsSteady (throw e) w answered :=
  World.Steady.refl w

theorem get : EndsSteady (getThe World) w (· = w) := ⟨.refl w, rfl⟩

theorem update {g : World → World} (h : World.Steady w (g w)) :
    EndsSteady (update g) w fun _ => True :=
  ⟨h, trivial⟩

theorem bind {x : Action α} {f : α → Action β} {first : α → Prop} {answered : β → Prop}
    (hFirst : x.EndsSteady w first)
    (hNext : ∀ a u, World.Steady w u → first a → (f a).EndsSteady u answered) :
    (x >>= f).EndsSteady w answered := by
  refine Ends.bind hFirst ?_ fun _ hThrown => hThrown
  rintro a u ⟨hBetween, hFound⟩
  have hEnds := hNext a u hBetween hFound
  unfold EndsSteady Ends at *
  rcases hRun : (f a).run.run u with ⟨e | b, v⟩
  · rw [hRun] at hEnds
    exact hBetween.trans hEnds
  · rw [hRun] at hEnds
    exact ⟨hBetween.trans hEnds.1, hEnds.2⟩

theorem require (facility : Facility) : EndsSteady (require facility) w fun _ => True :=
  Ends.require (fun _ => ⟨.refl w, trivial⟩) fun _ => .refl w

theorem query (document : DocumentId) (selector : Selector) :
    EndsSteady (query document selector) w (· = w.find document selector) := by
  refine bind (update (.record w (by simp))) fun _ u hRecorded _ => ?_
  refine bind (require _) fun _ v hRequired _ => ?_
  refine bind get fun _ _ _ hSeen => pure ?_
  rw [hSeen]
  exact (hRecorded.trans hRequired).find document selector

theorem queryRequired (document : DocumentId) (selector : Selector) :
    EndsSteady (queryRequired document selector) w (w.find document selector = some ·) := by
  refine bind (query document selector) fun found u _ hFound => ?_
  cases found with
  | none => exact fail
  | some element => exact pure hFound.symm

theorem createAnchor : EndsSteady createAnchor w fun _ => True := by
  refine bind (require _) fun _ _ _ _ => bind get fun v _ _ _ => ?_
  split
  · exact throw
  · exact pure trivial

theorem appendAnchor (parent : ElementId) (anchor : Anchor) :
    EndsSteady (appendAnchor parent anchor) w fun _ => True :=
  bind (require _) fun _ u _ _ => update (.modifyElement u parent _)

theorem forM {items : List α} {f : α → Action Unit}
    (h : ∀ a w, (f a).EndsSteady w fun _ => True) (w : World) :
    EndsSteady (items.forM f) w fun _ => True := by
  induction items generalizing w with
  | nil => exact pure trivial
  | cons a items ih => exact bind (h a w) fun _ u _ _ => ih u

end EndsSteady

/-- A steady action in front of others, in a world that is itself reached without a
registration. -/
theorem Ends.after {x : Action α} {f : α → Action β} {w₀ w : World} {first : α → Prop}
    {answered : β → World → Prop} (h : World.Steady w₀ w) (hFirst : x.EndsSteady w first)
    (hNext : ∀ a u, World.Steady w₀ u → first a → (f a).Ends u answered (World.Steady w₀)) :
    (x >>= f).Ends w answered (World.Steady w₀) := by
  refine .bind hFirst ?_ fun _ hThrown => h.trans hThrown
  rintro a u ⟨hBetween, hFound⟩
  exact hNext a u (h.trans hBetween) hFound

end Action

end StartPage.Browser
