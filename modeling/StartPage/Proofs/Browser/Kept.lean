import StartPage.Proofs.Browser.Action

/-! What an action on the browser keeps as it is. Whatever is seen of a world, an action keeps it if
none of its parts touches it, and it does not matter whether the action answers or throws. -/
namespace StartPage.Browser

/-- What is seen of a world has nothing to do with queries and with elements. -/
structure World.Overlooks {γ : Type} (see : World → γ) : Prop where
  query : ∀ (w : World) (selector : Selector), see (w.record (.query selector)) = see w
  modifyElement : ∀ (w : World) (id : ElementId) (f : Element → Element),
    see (w.modifyElement id f) = see w

namespace Action

variable {α β γ : Type} {see : World → γ} {x : Action α} {f : α → Action β}

/-- However the action ends, what is seen of the world is as it was. -/
def Keeps (x : Action α) (see : World → γ) : Prop :=
  ∀ w, x.Ends w (fun _ w' => see w' = see w) (see · = see w)

namespace Keeps

theorem pure (a : α) : Keeps (pure a) see := fun _ => rfl

theorem throw (e : Thrown) : Keeps (throw e : Action α) see := fun _ => rfl

theorem fail (e : PageError) : Keeps (fail e : Action α) see := throw _

theorem update {g : World → World} (h : ∀ w, see (g w) = see w) : Keeps (update g) see := h

/-- What has been seen before is still seen. -/
theorem after (h : x.Keeps see) {seen : γ} {w : World} (hSeen : see w = seen) :
    x.Ends w (fun _ w' => see w' = seen) (see · = seen) :=
  (h w).imp (fun _ _ hSame => hSame.trans hSeen) fun _ hSame => hSame.trans hSeen

theorem bind (hFirst : x.Keeps see) (hNext : ∀ a, (f a).Keeps see) : (x >>= f).Keeps see :=
  fun w => .bind (hFirst w) (fun a _ hSeen => (hNext a).after hSeen) fun _ hThrown => hThrown

theorem update_bind {g : World → World} {f : Unit → Action β} (h : ∀ w, see (g w) = see w)
    (hNext : (f ()).Keeps see) : (Action.update g >>= f).Keeps see := (update h).bind fun _ => hNext

theorem get_bind {f : World → Action β} (h : ∀ w, (f w).Keeps see) :
    (getThe World >>= f).Keeps see :=
  fun w => h w w

theorem require (facility : Facility) : Keeps (require facility) see := by
  apply get_bind
  intro w
  split
  · exact throw _
  · exact pure _

theorem createAnchor : Keeps createAnchor see := by
  apply (require _).bind
  intro _
  apply get_bind
  intro w
  split
  · exact throw _
  · exact pure _

theorem forM {f : α → Action Unit} (h : ∀ a, (f a).Keeps see) (items : List α) :
    Keeps (items.forM f) see := by
  induction items with
  | nil => exact pure _
  | cons a items ih => exact (h a).bind fun _ => ih

theorem tryCatch {handler : Thrown → Action α} (hTry : x.Keeps see)
    (hCatch : ∀ e, (handler e).Keeps see) :
    Keeps (tryCatch x handler) see :=
  fun w => .tryCatch (hTry w) fun e _ hSeen => (hCatch e).after hSeen

end Keeps

end Action

namespace World.Overlooks

open Browser.Action (Keeps)

variable {γ : Type} {see : World → γ}

theorem keeps_query (h : Overlooks see) (document : DocumentId) (selector : Selector) :
    (Action.query document selector).Keeps see := by
  refine .update_bind (fun w => h.query w selector) ?_
  exact (Keeps.require _).bind fun _ => .get_bind fun _ => .pure _

theorem keeps_queryRequired (h : Overlooks see) (document : DocumentId) (selector : Selector) :
    (Action.queryRequired document selector).Keeps see := by
  apply (h.keeps_query document selector).bind
  intro element
  cases element with
  | none => exact .fail _
  | some element => exact .pure _

theorem keeps_findSearchField (h : Overlooks see) (document : DocumentId) :
    (findSearchField document).Keeps see := by
  apply (h.keeps_queryRequired document .searchField).bind
  intro element
  apply Keeps.get_bind
  intro w
  split
  · split
    · exact .pure _
    · exact .fail _
  · exact .fail _

theorem keeps_renderLinks (h : Overlooks see) (document : DocumentId) (links : List QuickLink) :
    (renderLinks document links).Keeps see := by
  apply (h.keeps_query document .links).bind
  intro container
  cases container with
  | none => exact .pure _
  | some container =>
      refine .update_bind (fun w => h.modifyElement w container _) ?_
      apply Keeps.forM
      intro link
      apply Keeps.createAnchor.bind
      intro _
      exact (Keeps.require _).bind fun _ => .update fun w => h.modifyElement w container _

/-- Once the settings have been read, the search for the elements of the page touches nothing that
is seen. -/
theorem ends_gather (h : Overlooks see)
    (hMade : ∀ (w : World) (id : Nat), see { w with wiringsMade := id } = see w)
    (document : DocumentId) {options : Options} {w : World} {seen : γ}
    (hOpen : (openPage options).Ends w (fun _ u => see u = seen) (see · = seen)) :
    (gather document options).Ends w (fun _ u => see u = seen) (see · = seen) := by
  apply hOpen.bind _ fun _ hThrown => hThrown
  intro page u hSeen
  refine Keeps.after (x := do _) ?_ hSeen
  apply (h.keeps_findSearchField document).bind
  intro field
  apply (h.keeps_queryRequired document .clock).bind
  intro clock
  apply (h.keeps_queryRequired document .title).bind
  intro title
  apply Keeps.get_bind
  intro w
  split
  · exact (Keeps.fail _).bind fun _ => .update_bind (fun w => hMade w _) (.pure _)
  · exact .update_bind (fun w => hMade w _) (.pure _)

end World.Overlooks

end StartPage.Browser
