import Mathlib.Data.List.Nodup
import StartPage.Proofs.Browser.Registration
import StartPage.Proofs.Page.Basic

/-! Why a bring-up fails, and what a failure leaves behind. Each stage of a bring-up says by
itself, in the world before it, what it would throw there. The first stage that would throw is
the one that is reported, whatever the later ones would do. -/
namespace StartPage.Browser

/-- The stages of a bring-up. -/
inductive Stage where
  | configText
  | validation
  | searchField
  | clock
  | title
  | window
  | links
  | timer
  | listener
  deriving DecidableEq, Repr

namespace World

/-- What is thrown by a facility that is broken. -/
def fault (w : World) (f : Facility) : Option Thrown :=
  if w.isBroken f then some (.text (f.text ++ " failed")) else none

/-- What is thrown when an element has to be found. -/
def absence (w : World) (document : DocumentId) (selector : Selector) : Option Thrown :=
  (w.fault (.query selector)).or
    (if (w.find document selector).isSome then none
      else some (.text (PageError.missingElement selector).message))

/-- What is thrown when an element that has been found is not an input. -/
def wrongTag (w : World) (document : DocumentId) (selector : Selector) : Option Thrown :=
  match w.find document selector with
  | none => none
  | some id =>
    if w.elements[id]?.map Element.tag = some "input" then none
    else some (.text (PageError.missingElement selector).message)

/-- What is thrown when an anchor is made and put into an element. -/
def anchorFault (w : World) : Option Thrown :=
  (w.fault .createElement).or
    ((if w.isBroken .anchorClass then some .element else none).or (w.fault .appendChild))

end World

namespace Stage

/-- The stages in the order in which a bring-up goes through them. -/
def all : List Stage :=
  [.configText, .validation, .searchField, .clock, .title, .window, .links, .timer, .listener]

/-- The stages that come before one. -/
def before (stage : Stage) : List Stage := all.takeWhile (· ≠ stage)

/-- What a stage throws if a bring-up gets to it. The element for the links may be missing,
and then no anchor is made. -/
def failure? (w : World) (options : Options) (document : DocumentId) : Stage → Option Thrown
  | configText => match options.config with
    | .error e => some (.text e.message)
    | .ok _ => none
  | validation => match options.config.map Config.validate with
    | .ok (.error e) => some (.text (PageError.config e).message)
    | _ => none
  | searchField => (w.absence document .searchField).or (w.wrongTag document .searchField)
  | clock => w.absence document .clock
  | title => w.absence document .title
  | window => if w.isBroken .window then some (.text (PageError.host "no window").message) else none
  | links =>
    (w.fault (.query .links)).or (if (w.find document .links).isSome then w.anchorFault else none)
  | timer => w.fault .setInterval
  | listener => w.fault .addEventListener

/-- The stage is the first that throws. -/
structure FailsFirst (stage : Stage) (w : World) (options : Options) (document : DocumentId)
    (e : Thrown) : Prop where
  failure : stage.failure? w options document = some e
  earlier : ∀ earlier ∈ stage.before, earlier.failure? w options document = none

end Stage

namespace World

theorem SameView.fault {w w' : World} (h : SameView w w') (f : Facility) :
    w'.fault f = w.fault f := by
  rw [World.fault, World.fault, h.isBroken]

theorem SameView.anchorFault {w w' : World} (h : SameView w w') :
    w'.anchorFault = w.anchorFault := by
  rw [World.anchorFault, World.anchorFault, h.fault, h.fault, h.isBroken]

theorem SameView.absence {w w' : World} (h : SameView w w') (document : DocumentId)
    (selector : Selector) :
    w'.absence document selector = w.absence document selector := by
  rw [World.absence, World.absence, h.fault, h.find]

instance : Trans SameView SameView SameView := ⟨SameView.trans⟩

/-- Nothing has been done but looking: every element still holds what it held. -/
structure Looked (w w' : World) : Prop extends SameView w w' where
  elements_eq : w'.elements = w.elements

namespace Looked

theorem refl (w : World) : Looked w w := ⟨.refl w, rfl⟩

theorem trans {u v w : World} (h : Looked u v) (k : Looked v w) : Looked u w :=
  ⟨h.toSameView.trans k.toSameView, k.elements_eq.trans h.elements_eq⟩

instance : Trans Looked Looked Looked := ⟨trans⟩

theorem logged (w : World) (events : List LogEvent) : Looked w (w.logged events) :=
  ⟨.logged w events, rfl⟩

theorem query (w : World) (selector : Selector) : Looked w (w.record (.query selector)) :=
  ⟨.record w (by simp), rfl⟩

/-- What a stage throws depends on what the browser shows and on nothing else. -/
theorem failure? {w w' : World} (h : Looked w w') (options : Options) (document : DocumentId)
    (stage : Stage) :
    stage.failure? w' options document = stage.failure? w options document := by
  cases stage <;>
    simp only [Stage.failure?, World.wrongTag, h.fault, h.anchorFault, h.absence, h.find,
      h.isBroken, h.elements_eq]

end Looked

end World

namespace Action

variable {α β : Type}

/-- The action throws as `failure` says, and otherwise answers as `answered` says. Either way
the worlds before and after are related. -/
def Runs (x : Action α) (w : World) (R : World → World → Prop) (failure : Option Thrown)
    (answered : α → Prop) :
    Prop :=
  match x.run.run w with
  | (.ok a, w') => failure = none ∧ R w w' ∧ answered a
  | (.error e, w') => failure = some e ∧ R w w'

namespace Runs

variable {x : Action α} {f : α → Action β} {w : World} {R : World → World → Prop}
    {first second : Option Thrown}
  {found : α → Prop} {answered : β → Prop}

theorem pure {a : α} (hRefl : R w w) (h : found a) : Runs (pure a) w R none found := ⟨rfl, hRefl, h⟩

theorem fail {e : PageError} (hRefl : R w w) : Runs (fail e) w R (some (.text e.message)) found :=
  ⟨rfl, hRefl⟩

theorem update {g : World → World} (h : R w (g w)) : Runs (update g) w R none fun _ => True :=
  ⟨rfl, h, trivial⟩

/-- What is related to the world of the action may be said of the world after it in other words. -/
theorem imp {kept : World → Prop} (h : x.Runs w R first found) (hImp : ∀ u, R w u → kept u) :
    match x.run.run w with
    | (.ok a, u) => first = none ∧ kept u ∧ found a
    | (.error e, u) => first = some e ∧ kept u := by
  unfold Runs at h
  rcases hRun : x.run.run w with ⟨e | a, u⟩
  · rw [hRun] at h
    exact ⟨h.1, hImp u h.2⟩
  · rw [hRun] at h
    exact ⟨h.1, hImp u h.2.1, h.2.2⟩

theorem mono {S : World → World → Prop} (h : x.Runs w R first found) (hImp : ∀ u, R w u → S w u) :
    x.Runs w S first found := h.imp hImp

/-- What the second action throws counts only if the first one answers. -/
theorem bind [Trans R R R] (hFirst : x.Runs w R first found)
    (hNext : ∀ a u, R w u → found a → (f a).Runs u R second answered) :
    (x >>= f).Runs w R (first.or second) answered := by
  unfold Runs at hFirst ⊢
  rw [ExceptT.run_bind, StateT.run_bind]
  rcases hRun : x.run.run w with ⟨e | a, u⟩
  · rw [hRun] at hFirst
    exact ⟨by rw [hFirst.1]; rfl, hFirst.2⟩
  · rw [hRun] at hFirst
    obtain ⟨rfl, hBetween, hFound⟩ := hFirst
    exact (hNext a u hBetween hFound).imp fun _ hLater => Trans.trans hBetween hLater

theorem update_bind [Trans R R R] {g : World → World} {f : Unit → Action β} (h : R w (g w))
    (hNext : (f ()).Runs (g w) R second answered) :
    (Action.update g >>= f).Runs w R second answered :=
  hNext.imp fun _ hLater => Trans.trans h hLater

theorem fail_bind {e : PageError} (hRefl : R w w) :
    (Action.fail e >>= f : Action β).Runs w R (some (.text e.message)) answered := ⟨rfl, hRefl⟩

theorem get_bind {f : World → Action β} (h : (f w).Runs w R second answered) :
    (getThe World >>= f).Runs w R second answered := h

/-- A handler that throws again what it has caught does not change what is thrown. -/
theorem tryCatch [Trans R R R] {handler : Thrown → Action α} (hTry : x.Runs w R first found)
    (hCatch : ∀ e u, R w u → (handler e).Runs u R (some e) found) :
    Runs (tryCatch x handler) w R first found := by
  unfold Runs at hTry ⊢
  rw [ExceptT.run_tryCatch, StateT.run_bind]
  rcases hRun : x.run.run w with ⟨e | a, u⟩
  · rw [hRun] at hTry
    obtain ⟨rfl, hBetween⟩ := hTry
    exact (hCatch e u hBetween).imp fun _ hLater => Trans.trans hBetween hLater
  · rw [hRun] at hTry
    exact hTry

theorem ite {c : Bool} {x y : Action α} (hTrue : x.Runs w R first found)
    (hFalse : y.Runs w R second found) :
    Runs (if c then x else y) w R (if c then first else second) found := by
  cases c with
  | true => exact hTrue
  | false => exact hFalse

theorem require (facility : Facility) (hRefl : R w w) :
    Runs (require facility) w R (w.fault facility) fun _ => True := by
  unfold Runs World.fault
  rw [run_require]
  cases w.isBroken facility with
  | true => exact ⟨rfl, hRefl⟩
  | false => exact ⟨rfl, hRefl, trivial⟩

theorem query {w₀ : World} (hView : World.SameView w₀ w) (document : DocumentId)
    (selector : Selector) :
    Runs (query document selector) w World.Looked (w₀.fault (.query selector))
      (· = w₀.find document selector) := by
  refine update_bind (.query w selector) ?_
  have hRecorded := hView.trans (World.Looked.query w selector).toSameView
  rw [← hRecorded.fault, ← Option.or_none (o := World.fault _ _)]
  refine bind (require _ (.refl _)) fun _ u hRequired _ => get_bind (pure (.refl u) ?_)
  exact (hRecorded.trans hRequired.toSameView).find document selector

theorem queryRequired {w₀ : World} (hView : World.SameView w₀ w) (document : DocumentId)
    (selector : Selector) :
    Runs (queryRequired document selector) w World.Looked (w₀.absence document selector)
      (w₀.find document selector = some ·) := by
  refine bind (query hView document selector) ?_
  rintro found u _ rfl
  cases hFound : w₀.find document selector with
  | none => exact fail (.refl u)
  | some element => exact pure (.refl u) rfl

theorem createAnchor (w : World) :
    Runs createAnchor w World.Looked
      ((w.fault .createElement).or (if w.isBroken .anchorClass then some .element else none))
        fun _ => True := by
  refine bind (require _ (.refl w)) fun _ u hRequired _ => get_bind ?_
  rw [← hRequired.isBroken]
  exact ite ⟨rfl, .refl u⟩ (pure (.refl u) trivial)

theorem appendAnchor (parent : ElementId) (anchor : Anchor) (w : World) :
    Runs (appendAnchor parent anchor) w World.SameView (w.fault .appendChild) fun _ => True := by
  rw [← Option.or_none (o := w.fault _)]
  exact bind (require _ (.refl w)) fun _ u _ _ => update (.modifyElement u parent _)

/-- If every item throws the same, the first one does. -/
theorem forM {items : List α} {f : α → Action Unit} {failure : Option Thrown} (hItems : items ≠ [])
    (h : ∀ a u, World.SameView w u → (f a).Runs u World.SameView failure fun _ => True) :
    Runs (items.forM f) w World.SameView failure fun _ => True := by
  induction items generalizing w with
  | nil => exact absurd rfl hItems
  | cons a items ih =>
      have hFirst := h a w (.refl w)
      cases items with
      | nil =>
          rw [← Option.or_none (o := failure)]
          exact bind hFirst fun _ u _ _ => pure (.refl u) trivial
      | cons b items =>
          rw [← Option.or_self (o := failure)]
          exact bind hFirst fun _ u hView _ => ih (by simp) fun c v hNext =>
            h c v (hView.trans hNext)

end Runs

end Action

/-- The settings are read and then checked, and a page of valid settings has links. -/
theorem runs_openPage (options : Options) (document : DocumentId) (w : World) :
    (openPage options).Runs w World.Looked
      ((Stage.configText.failure? w options document).or
        (Stage.validation.failure? w options document))
      fun page => page.links ≠ [] := by
  unfold openPage Stage.failure?
  cases hConfig : options.config with
  | error e => exact .fail (.refl w)
  | ok config =>
      dsimp only [Except.map]
      cases hValid : config.validate with
      | error e =>
          rw [Page.create_of_error hValid]
          exact .update_bind (.logged w _) (.fail (.refl _))
      | ok =>
          obtain ⟨page, hPage, -, -, hLinks, -⟩ := Page.create_of_ok hValid
          rw [hPage]
          exact .update_bind (.logged w _) (.pure (.refl _) (hLinks ▸ config.quickLinks_ne_nil))

theorem runs_findSearchField {w₀ w : World} (hLooked : World.Looked w₀ w) (options : Options)
    (document : DocumentId) :
    (findSearchField document).Runs w World.Looked (Stage.searchField.failure? w₀ options document)
      fun _ => True := by
  refine .bind (.queryRequired hLooked.toSameView document .searchField)
    fun element u hBetween hFound => ?_
  have hElements := (hLooked.trans hBetween).elements_eq
  refine .get_bind ?_
  unfold World.wrongTag
  rw [hFound, ← hElements]
  dsimp only
  cases u.elements[element]? with
  | none => exact .fail (.refl u)
  | some e =>
      by_cases hTag : e.tag = "input"
      · simp only [hTag, Option.map_some, if_true]
        exact .pure (.refl u) trivial
      · simp only [hTag, Option.map_some, Option.some.injEq, if_false]
        exact .fail (.refl u)

theorem findSome?_cons_or {α β : Type} (f : α → Option β) (a : α) (as : List α) :
    (a :: as).findSome? f = (f a).or (as.findSome? f) := by
  rw [List.findSome?_cons]
  cases f a <;> rfl

/-- All that comes before the links is only looked at. -/
theorem runs_gather (document : DocumentId) (options : Options) (w : World) :
    (gather document options).Runs w World.Looked
      (Stage.links.before.findSome? (Stage.failure? w options document)) fun wiring =>
        wiring.page.links ≠ [] := by
  have hOrder : Stage.links.before = [.configText, .validation, .searchField, .clock,
      .title, .window] := rfl
  rw [hOrder]
  simp only [findSome?_cons_or, List.findSome?_nil, Option.or_none]
  rw [← Option.or_assoc]
  refine .bind (runs_openPage options document w) fun page w₁ h₁ hLinks => ?_
  refine .bind (runs_findSearchField h₁ options document) fun field w₂ h₂ _ => ?_
  have hField := h₁.trans h₂
  refine .bind (.queryRequired hField.toSameView document .clock) fun clock w₃ h₃ _ => ?_
  have hClock := hField.trans h₃
  refine .bind (.queryRequired hClock.toSameView document .title) fun title w₄ h₄ _ => ?_
  refine .get_bind ?_
  rw [← (hClock.trans h₄).failure?]
  have hMade (n : Nat) : World.Looked w₄ { w₄ with wiringsMade := n } :=
    { World.Looked.refl w₄ with }
  exact .ite (.fail_bind (.refl w₄)) (.update_bind (hMade _) (.pure (.refl _) hLinks))

theorem runs_renderLinks {w₀ w : World} (hView : World.SameView w₀ w) (options : Options)
    (document : DocumentId) {links : List QuickLink} (hLinks : links ≠ []) :
    (renderLinks document links).Runs w World.SameView (Stage.links.failure? w₀ options document)
      fun _ => True := by
  have hQuery := (Action.Runs.query hView document .links).mono fun _ h => h.toSameView
  refine .bind hQuery ?_
  rintro found u hBetween rfl
  cases w₀.find document .links with
  | none => exact .pure (.refl u) trivial
  | some container =>
      refine .update_bind (.modifyElement u container _) (.forM hLinks fun link v hNext => ?_)
      have hHere :=
        (hView.trans hBetween).trans ((World.SameView.modifyElement u container _).trans hNext)
      rw [Option.isSome_some, if_pos rfl, ← hHere.anchorFault]
      unfold World.anchorFault
      rw [← Option.or_assoc]
      refine .bind ((Action.Runs.createAnchor v).mono fun _ h => h.toSameView) fun _ _ hMade _ => ?_
      rw [← hMade.fault]
      exact .appendAnchor container _ _

theorem runs_setInterval {w₀ w : World} (hView : World.SameView w₀ w) (timeout : Nat)
    (wiring : Wiring) :
    (Action.setInterval timeout wiring).Runs w World.SameView (w₀.fault .setInterval)
      fun _ => True := by
  have hRecorded : World.SameView w (w.record (.setInterval timeout)) := .record w (by simp)
  refine .update_bind hRecorded ?_
  rw [← (hView.trans hRecorded).fault, ← Option.or_none (o := World.fault _ _)]
  refine .bind (.require _ (.refl _)) fun _ u _ _ => .get_bind ?_
  exact .update_bind { World.SameView.refl u with } (.pure (.refl _) trivial)

theorem runs_addListener {w₀ w : World} (hView : World.SameView w₀ w) (document : DocumentId)
    (wiring : Wiring) :
    (Action.addListener document wiring).Runs w World.SameView (w₀.fault .addEventListener)
      fun _ => True := by
  have hRecorded : World.SameView w (w.record (.addListener document)) := .record w (by simp)
  refine .update_bind hRecorded ?_
  rw [← (hView.trans hRecorded).fault, ← Option.or_none (o := World.fault _ _)]
  exact .bind (.require _ (.refl _)) fun _ u _ _ => .update { World.SameView.refl u with }

/-- A timer that is stopped again does not change what the listener throws. -/
theorem runs_startTimerThenListen {w₀ w : World} (hView : World.SameView w₀ w)
    (document : DocumentId) (timeout : Nat) (wiring : Wiring) :
    Action.Runs
      (startTimerThenListen (Action.setInterval timeout wiring) (Action.addListener document wiring)
        fun id => modifyThe World (·.clearInterval id)) w World.SameView
      ((w₀.fault .setInterval).or (w₀.fault .addEventListener)) fun _ => True := by
  refine .bind (runs_setInterval hView timeout wiring) fun id u hStarted _ => ?_
  rw [← Option.or_none (o := World.fault _ .addEventListener)]
  refine .bind (.tryCatch (runs_addListener (hView.trans hStarted) document wiring) fun e v _ => ?_)
    fun _ v _ _ => .pure (.refl v) trivial
  exact ⟨rfl, .clearInterval v id⟩

/-- All stages of a bring-up, in their order. -/
theorem runs_bringUp (document : DocumentId) (options : Options) (w : World) :
    (bringUp document options).Runs w World.SameView
      (Stage.all.findSome? (Stage.failure? w options document)) fun _ => True := by
  have hOrder : Stage.all = Stage.links.before ++ [.links, .timer, .listener] := rfl
  rw [hOrder, List.findSome?_append]
  simp only [findSome?_cons_or, List.findSome?_nil, Option.or_none]
  refine .bind ((runs_gather document options w).mono fun _ h => h.toSameView)
    fun wiring u hGathered hLinks => ?_
  refine .bind (runs_renderLinks hGathered options document hLinks) fun _ v hRendered _ => ?_
  have hTicked := (hGathered.trans hRendered).trans (.tick v wiring)
  refine .update_bind (.tick v wiring) ?_
  rw [← Option.or_none (o := Option.or _ _)]
  refine .bind (runs_startTimerThenListen hTicked document _ wiring) fun interval x _ _ => ?_
  exact .update_bind (.logged x _) (.pure (.refl _) trivial)

namespace Stage

theorem mem_all (stage : Stage) : stage ∈ all := by
  cases stage <;> decide

/-- Every stage has its place between those before it and others. -/
theorem exists_all_eq (stage : Stage) : ∃ later, all = stage.before ++ stage :: later := by
  cases stage <;> exact ⟨_, rfl⟩

theorem before_eq {stage : Stage} {earlier later : List Stage}
    (h : all = earlier ++ stage :: later) : stage.before = earlier := by
  have hNodup : (earlier ++ stage :: later).Nodup := h ▸ (by decide)
  have hOther : ∀ s ∈ earlier, decide (s ≠ stage) = true := by
    intro s hMem
    have hApart := (List.nodup_append.mp hNodup).2.2 s hMem stage List.mem_cons_self
    exact decide_eq_true hApart
  rw [before, h, List.takeWhile_append_of_pos hOther,
    List.takeWhile_cons_of_neg (by simp), List.append_nil]

theorem findSome?_all_eq_some_iff {f : Stage → Option Thrown} {e : Thrown} :
    all.findSome? f = some e ↔ ∃ stage : Stage, f stage = some e ∧
      ∀ earlier ∈ stage.before, f earlier = none := by
  rw [List.findSome?_eq_some_iff]
  constructor
  · rintro ⟨earlier, stage, later, hAll, hFails, hNone⟩
    exact ⟨stage, hFails, before_eq hAll ▸ hNone⟩
  · rintro ⟨stage, hFails, hNone⟩
    obtain ⟨later, hAll⟩ := stage.exists_all_eq
    exact ⟨stage.before, stage, later, hAll, hFails, hNone⟩

theorem findSome?_all_eq_none_iff {f : Stage → Option Thrown} :
    all.findSome? f = none ↔ ∀ stage, f stage = none := by
  rw [List.findSome?_eq_none_iff]
  exact ⟨fun h stage => h stage stage.mem_all, fun h stage _ => h stage⟩

/-- A stage that throws before the links is the first failure among those stages. -/
theorem findSome?_before_links {f : Stage → Option Thrown} {e : Thrown} {stage : Stage}
    (hStage : stage ∈ links.before) (hFails : f stage = some e)
    (hNone : ∀ earlier ∈ stage.before, f earlier = none) :
    links.before.findSome? f = some e := by
  have hPlace : ∃ later, links.before = stage.before ++ stage :: later := by
    cases stage <;> first | exact ⟨_, rfl⟩ | exact absurd hStage (by decide)
  obtain ⟨later, hPlace⟩ := hPlace
  rw [List.findSome?_eq_some_iff]
  exact ⟨stage.before, stage, later, hPlace, hFails, hNone⟩

end Stage

namespace World

/-- Taking a handle down changes nothing that a bring-up looks at. -/
theorem looked_replaceHandle (w : World) (handle : Option Handle) :
    Looked { w with handle } (w.replaceHandle handle) :=
  { takenDown_replaceHandle w handle with elements_eq := (takenDown_replaceHandle w handle).shown }

/-- What a stage throws does not depend on the handle and on what has been called and logged. -/
theorem failure?_with (w : World) (handle : Option Handle) (calls : List HostCall)
    (log : List LogEvent) (options : Options) (document : DocumentId) :
    Stage.failure? { w with handle, calls, log } options document =
      Stage.failure? w options document := by
  funext stage
  cases stage <;> rfl

theorem failure?_replaceHandle (w : World) (handle : Option Handle) (options : Options)
    (document : DocumentId) :
    Stage.failure? (w.replaceHandle handle) options document =
      Stage.failure? w options document := by
  funext stage
  rw [(w.looked_replaceHandle handle).failure?]
  exact congrFun (w.failure?_with handle w.calls w.log options document) stage

variable {w : World} {options : Options} {document : DocumentId} {e : Thrown}

/-- A bring-up through the present handle answers what its stages decide. -/
theorem init_answer (hHandle : w.handle.isSome) :
    (w.init options document).1 = match Stage.all.findSome? (Stage.failure? w options document) with
      | some e => .failed e
      | none => .done := by
  have hRuns := runs_bringUp document options (w.replaceHandle (some {}))
  rw [failure?_replaceHandle] at hRuns
  obtain ⟨h, hHandle⟩ := Option.isSome_iff_exists.mp hHandle
  unfold init Action.Runs at *
  rw [hHandle]
  dsimp only
  rcases hRun : (bringUp document options).run.run (w.replaceHandle (some {})) with
    ⟨thrown | handle, up⟩
  · rw [hRun] at hRuns
    rw [hRuns.1]
  · rw [hRun] at hRuns
    rw [hRuns.1]

/-- It fails with what the first stage throws that does. -/
theorem init_eq_failed_iff (hHandle : w.handle.isSome) :
    (w.init options document).1 = .failed e ↔
      ∃ stage : Stage, stage.FailsFirst w options document e := by
  have hFirst : (∃ stage : Stage, stage.FailsFirst w options document e) ↔
      Stage.all.findSome? (Stage.failure? w options document) = some e := by
    rw [Stage.findSome?_all_eq_some_iff]
    exact exists_congr fun stage => ⟨fun h => ⟨h.failure, h.earlier⟩, fun h => ⟨h.1, h.2⟩⟩
  rw [hFirst, init_answer hHandle]
  cases Stage.all.findSome? (Stage.failure? w options document) <;> simp

/-- It succeeds if no stage throws. -/
theorem init_eq_done_iff (hHandle : w.handle.isSome) :
    (w.init options document).1 = .done ↔
      ∀ stage : Stage, stage.failure? w options document = none := by
  rw [init_answer hHandle, ← Stage.findSome?_all_eq_none_iff]
  cases Stage.all.findSome? (Stage.failure? w options document) <;> simp

theorem performAfresh_init_eq_done_iff (hHandle : w.handle.isSome) :
    (w.performAfresh (.init options document)).1 = .done ↔
      ∀ stage : Stage, stage.failure? w options document = none := by
  rw [← w.failure?_with w.handle [] [] options document]
  exact init_eq_done_iff (w := { w with calls := [], log := [] }) hHandle

/-- What is thrown if the window has no document in which a page could be started. -/
def noDocument? (w : World) : Option Thrown :=
  if w.isBroken .window || w.isBroken .document then
    some (.text (PageError.host "no document").message)
  else none

/-- A start asks for the document first, and then goes through the stages of a bring-up in it. -/
theorem start_answer (w : World) (options : Options) :
    (w.start options).1 = match w.noDocument?.or
      (Stage.all.findSome? (Stage.failure? w options .main)) with
      | some e => .failed e
      | none => .done := by
  have hRuns : Action.Runs (do
      if w.isBroken .window || w.isBroken .document then Action.fail (.host "no document")
      bringUp .main options) w SameView
      (w.noDocument?.or (Stage.all.findSome? (Stage.failure? w options .main))) fun _ => True := by
    unfold noDocument?
    cases w.isBroken .window || w.isBroken .document with
    | true => exact .fail_bind (.refl w)
    | false => exact runs_bringUp .main options w
  unfold start
  unfold Action.Runs at hRuns
  dsimp only
  split
  · next hRun =>
      rw [hRun] at hRuns
      rw [hRuns.1]
  · next hRun =>
      rw [hRun] at hRuns
      rw [hRuns.1]

/-- It succeeds if there is a document and no stage throws. -/
theorem start_eq_done_iff : (w.start options).1 = .done ↔
    w.isBroken .window = false ∧ w.isBroken .document = false ∧
      ∀ stage : Stage, stage.failure? w options .main = none := by
  rw [start_answer, ← Stage.findSome?_all_eq_none_iff, ← and_assoc, ← Bool.or_eq_false_iff]
  unfold noDocument?
  cases w.isBroken .window || w.isBroken .document <;>
    cases Stage.all.findSome? (Stage.failure? w options .main) <;> simp

/-- Nothing is written by a bring-up that fails before the links. -/
theorem elements_init {stage : Stage} (hHandle : w.handle.isSome)
    (hStage : stage ∈ Stage.links.before) (hFails : stage.FailsFirst w options document e) :
    (w.init options document).2.elements = w.elements := by
  have hRuns := runs_gather document options (w.replaceHandle (some {}))
  rw [failure?_replaceHandle,
    Stage.findSome?_before_links hStage hFails.failure hFails.earlier] at hRuns
  obtain ⟨h, hHandle⟩ := Option.isSome_iff_exists.mp hHandle
  unfold init Action.Runs at *
  rw [hHandle]
  dsimp only
  rcases hRun : (gather document options).run.run (w.replaceHandle (some {})) with
    ⟨thrown | wiring, left⟩
  · rw [hRun] at hRuns
    have hBringUp : (bringUp document options).run.run (w.replaceHandle (some {})) =
        (.error thrown, left) := by
      rw [bringUp, ExceptT.run_bind, StateT.run_bind, hRun]
      rfl
    rw [hBringUp]
    exact hRuns.2.elements_eq.trans (w.looked_replaceHandle (some {})).elements_eq
  · rw [hRun] at hRuns
    cases hRuns.1

theorem failsFirst_afresh {stage : Stage} :
    stage.FailsFirst { w with calls := [], log := [] } options document e ↔
      stage.FailsFirst w options document e := by
  have hSame := w.failure?_with w.handle [] [] options document
  exact ⟨fun h => ⟨hSame ▸ h.failure, hSame ▸ h.earlier⟩,
    fun h => ⟨hSame ▸ h.failure, hSame ▸ h.earlier⟩⟩

/-- A bring-up that fails is as if it had not been tried, but for the handle that was taken down
for it. No stage has its failure covered by a later one, and what the documents show is changed
only from the links on. -/
theorem init_failed_after (past : List Step) (options : Options) (document : DocumentId)
    (hHandle : (World.initial.after past).handle.isSome) :
    let found := World.initial.after past
    let answer := (found.performAfresh (.init options document)).1
    let left := (found.performAfresh (.init options document)).2
    (∀ e, answer = .failed e ↔ ∃ stage : Stage, stage.FailsFirst found options document e) ∧
    ∀ e, answer = .failed e →
      left.handle = some { document := none, interval := none, onKeydown := none, onTick := none } ∧
      left.handle.map Handle.isRunning = some false ∧
      left.timers.Sublist found.timers ∧ left.listeners.Sublist found.listeners ∧
      left.main = found.main ∧ left.other = found.other ∧
      ∀ stage : Stage, stage.FailsFirst found options document e → stage ∈ Stage.links.before →
        left.elements = found.elements := by
  intro found answer left
  have hAccounts : (Ledger.after {} World.initial past).Accounts found :=
    Ledger.Accounts.initial.after past
  refine ⟨fun e => ?_, fun e hFailed => ?_⟩
  · exact (init_eq_failed_iff (w := { found with calls := [], log := [] }) hHandle).trans
      (exists_congr fun stage => failsFirst_afresh)
  have hDown := takenDown_replaceHandle { found with calls := [], log := [] } (some {})
  rcases init_cases (w := { found with calls := [], log := [] }) hAccounts.registers.fresh
    options document with
    ⟨hNone, -⟩ | ⟨_, w', hInit, hSame, hView⟩ | ⟨_, _, _, hInit⟩
  · have hNone : found.handle = none := hNone
    rw [hNone] at hHandle
    cases hHandle
  · have hLeft : left = w' := congrArg Prod.snd hInit
    rw [hLeft]
    have hIdle : w'.handle = some {} := hSame.handle.trans hDown.handle
    refine ⟨hIdle, by rw [hIdle]; rfl, ?_, ?_, hView.main.trans hDown.main,
      hView.other.trans hDown.other, fun stage hFirst hStage => ?_⟩
    · rw [hSame.timers, hDown.timers]
      exact List.filter_sublist
    · rw [hSame.listeners, hDown.listeners]
      exact List.filter_sublist
    · rw [← hLeft]
      exact elements_init (w := { found with calls := [], log := [] }) hHandle hStage
        (failsFirst_afresh.mpr hFirst)
  · have hDone : answer = .done := congrArg Prod.fst hInit
    rw [hDone] at hFailed
    cases hFailed

/-- The clock is missing and so is the window, and no interval could be started. -/
theorem init_failed_after_removal :
    let found := World.initial.after
      [.newHandle, .breakDown .window, .breakDown .setInterval, .remove .clock .main]
    let done := found.performAfresh (.init .null .main)
    done.1 = .failed (.text (PageError.missingElement .clock).message) ∧ done.2.handle = some {} ∧
      done.2.elements = found.elements := by
  intro found done
  have hFirst : Stage.clock.FailsFirst found .null .main
      (.text (PageError.missingElement .clock).message) := by
    refine ⟨by decide +kernel, fun earlier hMem => ?_⟩
    have hEarlier : earlier = .configText ∨ earlier = .validation ∨ earlier = .searchField := by
      simpa [Stage.before, Stage.all] using hMem
    rcases hEarlier with rfl | rfl | rfl <;> decide +kernel
  obtain ⟨hAnswer, hLeft⟩ := init_failed_after
    [.newHandle, .breakDown .window, .breakDown .setInterval, .remove .clock .main] .null .main rfl
  have hFailed := (hAnswer _).mpr ⟨.clock, hFirst⟩
  obtain ⟨hHandle, -, -, -, -, -, hElements⟩ := hLeft _ hFailed
  exact ⟨hFailed, hHandle, hElements .clock hFirst (by decide)⟩

end World

end StartPage.Browser
