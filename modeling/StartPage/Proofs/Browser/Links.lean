import StartPage.Proofs.Browser.Admission
import StartPage.Proofs.Browser.Failure
import StartPage.Proofs.Browser.Service

/-! The links of a page in the document. A bring-up empties the element for the links and fills it
with an anchor per link, so that nothing is left of what it held before; the other elements hold no
anchor that they have not held before. The first frame is drawn after that, and where it is drawn
into the very element for the links, these are gone again. -/
namespace StartPage

/-- The anchor of a link. -/
def QuickLink.anchor (link : QuickLink) : Browser.Anchor := ⟨link.name, link.url⟩

/-- Every slot has the link that is configured for it, or else the default one. -/
theorem Config.quickLinks_eq (c : Config) :
    c.quickLinks = (List.range quickLinkSlots).map fun slot => c.links.getD slot .default := by
  apply List.ext_getElem (by simp [c.length_quickLinks])
  intro slot hSlot _
  have hLess : slot < quickLinkSlots := c.length_quickLinks ▸ hSlot
  simp only [quickLinks, List.getElem_append, List.getElem_map, List.getElem_range,
    List.getElem_take, List.getElem_replicate, List.length_take]
  split
  · next hKept =>
      have hConfigured : slot < c.links.length := by omega
      rw [List.getD_eq_getElem?_getD, List.getElem?_eq_getElem hConfigured, Option.getD_some]
  · next hNone =>
      have hMissing : c.links.length ≤ slot := by omega
      rw [List.getD_eq_getElem?_getD, List.getElem?_eq_none hMissing, Option.getD_none]

namespace Browser

/-- The element with these anchors behind its children. -/
def Element.withAnchors (e : Element) (links : List QuickLink) : Element :=
  { e with children := e.children ++ links.map QuickLink.anchor }

namespace World

/-- The elements after that for the links, if the document shows one, has been emptied and
filled. -/
def linked (w : World) (document : DocumentId) (links : List QuickLink) : List Element :=
  match w.find document .links with
  | none => w.elements
  | some container => w.elements.modify container fun e => (e.setText "").withAnchors links

end World

namespace Action

theorem Runs.ends {α : Type} {x : Action α} {w : World} {R : World → World → Prop}
    {failure : Option Thrown} {found : α → Prop} (h : x.Runs w R failure found) :
    x.Ends w (fun a u => R w u ∧ found a) (R w) := by
  unfold Runs at h
  unfold Ends
  rcases hRun : x.run.run w with ⟨e | a, u⟩
  · rw [hRun] at h
    exact h.2
  · rw [hRun] at h
    exact h.2

end Action

/-- One by one the anchors come behind the children that are there. -/
theorem ends_appendAnchors (container : ElementId) (links : List QuickLink) (w : World) :
    Action.Ends (links.forM fun link => do
        Action.createAnchor
        Action.appendAnchor container ⟨link.name, link.url⟩) w
      (fun _ u => u.elements = w.elements.modify container (·.withAnchors links))
        fun _ => True := by
  -- The anchors that have been made are part of the world that the rest of the loop starts from.
  induction links generalizing w with
  | nil =>
      have hNone : (fun e : Element => e.withAnchors []) = id := by
        funext e
        simp [Element.withAnchors]
      have hSame : w.elements = w.elements.modify container (·.withAnchors []) := by
        rw [hNone, List.modify_id]
      exact .pure hSame
  | cons link links ih =>
      have hOne : Action.Ends (do
          Action.createAnchor
          Action.appendAnchor container ⟨link.name, link.url⟩) w
          (fun _ u => u.elements = w.elements.modify container (·.withAnchors [link]))
            fun _ => True := by
        apply (Action.Runs.createAnchor w).ends.bind _ fun _ _ => trivial
        rintro _ u ⟨hLooked, -⟩
        apply Action.Ends.require_bind _ fun _ => trivial
        intro _
        apply Action.Ends.update
        rw [← hLooked.elements_eq]
        rfl
      apply hOne.bind _ fun _ _ => trivial
      intro _ u hFirst
      apply (ih u).imp _ fun _ _ => trivial
      intro _ v hLater
      have hBoth : (fun e : Element => (e.withAnchors [link]).withAnchors links) =
          fun e => e.withAnchors (link :: links) := by
        funext e
        simp [Element.withAnchors]
      rw [hLater, hFirst, List.modify_modify_eq]
      exact congrArg (w.elements.modify container) hBoth

/-- The element for the links has been filled, and all others are as they were. -/
theorem ends_renderLinks (document : DocumentId) (links : List QuickLink) (w : World) :
    (renderLinks document links).Ends w (fun _ u => u.elements = w.linked document links)
      fun _ => True := by
  apply (Action.Runs.query (.refl w) document .links).ends.bind _ fun _ _ => trivial
  rintro found u ⟨hLooked, rfl⟩
  unfold World.linked
  cases w.find document .links with
  | none => exact .pure hLooked.elements_eq
  | some container =>
      apply Action.Ends.update_bind
      apply (ends_appendAnchors container links _).imp _ fun _ _ => trivial
      intro _ v hFilled
      dsimp only [World.modifyElement] at hFilled ⊢
      rw [hFilled, List.modify_modify_eq, hLooked.elements_eq]
      rfl

namespace World

variable {w u w' : World} {options : Options} {document : DocumentId}
    {wiring : Wiring} {step : Step}

theorem linked_congr (hFind : u.find document .links = w.find document .links)
    (hElements : u.elements = w.elements) (links : List QuickLink) :
    u.linked document links = w.linked document links := by
  rw [linked, linked, hFind, hElements]

/-- The second world shows what the first one shows after the links of the wiring have been filled
in and a frame has been drawn. -/
structure Rendered (w w' : World) (options : Options) (document : DocumentId) (wiring : Wiring) :
    Prop where
  describes : wiring.Describes options document w
  drawn : ∃ u : World, u.elements = w.linked document wiring.page.links ∧
    w'.elements = (u.tick wiring).elements

end World

theorem rendered_bringUp (document : DocumentId) (options : Options) {w : World}
    (hFresh : ∀ t ∈ w.timers, t.id ≤ w.timersStarted) :
    (bringUp document options).Ends w
      (fun _ w' => ∃ wiring, World.Rendered w w' options document wiring) fun _ => True := by
  have hGather := (ends_gather document options w).and (runs_gather document options w).ends
  apply hGather.bind _ fun _ _ => trivial
  rintro wiring gathered ⟨⟨hDescribes, hGathered⟩, hLooked, -⟩
  have hRender := (endsSteady_renderLinks document wiring.page.links gathered).and
    (ends_renderLinks document wiring.page.links gathered)
  apply hRender.bind _ fun _ _ => trivial
  rintro _ rendered ⟨⟨hRendered, -⟩, hFilled⟩
  have hTicked := (hGathered.steady hRendered).steady (.tick rendered wiring)
  have hFreshTicked :
      ∀ t ∈ (rendered.tick wiring).timers, t.id ≤ (rendered.tick wiring).timersStarted := by
    rw [hTicked.timers, hTicked.timersStarted]
    exact hFresh
  apply Action.Ends.update_bind
  apply (ends_startTimerThenListen _ wiring document hFreshTicked).bind _ fun _ _ => trivial
  rintro _ _ ⟨rfl, rfl⟩
  rw [World.linked_congr (hLooked.find document .links) hLooked.elements_eq] at hFilled
  exact .update_bind (.pure ⟨wiring, hDescribes, rendered, hFilled, rfl⟩)

namespace World

variable {w u w' : World} {options : Options} {document : DocumentId}
    {wiring : Wiring} {step : Step}

/-- Whoever shows the same elements finds the same wiring. -/
theorem Rendered.of_view (hView : ∀ selector, u.find document selector = w.find document selector)
    (hElements : u.elements = w.elements) (h : Rendered u w' options document wiring) :
    Rendered w w' options document wiring where
  describes :=
    { page := h.describes.page
      searchField := (hView _).symm.trans h.describes.searchField
      clock := (hView _).symm.trans h.describes.clock
      title := (hView _).symm.trans h.describes.title }
  drawn := by
    obtain ⟨v, hFilled, hDrawn⟩ := h.drawn
    exact ⟨v, hFilled.trans (linked_congr (hView .links) hElements _), hDrawn⟩

theorem rendered_init (hFresh : ∀ t ∈ w.timers, t.id ≤ w.timersStarted)
    (hDone : (w.init options document).1 = .done) :
    ∃ wiring, Rendered w (w.init options document).2 options document wiring := by
  have hDown := takenDown_replaceHandle w (some {})
  rcases init_of_ends
    (rendered_bringUp document options (fresh_replaceHandle hFresh (some {}))) with
    ⟨-, hInit⟩ | ⟨e, left, hInit, -⟩ | ⟨handle, up, hInit, wiring, hRendered⟩
  · rw [hInit] at hDone
    cases hDone
  · rw [hInit] at hDone
    cases hDone
  · have hHeld :
        Rendered (w.replaceHandle (some {}))
        { up with handle := some handle } options document wiring :=
      { hRendered with }
    rw [hInit]
    exact ⟨wiring, hHeld.of_view (hDown.find document) hDown.shown⟩

theorem rendered_start (hFresh : ∀ t ∈ w.timers, t.id ≤ w.timersStarted)
    (hDone : (w.start options).1 = .done) :
    ∃ wiring, Rendered w (w.start options).2 options .main wiring := by
  rcases start_of_ends trivial (rendered_bringUp .main options hFresh) with
    ⟨e, left, hStart, -⟩ | ⟨handle, up, hStart, -, wiring, hRendered⟩
  · rw [hStart] at hDone
    cases hDone
  · have hDown := takenDown_replaceHandle up (some handle)
    obtain ⟨v, hFilled, hDrawn⟩ := hRendered.drawn
    rw [hStart]
    exact ⟨wiring, hRendered.describes, v, hFilled, hDown.shown.trans hDrawn⟩

/-- A step that brings a page up fills in its links. -/
theorem rendered_performAfresh (hFresh : ∀ t ∈ w.timers, t.id ≤ w.timersStarted)
    (hOpens : step.opens = some (options, document)) (hDone : (w.performAfresh step).1 = .done) :
    ∃ wiring, Rendered w (w.performAfresh step).2 options document wiring := by
  suffices hAfresh : ∃ wiring,
      Rendered { w with calls := [], log := [] } (w.performAfresh step).2 options document wiring by
    obtain ⟨wiring, hRendered⟩ := hAfresh
    exact ⟨wiring, .of_view (u := { w with calls := [], log := [] }) (fun _ => rfl) rfl hRendered⟩
  cases step with
  | init _ _ =>
      cases hOpens
      exact rendered_init (w := { w with calls := [], log := [] }) hFresh hDone
  | start _ =>
      cases hOpens
      exact rendered_start (w := { w with calls := [], log := [] }) hFresh hDone
  | newHandle | destroy | free | key | fire | setTime | type | remove | put | breakDown | fix =>
      cases hOpens

/-- A frame is drawn into the clock and the title alone. -/
theorem getElem?_tick {id : ElementId} (hClock : wiring.clock ≠ id) (hTitle : wiring.title ≠ id)
    (w : World) :
    (w.tick wiring).elements[id]? = w.elements[id]? := by
  dsimp only [tick, modifyElement, logged]
  rw [List.getElem?_modify_ne _ _ hTitle, List.getElem?_modify_ne _ _ hClock]

/-- What a frame is drawn into holds nothing but its text. -/
theorem children_of_tick {id : ElementId} {e : Element}
    (hDrawn : wiring.clock = id ∨ wiring.title = id)
    (hShown : (w.tick wiring).elements[id]? = some e) : e.children = [] := by
  dsimp only [tick, modifyElement, logged] at hShown
  simp only [List.getElem?_modify, Option.map_eq_map, Option.map_map, Option.map_eq_some_iff,
    Function.comp_apply]
    at hShown
  obtain ⟨found, -, rfl⟩ := hShown
  by_cases hTitle : wiring.title = id
  · rw [if_pos hTitle]
    rfl
  · rw [if_neg hTitle, if_pos (hDrawn.resolve_right hTitle)]
    rfl

namespace Rendered

/-- An element that is neither the clock nor the title keeps the links that it is filled with. -/
theorem filled (h : Rendered w w' options document wiring) {container : ElementId}
    (hFind : w.find document .links = some container)
    (hClock : w.find document .clock ≠ some container)
    (hTitle : w.find document .title ≠ some container) :
    w'.elements[container]? =
      w.elements[container]?.map fun e => (e.setText "").withAnchors wiring.page.links := by
  obtain ⟨u, hFilled, hDrawn⟩ := h.drawn
  have hClockApart : wiring.clock ≠ container := fun hSame => hClock (hSame ▸ h.describes.clock)
  have hTitleApart : wiring.title ≠ container := fun hSame => hTitle (hSame ▸ h.describes.title)
  rw [hDrawn, getElem?_tick hClockApart hTitleApart, hFilled, linked, hFind]
  exact List.getElem?_modify_eq ..

theorem drawnOver (h : Rendered w w' options document wiring) {id : ElementId} {e : Element}
    (hFrame : w.find document .clock = some id ∨ w.find document .title = some id)
    (hShown : w'.elements[id]? = some e) : e.children = [] := by
  obtain ⟨u, -, hDrawn⟩ := h.drawn
  rw [hDrawn] at hShown
  rw [h.describes.clock, h.describes.title, Option.some.injEq, Option.some.injEq] at hFrame
  exact children_of_tick hFrame hShown

/-- All others are as they were or hold no anchor. -/
theorem others (h : Rendered w w' options document wiring) {id : ElementId} {e : Element}
    (hShown : w'.elements[id]? = some e) :
    w.find document .links = some id ∨ e.children = [] ∨ w.elements[id]? = some e := by
  obtain ⟨u, hFilled, hDrawn⟩ := h.drawn
  rw [hDrawn] at hShown
  by_cases hFrame : wiring.clock = id ∨ wiring.title = id
  · exact .inr (.inl (children_of_tick hFrame hShown))
  rw [not_or] at hFrame
  rw [getElem?_tick hFrame.1 hFrame.2, hFilled, linked] at hShown
  split at hShown
  · exact .inr (.inr hShown)
  · next container hFind =>
      by_cases hSame : container = id
      · exact .inl (hSame ▸ hFind)
      · rw [List.getElem?_modify_ne _ _ hSame] at hShown
        exact .inr (.inr hShown)

end Rendered

/-- Links behind those that have a slot make no difference. -/
theorem opens_alike {options options' : Options} {config : Config} {more : List QuickLink}
    (hConfig : options.config = .ok config) (hSlots : quickLinkSlots ≤ config.links.length)
    (hMore : options'.config = .ok { config with links := config.links ++ more }) (w : World) :
    (∀ document, w.performAfresh (.init options' document) =
      w.performAfresh (.init options document)) ∧
      w.performAfresh (.start options') = w.performAfresh (.start options) := by
  have hLinks : Config.quickLinks { config with links := config.links ++ more } =
      config.quickLinks := by
    simp only [Config.quickLinks, List.take_append_of_le_length hSlots]
  have hSame : Page.create { config with links := config.links ++ more } = Page.create config :=
    Page.create_congr rfl rfl hLinks rfl
  have hPages : options'.page = options.page := by
    rw [Options.page, Options.page, hConfig, hMore]
    dsimp only
    rw [hSame]
  exact ⟨fun document => init_eq_of_page hPages _ document, start_eq_of_page hPages _⟩

/-- Without an element for the links only the other stages can throw. -/
theorem init_eq_done_iff_of_no_links (hHandle : w.handle.isSome)
    (hNone : w.find document .links = none) :
    (w.performAfresh (.init options document)).1 = .done ↔
      w.isBroken (.query .links) = false ∧
        ∀ stage ≠ Stage.links, stage.failure? w options document = none := by
  have hLinks : Stage.links.failure? w options document = none ↔
      w.isBroken (.query .links) = false := by
    simp [Stage.failure?, fault, hNone]
  rw [performAfresh_init_eq_done_iff hHandle]
  constructor
  · intro hWorks
    exact ⟨hLinks.mp (hWorks .links), fun stage _ => hWorks stage⟩
  · rintro ⟨hQuery, hOthers⟩ stage
    by_cases hStage : stage = .links
    · rw [hStage]
      exact hLinks.mpr hQuery
    · exact hOthers stage hStage

/-- What a page with these settings leaves in its document. The element for the links holds those of
the settings, slot by slot, and nothing else, if it is neither the clock nor the title. If it is one
of these, the frame has replaced the links. No other element has an anchor that it has not held
before. -/
structure ShowsLinks (found left : World) (document : DocumentId) (config : Config) : Prop where
  filled : ∀ container, found.find document .links = some container →
    container < found.elements.length →
    found.find document .clock ≠ some container → found.find document .title ≠ some container →
    left.find document .links = some container ∧
    ∃ shown, left.elements[container]? = some shown ∧ shown.text = "" ∧
      shown.children = (List.range quickLinkSlots).map fun slot =>
        (config.links.getD slot .default).anchor
  drawnOver : ∀ container, found.find document .links = some container →
    found.find document .clock = some container ∨ found.find document .title = some container →
    ∀ shown, left.elements[container]? = some shown → shown.children = []
  others : ∀ id e, left.elements[id]? = some e →
    found.find document .links = some id ∨ e.children = [] ∨ found.elements[id]? = some e

/-- Two documents may hold anything, and any run may have gone before: a step that then brings a
page up leaves the links of its settings in the document of the page. Links without a slot make no
difference, and where there is no element for the links only the other stages decide whether the
page comes up. -/
theorem links_after (elements : List Element) (main other : Document) (past : List Step) :
    let found := after { elements, main, other } past
    (∀ step options document, step.opens = some (options, document) →
      (found.performAfresh step).1 = .done →
      ∃ config, options.config = .ok config ∧ config.validate = .ok () ∧
        ShowsLinks found (found.performAfresh step).2 document config) ∧
    (∀ options options' config more, options.config = .ok config →
      quickLinkSlots ≤ config.links.length →
      options'.config = .ok { config with links := config.links ++ more } →
      (∀ document, found.performAfresh (.init options' document) =
        found.performAfresh (.init options document)) ∧
        found.performAfresh (.start options') = found.performAfresh (.start options)) ∧
    ∀ options document, found.handle.isSome → found.find document .links = none →
      ((found.performAfresh (.init options document)).1 = .done ↔
        found.isBroken (.query .links) = false ∧
          ∀ stage ≠ Stage.links, stage.failure? found options document = none) := by
  intro found
  have hAccounts : (Ledger.after {} { elements, main, other } past).Accounts found :=
    (Ledger.Accounts.blank elements main other).after past
  refine ⟨?_, fun _ _ _ _ hConfig hSlots hMore => opens_alike hConfig hSlots hMore found,
    fun _ _ hHandle hNone => init_eq_done_iff_of_no_links hHandle hNone⟩
  intro step options document hOpens hDone
  obtain ⟨wiring, hRendered⟩ := rendered_performAfresh hAccounts.registers.fresh hOpens hDone
  obtain ⟨config, log, hConfig, hCreate⟩ := hRendered.describes.page
  obtain ⟨hValid, -, -, -, hLinks, -⟩ := Page.of_create (congrArg Prod.fst hCreate)
  refine ⟨config, hConfig, hValid, ?_, fun _ _ hFrame _ hShown => hRendered.drawnOver hFrame hShown,
    fun _ _ hShown => hRendered.others hShown⟩
  intro container hFind hExists hClock hTitle
  obtain ⟨handle, hView⟩ :=
    sameView_performAfresh hAccounts.registers.fresh (Step.isQuiet_of_opens hOpens)
  have hFilled := hRendered.filled hFind hClock hTitle
  rw [List.getElem?_eq_getElem hExists] at hFilled
  refine ⟨(hView.find document .links).trans hFind, _, hFilled, rfl, ?_⟩
  rw [hLinks, Config.quickLinks_eq]
  exact List.map_map ..

/-- The clock and the title are one element, and the one for the links already holds an anchor. It
is filled twice: first with the default links, then with one link of its own. -/
theorem links_after_refill :
    let shown : List Element :=
      [{ tag := "input" }, { tag := "div" },
        { tag := "ul", text := "old", children := [⟨"old", "old"⟩] }]
    let main : Document :=
      { searchField := some 0, clock := some 1, title := some 1, links := some 2 }
    let options := Options.json "\x7b\"links\":[\x7b\"name\":\"a\",\"url\":\"b\"\x7d]\x7d"
    let left :=
      (after { elements := shown, main, other := {} } [.newHandle, .init .null .main]).performAfresh
        (.init options .main)
    left.1 = .done ∧ ∃ e, left.2.elements[2]? = some e ∧ e.text = "" ∧
      e.children = ⟨"a", "b"⟩ :: List.replicate 3 QuickLink.default.anchor := by
  intro shown main options left
  have hDone : left.1 = .done := by decide +kernel
  obtain ⟨hBrought, -⟩ := links_after shown main {} [.newHandle, .init .null .main]
  obtain ⟨config, hConfig, -, hShows⟩ := hBrought (.init options .main) options .main rfl hDone
  obtain ⟨-, e, hShown, hText, hChildren⟩ :=
    hShows.filled 2 (by decide +kernel) (by decide +kernel) (by decide +kernel) (by decide +kernel)
  have hOwn : options.config = .ok { links := [⟨"a", "b"⟩] } := by decide +kernel
  cases hOwn.symm.trans hConfig
  exact ⟨hDone, e, hShown, hText, hChildren⟩

/-- Where one element is both the clock and the one for the links, a page comes up and the frame
leaves no link in it. Without an element for the links, a document may still lack the clock, and
then no page comes up. -/
theorem links_lost_or_refused :
    let elements : List Element := [{ tag := "input" }, { tag := "nav" }, { tag := "title" }]
    let main : Document :=
      { searchField := some 0, clock := some 1, title := some 2, links := some 1 }
    let shared := after { elements, main, other := {} } [.newHandle]
    let bare := World.initial.after [.newHandle, .remove .links .main, .remove .clock .main]
    (shared.find .main .links = some 1 ∧ (shared.performAfresh (.init .null .main)).1 = .done ∧
      (shared.performAfresh (.init .null .main)).2.elements[1]? =
        some { tag := "nav", text := "00:00:00", children := [] }) ∧
    bare.find .main .links = none ∧ (bare.performAfresh (.init .null .main)).1 =
      .failed (.text (PageError.missingElement .clock).message) := by
  decide +kernel

end World

end Browser

end StartPage
