import StartPage.Proofs.Browser.Admission

/-! What a bring-up asks of a browser, and what it reports. One that succeeds has always made the
same calls in the same order. One that fails has made some of them, and it may have stopped the
interval that it started itself; what others have registered it never asks to be taken off. -/
namespace StartPage.Browser

/-- The calls of a bring-up that succeeds. -/
def bringUpCalls (document : DocumentId) (page : Page) : List HostCall :=
  [.query .searchField, .query .clock, .query .title, .query .links,
    .setInterval (timeoutOf page), .addListener document]

/-- The events of a bring-up that succeeds at some time of day. -/
def bringUpLog (now : LocalTime) (page : Page) : List LogEvent :=
  [page.configuredEvent, (ClockFrame.render now page.displayName).event, .running page.tickMillis]

/-- A call that brings a page up: it looks for an element or registers something, or it stops an
interval that was started after a number of others. -/
def HostCall.bringsUp (started : Nat) : HostCall → Bool
  | .query _ | .setInterval _ | .addListener _ => true
  | .clearInterval id => started < id
  | .removeListener _ | .replace _ => false

namespace World

/-- Between the two worlds nothing has been asked for but what brings a page up. -/
def Tries (started : Nat) (w w' : World) : Prop :=
  ∃ made, w'.calls = w.calls ++ made ∧ ∀ call ∈ made, call.bringsUp started = true

/-- Between the two worlds, at one time of day, these calls have been made to bring a page up, and
these events have been logged. -/
structure Made (started : Nat) (w w' : World) (calls : List HostCall) (log : List LogEvent) :
    Prop where
  bringsUp : ∀ call ∈ calls, call.bringsUp started = true
  now : w'.now = w.now
  timersStarted : w.timersStarted ≤ w'.timersStarted
  calls : w'.calls = w.calls ++ calls
  log : w'.log = w.log ++ log

variable {started : Nat} {u v w : World} {calls later : List HostCall}
    {log laterLog : List LogEvent}

theorem bringsUp_append (h : ∀ call ∈ calls, call.bringsUp started = true)
    (k : ∀ call ∈ later, call.bringsUp started = true) :
    ∀ call ∈ calls ++ later, call.bringsUp started = true :=
  fun call hMem => (List.mem_append.mp hMem).elim (h call) (k call)

theorem Tries.refl (started : Nat) (w : World) : Tries started w w :=
  ⟨[], (List.append_nil _).symm, nofun⟩

theorem Tries.trans (h : Tries started u v) (k : Tries started v w) : Tries started u w := by
  obtain ⟨made, hMade, hUp⟩ := h
  obtain ⟨more, hMore, hUpLater⟩ := k
  exact ⟨made ++ more, by rw [hMore, hMade, List.append_assoc], bringsUp_append hUp hUpLater⟩

theorem Tries.clearInterval (w : World) {id : Nat} (h : started < id) :
    Tries started w (w.clearInterval id) :=
  ⟨[.clearInterval id], rfl, fun _ hMem => List.mem_singleton.mp hMem ▸ decide_eq_true h⟩

namespace Made

theorem refl (w : World) : Made started w w [] [] :=
  ⟨nofun, rfl, Nat.le_refl _, (List.append_nil _).symm, (List.append_nil _).symm⟩

theorem trans (h : Made started u v calls log) (k : Made started v w later laterLog) :
    Made started u w (calls ++ later) (log ++ laterLog) where
  bringsUp := bringsUp_append h.bringsUp k.bringsUp
  now := k.now.trans h.now
  timersStarted := Nat.le_trans h.timersStarted k.timersStarted
  calls := by rw [k.calls, h.calls, List.append_assoc]
  log := by rw [k.log, h.log, List.append_assoc]

theorem tries (h : Made started v w calls log) : Tries started v w := ⟨calls, h.calls, h.bringsUp⟩

theorem logged (w : World) (events : List LogEvent) : Made started w (w.logged events) [] events :=
  { refl w with log := rfl }

theorem record (w : World) {call : HostCall} (h : call.bringsUp started = true) :
    Made started w (w.record call) [call] [] :=
  ⟨fun _ hMem => List.mem_singleton.mp hMem ▸ h, rfl, Nat.le_refl _, rfl, (List.append_nil _).symm⟩

theorem modifyElement (w : World) (id : ElementId) (f : Element → Element) :
    Made started w (w.modifyElement id f) [] [] := { refl w with }

theorem tick (w : World) (wiring : Wiring) :
    Made started w (w.tick wiring) [] [(ClockFrame.render w.now wiring.page.displayName).event] :=
  ((logged w _).trans (modifyElement _ _ _)).trans (modifyElement _ _ _)

end Made

end World

namespace Action

variable {α β : Type} {x : Action α} {f : α → Action β} {started : Nat} {w : World}
    {found : α → Prop}
  {answered : β → Prop} {calls later : List HostCall} {log laterLog : List LogEvent}

/-- If the action answers, it has made these calls and logged these events. If it throws, it has
made some calls that bring a page up. -/
def Asks (x : Action α) (started : Nat) (w : World) (calls : List HostCall) (log : List LogEvent)
    (answered : α → Prop) : Prop :=
  x.Ends w (fun a w' => World.Made started w w' calls log ∧ answered a) (World.Tries started w)

namespace Asks

theorem pure {a : α} (h : found a) : Asks (pure a) started w [] [] found := ⟨.refl w, h⟩

theorem fail {e : PageError} : Asks (Action.fail e) started w [] [] found := .refl _ w

theorem throw {e : Thrown} : Asks (throw e) started w [] [] found := .refl _ w

theorem get_bind {f : World → Action β} (h : (f w).Asks started w calls log answered) :
    (getThe World >>= f).Asks started w calls log answered := h

theorem update (g : World → World) (h : World.Made started w (g w) calls log) :
    Asks (Action.update g) started w calls log fun _ => True := ⟨h, trivial⟩

/-- What has been made before counts too. -/
theorem after {u : World} (hMade : World.Made started u w calls log)
    (h : x.Asks started w later laterLog found) :
    x.Ends w (fun a v => World.Made started u v (calls ++ later) (log ++ laterLog) ∧ found a)
      (World.Tries started u) := by
  unfold Asks Ends at *
  rcases hRun : x.run.run w with ⟨e | a, v⟩
  · rw [hRun] at h
    exact hMade.tries.trans h
  · rw [hRun] at h
    exact ⟨hMade.trans h.1, h.2⟩

theorem bind (hFirst : x.Asks started w calls log found)
    (hNext : ∀ a u, World.Made started w u calls log → found a →
      (f a).Asks started u later laterLog answered) :
    (x >>= f).Asks started w (calls ++ later) (log ++ laterLog) answered :=
  Ends.bind hFirst (fun a u hMade => (hNext a u hMade.1 hMade.2).after hMade.1)
    fun _ hThrown => hThrown

theorem fail_bind {e : PageError} :
    (Action.fail e >>= f : Action β).Asks started w later laterLog answered :=
  .refl _ w

theorem record {call : HostCall} (h : call.bringsUp started = true) :
    Asks (Action.update (·.record call)) started w [call] [] fun _ => True := update _ (.record w h)

/-- An update that nobody sees, and then something else. -/
theorem update_bind {g : World → World} {f : Unit → Action β} (h : World.Made started w (g w) [] [])
    (hNext : (f ()).Asks started (g w) calls log answered) :
    (Action.update g >>= f).Asks started w calls log answered :=
  Ends.update_bind (hNext.after h)

theorem require (facility : Facility) :
    Asks (Action.require facility) started w [] [] fun _ => True :=
  Ends.require (fun _ => ⟨.refl w, trivial⟩) fun _ => .refl _ w

theorem query (document : DocumentId) (selector : Selector) :
    Asks (Action.query document selector) started w [.query selector] [] fun _ => True :=
  (record rfl).bind fun _ _ _ _ => (require _).bind fun _ _ _ _ => get_bind (pure trivial)

theorem queryRequired (document : DocumentId) (selector : Selector) :
    Asks (Action.queryRequired document selector) started w [.query selector] [] fun _ => True := by
  refine (query document selector).bind fun element u _ _ => ?_
  cases element with
  | none => exact fail
  | some element => exact pure trivial

theorem createAnchor : Asks Action.createAnchor started w [] [] fun _ => True := by
  refine (require _).bind fun _ _ _ _ => get_bind ?_
  split
  · exact throw
  · exact pure trivial

theorem appendAnchor (parent : ElementId) (anchor : Anchor) :
    Asks (Action.appendAnchor parent anchor) started w [] [] fun _ => True :=
  (require _).bind fun _ u _ _ => update _ (.modifyElement u parent _)

theorem forM {items : List α} {f : α → Action Unit}
    (h : ∀ a w, (f a).Asks started w [] [] fun _ => True) (w : World) :
    Asks (items.forM f) started w [] [] fun _ => True := by
  induction items generalizing w with
  | nil => exact pure trivial
  | cons a items ih => exact (h a w).bind fun _ u _ _ => ih u

end Asks

end Action

variable {started : Nat} {options : Options} {page : Page}

theorem asks_openPage (hPage : options.page = .ok page) (w : World) :
    (openPage options).Asks started w [] [page.configuredEvent] (· = page) := by
  unfold Action.Asks Action.Ends
  rw [run_openPage, hPage]
  exact ⟨.logged w _, rfl⟩

theorem asks_findSearchField (document : DocumentId) (w : World) :
    (findSearchField document).Asks started w [.query .searchField] [] fun _ => True := by
  refine (Action.Asks.queryRequired document .searchField).bind fun element u _ _ => ?_
  refine Action.Asks.get_bind ?_
  split
  · split
    · exact .pure trivial
    · exact .fail
  · exact .fail

theorem asks_gather (hPage : options.page = .ok page) (document : DocumentId) (w : World) :
    (gather document options).Asks started w [.query .searchField, .query .clock, .query .title]
      [page.configuredEvent] (·.page = page) := by
  refine (asks_openPage hPage w).bind fun _ w₁ _ hSame => ?_
  rw [hSame]
  refine (asks_findSearchField document w₁).bind fun field w₂ _ _ => ?_
  refine (Action.Asks.queryRequired document .clock).bind fun clock w₃ _ _ => ?_
  refine (Action.Asks.queryRequired document .title).bind fun title w₄ _ _ => ?_
  refine Action.Asks.get_bind ?_
  split
  · exact .fail_bind
  · exact .update_bind { World.Made.refl w₄ with } (.pure rfl)

theorem asks_renderLinks (document : DocumentId) (links : List QuickLink) (w : World) :
    (renderLinks document links).Asks started w [.query .links] [] fun _ => True := by
  refine (Action.Asks.query document .links).bind fun container u _ _ => ?_
  cases container with
  | none => exact .pure trivial
  | some container =>
      refine .update_bind (.modifyElement u container _) (.forM (fun link v => ?_) _)
      exact Action.Asks.createAnchor.bind fun _ _ _ _ => .appendAnchor container _

/-- The interval that is stopped when the listener cannot be attached has just been started. -/
theorem asks_startTimerThenListen (timeout : Nat) (wiring : Wiring) (document : DocumentId)
    {w : World} (hStarted : started ≤ w.timersStarted) :
    Action.Asks
      (startTimerThenListen (Action.setInterval timeout wiring) (Action.addListener document wiring)
        fun id => modifyThe World (·.clearInterval id)) started w
      [.setInterval timeout, .addListener document] [] fun _ => True := by
  have hStart : (Action.setInterval timeout wiring).Asks started w [.setInterval timeout] []
      (started < ·) := by
    refine (Action.Asks.record rfl).bind fun _ u hRecorded _ => ?_
    refine (Action.Asks.require _).bind fun _ v hRequired _ => Action.Asks.get_bind ?_
    have hLess : started < v.timersStarted + 1 :=
      Nat.lt_succ_of_le
        (Nat.le_trans hStarted (Nat.le_trans hRecorded.timersStarted hRequired.timersStarted))
    exact .update_bind { World.Made.refl v with timersStarted := Nat.le_succ _ } (.pure hLess)
  have hListen (w : World) :
      (Action.addListener document wiring).Asks started w [.addListener document] []
      fun _ => True :=
    (Action.Asks.record rfl).bind fun _ _ _ _ => (Action.Asks.require _).bind fun _ u _ _ =>
      .update _ { World.Made.refl u with }
  refine hStart.bind fun id u _ hLess => ?_
  refine Action.Asks.bind
    (Action.Ends.tryCatch (hListen u) fun e v hTried => ?_) fun _ _ _ _ => .pure trivial
  have hStopped : World.Tries started u (v.clearInterval id) :=
    hTried.trans (.clearInterval v hLess)
  exact hStopped

theorem asks_bringUp (document : DocumentId) (hPage : options.page = .ok page) {w : World}
    (hStarted : started ≤ w.timersStarted) :
    (bringUp document options).Asks started w (bringUpCalls document page) (bringUpLog w.now page)
      fun _ => True := by
  refine (asks_gather hPage document w).bind fun wiring u hGathered hSame => ?_
  rw [hSame]
  refine (asks_renderLinks document page.links u).bind fun _ v hRendered _ => ?_
  have hDrawn : World.Made started v (v.tick wiring) [] _ := .tick v wiring
  rw [hSame, hRendered.now, hGathered.now] at hDrawn
  refine (Action.Asks.update (·.tick wiring) hDrawn).bind fun _ x hTicked _ => ?_
  have hStill : started ≤ x.timersStarted := by
    have hFirst := hGathered.timersStarted
    have hSecond := hRendered.timersStarted
    have hThird := hTicked.timersStarted
    omega
  refine (asks_startTimerThenListen _ wiring document hStill).bind fun _ y _ _ => ?_
  exact (Action.Asks.update (·.logged _) (.logged y _)).bind fun _ _ _ _ => .pure trivial

/-- A bring-up that succeeds has made its calls and logged its events for the page that the options
describe. One that fails has asked for nothing but bringing a page up. -/
theorem made_bringUp (document : DocumentId) (options : Options) (w : World) :
    (bringUp document options).Ends w
      (fun _ w' => ∃ page, options.page = .ok page ∧
        World.Made w.timersStarted w w' (bringUpCalls document page) (bringUpLog w.now page))
      (World.Tries w.timersStarted w) := by
  cases hPage : options.page with
  | error e =>
      unfold Action.Ends
      rw [run_bringUp_of_error hPage]
      exact .refl _ w
  | ok page =>
      have hAsks := asks_bringUp document hPage (Nat.le_refl w.timersStarted)
      exact hAsks.imp (fun _ _ hMade => ⟨page, rfl, hMade.1⟩) fun _ hTried => hTried

end StartPage.Browser
