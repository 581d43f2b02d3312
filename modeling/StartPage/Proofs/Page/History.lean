import Mathlib.Data.List.Basic
import StartPage.Page.Run

/-! Where a page goes in the course of a run. The addresses that are asked for follow from the
steps alone; of these the navigator records as many as it accepts, in their order. A departure
leaves everything but the history as it was, and everything else leaves the history as it was. -/
namespace StartPage

namespace History

/-- The navigations within a bound, of those that are asked for. -/
def admitted (bound : Option Nat) (urls : List Url) : List Url :=
  match bound with
  | none => urls
  | some k => urls.take k

/-- One more navigation is within a bound, after a number of them have been asked for. -/
def admits (bound : Option Nat) (asked : Nat) : Bool := bound.all (asked < ·)

theorem admitted_append (bound : Option Nat) (asked : List Url) (url : Url) :
    admitted bound (asked ++ [url]) =
      admitted bound asked ++ if admits bound asked.length then [url] else [] := by
  cases bound with
  | none => rfl
  | some k =>
      simp only [admitted, admits, Option.all_some, decide_eq_true_eq]
      by_cases hWithin : asked.length < k
      · rw [if_pos hWithin, List.take_of_length_le (Nat.le_of_lt hWithin), List.take_of_length_le]
        rw [List.length_append]
        exact hWithin
      · rw [if_neg hWithin, List.append_nil,
          List.take_append_of_le_length (Nat.le_of_not_lt hWithin)]

/-- A navigator that has recorded what its bound admits accepts what its bound admits. -/
theorem accepts_eq {h : History} {asked : List Url}
    (hVisited : h.visited = admitted h.bound asked) : h.accepts = admits h.bound asked.length := by
  unfold accepts admits
  cases hBound : h.bound with
  | none => rfl
  | some k =>
      have hLength : h.visited.length = min k asked.length := by
        rw [hVisited, hBound]
        exact List.length_take
      simp only [hLength, Option.all_some, decide_eq_decide]
      omega

/-- The history with one more address, if the navigator accepts it. -/
def asked (h : History) (url : Url) : History :=
  { h with visited := h.visited ++ if h.accepts then [url] else [] }

theorem navigate_eq (h : History) (url : Url) :
    (Navigator.navigate url h : Except Refusal Unit × History) =
      (if h.accepts then .ok () else .error .blocked, h.asked url) := by
  change (if h.accepts then _ else _) = _
  unfold asked
  cases h.accepts with
  | true => rfl
  | false => simp

end History

/-- A page asks the navigator once, and reports that whatever the navigator answers. -/
theorem Page.redirect_eq (p : Page) (text : String) (h : History) :
    p.redirect text h =
      { answer := if h.accepts then .ok (p.engine.redirectUrl text) else .error .blocked
        navigator := h.asked (p.engine.redirectUrl text)
        log := [.redirect (p.engine.redirectUrl text).text] } := by
  unfold redirect
  dsimp only
  rw [History.navigate_eq]
  cases h.accepts <;> rfl

namespace PageRun

/-- The text that a step searches for, if it leaves the page. -/
def Step.departure? : Step → Option String
  | .key input text => if input.submits then some text else none
  | .redirect text => some text
  | .tick | .clock _ | .recall => none

/-- The step is a key press or a redirect, whether it leaves the page or not. -/
def Step.isVisit : Step → Bool
  | .key .. | .redirect _ => true
  | .tick | .clock _ | .recall => false

/-- What a step that leaves the page answers, by what came of that. -/
def Step.answer (went : Except History.Refusal Url) : Step → Answer
  | .key .. => .pressed (went.map .redirected)
  | _ => .left went

/-- The addresses that several steps ask for. -/
def addresses (p : Page) (steps : List Step) : List Url :=
  (steps.filterMap Step.departure?).map p.engine.redirectUrl

/-- The run after several steps in turn. -/
def after (r : PageRun) (steps : List Step) : PageRun :=
  steps.foldl (fun r step => (r.perform step).run) r

/-- The events of several steps in turn. -/
def events (r : PageRun) (steps : List Step) : List LogEvent :=
  (r.performAll steps).flatMap Outcome.log

/-- The event looks like that of a departure, by its level or by its message. -/
def isDeparture (event : LogEvent) : Bool :=
  event.level = .debug || event.message = "search redirect"

variable {r : PageRun} {step : Step} {steps : List Step} {asked : List Url}

theorem Step.submits_of_departure {input : KeyInput} {text searched : String}
    (h : Step.departure? (.key input text) = some searched) :
    input.submits = true ∧ text = searched := by
  unfold Step.departure? at h
  dsimp only at h
  split at h
  · next hSubmits => exact ⟨hSubmits, Option.some.inj h⟩
  · cases h

theorem perform_of_departure (r : PageRun) {text : String} (h : step.departure? = some text) :
    r.perform step =
      { run := { r with history := r.history.asked (r.page.engine.redirectUrl text) }
        answer := step.answer
          (if r.history.accepts then .ok (r.page.engine.redirectUrl text) else .error .blocked)
        log := [.redirect (r.page.engine.redirectUrl text).text] } := by
  cases step with
  | redirect =>
      cases h
      rw [perform, Page.redirect_eq]
      rfl
  | key input =>
      obtain ⟨hSubmits, rfl⟩ := Step.submits_of_departure h
      rw [perform, Page.handleKey, if_pos hSubmits, Page.redirect_eq]
      rfl
  | _ => cases h

theorem perform_of_ignored (r : PageRun) {input : KeyInput} (h : input.submits = false)
    (text : String) :
    r.perform (.key input text) = { run := r, answer := .pressed (.ok .ignored), log := [] } := by
  rw [perform, Page.handleKey, if_neg (by simp [h])]

theorem perform_of_not_departure (r : PageRun) (h : step.departure? = none) :
    (r.perform step).run.history = r.history ∧ (r.perform step).log.filter isDeparture = [] := by
  cases step with
  | redirect => cases h
  | key input text =>
      have hIgnored : input.submits = false := by
        by_contra hSubmits
        rw [Step.departure?, if_pos (by simpa using hSubmits)] at h
        cases h
      rw [r.perform_of_ignored hIgnored]
      exact ⟨rfl, rfl⟩
  | _ => exact ⟨rfl, rfl⟩

/-- Leaving the page, or being refused, touches nothing but the history. -/
theorem run_perform_of_isVisit (r : PageRun) (h : step.isVisit = true) :
    (r.perform step).run = { r with history := (r.perform step).run.history } := by
  cases step with
  | key | redirect => rfl
  | _ => cases h

theorem page_perform (r : PageRun) (step : Step) : (r.perform step).run.page = r.page := by
  cases step <;> rfl

theorem page_unchanged (r : PageRun) (steps : List Step) : (r.after steps).page = r.page := by
  induction steps generalizing r with
  | nil => rfl
  | cons step steps ih => exact (ih _).trans (r.page_perform step)

theorem addresses_append (p : Page) (steps later : List Step) :
    addresses p (steps ++ later) = addresses p steps ++ addresses p later := by
  simp only [addresses, List.filterMap_append, List.map_append]

theorem addresses_of_departure (p : Page) {text : String} (h : step.departure? = some text) :
    addresses p [step] = [p.engine.redirectUrl text] := by
  simp [addresses, h]

theorem addresses_of_not_departure (p : Page) (h : step.departure? = none) :
    addresses p [step] = [] := by
  simp [addresses, h]

/-- Only the key presses and the redirects decide which addresses are asked for. -/
theorem addresses_filter_isVisit (p : Page) (steps : List Step) :
    addresses p (steps.filter Step.isVisit) = addresses p steps := by
  unfold addresses
  rw [List.filterMap_filter]
  refine congrArg (List.map _) (List.filterMap_congr fun step _ => ?_)
  cases step <;> rfl

/-- The navigator has recorded what its bound admits of the addresses that were asked for. -/
def HasRecorded (r : PageRun) (bound : Option Nat) (asked : List Url) : Prop :=
  r.history = { visited := History.admitted bound asked, bound }

namespace HasRecorded

variable {bound : Option Nat}

theorem accepts_eq (h : r.HasRecorded bound asked) :
    r.history.accepts = History.admits bound asked.length := by
  have hBound : r.history.bound = bound := congrArg History.bound h
  have hVisited : r.history.visited = History.admitted r.history.bound asked := by rw [hBound, h]
  rw [History.accepts_eq hVisited, hBound]

theorem perform (h : r.HasRecorded bound asked) (step : Step) :
    (r.perform step).run.HasRecorded bound (asked ++ addresses r.page [step]) := by
  cases hDeparture : step.departure? with
  | none =>
      rw [addresses_of_not_departure r.page hDeparture, List.append_nil]
      exact (r.perform_of_not_departure hDeparture).1.trans h
  | some text =>
      rw [addresses_of_departure r.page hDeparture, r.perform_of_departure hDeparture]
      unfold HasRecorded History.asked
      rw [History.admitted_append, h.accepts_eq, h]

theorem after (h : r.HasRecorded bound asked) (steps : List Step) :
    (r.after steps).HasRecorded bound (asked ++ addresses r.page steps) := by
  induction steps generalizing r asked with
  | nil => exact (List.append_nil asked).symm ▸ h
  | cons step steps ih =>
      have hRest := ih (h.perform step)
      rw [r.page_perform, List.append_assoc, ← addresses_append] at hRest
      exact hRest

end HasRecorded

theorem departures_perform (r : PageRun) (step : Step) :
    (r.perform step).log.filter isDeparture = (addresses r.page [step]).map fun url =>
      .redirect url.text := by
  cases hDeparture : step.departure? with
  | none =>
      rw [addresses_of_not_departure r.page hDeparture, (r.perform_of_not_departure hDeparture).2]
      rfl
  | some text =>
      rw [addresses_of_departure r.page hDeparture, r.perform_of_departure hDeparture]
      rfl

/-- Every address that is asked for is reported once, also if the navigator refuses it. -/
theorem departures_events (r : PageRun) (steps : List Step) :
    (r.events steps).filter isDeparture = (addresses r.page steps).map fun url =>
      .redirect url.text := by
  induction steps generalizing r with
  | nil => rfl
  | cons step steps ih =>
      have hEvents :
          r.events (step :: steps) = (r.perform step).log ++ (r.perform step).run.events steps :=
        rfl
      rw [hEvents, List.filter_append, departures_perform, ih, r.page_perform, ← List.map_append,
        ← addresses_append]
      rfl

/-- A run goes where its key presses and redirects lead, as often as the bound allows and in
their order. What goes beyond the bound is answered with the refusal; it is reported like the
rest and changes nothing. The clock and the ticks in between make no difference. -/
theorem visited_after (page : Page) (bound : Option Nat) (clock : Clock) (surface : Surface)
    (steps : List Step) :
    let start : PageRun := { page, clock, surface, history := { bound } }
    (start.after steps).history.visited = History.admitted bound (addresses page steps) ∧
    (start.events steps).filter isDeparture =
      (addresses page steps).map (fun url => .redirect url.text) ∧
    (∀ before step later, steps = before ++ step :: later →
      let reached := start.after before
      let done := reached.perform step
      (∀ text, step.departure? = some text →
        done.answer = step.answer (if History.admits bound (addresses page before).length
          then .ok (page.engine.redirectUrl text) else .error .blocked) ∧
        done.log = [.redirect (page.engine.redirectUrl text).text]) ∧
      (∀ input text, step = .key input text → input.submits = false →
        done.answer = .pressed (.ok .ignored) ∧ done.log = []) ∧
      (step.isVisit → done.run = { reached with history := done.run.history })) ∧
    ∀ clock' surface' steps', steps'.filter Step.isVisit = steps.filter Step.isVisit →
      let other : PageRun := { page, clock := clock', surface := surface', history := { bound } }
      (other.after steps').history.visited = (start.after steps).history.visited := by
  intro start
  have hVisited (clock : Clock) (surface : Surface) (steps : List Step) :
      (PageRun.after { page, clock, surface, history := { bound } } steps).HasRecorded bound
        (addresses page steps) := by
    have hNone : HasRecorded { page, clock, surface, history := { bound } } bound [] := by
      cases bound <;> simp [HasRecorded, History.admitted]
    exact hNone.after steps
  refine ⟨congrArg History.visited (hVisited clock surface steps),
    start.departures_events steps, ?_, ?_⟩
  · intro before step later _ reached done
    have hReached : reached.HasRecorded bound (addresses page before) :=
      hVisited clock surface before
    have hPage : reached.page = page := start.page_unchanged before
    refine ⟨fun text hDeparture => ?_, ?_, reached.run_perform_of_isVisit⟩
    · have hDone := reached.perform_of_departure hDeparture
      rw [hPage, hReached.accepts_eq] at hDone
      exact ⟨congrArg Outcome.answer hDone, congrArg Outcome.log hDone⟩
    · rintro input text rfl hIgnored
      have hDone := reached.perform_of_ignored hIgnored text
      exact ⟨congrArg Outcome.answer hDone, congrArg Outcome.log hDone⟩
  · intro clock' surface' steps' hSame other
    have hOther := congrArg History.visited (hVisited clock' surface' steps')
    rw [← addresses_filter_isVisit, hSame, addresses_filter_isVisit] at hOther
    exact hOther.trans (congrArg History.visited (hVisited clock surface steps)).symm

end PageRun

end StartPage
