import StartPage.Proofs.Clock
import StartPage.Proofs.ClockUpdater
import StartPage.Proofs.Page.Basic
import StartPage.Proofs.Page.History

/-! What the surface of a page shows in the course of a run. It is what an updater with the name of
the page would show after the times of the ticks. Nothing else that a page does touches it, and a
tick at a time that is already shown changes nothing but the number of writes. -/
namespace StartPage

/-- A frame looks the same on every surface, apart from the number of writes. -/
theorem Surface.draw_eq (s s' : Surface) (frame : ClockFrame) :
    s'.draw frame = { s.draw frame with writes := s'.writes + 2 } := rfl

namespace PageRun

/-- The command that a step gives to the clock. -/
def Step.command? : Step → Option Clock.Command
  | .clock command => some command
  | .tick | .key .. | .redirect _ | .recall => none

/-- The times at which several steps draw, if the clock shows a given one before them. -/
def ticks (c : Clock) : List Step → List LocalTime
  | [] => []
  | .tick :: steps => c.now :: ticks c steps
  | .clock command :: steps => ticks (c.after command) steps
  | .key .. :: steps | .redirect _ :: steps | .recall :: steps => ticks c steps

variable {step : Step}

/-- Every step but a tick leaves the surface alone, and only a tick is reported as one. -/
theorem perform_of_ne_tick (r : PageRun) (h : step ≠ .tick) :
    (r.perform step).run.surface = r.surface ∧
      ∀ event ∈ (r.perform step).log, event.level ≠ .trace := by
  cases step with
  | tick => exact absurd rfl h
  | redirect text =>
      refine ⟨rfl, fun event hMem => ?_⟩
      rw [r.perform_of_departure rfl, List.mem_singleton] at hMem
      rw [hMem]
      intro hLevel
      cases hLevel
  | key input text =>
      refine ⟨rfl, fun event hMem => ?_⟩
      cases hSubmits : input.submits with
      | false =>
          rw [r.perform_of_ignored hSubmits] at hMem
          cases hMem
      | true =>
          have hDeparture : Step.departure? (.key input text) = some text := if_pos hSubmits
          rw [r.perform_of_departure hDeparture, List.mem_singleton] at hMem
          rw [hMem]
          intro hLevel
          cases hLevel
  | _ =>
      refine ⟨rfl, fun event hMem => ?_⟩
      cases hMem

theorem clock_perform (r : PageRun) (step : Step) :
    (r.perform step).run.clock = r.clock.afterAll step.command?.toList := by
  cases step <;> rfl

/-- The clock is where its own commands have brought it. -/
theorem clock_after (r : PageRun) (steps : List Step) :
    (r.after steps).clock = r.clock.afterAll (steps.filterMap Step.command?) := by
  induction steps generalizing r with
  | nil => rfl
  | cons step steps ih =>
      have hRun : r.after (step :: steps) = (r.perform step).run.after steps := rfl
      have hCommands : (step :: steps).filterMap Step.command? =
          step.command?.toList ++ steps.filterMap Step.command? := by
        cases step <;> rfl
      rw [hRun, ih, r.clock_perform, hCommands, Clock.afterAll_append]

/-- A run draws as an updater does that is given the times of the ticks. -/
theorem surface_after (r : PageRun) (steps : List Step) :
    (r.after steps).surface =
      r.page.updater.after r.surface ((ticks r.clock steps).map ClockUpdater.Step.ofTime) := by
  induction steps generalizing r with
  | nil => rfl
  | cons step steps ih =>
      have hRun : r.after (step :: steps) = (r.perform step).run.after steps := rfl
      rw [hRun, ih, r.page_perform]
      cases step with
      | tick =>
          have hDrawn :=
            r.page.updater.perform_of_time r.surface (ClockUpdater.Step.time?_ofTime r.clock.now)
          have hFirst (times : List LocalTime) :
              r.page.updater.after r.surface ((r.clock.now :: times).map ClockUpdater.Step.ofTime) =
                r.page.updater.after
                  (r.page.updater.perform r.surface (.ofTime r.clock.now)).surface
                  (times.map ClockUpdater.Step.ofTime) := rfl
          rw [ticks, hFirst, hDrawn]
          rfl
      | _ => rfl

theorem writes_after (r : PageRun) (steps : List Step) :
    (r.after steps).surface.writes = r.surface.writes + 2 * steps.count .tick := by
  induction steps generalizing r with
  | nil => rfl
  | cons step steps ih =>
      have hRun : r.after (step :: steps) = (r.perform step).run.after steps := rfl
      have hStep :
          (r.perform step).run.surface.writes = r.surface.writes + 2 * [step].count .tick := by
        cases step <;> rfl
      have hCount : (step :: steps).count .tick = [step].count .tick + steps.count .tick := by
        rw [← List.count_append, List.singleton_append]
      rw [hRun, ih, hStep, hCount]
      omega

/-- What a run answers to a step is what the step does where the earlier ones have led. -/
theorem getElem?_performAll (r : PageRun) (before : List Step) (step : Step) (later : List Step) :
    (r.performAll (before ++ step :: later))[before.length]? =
      some ((r.after before).perform step) := by
  induction before generalizing r with
  | nil => rfl
  | cons first before ih => exact ih _

theorem after_append (r : PageRun) (steps later : List Step) :
    r.after (steps ++ later) = (r.after steps).after later := List.foldl_append ..

/-- Two ticks at one time show the same, whatever was shown between them. -/
theorem tick_again (r : PageRun) {between : List Step}
    (hClock : ((r.perform .tick).run.after between).clock = r.clock) :
    (((r.perform .tick).run.after between).perform .tick).run.surface =
      { (r.perform .tick).run.surface with
        writes := (r.perform .tick).run.surface.writes + 2 * (between.count .tick + 1) } := by
  let first := (r.perform .tick).run
  let frame := ClockFrame.render r.clock.now r.page.displayName
  have hAgain : ((first.after between).perform .tick).run.surface =
      (first.after between).surface.draw frame := by
    have hPage : (first.after between).page = r.page := first.page_unchanged between
    change (first.after between).surface.draw
      (ClockFrame.render (first.after between).clock.now (first.after between).page.displayName) = _
    rw [hClock, hPage]
  calc ((first.after between).perform .tick).run.surface
      _ = (first.after between).surface.draw frame := hAgain
      _ = { r.surface.draw frame with writes := (first.after between).surface.writes + 2 } :=
        Surface.draw_eq ..
      _ = { first.surface with
            writes := first.surface.writes + 2 * (between.count .tick + 1) } := by
        rw [first.writes_after between]
        rfl

/-- A tick has answered a frame, drawn it and reported it once, and has done nothing else. One more
tick at the same time changes the number of writes alone. -/
structure Ticked (reached : PageRun) (frame : ClockFrame) (done : Outcome) : Prop where
  answer : done.answer = .drawn frame
  run : done.run = { reached with surface := reached.surface.draw frame }
  log : ClockUpdater.TracesOnce done.log frame
  again : ∀ between, (done.run.after between).clock = done.run.clock →
    ((done.run.after between).perform .tick).run.surface =
      { done.run.surface with writes := done.run.surface.writes + 2 * (between.count .tick + 1) }

/-- A step of a run of a page leaves on the surface what an updater with the given name would have
left there at the times of the ticks, and no step but a tick touches it. -/
structure KeepsUp (name : String) (start : PageRun) (before : List Step) (step : Step)
    (later : List Step) (done : Outcome) : Prop where
  outcome : (start.performAll (before ++ step :: later))[before.length]? = some done
  clock : (start.after before).clock = start.clock.afterAll (before.filterMap Step.command?)
  surface : done.run.surface =
    ClockUpdater.after ⟨name⟩ start.surface
      ((ticks start.clock (before ++ [step])).map ClockUpdater.Step.ofTime)
  clockText : done.run.surface.clockText = ((ticks start.clock (before ++ [step])).map fun t =>
    (ClockFrame.render t name).clockText).getLast?.or start.surface.clockText
  title : done.run.surface.title = ((ticks start.clock (before ++ [step])).map fun t =>
    (ClockFrame.render t name).title).getLast?.or start.surface.title
  writes : done.run.surface.writes = start.surface.writes + 2 * (before ++ [step]).count .tick
  tick : step = .tick →
    Ticked (start.after before) (ClockFrame.render (start.after before).clock.now name) done
  other : step ≠ .tick →
    done.run.surface = (start.after before).surface ∧ ∀ event ∈ done.log, event.level ≠ .trace

theorem ticked (r : PageRun) :
    Ticked r (ClockFrame.render r.clock.now r.page.displayName) (r.perform .tick) where
  answer := rfl
  run := rfl
  log := ⟨_, rfl, rfl, rfl⟩
  again _ hClock := r.tick_again hClock

theorem keepsUp (start : PageRun) (before : List Step) (step : Step) (later : List Step) :
    KeepsUp start.page.displayName start before step later ((start.after before).perform step) := by
  have hDone : ((start.after before).perform step).run = start.after (before ++ [step]) := by
    rw [start.after_append]
    rfl
  obtain ⟨hClock, hTitle⟩ :=
    start.page.updater.shows_ofTime start.surface (ticks start.clock (before ++ [step]))
  refine
    { outcome := start.getElem?_performAll before step later
      clock := start.clock_after before
      surface := ?_
      clockText := ?_
      title := ?_
      writes := ?_
      tick := ?_
      other := (start.after before).perform_of_ne_tick }
  · rw [hDone, start.surface_after]
    rfl
  · rw [hDone, start.surface_after]
    exact hClock
  · rw [hDone, start.surface_after]
    exact hTitle
  · rw [hDone]
    exact start.writes_after _
  · rintro rfl
    rw [← start.page_unchanged before]
    exact (start.after before).ticked

/-- After every step of every run of an updater the surface shows what was written last, and every
accepted update counts for two writes. A page does the same with the name that it shows: each tick
draws the time of the clock then, and no other step of a page touches the surface. -/
theorem surface_shows :
    (∀ (u : ClockUpdater) (surface : Surface) (before : List ClockUpdater.Step)
      (step : ClockUpdater.Step) (later : List ClockUpdater.Step),
      u.KeepsUp surface before step later (u.perform (u.after surface before) step)) ∧
    ∀ config page log, Page.create config = (.ok page, log) →
      ∀ clock surface history before step later,
      let start : PageRun := { page, clock, surface, history }
      KeepsUp config.shownName start before step later ((start.after before).perform step) := by
  refine ⟨fun u => u.keepsUp,
    fun config page log hPage clock surface history before step later => ?_⟩
  intro start
  obtain ⟨-, -, -, hUpdater, -⟩ := Page.of_create (congrArg Prod.fst hPage)
  have hName : start.page.displayName = config.shownName := by rw [Page.displayName, hUpdater]
  rw [← hName]
  exact start.keepsUp before step later

end PageRun

end StartPage
