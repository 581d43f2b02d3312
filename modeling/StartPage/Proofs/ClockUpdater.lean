import StartPage.ClockUpdater
import StartPage.Proofs.LocalTime

/-! What a surface shows after several steps in turn. Each of its two texts is the one that was
written last, by an update or directly, and every write counts. An update writes both texts or, when
its time is out of range, nothing at all. -/
namespace StartPage

namespace ClockUpdater

namespace Step

/-- The time of an update, if its parts are in range. -/
def time? : Step → Option LocalTime
  | .update hour minute second =>
    if h : hour.toNat < 24 ∧ minute.toNat < 60 ∧ second.toNat < 60 then
      some ⟨⟨hour.toNat, h.1⟩, ⟨minute.toNat, h.2.1⟩, ⟨second.toNat, h.2.2⟩⟩
    else none
  | .clockText _ | .title _ => none

/-- The step is an update whose time is accepted. -/
def isAccepted (step : Step) : Bool := step.time?.isSome

/-- The step writes into one of the two elements directly. -/
def isDirect : Step → Bool
  | .update .. => false
  | .clockText _ | .title _ => true

/-- The clock text that a step writes under a name, if it writes one. -/
def clockText? (name : String) : Step → Option String
  | .update hour minute second =>
    (update hour minute second).time?.map fun t => (ClockFrame.render t name).clockText
  | .clockText text => some text
  | .title _ => none

/-- The title that a step writes under a name, if it writes one. -/
def title? (name : String) : Step → Option String
  | .update hour minute second => (update hour minute second).time?.map fun t =>
    (ClockFrame.render t name).title
  | .clockText _ => none
  | .title text => some text

/-- The update of a time. -/
def ofTime (t : LocalTime) : Step :=
  .update (UInt32.ofNat t.hour) (UInt32.ofNat t.minute) (UInt32.ofNat t.second)

theorem time?_ofTime (t : LocalTime) : (ofTime t).time? = some t := by
  have hPart {n : Nat} (hSmall : n < 60) : (UInt32.ofNat n).toNat = n :=
    UInt32.toNat_ofNat_of_lt' (Nat.lt_trans hSmall (by decide))
  obtain ⟨⟨hour, hHour⟩, ⟨minute, hMinute⟩, ⟨second, hSecond⟩⟩ := t
  simp only [ofTime, time?, hPart (Nat.lt_trans hHour (by decide)), hPart hMinute,
    hPart hSecond, hHour, hMinute, hSecond, and_self, dite_true]

end Step

variable (u : ClockUpdater) {surface : Surface} {step : Step} {t : LocalTime}

/-- The surface after several steps in turn. -/
def after (surface : Surface) (steps : List Step) : Surface :=
  steps.foldl (fun surface step => (u.perform surface step).surface) surface

/-- A time that is in range is drawn, and reported once. -/
theorem perform_of_time (surface : Surface) (h : step.time? = some t) :
    u.perform surface step =
      { surface := surface.draw (ClockFrame.render t u.displayName)
        frame := some (.ok (ClockFrame.render t u.displayName))
        log := [(ClockFrame.render t u.displayName).event] } := by
  cases step with
  | clockText | title => cases h
  | update hour minute second =>
      rw [Step.time?] at h
      split at h
      · next hRange =>
          cases h
          rw [perform, LocalTime.ofParts_of_lt hRange.1 hRange.2.1 hRange.2.2]
          rfl
      · cases h

/-- A time that is out of range writes nothing and is not reported. -/
theorem perform_of_firstFault (surface : Surface) {hour minute second : UInt32} {e : TimeError}
    (h : LocalTime.FirstFault hour minute second e) :
    u.perform surface (.update hour minute second) = { surface, frame := some (.error e) } := by
  rw [perform, LocalTime.ofParts_of_firstFault h]

theorem time?_of_firstFault {hour minute second : UInt32} {e : TimeError}
    (h : LocalTime.FirstFault hour minute second e) :
    (Step.update hour minute second).time? = none := by
  refine dif_neg fun hRange => ?_
  have hAccepted := LocalTime.ofParts_of_lt hRange.1 hRange.2.1 hRange.2.2
  rw [LocalTime.ofParts_of_firstFault h] at hAccepted
  cases hAccepted

/-- An update draws the frame of its time and reports it, or its time is out of range and it does
nothing but to say so. -/
theorem update_cases (surface : Surface) (hour minute second : UInt32) :
    (∃ t, (Step.update hour minute second).time? = some t ∧
      u.perform surface (.update hour minute second) =
        { surface := surface.draw (ClockFrame.render t u.displayName)
          frame := some (.ok (ClockFrame.render t u.displayName))
          log := [(ClockFrame.render t u.displayName).event] }) ∨
    ∃ e, LocalTime.FirstFault hour minute second e ∧ (Step.update hour minute second).time? = none ∧
      u.perform surface (.update hour minute second) = { surface, frame := some (.error e) } := by
  rcases LocalTime.lt_or_firstFault hour minute second with hRange | ⟨e, hFault⟩
  · have hTime : (Step.update hour minute second).time? = some _ := dif_pos hRange
    exact .inl ⟨_, hTime, u.perform_of_time surface hTime⟩
  · exact .inr ⟨e, hFault, time?_of_firstFault hFault, u.perform_of_firstFault surface hFault⟩

/-- The second surface is what several steps leave of the first. Its texts are those that were
written last, and every accepted update counts for two writes. -/
structure Shows (steps : List Step) (surface surface' : Surface) : Prop where
  clockText : surface'.clockText =
    (steps.filterMap (Step.clockText? u.displayName)).getLast?.or surface.clockText
  title : surface'.title = (steps.filterMap (Step.title? u.displayName)).getLast?.or surface.title
  writes : surface'.writes =
    surface.writes + (2 * steps.countP Step.isAccepted + steps.countP Step.isDirect)

theorem shows_perform (surface : Surface) (step : Step) :
    u.Shows [step] surface (u.perform surface step).surface := by
  cases step with
  | clockText | title => exact ⟨rfl, rfl, rfl⟩
  | update hour minute second =>
      let step : Step := .update hour minute second
      rcases u.update_cases surface hour minute second with ⟨t, hTime, hDrawn⟩ |
        ⟨e, -, hNone, hSame⟩
      · have hClock : step.clockText? u.displayName = some _ := congrArg (Option.map _) hTime
        have hTitle : step.title? u.displayName = some _ := congrArg (Option.map _) hTime
        have hAccepted : step.isAccepted = true := congrArg Option.isSome hTime
        rw [hDrawn]
        refine { clockText := ?_, title := ?_, writes := ?_ }
        · rw [List.filterMap_cons_some hClock]
          rfl
        · rw [List.filterMap_cons_some hTitle]
          rfl
        · rw [List.countP_cons_of_pos hAccepted]
          rfl
      · have hClock : step.clockText? u.displayName = none := congrArg (Option.map _) hNone
        have hTitle : step.title? u.displayName = none := congrArg (Option.map _) hNone
        have hRefused : ¬step.isAccepted = true := by simp [step, Step.isAccepted, hNone]
        rw [hSame]
        refine { clockText := ?_, title := ?_, writes := ?_ }
        · rw [List.filterMap_cons_none hClock]
          rfl
        · rw [List.filterMap_cons_none hTitle]
          rfl
        · rw [List.countP_cons_of_neg hRefused]
          rfl

theorem Shows.trans {steps later : List Step} {surface surface' surface'' : Surface}
    (h : u.Shows steps surface surface') (hLater : u.Shows later surface' surface'') :
    u.Shows (steps ++ later) surface surface'' where
  clockText := by
    rw [hLater.clockText, h.clockText, List.filterMap_append, List.getLast?_append, Option.or_assoc]
  title := by
    rw [hLater.title, h.title, List.filterMap_append, List.getLast?_append, Option.or_assoc]
  writes := by
    rw [hLater.writes, h.writes, List.countP_append, List.countP_append]
    omega

theorem shows_after (surface : Surface) (steps : List Step) :
    u.Shows steps surface (u.after surface steps) := by
  induction steps generalizing surface with
  | nil => exact ⟨rfl, rfl, rfl⟩
  | cons step steps ih => exact (u.shows_perform surface step).trans u (ih _)

theorem filterMap_ofTime {α : Type} {written? : Step → Option α} {written : LocalTime → α}
    (h : ∀ t, written? (.ofTime t) = some (written t)) (times : List LocalTime) :
    (times.map Step.ofTime).filterMap written? = times.map written := by
  rw [List.filterMap_map, ← List.filterMap_eq_map]
  congr 1
  funext t
  exact h t

/-- Updates at times alone show the frame of the last one. -/
theorem shows_ofTime (surface : Surface) (times : List LocalTime) :
    let left := u.after surface (times.map Step.ofTime)
    left.clockText =
        (times.map fun t => (ClockFrame.render t u.displayName).clockText).getLast?.or
          surface.clockText ∧
      left.title =
        (times.map fun t => (ClockFrame.render t u.displayName).title).getLast?.or
          surface.title := by
  intro left
  have hShows := u.shows_after surface (times.map Step.ofTime)
  have hClock (t : LocalTime) : (Step.ofTime t).clockText? u.displayName = some _ :=
    congrArg (Option.map _) (Step.time?_ofTime t)
  have hTitle (t : LocalTime) : (Step.ofTime t).title? u.displayName = some _ :=
    congrArg (Option.map _) (Step.time?_ofTime t)
  rw [← filterMap_ofTime hClock, ← filterMap_ofTime hTitle]
  exact ⟨hShows.clockText, hShows.title⟩

/-- What a run answers to a step is what the step does to the surface that the earlier ones have
left. -/
theorem getElem?_run (surface : Surface) (before : List Step) (step : Step) (later : List Step) :
    (u.run surface (before ++ step :: later))[before.length]? =
      some (u.perform (u.after surface before) step) := by
  induction before generalizing surface with
  | nil => rfl
  | cons first before ih => exact ih _

/-- The log holds one event, and that traces the frame. -/
def TracesOnce (log : List LogEvent) (frame : ClockFrame) : Prop :=
  ∃ event, log = [event] ∧ event.level = .trace ∧ event = .tick frame.clockText frame.greeting

/-- An update has been accepted: its frame is answered, and reported once. -/
structure Drawn (step : Step) (t : LocalTime) (done : Outcome) : Prop where
  time : step.time? = some t
  frame : done.frame = some (.ok (ClockFrame.render t u.displayName))
  log : TracesOnce done.log (ClockFrame.render t u.displayName)

/-- An update has been refused for a part that is out of range, and nothing else has been done. -/
structure Refused (found : Surface) (hour minute second : UInt32) (e : TimeError) (done : Outcome) :
    Prop where
  fault : LocalTime.FirstFault hour minute second e
  time : (Step.update hour minute second).time? = none
  frame : done.frame = some (.error e)
  log : done.log = []
  surface : done.surface = found

/-- A step of a run leaves on the surface what was written last, and an update answers for its
time. -/
structure KeepsUp (surface : Surface) (before : List Step) (step : Step) (later : List Step)
    (done : Outcome) : Prop where
  outcome : (u.run surface (before ++ step :: later))[before.length]? = some done
  shows : u.Shows (before ++ [step]) surface done.surface
  update : ∀ hour minute second, step = .update hour minute second →
    (∃ t, u.Drawn step t done) ∨ ∃ e, Refused (u.after surface before) hour minute second e done
  direct : step.isDirect = true → done.frame = none ∧ done.log = []

theorem keepsUp (surface : Surface) (before : List Step) (step : Step) (later : List Step) :
    u.KeepsUp surface before step later (u.perform (u.after surface before) step) := by
  refine ⟨u.getElem?_run surface before step later, ?_, ?_, fun hDirect => ?_⟩
  · have hDone : (u.perform (u.after surface before) step).surface =
        u.after surface (before ++ [step]) := by
      rw [after, after, List.foldl_append]
      rfl
    rw [hDone]
    exact u.shows_after surface _
  · rintro hour minute second rfl
    rcases u.update_cases (u.after surface before) hour minute second with
      ⟨t, hTime, hDrawn⟩ | ⟨e, hFault, hNone, hSame⟩
    · rw [hDrawn]
      exact .inl ⟨t, hTime, rfl, _, rfl, rfl, rfl⟩
    · rw [hSame]
      exact .inr ⟨e, hFault, hNone, rfl, rfl, rfl⟩
  · cases step with
    | update => cases hDirect
    | clockText | title => exact ⟨rfl, rfl⟩

end ClockUpdater

end StartPage
