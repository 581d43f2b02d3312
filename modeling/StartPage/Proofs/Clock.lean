import StartPage.Clock
import StartPage.Proofs.LocalTime

/-! What a clock shows in the course of a run. It counts from the last setting that was accepted,
and every advance since then moves it by all of its seconds; only whole days are lost. The words
that it counts with are never too small for that. -/
namespace StartPage.Clock

/-- The seconds that a command sets a clock to, if its parts are in range. -/
def Command.setting? : Command → Option Nat
  | .set hour minute second =>
    if hour.toNat < 24 ∧ minute.toNat < 60 ∧ second.toNat < 60 then
      some (hour.toNat * 3600 + minute.toNat * 60 + second.toNat)
    else none
  | .advance _ => none

/-- The seconds by which a command moves a clock forward. -/
def Command.seconds : Command → Nat
  | .set .. => 0
  | .advance secs => secs.toNat

/-- The seconds by which several commands move a clock forward, all together. -/
def advanced : List Command → Nat
  | [] => 0
  | command :: commands => command.seconds + advanced commands

/-- No word operation runs over when a clock is moved forward, and no part is cut off when the
sum is taken apart again. -/
structure AdvancesExactly (c : Clock) (secs : UInt32) : Prop extends c.now.CountsExactly where
  sum : (c.now.seconds + secs % LocalTime.secondsPerDay).toNat = c.now.total + secs.toNat % 86400
  hour : (c.advance secs).now.hour.val = (c.now.total + secs.toNat % 86400) % 86400 / 3600
  minute : (c.advance secs).now.minute.val = (c.now.total + secs.toNat % 86400) % 86400 / 60 % 60
  second : (c.advance secs).now.second.val = (c.now.total + secs.toNat % 86400) % 86400 % 60

theorem toNat_sum (c : Clock) (secs : UInt32) :
    (c.now.seconds + secs % LocalTime.secondsPerDay).toNat = c.now.total + secs.toNat % 86400 := by
  have hTotal := c.now.total_lt
  have hDay : LocalTime.secondsPerDay.toNat = 86400 := rfl
  rw [UInt32.toNat_add, UInt32.toNat_mod, hDay, c.now.countsExactly.seconds]
  omega

theorem advancesExactly (c : Clock) (secs : UInt32) : c.AdvancesExactly secs := by
  have hSum := c.toNat_sum secs
  refine { c.now.countsExactly with sum := hSum, hour := ?_, minute := ?_, second := ?_ }
  · rw [← hSum]
    exact LocalTime.hour_ofSeconds _
  · rw [← hSum]
    exact LocalTime.minute_ofSeconds _
  · rw [← hSum]
    exact LocalTime.second_ofSeconds _

variable {c : Clock} {hour minute second : UInt32}

theorem perform_set_of_lt (c : Clock) (hHour : hour.toNat < 24) (hMinute : minute.toNat < 60)
    (hSecond : second.toNat < 60) :
    c.perform (.set hour minute second) =
      .ok ⟨⟨hour.toNat, hHour⟩, ⟨minute.toNat, hMinute⟩, ⟨second.toNat, hSecond⟩⟩ := by
  rw [perform, LocalTime.ofParts_of_lt hHour hMinute hSecond]
  rfl

theorem perform_set_eq_error_iff (c : Clock) {e : TimeError} :
    c.perform (.set hour minute second) = .error e ↔ LocalTime.FirstFault hour minute second e := by
  rw [← LocalTime.ofParts_eq_error_iff, perform]
  cases LocalTime.ofParts hour minute second with
  | error first =>
      exact ⟨fun h => congrArg _ (Except.error.inj h), fun h => congrArg _ (Except.error.inj h)⟩
  | ok t => exact ⟨nofun, nofun⟩

theorem after_of_error {command : Command} {e : TimeError} (h : c.perform command = .error e) :
    c.after command = c := by
  rw [after, h]

/-- An accepted setting decides what the clock shows. Any other command moves it forward from
where it is. -/
theorem total_after (c : Clock) (command : Command) :
    (c.after command).now.total = match command.setting? with
      | some secs => secs
      | none => (c.now.total + command.seconds) % 86400 := by
  cases command with
  | advance secs =>
      have hTotal :
          (c.after (.advance secs)).now.total = (c.now.total + secs.toNat % 86400) % 86400 := by
        rw [← c.toNat_sum secs]
        exact LocalTime.total_ofSeconds _
      rw [hTotal]
      exact Nat.add_mod_mod ..
  | set hour minute second =>
      rcases LocalTime.lt_or_firstFault hour minute second with hRange | ⟨e, hFault⟩
      · rw [after, perform_set_of_lt c hRange.1 hRange.2.1 hRange.2.2,
          Command.setting?, if_pos hRange]
        rfl
      · have hNone : Command.setting? (.set hour minute second) = none := by
          refine if_neg fun hRange => ?_
          have hAccepted := LocalTime.ofParts_of_lt hRange.1 hRange.2.1 hRange.2.2
          rw [LocalTime.ofParts_of_firstFault hFault] at hAccepted
          cases hAccepted
        have hSeconds : Command.seconds (.set hour minute second) = 0 := rfl
        rw [after_of_error (c.perform_set_eq_error_iff.mpr hFault), hNone, hSeconds, Nat.add_zero,
          Nat.mod_eq_of_lt c.now.total_lt]

/-- As long as no setting is accepted, the clock moves forward by all that it is told. -/
theorem total_afterAll (c : Clock) {commands : List Command}
    (h : ∀ command ∈ commands, command.setting? = none) :
    (c.afterAll commands).now.total = (c.now.total + advanced commands) % 86400 := by
  induction commands generalizing c with
  | nil =>
      have hRun : c.afterAll [] = c := rfl
      rw [hRun, advanced, Nat.add_zero, Nat.mod_eq_of_lt c.now.total_lt]
  | cons command commands ih =>
      have hStep := c.total_after command
      rw [h command List.mem_cons_self] at hStep
      have hLater := ih (c.after command) fun later hMem => h later (List.mem_cons_of_mem _ hMem)
      have hRun : c.afterAll (command :: commands) = (c.after command).afterAll commands :=
        List.foldl_cons ..
      rw [hRun, hLater, hStep, advanced, Nat.mod_add_mod, Nat.add_assoc]

theorem afterAll_append (c : Clock) (commands later : List Command) :
    c.afterAll (commands ++ later) = (c.afterAll commands).afterAll later := List.foldl_append ..

/-- After every command of every run a clock shows the seconds of the last setting that was
accepted, or of its start, and all seconds that it was moved forward by since then, less whole
days. Its parts are in range, and no word runs over on the way. A setting with parts out of range
is refused for the first of them, and changes nothing. -/
theorem seconds_afterAll (start : LocalTime) (commands : List Command) :
    let c := Clock.afterAll ⟨start⟩ commands
    ((∀ command ∈ commands, command.setting? = none) →
      c.now.seconds.toNat = (start.seconds.toNat + advanced commands) % 86400) ∧
    (∀ before setting later secs, commands = before ++ setting :: later →
      setting.setting? = some secs →
      (∀ command ∈ later, command.setting? = none) →
      c.now.seconds.toNat = (secs + advanced later) % 86400) ∧
    (c.now.hour.val < 24 ∧ c.now.minute.val < 60 ∧ c.now.second.val < 60) ∧
    (∀ secs, c.AdvancesExactly secs) ∧
    ∀ hour minute second,
      ((∃ secs, Command.setting? (.set hour minute second) = some secs) ∨
        ∃ e, LocalTime.FirstFault hour minute second e) ∧
      (∀ secs, Command.setting? (.set hour minute second) = some secs →
        ∃ set, c.perform (.set hour minute second) = .ok set ∧ set.now.seconds.toNat = secs ∧
          set.now.hour.val = hour.toNat ∧ set.now.minute.val = minute.toNat ∧
            set.now.second.val = second.toNat) ∧
      ∀ e, LocalTime.FirstFault hour minute second e →
        c.perform (.set hour minute second) = .error e ∧ c.after (.set hour minute second) = c := by
  intro c
  refine ⟨fun hNone => ?_, fun before setting later secs hSplit hSetting hNone => ?_,
    ⟨c.now.hour.isLt, c.now.minute.isLt, c.now.second.isLt⟩, c.advancesExactly,
      fun hour minute second => ?_⟩
  · rw [c.now.countsExactly.seconds, start.countsExactly.seconds]
    exact total_afterAll ⟨start⟩ hNone
  · have hSet := (Clock.afterAll ⟨start⟩ before).total_after setting
    rw [hSetting] at hSet
    have hRun : c = ((Clock.afterAll ⟨start⟩ before).after setting).afterAll later :=
      (congrArg (Clock.afterAll ⟨start⟩) hSplit).trans (afterAll_append ..)
    rw [c.now.countsExactly.seconds, hRun, total_afterAll _ hNone, hSet]
  · refine ⟨?_, fun secs hSetting => ?_, fun e hFault => ?_⟩
    · refine (LocalTime.lt_or_firstFault hour minute second).imp_left fun hRange => ?_
      exact ⟨_, if_pos hRange⟩
    · rw [Command.setting?] at hSetting
      split at hSetting
      · next hRange =>
          refine ⟨_, c.perform_set_of_lt hRange.1 hRange.2.1 hRange.2.2, ?_, rfl, rfl, rfl⟩
          rw [(LocalTime.countsExactly _).seconds]
          exact Option.some.inj hSetting
      · cases hSetting
    · have hRefused := c.perform_set_eq_error_iff.mpr hFault
      exact ⟨hRefused, after_of_error hRefused⟩

end StartPage.Clock
