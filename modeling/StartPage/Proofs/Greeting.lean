import StartPage.Proofs.LocalTime
import StartPage.Proofs.Text.Digits
import StartPage.Surface

/-! What the frame of a time of day tells. The text writes the second of the day, part by part, and
the greeting changes with that second at noon and at seven in the evening. So greetings do not go
back before midnight, and in an order that never goes back each greeting has one block. -/
namespace StartPage

/-- The text writes a second of the day as `HH:MM:SS`, with two digits for each part. -/
def LocalTime.Spells (text : String) (second : Nat) : Prop :=
  ∃ h h' m m' s s', text.toList = [h, h', ':', m, m', ':', s, s'] ∧
    (∀ c ∈ [h, h', m, m', s, s'], Text.isDigit c = true) ∧
    Text.value [h, h'] = second / 3600 ∧ Text.value [m, m'] = second / 60 % 60 ∧
    Text.value [s, s'] = second % 60

theorem LocalTime.spells_text (t : LocalTime) : Spells t.text t.total := by
  obtain ⟨h, h', hHour, hH, hH', hHours⟩ :=
    Text.exists_padded_two (Nat.lt_trans t.hour.isLt (by decide))
  obtain ⟨m, m', hMinute, hM, hM', hMinutes⟩ :=
    Text.exists_padded_two (Nat.lt_trans t.minute.isLt (by decide))
  obtain ⟨s, s', hSecond, hS, hS', hSeconds⟩ :=
    Text.exists_padded_two (Nat.lt_trans t.second.isLt (by decide))
  refine ⟨h, h', m, m', s, s', ?_, ?_, ?_, ?_, ?_⟩
  · rw [text, String.toList_ofList, chars, hHour, hMinute, hSecond]
    rfl
  · simp [hH, hH', hM, hM', hS, hS']
  · rw [hHours, total]
    omega
  · rw [hMinutes, total]
    omega
  · rw [hSeconds, total]
    omega

namespace ClockFrame

/-- The frame greets as it is due at a second of the day, and writes that second. -/
structure Tells (frame : ClockFrame) (second : Nat) : Prop where
  morning : frame.greeting = .morning ↔ second < 43200
  afternoon : frame.greeting = .afternoon ↔ 43200 ≤ second ∧ second < 68400
  evening : frame.greeting = .evening ↔ 68400 ≤ second
  text : LocalTime.Spells frame.clockText second

/-- The hour decides about the greeting, and the greeting changes at full hours alone. -/
theorem tells_render (t : LocalTime) (name : String) : (render t name).Tells t.total := by
  have hHour : (UInt8.ofNat t.hour).toNat = t.hour.val :=
    UInt8.toNat_ofNat_of_lt' (Nat.lt_trans t.hour.isLt (by decide))
  have hNoon : t.hour.val < 12 ↔ t.total < 43200 := by
    unfold LocalTime.total
    omega
  have hSeven : t.hour.val < 19 ↔ t.total < 68400 := by
    unfold LocalTime.total
    omega
  have hGreeting : (render t name).greeting =
      if t.total < 43200 then .morning else if t.total < 68400 then .afternoon else .evening := by
    simp only [render, Greeting.ofHour, UInt8.lt_iff_toNat_lt, hHour,
      UInt8.reduceToNat, hNoon, hSeven]
  refine { morning := ?_, afternoon := ?_, evening := ?_, text := t.spells_text }
  all_goals
    rw [hGreeting]
    split
    · simp
      omega
    · split <;> simp <;> omega

example (name : String) :
    (render ⟨18, 59, 59⟩ name).greeting = .afternoon ∧
      (render ⟨19, 0, 0⟩ name).greeting = .evening := ⟨rfl, rfl⟩

variable {frame later : ClockFrame} {second second' : Nat}

/-- A later second of the same day is greeted the same or by what comes later in the day. -/
theorem Tells.isLE (h : frame.Tells second) (hLater : later.Tells second')
    (hSecond : second ≤ second') :
    (compare frame.greeting later.greeting).isLE := by
  cases hFirst : frame.greeting with
  | morning => cases later.greeting <;> rfl
  | afternoon =>
      have hNoon := (h.afternoon.mp hFirst).1
      cases hSecond : later.greeting with
      | morning =>
          have hMorning := hLater.morning.mp hSecond
          omega
      | afternoon | evening => rfl
  | evening =>
      have hSeven := h.evening.mp hFirst
      have hEvening := hLater.evening.mpr (Nat.le_trans hSeven hSecond)
      rw [hEvening]
      rfl

end ClockFrame

namespace Greeting

variable {g g' : Greeting}

theorem eq_of_isLE (h : (compare g g').isLE) (h' : (compare g' g).isLE) : g = g' := by
  cases g <;> cases g' <;> first | rfl | exact absurd h (by decide) | exact absurd h' (by decide)

/-- If greetings never go back then each of them has one block, which may be empty. -/
theorem exists_block {greetings : List Greeting}
    (h : greetings.Pairwise fun g g' => (compare g g').isLE) (g : Greeting) :
    ∃ before count behind, greetings = before ++ List.replicate count g ++ behind ∧
      g ∉ before ∧ g ∉ behind := by
  induction h with
  | nil => exact ⟨[], 0, [], rfl, List.not_mem_nil, List.not_mem_nil⟩
  | @cons first rest hFirst hRest ih =>
      obtain ⟨before, count, behind, rfl, hBefore, hBehind⟩ := ih
      by_cases hSame : first = g
      · subst hSame
        cases count with
        | zero =>
            have hElsewhere : first ∉ before ++ List.replicate 0 first ++ behind := by
              simp only [List.replicate_zero, List.append_nil, List.mem_append,
                hBefore, hBehind, or_self, not_false_eq_true]
            exact ⟨[], 1, _, rfl, List.not_mem_nil, hElsewhere⟩
        | succ count =>
            -- What stands before the block is neither earlier nor later than the greeting itself.
            have hNone : before = [] := by
              refine List.eq_nil_iff_forall_not_mem.mpr fun other hOther => hBefore ?_
              have hForth := hFirst other (List.mem_append_left _ (List.mem_append_left _ hOther))
              have hBack :=
                (List.pairwise_append.mp (List.pairwise_append.mp hRest).1).2.2 other hOther first
                  List.mem_cons_self
              exact eq_of_isLE hForth hBack ▸ hOther
            rw [hNone]
            exact ⟨[], count + 2, behind, rfl, List.not_mem_nil, hBehind⟩
      · refine ⟨first :: before, count, behind, rfl, ?_, hBehind⟩
        exact List.not_mem_cons_of_ne_of_not_mem (Ne.symm hSame) hBefore

end Greeting

end StartPage
