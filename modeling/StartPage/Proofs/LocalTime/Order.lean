import StartPage.Proofs.LocalTime
import StartPage.Proofs.Text.Order

/-! Times of day in their order. They may be compared by their parts, by their seconds or by the
bytes of their texts, with the same answer each time, so a list of times has one ascending order. -/
namespace StartPage.LocalTime

/-- What times of day can be compared by. -/
inductive View where
  | parts
  | seconds
  | text

def View.compare : View → LocalTime → LocalTime → Ordering
  | .parts, t, u => Ord.compare t u
  | .seconds, t, u => Ord.compare t.seconds u.seconds
  | .text, t, u => Text.compareBytes t.text u.text

/-- The times in ascending order of what is looked at. -/
def View.sort (view : View) (times : List LocalTime) : List LocalTime :=
  times.mergeSort fun t u => (view.compare t u).isLE

theorem total_eq (t : LocalTime) :
    t.total = 3600 * t.hour.val + (60 * t.minute.val + t.second.val) := by
  unfold total
  omega

theorem compare_eq_then (t u : LocalTime) :
    compare t u = (compare t.hour.val u.hour.val).then
      ((compare t.minute.val u.minute.val).then (compare t.second.val u.second.val)) := rfl

theorem compare_total (t u : LocalTime) : compare t.total u.total = compare t u := by
  have hWithin (t : LocalTime) : 60 * t.minute.val + t.second.val < 3600 := by
    have hMinute := t.minute.isLt
    have hSecond := t.second.isLt
    omega
  rw [compare_eq_then, Text.compare_weighted 60 t.second.isLt u.second.isLt,
    Text.compare_weighted 3600 (hWithin t) (hWithin u), total_eq, total_eq]

theorem compare_seconds (t u : LocalTime) : compare t.seconds u.seconds = compare t u := by
  rw [← compare_total, ← t.countsExactly.seconds, ← u.countsExactly.seconds]
  simp only [compare, compareOfLessAndEq, UInt32.lt_iff_toNat_lt, UInt32.toNat_inj]

theorem compare_text (t u : LocalTime) : Text.compareBytes t.text u.text = compare t u := by
  have hHour (t : LocalTime) : t.hour.val < 100 := Nat.lt_trans t.hour.isLt (by decide)
  have hMinute (t : LocalTime) : t.minute.val < 100 := Nat.lt_trans t.minute.isLt (by decide)
  have hSecond (t : LocalTime) : t.second.val < 100 := Nat.lt_trans t.second.isLt (by decide)
  rw [Text.compareBytes, text, text, String.toList_ofList, String.toList_ofList, chars,
    chars, compare_eq_then]
  simp only [List.append_assoc, List.cons_append]
  rw [Text.compare_marked (hHour t) (hHour u), Text.compare_marked (hMinute t) (hMinute u),
    Text.compare_padded_two (hSecond t) (hSecond u)]

theorem View.compare_eq (view : View) (t u : LocalTime) : view.compare t u = Ord.compare t u := by
  cases view with
  | parts => rfl
  | seconds => exact compare_seconds t u
  | text => exact compare_text t u

theorem View.sort_eq (view : View) : view.sort = LocalTime.sort := by
  funext times
  simp only [sort, LocalTime.sort, view.compare_eq]

variable {t u : LocalTime}

theorem isLE_compare_iff : (compare t u).isLE = true ↔ t.total ≤ u.total := by
  rw [← compare_total, Nat.isLE_compare]

theorem compare_eq_iff : compare t u = .eq ↔ t = u := by
  obtain ⟨hour, minute, second⟩ := t
  obtain ⟨hour', minute', second'⟩ := u
  simp only [compare_eq_then, Ordering.then_eq_eq, Nat.compare_eq_eq, mk.injEq, Fin.ext_iff]

theorem eq_of_total (h : t.total = u.total) : t = u := by
  rw [← compare_eq_iff, ← compare_total, h]
  exact Nat.compare_eq_eq.mpr rfl

/-- A time is made again from its seconds. -/
theorem ofSeconds_seconds (t : LocalTime) : ofSeconds t.seconds = t := by
  apply eq_of_total
  rw [total_ofSeconds, t.countsExactly.seconds, Nat.mod_eq_of_lt t.total_lt]

theorem pairwise_sort (times : List LocalTime) :
    (sort times).Pairwise fun t u => (compare t u).isLE := by
  apply List.pairwise_mergeSort
  · intro r t u hFirst hSecond
    rw [isLE_compare_iff] at hFirst hSecond ⊢
    exact Nat.le_trans hFirst hSecond
  · intro t u
    simp only [Bool.or_eq_true, isLE_compare_iff]
    exact Nat.le_total ..

/-- There is one ascending order of a list of times. -/
theorem eq_sort_iff {times sorted : List LocalTime} : sorted = sort times ↔
    sorted.Perm times ∧ sorted.Pairwise fun t u => (compare t u).isLE := by
  constructor
  · rintro rfl
    exact ⟨List.mergeSort_perm .., pairwise_sort times⟩
  · rintro ⟨hPerm, hOrder⟩
    have hSame : sorted.Perm (sort times) := hPerm.trans (List.mergeSort_perm ..).symm
    refine List.Perm.eq_of_pairwise (fun t u _ _ hForth hBack =>
      ?_) hOrder (pairwise_sort times) hSame
    rw [isLE_compare_iff] at hForth hBack
    exact eq_of_total (Nat.le_antisymm hForth hBack)

/-- Parts, seconds and text are three views of a time, which tell the same. Seconds make a time that
counts them without the whole days, and a time is made again from its parts and from its seconds.
Two times are in the same order in each view, and equal in all views or in none. So times are sorted
in one way, be it by their parts, by their seconds or by their texts, and no time is lost or
repeated. -/
theorem views_agree :
    (∀ secs : UInt32, (ofSeconds secs).seconds.toNat = secs.toNat % 86400) ∧
    (∀ hour minute second t, ofParts hour minute second = .ok t ↔
      t.hour.val = hour.toNat ∧ t.minute.val = minute.toNat ∧ t.second.val = second.toNat) ∧
    (∀ t, ofSeconds t.seconds = t) ∧
    (∀ t u, (∀ view : View, view.compare t u = compare t u) ∧
      (compare t u = .eq ↔ t = u) ∧ (t.seconds = u.seconds ↔ t = u) ∧ (t.text = u.text ↔ t = u)) ∧
    ∀ times, (∀ view : View, view.sort times = sort times) ∧
      (times.map text).mergeSort (fun s s' => (Text.compareBytes s s').isLE) =
        (sort times).map text ∧
      ∀ (view : View) sorted, sorted = sort times ↔
        sorted.Perm times ∧ sorted.Pairwise fun t u => (view.compare t u).isLE := by
  refine ⟨fun secs => ?_, fun _ _ _ _ => ofParts_eq_ok_iff, ofSeconds_seconds,
    fun t u => ?_, fun times => ?_⟩
  · rw [(countsExactly _).seconds, total_ofSeconds]
  · refine ⟨fun view => view.compare_eq t u, compare_eq_iff, ?_, ?_⟩
    · rw [← compare_eq_iff, ← compare_seconds, Std.LawfulEqOrd.compare_eq_iff_eq]
    · rw [← compare_eq_iff, ← compare_text, Text.compareBytes_eq_iff]
  · refine ⟨fun view => congrFun view.sort_eq times, ?_, fun view sorted => ?_⟩
    · refine (List.map_mergeSort fun t _ u _ => ?_).symm
      rw [compare_text]
    · simp only [view.compare_eq]
      exact eq_sort_iff

end StartPage.LocalTime
