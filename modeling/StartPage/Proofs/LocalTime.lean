import StartPage.LocalTime

/-! The parts of a time of day, taken together, are its seconds since midnight. Parts that are
offered from outside are kept as they are, or the first that is out of range is reported. -/
namespace StartPage.LocalTime

/-- Seconds since midnight, counted without a bound. -/
def total (t : LocalTime) : Nat := t.hour.val * 3600 + t.minute.val * 60 + t.second.val

theorem hour_ofSeconds (secs : UInt32) : (ofSeconds secs).hour.val = secs.toNat % 86400 / 3600 :=
  rfl

theorem minute_ofSeconds (secs : UInt32) :
    (ofSeconds secs).minute.val = secs.toNat % 86400 / 60 % 60 := rfl

theorem second_ofSeconds (secs : UInt32) : (ofSeconds secs).second.val = secs.toNat % 86400 % 60 :=
  rfl

/-- Whole days are left out and nothing else. -/
theorem total_ofSeconds (secs : UInt32) : (ofSeconds secs).total = secs.toNat % 86400 := by
  rw [total, hour_ofSeconds, minute_ofSeconds, second_ofSeconds]
  omega

theorem total_lt (t : LocalTime) : t.total < 86400 := by
  have hHour := t.hour.isLt
  have hMinute := t.minute.isLt
  have hSecond := t.second.isLt
  unfold total
  omega

/-- Every word operation that counts the seconds of a time gives the number that it would give
without a bound. -/
structure CountsExactly (t : LocalTime) : Prop where
  hours : (UInt32.ofNat t.hour * 3600).toNat = t.hour.val * 3600
  minutes : (UInt32.ofNat t.minute * 60).toNat = t.minute.val * 60
  hoursMinutes : (UInt32.ofNat t.hour * 3600 + UInt32.ofNat t.minute * 60).toNat =
    t.hour.val * 3600 + t.minute.val * 60
  seconds : t.seconds.toNat = t.total

theorem countsExactly (t : LocalTime) : t.CountsExactly := by
  have hTotal := t.total_lt
  unfold total at hTotal
  have hWord {n : Nat} (hSmall : n < 60) : (UInt32.ofNat n).toNat = n :=
    UInt32.toNat_ofNat_of_lt' (Nat.lt_trans hSmall (by decide))
  have hHour : (UInt32.ofNat t.hour).toNat = t.hour.val := hWord (by omega)
  have hMinute : (UInt32.ofNat t.minute).toNat = t.minute.val := hWord t.minute.isLt
  have hSecond : (UInt32.ofNat t.second).toNat = t.second.val := hWord t.second.isLt
  constructor
  · simp only [UInt32.toNat_mul, hHour, UInt32.reduceToNat]
    omega
  · simp only [UInt32.toNat_mul, hMinute, UInt32.reduceToNat]
    omega
  · simp only [UInt32.toNat_add, UInt32.toNat_mul, hHour, hMinute, UInt32.reduceToNat]
    omega
  · simp only [seconds, total, UInt32.toNat_add, UInt32.toNat_mul, hHour, hMinute, hSecond,
      UInt32.reduceToNat]
    omega

/-- The first of the parts that is out of range, with the value that was offered for it. -/
inductive FirstFault (hour minute second : UInt32) : TimeError → Prop where
  | hour (hFault : 24 ≤ hour.toNat) : FirstFault hour minute second ⟨.hour, hour⟩
  | minute (hHour : hour.toNat < 24) (hFault : 60 ≤ minute.toNat) : FirstFault hour minute second
    ⟨.minute, minute⟩
  | second (hHour : hour.toNat < 24) (hMinute : minute.toNat < 60) (hFault : 60 ≤ second.toNat) :
      FirstFault hour minute second ⟨.second, second⟩

theorem part_of_lt {bound : Nat} {value : UInt32} (field : TimeField) (h : value.toNat < bound) :
    part field bound value = .ok ⟨value.toNat, h⟩ := dif_pos h

theorem part_of_le {bound : Nat} {value : UInt32} (field : TimeField) (h : bound ≤ value.toNat) :
    part field bound value = .error ⟨field, value⟩ := dif_neg (Nat.not_lt.mpr h)

variable {hour minute second : UInt32}

theorem ofParts_of_lt (hHour : hour.toNat < 24) (hMinute : minute.toNat < 60)
    (hSecond : second.toNat < 60) :
    ofParts hour minute second = .ok ⟨⟨hour.toNat, hHour⟩, ⟨minute.toNat, hMinute⟩,
      ⟨second.toNat, hSecond⟩⟩ := by
  unfold ofParts
  rw [part_of_lt .hour hHour, part_of_lt .minute hMinute, part_of_lt .second hSecond]
  rfl

theorem ofParts_of_firstFault {e : TimeError} (h : FirstFault hour minute second e) :
    ofParts hour minute second = .error e := by
  unfold ofParts
  cases h with
  | hour hFault =>
      rw [part_of_le .hour hFault]
      rfl
  | minute hHour hFault =>
      rw [part_of_lt .hour hHour, part_of_le .minute hFault]
      rfl
  | second hHour hMinute hFault =>
      rw [part_of_lt .hour hHour, part_of_lt .minute hMinute, part_of_le .second hFault]
      rfl

/-- Parts are all in range, or there is a first that is not. -/
theorem lt_or_firstFault (hour minute second : UInt32) :
    hour.toNat < 24 ∧ minute.toNat < 60 ∧ second.toNat < 60 ∨
      ∃ e, FirstFault hour minute second e := by
  by_cases hHour : hour.toNat < 24
  · by_cases hMinute : minute.toNat < 60
    · by_cases hSecond : second.toNat < 60
      · exact .inl ⟨hHour, hMinute, hSecond⟩
      · exact .inr ⟨_, .second hHour hMinute (Nat.le_of_not_lt hSecond)⟩
    · exact .inr ⟨_, .minute hHour (Nat.le_of_not_lt hMinute)⟩
  · exact .inr ⟨_, .hour (Nat.le_of_not_lt hHour)⟩

theorem ofParts_eq_error_iff {e : TimeError} :
    ofParts hour minute second = .error e ↔ FirstFault hour minute second e := by
  refine ⟨fun h => ?_, ofParts_of_firstFault⟩
  rcases lt_or_firstFault hour minute second with ⟨hHour, hMinute, hSecond⟩ | ⟨first, hFirst⟩
  · rw [ofParts_of_lt hHour hMinute hSecond] at h
    cases h
  · rw [ofParts_of_firstFault hFirst] at h
    cases h
    exact hFirst

/-- Parts are accepted for the time that has them, and for no other. -/
theorem ofParts_eq_ok_iff {t : LocalTime} : ofParts hour minute second = .ok t ↔
    t.hour.val = hour.toNat ∧ t.minute.val = minute.toNat ∧ t.second.val = second.toNat := by
  constructor
  · intro h
    rcases lt_or_firstFault hour minute second with ⟨hHour, hMinute, hSecond⟩ | ⟨e, hFault⟩
    · rw [ofParts_of_lt hHour hMinute hSecond] at h
      cases h
      exact ⟨rfl, rfl, rfl⟩
    · rw [ofParts_of_firstFault hFault] at h
      cases h
  · rintro ⟨hHour, hMinute, hSecond⟩
    rw [ofParts_of_lt (hHour ▸ t.hour.isLt) (hMinute ▸ t.minute.isLt) (hSecond ▸ t.second.isLt)]
    simp only [← hHour, ← hMinute, ← hSecond, Fin.eta]

end StartPage.LocalTime
