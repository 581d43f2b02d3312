import StartPage.Text.Digits

/-! Decimal digits and the number that they denote. Written without leading zeros,
a number is denoted by its digits, and only zero begins with one. -/
namespace StartPage.Text

theorem isDigit_digitChar {d : Nat} (h : d < 10) : isDigit (digitChar d) = true :=
  (by decide : ∀ d : Fin 10, isDigit (digitChar d) = true) ⟨d, h⟩

theorem toNat_digitChar {d : Nat} (h : d < 10) : (digitChar d).toNat - 48 = d :=
  (by decide : ∀ d : Fin 10, (digitChar d).toNat - 48 = d.val) ⟨d, h⟩

theorem digitChar_ne_zero {d : Nat} (hPos : 0 < d) (h : d < 10) : digitChar d ≠ '0' :=
  (by decide : ∀ d : Fin 10, 0 < d.val → digitChar d ≠ '0') ⟨d, h⟩ hPos

theorem hexValue?_digitChar {d : Nat} (h : d < 16) : hexValue? (digitChar d) = some d :=
  (by decide : ∀ d : Fin 16, hexValue? (digitChar d) = some d.val) ⟨d, h⟩

theorem toNat_of_isDigit {c : Char} (h : isDigit c = true) : 48 ≤ c.toNat ∧ c.toNat ≤ 57 := by
  simp only [isDigit, Bool.and_eq_true, decide_eq_true_eq, Char.le_def, UInt32.le_iff_toNat_le] at h
  exact h

theorem digits_ne_nil (n : Nat) : digits n ≠ [] := by
  rw [digits]
  split <;> simp

theorem isDigit_of_mem_digits {n : Nat} {c : Char} (h : c ∈ digits n) : isDigit c = true := by
  induction n using digits.induct with
  | case1 n hLess =>
      rw [digits, if_pos hLess, List.mem_singleton] at h
      exact h ▸ isDigit_digitChar hLess
  | case2 n hLess ih =>
      rw [digits, if_neg hLess, List.mem_append, List.mem_singleton] at h
      rcases h with h | rfl
      · exact ih h
      · exact isDigit_digitChar (Nat.mod_lt _ (by omega))

theorem value_digits (n : Nat) : value (digits n) = n := by
  induction n using digits.induct with
  | case1 n hLess =>
      rw [digits, if_pos hLess]
      simp [value, toNat_digitChar hLess]
  | case2 n hLess ih =>
      rw [digits, if_neg hLess, value, List.foldl_append, ← value, ih,
        List.foldl_cons, List.foldl_nil, toNat_digitChar (Nat.mod_lt _ (by omega))]
      omega

/-- No number but zero begins with the digit zero. -/
theorem digits_head_ne_zero {n : Nat} (h : 0 < n) {d : Char} {ds : List Char}
    (hDigits : digits n = d :: ds) :
    d ≠ '0' := by
  induction n using digits.induct generalizing d ds with
  | case1 n hLess =>
      rw [digits, if_pos hLess, List.cons.injEq] at hDigits
      exact hDigits.1 ▸ digitChar_ne_zero h hLess
  | case2 n hLess ih =>
      rw [digits, if_neg hLess] at hDigits
      obtain ⟨e, es, hFront⟩ := List.exists_cons_of_ne_nil (digits_ne_nil (n / 10))
      rw [hFront, List.cons_append, List.cons.injEq] at hDigits
      exact hDigits.1 ▸ ih (by omega) hFront

/-- A number below one hundred is written with two digits, the first of which may be zero. -/
theorem exists_padded_two {n : Nat} (h : n < 100) :
    ∃ tens ones, padded 2 n = [tens, ones] ∧ isDigit tens = true ∧ isDigit ones = true ∧
      value [tens, ones] = n := by
  have hTens : n / 10 < 10 := by omega
  have hOnes : n % 10 < 10 := Nat.mod_lt _ (by decide)
  refine ⟨digitChar (n / 10), digitChar (n % 10), ?_, isDigit_digitChar hTens,
    isDigit_digitChar hOnes, ?_⟩
  · unfold padded
    by_cases hLess : n < 10
    · rw [digits, if_pos hLess, Nat.div_eq_of_lt hLess, Nat.mod_eq_of_lt hLess]
      rfl
    · rw [digits, if_neg hLess, digits, if_pos hTens]
      rfl
  · simp only [value, List.foldl_cons, List.foldl_nil]
    rw [toNat_digitChar hTens, toNat_digitChar hOnes]
    omega

theorem le_foldl_value (m : Nat) (ds : List Char) :
    m ≤ ds.foldl (fun n c => 10 * n + (c.toNat - 48)) m := by
  induction ds generalizing m with
  | nil => exact Nat.le_refl m
  | cons d ds ih =>
      have hStep : m ≤ 10 * m + (d.toNat - 48) := by omega
      exact Nat.le_trans hStep (ih _)

end StartPage.Text
