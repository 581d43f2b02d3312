import StartPage.Text.Split

/-! Cutting a text at its separators, seen from the parts: a separator between two
texts keeps their parts apart, and a text without one is a single part. -/
namespace StartPage.Text

variable {isSeparator : Char → Bool}

theorem splitAll_ne_nil (isSeparator : Char → Bool) (s : List Char) :
    splitAll isSeparator s ≠ [] := by
  cases s with
  | nil => simp [splitAll]
  | cons c s =>
      rw [splitAll]
      split
      · simp
      · split <;> simp

theorem splitAll_cons_of_not {c : Char} (h : isSeparator c = false) {s part : List Char}
    {parts : List (List Char)} (hParts : splitAll isSeparator s = part :: parts) :
    splitAll isSeparator (c :: s) = (c :: part) :: parts := by
  simp [splitAll, h, hParts]

/-- A separator ends a part wherever it stands, so the parts before and behind it
are those of the two texts alone. -/
theorem splitAll_append (s : List Char) {c : Char} (h : isSeparator c = true) (t : List Char) :
    splitAll isSeparator (s ++ c :: t) = splitAll isSeparator s ++ splitAll isSeparator t := by
  induction s with
  | nil => simp [splitAll, h]
  | cons d s ih =>
      by_cases hd : isSeparator d = true
      · simp [splitAll, hd, ih]
      · obtain ⟨part, parts, hs⟩ := List.exists_cons_of_ne_nil (splitAll_ne_nil isSeparator s)
        have hd : isSeparator d = false := by simpa using hd
        rw [splitAll_cons_of_not hd hs, List.cons_append,
          splitAll_cons_of_not hd (by rw [ih, hs, List.cons_append]), List.cons_append]

theorem splitAll_of_none {s : List Char} (h : ∀ c ∈ s, isSeparator c = false) :
    splitAll isSeparator s = [s] := by
  induction s with
  | nil => rfl
  | cons c s ih =>
      exact splitAll_cons_of_not (h c List.mem_cons_self)
        (ih fun d hd => h d (List.mem_cons_of_mem c hd))

theorem splitFirst_append {separator : Char} {s : List Char} (h : separator ∉ s) (t : List Char) :
    splitFirst separator (s ++ separator :: t) = (s, some t) := by
  induction s with
  | nil => simp [splitFirst]
  | cons c s ih =>
      rw [List.mem_cons, not_or] at h
      simp [splitFirst, Ne.symm h.1, ih h.2]

variable {separator : Char} {s before behind : List Char}

theorem splitFirst_of_not_mem (h : separator ∉ s) : splitFirst separator s = (s, none) := by
  induction s with
  | nil => rfl
  | cons c s ih =>
      rw [List.mem_cons, not_or] at h
      rw [splitFirst, if_neg (Ne.symm h.1), ih h.2]

theorem eq_of_splitLast_none (h : splitLast separator s = (none, behind)) : behind = s := by
  induction s generalizing behind with
  | nil => cases h; rfl
  | cons c s ih =>
      rw [splitLast] at h
      split at h
      · cases h
      · next rest hRest =>
          split at h
          · cases h
          · cases h
            rw [ih hRest]

theorem eq_of_splitLast (h : splitLast separator s = (some before, behind)) :
    s = before ++ separator :: behind := by
  induction s generalizing before behind with
  | nil => cases h
  | cons c s ih =>
      rw [splitLast] at h
      split at h
      · next hRest =>
          cases h
          rw [ih hRest, List.cons_append]
      · next rest hRest =>
          split at h
          · next hSame =>
              cases h
              rw [hSame, eq_of_splitLast_none hRest, List.nil_append]
          · cases h

end StartPage.Text
