import StartPage.Proofs.Url.Redirect

/-! Percent-encoding, seen from the set. What is encoded holds nothing of the set, because escapes
are written in harmless characters; and a text that holds nothing of the set is not changed. -/
namespace StartPage.Url

/-- A character outside a set is none of those in it. -/
theorem ne_of_outside {set : Char → Bool} {c d : Char} (hOutside : set c = false)
    (hInside : set d = true) :
    c ≠ d := by
  rintro rfl
  rw [hOutside] at hInside
  cases hInside

/-- A character outside a set is outside all smaller ones. -/
theorem outside_of_subset {small large : Char → Bool} {c : Char} (hOutside : large c = false)
    (hSubset : small c = true → large c = true) : small c = false :=
  eq_false_of_ne_true fun hInside => by rw [hSubset hInside] at hOutside; cases hOutside

theorem visible_of_ne {c : Char} (hControls : EncodeSet.controls c = false) (hSpace : c ≠ ' ') :
    0x20 < c.toNat := by
  have hNumber : c.toNat ≠ 0x20 := fun hSame => hSpace (Char.toNat_inj.mp hSame)
  simp only [EncodeSet.controls, Bool.or_eq_false_iff, decide_eq_false_iff_not] at hControls
  omega

namespace EncodeSet

variable {special : Bool} {c : Char}

theorem fragment_of_controls (h : controls c = true) : fragment c = true := by simp [fragment, h]

theorem query_of_controls (h : controls c = true) : query special c = true := by simp [query, h]

theorem visible_of_fragment (h : fragment c = false) : 0x20 < c.toNat :=
  visible_of_ne (outside_of_subset h fragment_of_controls) (ne_of_outside h rfl)

theorem visible_of_query (h : query special c = false) : 0x20 < c.toNat ∧ c ≠ '#' :=
  ⟨visible_of_ne (outside_of_subset h query_of_controls) (ne_of_outside h rfl), ne_of_outside h rfl⟩

end EncodeSet

/-- The characters of an escape, and those that stand for themselves in a query. -/
theorem mem_of_isWritten {c : Char} (h : Form.isWritten c = true) :
    c ∈ '+' :: '%' :: Form.alphabet := by
  simp only [Form.isWritten, Bool.or_eq_true, decide_eq_true_eq] at h
  obtain (hPlain | rfl) | rfl := h
  · exact List.mem_cons_of_mem _ (List.mem_cons_of_mem _ (Form.mem_alphabet_of_isPlain hPlain))
  · exact List.mem_cons_self
  · exact List.mem_cons_of_mem _ List.mem_cons_self

theorem of_isWritten {p : Char → Bool} (hAll : ('+' :: '%' :: Form.alphabet).all p = true)
    {c : Char} (h : Form.isWritten c = true) : p c = true :=
  List.all_eq_true.mp hAll c (mem_of_isWritten h)

/-- What holds of the characters of an escape and of those outside the set holds of the result. -/
theorem forall_mem_percentEncode {p : Char → Prop} {set : Char → Bool} {s : List Char}
    (hEscape : ∀ c, Form.isWritten c = true → p c) (hPlain : ∀ c ∈ s, set c = false → p c) :
    ∀ c ∈ percentEncode set s, p c := by
  intro c hMem
  obtain ⟨d, hSource, hWritten⟩ := List.mem_flatMap.mp hMem
  split at hWritten
  · obtain ⟨b, -, hByte⟩ := List.mem_flatMap.mp hWritten
    exact hEscape c (Form.isWritten_of_mem_percentByte hByte)
  · next hOutside =>
      rw [List.mem_singleton.mp hWritten]
      exact hPlain d hSource (eq_false_of_ne_true hOutside)

/-- An encoded text holds nothing of the set, unless the escapes themselves do. -/
theorem outside_percentEncode {set : Char → Bool}
    (hEscape : ∀ c, Form.isWritten c = true → set c = false) (s : List Char) :
    ∀ c ∈ percentEncode set s, set c = false :=
  forall_mem_percentEncode hEscape fun _ _ hOutside => hOutside

theorem outside_fragment_of_isWritten (c : Char) (h : Form.isWritten c = true) :
    EncodeSet.fragment c = false := by
  have hAll : ('+' :: '%' :: Form.alphabet).all (!EncodeSet.fragment ·) = true := by decide +kernel
  simpa using of_isWritten hAll h

theorem outside_query_of_isWritten {special : Bool} (c : Char) (h : Form.isWritten c = true) :
    EncodeSet.query special c = false := by
  have hAll : ('+' :: '%' :: Form.alphabet).all (!EncodeSet.query special ·) = true := by
    cases special <;> decide +kernel
  simpa using of_isWritten hAll h

/-- A text that holds nothing of the set stays as it is. -/
theorem percentEncode_eq_self {set : Char → Bool} {s : List Char} (h : ∀ c ∈ s, set c = false) :
    percentEncode set s = s := by
  induction s with
  | nil => rfl
  | cons c s ih =>
      obtain ⟨hHead, hTail⟩ := List.forall_mem_cons.mp h
      rw [percentEncode, List.flatMap_cons, ← percentEncode, ih hTail, hHead]
      rfl

/-- A text that holds nothing of a set, controls included, is not changed by being read. -/
theorem percentEncode_dropBreaks {set : Char → Bool} {s : List Char}
    (hControls : ∀ c, EncodeSet.controls c = true → set c = true) (h : ∀ c ∈ s, set c = false) :
    percentEncode set (dropBreaks s) = s := by
  have hBreaks : ∀ c ∈ s, isBreak c = false := by
    refine fun c hMem => outside_of_subset (h c hMem) fun hBreak => hControls c ?_
    simp only [isBreak, Bool.or_eq_true, decide_eq_true_eq] at hBreak
    obtain (rfl | rfl) | rfl := hBreak <;> rfl
  rw [dropBreaks_eq_self hBreaks, percentEncode_eq_self h]

end StartPage.Url
