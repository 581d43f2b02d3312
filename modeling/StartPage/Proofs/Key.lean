import StartPage.Key

/-! Which key presses submit. The logical name of a key is heard first, then the physical code and
last the number, and each of them is heard only where those before it have said nothing. -/
namespace StartPage

namespace KeyCode

variable {key code : String} {number : UInt32}

/-- The logical names that have a meaning, apart from those of a single character. -/
def meaningfulNames : List String := ["Enter", "Escape", "Esc", "Backspace", "Tab", "Spacebar"]

theorem ofKeyName?_eq_none_iff (key : String) : ofKeyName? key = none ↔ key ∉ meaningfulNames := by
  unfold ofKeyName?
  split <;> simp_all [meaningfulNames]

theorem ofCodeName?_eq_enter_iff (code : String) :
    ofCodeName? code = some .enter ↔ code ∈ ["Enter", "NumpadEnter"] := by
  unfold ofCodeName?
  split <;> simp_all

/-- Every meaning that a name has by itself is another than that of a key without one. -/
theorem ne_unidentified {meaning : KeyCode}
    (h : (ofKeyName? key).or (ofCodeName? code) = some meaning) (k c : String) :
    meaning ≠ .unidentified k c := by
  rw [Option.or_eq_some_iff] at h
  rcases h with h | ⟨-, h⟩
  · unfold ofKeyName? at h
    split at h <;> cases h <;> simp
  · unfold ofCodeName? at h
    split at h <;> cases h <;> simp

theorem isUninformative_iff (name : String) :
    isUninformative name = true ↔ name ∈ ["", "Unidentified"] := by
  simp [isUninformative]

/-- A name that tells nothing has no meaning, neither as a logical name nor as a physical code. -/
theorem eq_none_of_mem {name : String} (h : name ∈ ["", "Unidentified"]) :
    ofKeyName? name = none ∧ ofCodeName? name = none := by
  simp only [List.mem_cons, List.not_mem_nil, or_false] at h
  rcases h with rfl | rfl <;> exact ⟨rfl, rfl⟩

theorem ofDom_of_length_eq (h : key.length = 1) :
    ∃ c, ∀ code number, ofDom key code number = .char c := by
  rw [← String.length_toList, List.length_eq_one_iff] at h
  obtain ⟨c, hChar⟩ := h
  exact ⟨c, fun code number => by simp [ofDom, hChar]⟩

/-- A key whose logical name is not a single character has the first meaning that one of its names
has. The number is left for a key whose names tell nothing. -/
theorem ofDom_of_length_ne (h : key.length ≠ 1) (code : String) (number : UInt32) :
    ofDom key code number = ((ofKeyName? key).or (ofCodeName? code)).getD
      (if key ∈ ["", "Unidentified"] ∧ code ∈ ["", "Unidentified"] ∧
        number = enterNumber then .enter else .unidentified key code) := by
  unfold ofDom
  split
  · next c hChar => simp [← String.length_toList, hChar] at h
  · have hOr : (ofKeyName? key <|> ofCodeName? code) = (ofKeyName? key).or (ofCodeName? code) := by
      cases ofKeyName? key <;> rfl
    rw [hOr]
    cases (ofKeyName? key).or (ofCodeName? code) with
    | some meaning => rfl
    | none => simp [isUninformative_iff, and_assoc]

theorem ofDom_eq_enter_iff (key code : String) (number : UInt32) :
    ofDom key code number = .enter ↔ key.length ≠ 1 ∧
      (key = "Enter" ∨
        key ∉ ["Escape", "Esc", "Backspace", "Tab", "Spacebar"] ∧ code ∈ ["Enter", "NumpadEnter"] ∨
        key ∈ ["", "Unidentified"] ∧ code ∈ ["", "Unidentified"] ∧ number = 13) := by
  by_cases hLength : key.length = 1
  · obtain ⟨c, hChar⟩ := ofDom_of_length_eq hLength
    simp [hChar, hLength]
  rw [ofDom_of_length_ne hLength]
  by_cases hKey : key ∈ meaningfulNames
  · simp only [meaningfulNames, List.mem_cons, List.not_mem_nil, or_false] at hKey
    rcases hKey with rfl | rfl | rfl | rfl | rfl | rfl <;> simp [ofKeyName?, hLength]
  · rw [(ofKeyName?_eq_none_iff key).mpr hKey, Option.none_or]
    simp only [meaningfulNames, List.mem_cons, not_or] at hKey
    cases hCode : ofCodeName? code with
    | some meaning =>
        have hTells : code ∉ ["", "Unidentified"] := by
          intro hSilent
          rw [(eq_none_of_mem hSilent).2] at hCode
          cases hCode
        rw [← ofCodeName?_eq_enter_iff, hCode]
        simp [hLength, hKey, hTells]
    | none =>
        have hOther : code ∉ ["Enter", "NumpadEnter"] := by
          rw [← ofCodeName?_eq_enter_iff, hCode]
          simp
        simp [hLength, hKey, hOther, enterNumber]

/-- The number changes the meaning of no key that has a name. -/
theorem mem_of_ofDom_ne {number number' : UInt32}
    (h : ofDom key code number ≠ ofDom key code number') :
    key ∈ ["", "Unidentified"] ∧ code ∈ ["", "Unidentified"] := by
  by_cases hLength : key.length = 1
  · obtain ⟨c, hChar⟩ := ofDom_of_length_eq hLength
    rw [hChar, hChar] at h
    exact absurd rfl h
  rw [ofDom_of_length_ne hLength, ofDom_of_length_ne hLength] at h
  apply Decidable.byContradiction
  intro hTells
  have hNoNumber (n : UInt32) :
      ¬(key ∈ ["", "Unidentified"] ∧ code ∈ ["", "Unidentified"] ∧ n = enterNumber) :=
    fun hSilent => hTells ⟨hSilent.1, hSilent.2.1⟩
  rw [if_neg (hNoNumber _), if_neg (hNoNumber _)] at h
  exact h rfl

/-- The physical code changes the meaning of no key whose logical name has one. -/
theorem not_mem_of_ofDom_ne {code code' : String}
    (h : ofDom key code number ≠ ofDom key code' number) :
    key.length ≠ 1 ∧ key ∉ meaningfulNames := by
  by_cases hLength : key.length = 1
  · obtain ⟨c, hChar⟩ := ofDom_of_length_eq hLength
    rw [hChar, hChar] at h
    exact absurd rfl h
  rw [ofDom_of_length_ne hLength, ofDom_of_length_ne hLength] at h
  refine ⟨hLength, (ofKeyName?_eq_none_iff key).mp ?_⟩
  cases hName : ofKeyName? key with
  | none => rfl
  | some meaning =>
      rw [hName] at h
      exact absurd rfl h

/-- A key without a meaning keeps both of its names. -/
theorem eq_of_ofDom_eq_unidentified {k c : String} (h : ofDom key code number = .unidentified k c) :
    k = key ∧ c = code := by
  by_cases hLength : key.length = 1
  · obtain ⟨char, hChar⟩ := ofDom_of_length_eq hLength
    rw [hChar] at h
    cases h
  rw [ofDom_of_length_ne hLength] at h
  cases hMeaning : (ofKeyName? key).or (ofCodeName? code) with
  | some meaning =>
      rw [hMeaning] at h
      exact absurd h (ne_unidentified hMeaning k c)
  | none =>
      rw [hMeaning, Option.getD_none] at h
      split at h
      · cases h
      · cases h
        exact ⟨rfl, rfl⟩

end KeyCode

namespace KeyInput

open KeyCode

/-- A key press submits if it is an Enter outside of a composition: by its logical name, by its
physical code where the logical name means nothing else, or by its number where neither name tells
anything. A single character never submits, whatever else is said of the key. -/
theorem submits_ofDom_iff (key code : String) (number : UInt32) (composing : Bool) :
    ((KeyInput.ofDom key code number composing).submits = true ↔
      composing = false ∧ key.length ≠ 1 ∧
        (key = "Enter" ∨
          key ∉ ["Escape", "Esc", "Backspace", "Tab", "Spacebar"] ∧
            code ∈ ["Enter", "NumpadEnter"] ∨
          key ∈ ["", "Unidentified"] ∧ code ∈ ["", "Unidentified"] ∧ number = 13)) ∧
    (∀ number', KeyCode.ofDom key code number ≠ KeyCode.ofDom key code number' →
      key ∈ ["", "Unidentified"] ∧ code ∈ ["", "Unidentified"]) ∧
    (∀ code', KeyCode.ofDom key code number ≠ KeyCode.ofDom key code' number →
      key.length ≠ 1 ∧ key ∉ ["Enter", "Escape", "Esc", "Backspace", "Tab", "Spacebar"]) ∧
    ∀ k c, KeyCode.ofDom key code number = .unidentified k c → k = key ∧ c = code := by
  refine ⟨?_, fun number' => mem_of_ofDom_ne, fun code' => not_mem_of_ofDom_ne,
    fun k c => eq_of_ofDom_eq_unidentified⟩
  rw [← ofDom_eq_enter_iff]
  simp [submits, ofDom]

end KeyInput

end StartPage
