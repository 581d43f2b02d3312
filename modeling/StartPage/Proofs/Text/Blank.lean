import Mathlib.Data.List.TakeWhile
import StartPage.Text.Blank

/-! Texts without blanks at their ends. Trimming leaves such a text, and it leaves it alone when
it is given one. Blanks that are put around a text make no difference to what trimming leaves. -/
namespace StartPage.Text

/-- The text has no blank at either end. -/
structure Bare (s : List Char) : Prop where
  first : ∀ c, s.head? = some c → isBlank c = false
  last : ∀ c, s.getLast? = some c → isBlank c = false

variable {s : List Char}

theorem dropWhile_eq_self (h : ∀ c, s.head? = some c → isBlank c = false) :
    s.dropWhile isBlank = s := by
  cases s with
  | nil => rfl
  | cons c s => exact List.dropWhile_cons_of_neg (by simp [h c rfl])

theorem first_dropWhile (s : List Char) :
    ∀ c, (s.dropWhile isBlank).head? = some c → isBlank c = false := by
  intro c hFirst
  have hNot := List.head?_dropWhile_not isBlank s
  rw [hFirst] at hNot
  exact hNot

/-- What is left of a text by trimming its end is a beginning of it. -/
theorem trimEnd_prefix (s : List Char) : trimEnd s <+: s := by
  have hSuffix : s.reverse.dropWhile isBlank <:+ s.reverse := List.dropWhile_suffix _
  simpa [trimEnd] using List.reverse_prefix.mpr hSuffix

theorem bare_trim (s : List Char) : Bare (trim s) where
  first := by
    intro c hFirst
    obtain ⟨rest, hRest⟩ := trimEnd_prefix (trimStart s)
    apply first_dropWhile s
    change (trimStart s).head? = some c
    rw [← hRest, List.head?_append]
    change (trimEnd (trimStart s)).head? = some c at hFirst
    rw [hFirst, Option.some_or]
  last := by
    intro c hLast
    apply first_dropWhile (trimStart s).reverse
    rw [← hLast, trim, trimEnd, List.getLast?_reverse]

theorem Bare.trim_eq (h : Bare s) : trim s = s := by
  have hStart : trimStart s = s := dropWhile_eq_self h.first
  have hEnd : s.reverse.dropWhile isBlank = s.reverse := by
    apply dropWhile_eq_self
    intro c hFirst
    exact h.last c (List.head?_reverse ▸ hFirst)
  rw [trim, hStart, trimEnd, hEnd, List.reverse_reverse]

/-- The text has no characters but blanks. -/
def Blank (s : List Char) : Prop := ∀ c ∈ s, isBlank c = true

instance : Decidable (Blank s) := decidable_of_iff (s.all isBlank = true) List.all_eq_true

/-- The text is another one with blanks around it. -/
inductive Padded (core : List Char) : List Char → Prop where
  | intro {before after : List Char} (hBefore : Blank before) (hAfter : Blank after) :
      Padded core (before ++ core ++ after)

theorem blank_takeWhile (s : List Char) : Blank (s.takeWhile isBlank) :=
  fun _ => List.mem_takeWhile_imp

/-- Nothing but blanks is lost at the beginning. -/
theorem exists_trimStart (s : List Char) : ∃ before, Blank before ∧ s = before ++ trimStart s :=
  ⟨_, blank_takeWhile s, List.takeWhile_append_dropWhile.symm⟩

/-- Nothing but blanks is lost at the end. -/
theorem exists_trimEnd (s : List Char) : ∃ after, Blank after ∧ s = trimEnd s ++ after := by
  refine ⟨(s.reverse.takeWhile isBlank).reverse, fun c hMem => ?_, ?_⟩
  · exact blank_takeWhile _ c (List.mem_reverse.mp hMem)
  · rw [trimEnd, ← List.reverse_append, List.takeWhile_append_dropWhile, List.reverse_reverse]

theorem padded_trim (s : List Char) : Padded (trim s) s := by
  obtain ⟨before, hBefore, hStart⟩ := exists_trimStart s
  obtain ⟨after, hAfter, hEnd⟩ := exists_trimEnd (trimStart s)
  have hPadded : Padded (trim s) (before ++ trim s ++ after) := .intro hBefore hAfter
  rwa [List.append_assoc, trim, ← hEnd, ← hStart] at hPadded

theorem trimStart_of_blank (h : Blank s) : trimStart s = [] := List.dropWhile_eq_nil_iff.mpr h

theorem trimStart_append (hBlank : Blank s) (t : List Char) : trimStart (s ++ t) = trimStart t :=
  List.dropWhile_append_of_pos hBlank

theorem trimEnd_append (s : List Char) {t : List Char} (hBlank : Blank t) :
    trimEnd (s ++ t) = trimEnd s := by
  have hReverse : ∀ c ∈ t.reverse, isBlank c = true :=
    fun c hMem => hBlank c (List.mem_reverse.mp hMem)
  rw [trimEnd, List.reverse_append, List.dropWhile_append_of_pos hReverse, trimEnd]

variable {core : List Char}

/-- Blanks around a text make no difference to what trimming leaves of it. -/
theorem Padded.trim_eq (h : Padded core s) : trim s = trim core := by
  obtain @⟨before, after, hBefore, hAfter⟩ := h
  rw [List.append_assoc, trim, trimStart_append hBefore]
  -- A core that is blank itself leaves nothing to which the blanks behind it could be appended.
  by_cases hCore : Blank core
  · rw [trimStart_append hCore, trim, trimStart_of_blank hCore, trimStart_of_blank hAfter]
  · have hSome : ¬(trimStart core).isEmpty = true :=
      fun hNone => hCore (List.dropWhile_eq_nil_iff.mp (List.isEmpty_iff.mp hNone))
    have hStart : trimStart (core ++ after) = trimStart core ++ after :=
      List.dropWhile_append.trans (if_neg hSome)
    rw [hStart, trimEnd_append _ hAfter, trim]

/-- There is one text without blanks at its ends to which blanks have been added. -/
theorem Padded.eq_trim (h : Padded core s) (hBare : Bare core) : trim s = core :=
  h.trim_eq.trans hBare.trim_eq

theorem blank_iff_padded_nil : Blank s ↔ Padded [] s := by
  refine ⟨fun h => ?_, fun ⟨hBefore, hAfter⟩ c hMem => ?_⟩
  · have hPadded : Padded [] (s ++ [] ++ []) := .intro h (List.forall_mem_nil _)
    rwa [List.append_nil, List.append_nil] at hPadded
  · rw [List.append_nil, List.mem_append] at hMem
    exact hMem.elim (hBefore c) (hAfter c)

theorem trim_eq_nil_iff : trim s = [] ↔ Blank s := by
  refine ⟨fun h => ?_, fun h => (blank_iff_padded_nil.mp h).trim_eq⟩
  rw [blank_iff_padded_nil, ← h]
  exact padded_trim s

end StartPage.Text
