import StartPage.Proofs.Json.Answer
import StartPage.Proofs.Json.Grammar

/-! Numbers as they are read. Every numeral of the grammar is taken off the front of a text as
it stands. What it amounts to is told here for words of 32 bits only: a sign, a point or an
exponent makes a double, and so does a whole number of more than 64 bits, and none of these is
a word. So nothing has to be known about doubles. -/
namespace StartPage.Json

open Reader

/-- The text does not begin with a character of a given class. -/
def HeadNot (p : Char → Bool) (s : List Char) : Prop := ∀ c ∈ s.head?, p c = false

theorem headNot_cons {p : Char → Bool} {c : Char} (h : p c = false) (s : List Char) :
    HeadNot p (c :: s) := by
  simpa [HeadNot] using h

theorem Bounded.headNot {rest : List Char} (h : Bounded rest) {p : Char → Bool}
    (hAll : bounds.all (fun c => !p c) = true) : HeadNot p rest :=
  fun c hc => by simpa using List.all_eq_true.mp hAll c (h c hc)

namespace Number

variable {text rest : List Char}

theorem answer?_takeAll {p : Char → Bool} {s : List Char} (hAll : ∀ c ∈ s, p c = true)
    (hRest : HeadNot p rest) : (takeAll p).answer? (s ++ rest) = some (s, rest) :=
  answer?_of_run (run_takeAll hAll hRest)

theorem answer?_wholeFrom {d : Char} {ds : List Char} (h : Whole (d :: ds))
    (hRest : HeadNot Text.isDigit rest) :
    (wholeFrom d).answer? (ds ++ rest) = some (d :: ds, rest) := by
  cases h with
  | zero =>
      rw [wholeFrom, if_pos rfl, List.nil_append, answer?_lookahead_bind]
      cases rest with
      | nil => rfl
      | cons c rest =>
          have hDigit : Text.isDigit c = false := hRest c rfl
          simp [hDigit]
  | positive _ hZero hDigits =>
      rw [wholeFrom, if_neg hZero, answer?_bind_some (answer?_takeAll hDigits hRest)]
      rfl

theorem answer?_someDigits {ds : List Char} (h : Digits ds) (hRest : HeadNot Text.isDigit rest)
    (atEnd : Cause) :
    (someDigits atEnd).answer? (ds ++ rest) = some (ds, rest) := by
  obtain ⟨hNonempty, hDigits⟩ := h
  rw [someDigits, answer?_bind_some (answer?_takeAll hDigits hRest)]
  cases ds with
  | nil => exact absurd rfl hNonempty
  | cons d ds => rfl

theorem answer?_fraction? {places : Option (List Char)} (h : Fraction text places)
    (hDigit : HeadNot Text.isDigit rest) (hPoint : HeadNot (· = '.') rest) (atEnd : Cause) :
    (fraction? atEnd).answer? (text ++ rest) = some (places, rest) := by
  cases h with
  | absent =>
      rw [fraction?, List.nil_append, answer?_onChar_none]
      · rfl
      · exact fun c hc => if_neg (of_decide_eq_false (hPoint c hc))
  | present hDigits =>
      rw [fraction?, List.cons_append, answer?_onChar_some (if_pos rfl),
        answer?_bind_some (answer?_someDigits hDigits hDigit atEnd)]
      rfl

theorem answer?_exponentSign {sign ds : List Char} {below : Bool} (h : Sign sign below)
    (hDigits : Digits ds) :
    exponentSign.answer? (sign ++ (ds ++ rest)) = some (below, ds ++ rest) := by
  cases h with
  | plus => rfl
  | minus => rfl
  | absent =>
      obtain ⟨d, ds, rfl⟩ := List.exists_cons_of_ne_nil hDigits.1
      have hMem : d ∈ decimals := mem_decimals (hDigits.2 d List.mem_cons_self)
      have hAll : decimals.all (fun c => c != '+' && c != '-') = true := by decide
      have hSign : d ≠ '+' ∧ d ≠ '-' := by simpa using List.all_eq_true.mp hAll d hMem
      rw [exponentSign, List.nil_append, List.cons_append, answer?_onChar_none]
      · rfl
      · simp [hSign]

theorem answer?_exponent? {power : Option (Bool × List Char)} (h : Exponent text power)
    (hDigit : HeadNot Text.isDigit rest) (hMark : HeadNot (fun c => c = 'e' || c = 'E') rest)
    (atEnd : Cause) :
    (exponent? atEnd).answer? (text ++ rest) = some (power, rest) := by
  cases h with
  | absent =>
      rw [exponent?, List.nil_append, answer?_onChar_none]
      · rfl
      · exact fun c hc => if_neg (by simp [hMark c hc])
  | present hE hSign hDigits =>
      rw [exponent?, List.cons_append, List.cons_append, List.append_assoc,
        answer?_onChar_some (if_pos (by simpa using hE)),
          answer?_bind_some (answer?_exponentSign hSign hDigits),
        answer?_bind_some (answer?_someDigits hDigits hDigit atEnd)]
      rfl

theorem Fraction.headNot {places : Option (List Char)} (h : Fraction text places) {p : Char → Bool}
    (hPoint : p '.' = false) (hRest : HeadNot p rest) : HeadNot p (text ++ rest) := by
  cases h with
  | absent => exact hRest
  | present => exact headNot_cons hPoint _

theorem Exponent.headNot {power : Option (Bool × List Char)} (h : Exponent text power)
    {p : Char → Bool} (hMarks : p 'e' = false ∧ p 'E' = false) (hRest : HeadNot p rest) :
    HeadNot p (text ++ rest) := by
  cases h with
  | absent => exact hRest
  | present hE =>
      obtain rfl | rfl := hE
      · exact headNot_cons hMarks.1 _
      · exact headNot_cons hMarks.2 _

theorem answer?_numeralFrom {d : Char} {ds : List Char} {n : Numeral}
    (h : Numeral.Denotes (d :: ds) n) (hRest : Bounded rest) (atEnd : Cause) :
    (numeralFrom atEnd d).answer? (ds ++ rest) = some (n, rest) := by
  generalize hText : d :: ds = text at h
  obtain ⟨hWhole, hFraction, hExponent⟩ := h
  obtain ⟨first, more, rfl, -, -⟩ := hWhole.exists_cons
  simp only [List.cons_append, List.cons.injEq] at hText
  obtain ⟨rfl, rfl⟩ := hText
  have hDigit : HeadNot Text.isDigit rest := hRest.headNot (by decide)
  have hBehind := hExponent.headNot (by decide) hDigit
  rw [List.append_assoc, List.append_assoc, numeralFrom,
    answer?_bind_some (answer?_wholeFrom hWhole (hFraction.headNot (by decide) hBehind)),
    answer?_bind_some (answer?_fraction? hFraction hBehind
      (hExponent.headNot (by decide) (hRest.headNot (by decide))) atEnd),
    answer?_bind_some (answer?_exponent? hExponent hDigit (hRest.headNot (by decide)) atEnd)]
  rfl

theorem answer?_numeral {n : Numeral} (h : Numeral.Denotes text n) (hRest : Bounded rest)
    (atEnd : Cause) :
    (numeral atEnd).answer? (text ++ rest) = some (n, rest) := by
  obtain ⟨d, ds, rfl, hDigit⟩ := (Denotes.number h).exists_begins
  rw [numeral, List.cons_append, answer?_onChar_some (if_pos hDigit)]
  exact answer?_numeralFrom h hRest atEnd

/-- The word of 32 bits that a numeral stands for. A numeral with a sign, a point or an exponent
stands for none, also where its magnitude is a whole number. -/
def Numeral.word? : Bool → Numeral → Option UInt32
  | false, ⟨whole, none, none⟩ =>
    if Text.value whole < 0x100000000 then some (UInt32.ofNat (Text.value whole)) else none
  | _, _ => none

/-- Digits of a number beyond the bound are left over. -/
theorem absorb_of_lt {m : Nat} {ds : List Char} (hStart : m ≤ maxSignificand)
    (h : maxSignificand < ds.foldl (fun n c => 10 * n + (c.toNat - 48)) m) :
    (absorb m ds).2 ≠ 0 := by
  induction ds generalizing m with
  | nil => exact absurd h (Nat.not_lt.mpr hStart)
  | cons d ds ih =>
      rw [absorb]
      split_ifs with hNext
      · exact ih hNext h
      · exact Nat.succ_ne_zero _

/-- No number that the reader answers is a word. -/
def NoWord (r : Reader Number) : Prop := ∀ s, (r >>= toWord).answer? s = none

theorem noWord_float (x : Float) : NoWord (pure (.float x)) := fun _ => rfl

theorem noWord_fault (cause : Cause) (ahead : Nat) : NoWord (.fault cause ahead) := fun _ => rfl

theorem noWord_faultBehind (cause : Cause) (behind : Nat) : NoWord (.faultBehind cause behind) :=
  fun _ => rfl

theorem noWord_ofParts (negative : Bool) (significand : Nat) (exponent : Int) :
    NoWord (ofParts negative significand exponent) := by
  unfold ofParts
  split
  · exact noWord_float _
  · exact noWord_fault _ _

theorem noWord_ofDigits (significand : Nat) : NoWord (pure (ofDigits true significand)) := by
  unfold ofDigits
  rw [if_neg (by decide)]
  split
  · exact noWord_float _
  · next hSmall =>
      intro s
      have hPositive : significand ≠ 0 := by
        rintro rfl
        exact hSmall rfl
      have hNegative : ¬ (0 : Int) ≤ -(significand : Int) := by omega
      rw [answer?_bind_some (answer?_pure _ s), toWord, if_neg]
      · rfl
      · rw [decide_eq_false hNegative, Bool.false_and]
        exact Bool.false_ne_true

theorem noWord_ofNumeral {negative : Bool} {n : Numeral}
    (h : negative = true ∨ n.fraction ≠ none ∨ n.exponent ≠ none) :
    NoWord (ofNumeral negative n) := by
  unfold ofNumeral
  dsimp only
  split
  · next hPower =>
      split_ifs with hWhole
      · have hFraction : n.fraction = none :=
          Option.isNone_iff_eq_none.mp (Bool.and_eq_true_iff.mp hWhole).1
        obtain rfl : negative = true := by simpa [hPower, hFraction] using h
        exact noWord_ofDigits _
      · exact noWord_ofParts _ _ _
  · split
    · exact noWord_ofParts _ _ _
    · split
      · exact noWord_faultBehind _ _
      · exact noWord_float _

theorem answer?_toWord (n : Nat) (s : List Char) :
    (toWord (.integer n)).answer? s =
      if n < 0x100000000 then some (UInt32.ofNat n, s) else none := by
  have hPositive : (0 : Int) ≤ n := Int.natCast_nonneg n
  by_cases hLess : n < 0x100000000
  · have hInt : (n : Int) < 0x100000000 := by omega
    rw [toWord, if_pos (by rw [decide_eq_true hPositive, decide_eq_true hInt]; rfl), if_pos hLess,
      Int.toNat_natCast]
    exact answer?_pure _ s
  · have hInt : ¬ (n : Int) < 0x100000000 := by omega
    rw [toWord, if_neg (by rw [decide_eq_false hInt, Bool.and_false]; exact Bool.false_ne_true),
      if_neg hLess]
    exact answer?_fault _ _ s

/-- A numeral is read as the word that it stands for. -/
theorem answer?_ofNumeral_bind (negative : Bool) (n : Numeral) (s : List Char) :
    (ofNumeral negative n >>= toWord).answer? s = (n.word? negative).map fun word => (word, s) := by
  by_cases hOther : negative = true ∨ n.fraction ≠ none ∨ n.exponent ≠ none
  · have hNone : n.word? negative = none := by
      unfold Numeral.word?
      split
      · simp at hOther
      · rfl
    rw [noWord_ofNumeral hOther s, hNone]
    rfl
  · obtain ⟨whole, places, power⟩ := n
    obtain ⟨rfl, rfl, rfl⟩ : negative = false ∧ places = none ∧
        power = none := by simpa using hOther
    by_cases hBound : Text.value whole ≤ maxSignificand
    · have hNumber : ofNumeral false ⟨whole, none, none⟩ = pure (.integer (Text.value whole)) := by
        have hAbsorb : absorb 0 whole = (Text.value whole, 0) := absorb_eq hBound
        simp [ofNumeral, hAbsorb, absorb, ofDigits]
      rw [hNumber, answer?_bind_some (answer?_pure _ s), answer?_toWord, Numeral.word?]
      split_ifs <;> rfl
    · have hDropped : (absorb 0 whole).2 ≠ 0 :=
        absorb_of_lt (Nat.zero_le _) (Nat.lt_of_not_le hBound)
      have hParts : NoWord (ofNumeral false ⟨whole, none, none⟩) := by
        unfold ofNumeral
        dsimp only
        rw [if_neg (by simp [hDropped])]
        exact noWord_ofParts _ _ _
      have hLarge : ¬ Text.value whole < 0x100000000 := by
        unfold maxSignificand at hBound
        omega
      rw [hParts s, Numeral.word?, if_neg hLarge]
      rfl

end Number

end StartPage.Json
