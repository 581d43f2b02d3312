import Mathlib.Tactic.SplitIfs
import StartPage.Text.Utf8

/-! Reading a text from its own bytes gives the text back, in the strict form and
in the lenient one. The bounds for the second byte matter here: every byte that a
character is written with lies within the bounds that its first byte announces. -/
namespace StartPage.Text.Utf8

theorem toNat_ofNat {n : Nat} (h : n < 0x100) : (UInt8.ofNat n).toNat = n := by
  simpa using Nat.mod_eq_of_lt h

/-- A byte within the bounds for its place adds its six bits. -/
theorem continuation_cons {low high x : Nat} (hBits : x < 0x40) (hLow : low ≤ 0x80 + x)
    (hHigh : 0x80 + x ≤ high) (count bits : Nat) (bs : List UInt8) :
    continuation (count + 1) bits low high (.ofNat (0x80 + x) :: bs) =
      continuation count (bits * 0x40 + x) 0x80 0xBF bs := by
  have hByte : (UInt8.ofNat (0x80 + x)).toNat = 0x80 + x := toNat_ofNat (by omega)
  rw [continuation, hByte, if_pos (by simp [hLow, hHigh]), Nat.add_sub_cancel_left]

theorem decode_cons_ascii {n : Nat} (h : n < 0x80) (bs : List UInt8) :
    decode (.ofNat n :: bs) = some (Char.ofNat n) :: decode bs := by
  have hByte : (UInt8.ofNat n).toNat = n := toNat_ofNat (by omega)
  rw [decode, hByte, if_pos h]

theorem decode_cons_lead {b n : Nat} {bs rest : List UInt8} {l : Lead}
    (hAscii : 0x80 ≤ b) (hByte : b < 0x100) (hLead : lead? b = some l)
    (hRest : continuation l.following l.bits l.low l.high bs = (some n, rest)) :
    decode (.ofNat b :: bs) = some (Char.ofNat n) :: decode rest := by
  rw [decode, toNat_ofNat hByte, if_neg (by omega)]
  simp [hLead, hRest]

theorem lead?_two {b : Nat} (hLow : 0xC2 ≤ b) (hHigh : b ≤ 0xDF) :
    lead? b = some { following := 1, bits := b - 0xC0 } := by
  simp [lead?, hLow, hHigh]

theorem lead?_three {b : Nat} (hLow : 0xE0 ≤ b) (hHigh : b ≤ 0xEF) :
    lead? b = some
      { following := 2, bits := b - 0xE0
        low := if b = 0xE0 then 0xA0 else 0x80
        high := if b = 0xED then 0x9F else 0xBF } := by
  by_cases hFirst : b = 0xE0
  · subst b; rfl
  · by_cases hSurrogates : b = 0xED
    · subst b; rfl
    · have hTwo : ¬ b ≤ 0xDF := by omega
      have hThree : 0xE1 ≤ b := by omega
      simp [lead?, hFirst, hSurrogates, hTwo, hThree, hHigh]

theorem lead?_four {b : Nat} (hLow : 0xF0 ≤ b) (hHigh : b ≤ 0xF4) :
    lead? b = some
      { following := 3, bits := b - 0xF0
        low := if b = 0xF0 then 0x90 else 0x80
        high := if b = 0xF4 then 0x8F else 0xBF } := by
  obtain rfl | rfl | rfl | rfl | rfl : b = 0xF0 ∨ b = 0xF1 ∨ b = 0xF2 ∨ b = 0xF3 ∨ b = 0xF4 := by
    omega
  all_goals rfl

/-- No character has the number of a surrogate. -/
theorem toNat_lt_or_gt (c : Char) : c.toNat < 0xD800 ∨ 0xDFFF < c.toNat ∧ c.toNat < 0x110000 :=
  c.valid

/-- The bytes of a character are read as that character, whatever follows them. -/
theorem decode_encodeChar (c : Char) (bs : List UInt8) :
    decode (encodeChar c ++ bs) = some c :: decode bs := by
  have hValid := toNat_lt_or_gt c
  have hChar : Char.ofNat c.toNat = c := Char.ofNat_toNat c
  unfold encodeChar
  generalize c.toNat = n at hValid hChar
  subst hChar
  -- The cases are the four widths of a character, as in the definition.
  dsimp only
  split_ifs with hOne hTwo hThree <;> simp only [List.cons_append, List.nil_append]
  · exact decode_cons_ascii hOne bs
  · apply decode_cons_lead (by omega) (by omega) (lead?_two (by omega) (by omega))
    dsimp only
    rw [continuation_cons (by omega) (by omega) (by omega)]
    simp only [continuation, Prod.mk.injEq, Option.some.injEq, and_true]
    omega
  · apply decode_cons_lead (by omega) (by omega) (lead?_three (by omega) (by omega))
    dsimp only
    rw [continuation_cons (by omega) (by split_ifs <;> omega) (by split_ifs <;> omega),
      continuation_cons (by omega) (by omega) (by omega)]
    simp only [continuation, Prod.mk.injEq, Option.some.injEq, and_true]
    omega
  · apply decode_cons_lead (by omega) (by omega) (lead?_four (by omega) (by omega))
    dsimp only
    rw [continuation_cons (by omega) (by split_ifs <;> omega) (by split_ifs <;> omega),
      continuation_cons (by omega) (by omega) (by omega),
      continuation_cons (by omega) (by omega) (by omega)]
    simp only [continuation, Prod.mk.injEq, Option.some.injEq, and_true]
    omega

/-- Every unit of a text's bytes is a character, and the characters are those of the text. -/
theorem decode_encode (s : List Char) : decode (encode s) = s.map some := by
  induction s with
  | nil => rw [encode, List.flatMap_nil, decode]; rfl
  | cons c s ih =>
      rw [encode, List.flatMap_cons, decode_encodeChar, List.map_cons]
      exact congrArg _ ih

theorem decodeLenient_encode (s : List Char) : decodeLenient (encode s) = s := by
  rw [decodeLenient, decode_encode, List.map_map]
  exact List.map_id s

end StartPage.Text.Utf8
