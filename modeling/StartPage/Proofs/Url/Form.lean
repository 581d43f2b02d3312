import Mathlib.Tactic.SplitIfs
import StartPage.Proofs.Text.Split
import StartPage.Proofs.Text.Utf8
import StartPage.Url.Form

/-! Pairs in a query are read as they were written. A written name or value holds
none of the marks that end it, and its percent signs stand for the bytes of the
text; so a pair that is added to a query, however that query looks, is read behind
the pairs that the query had before. -/
namespace StartPage.Url

theorem hexValue?_upperHexDigit {d : Nat} (h : d < 16) :
    Text.hexValue? (upperHexDigit d) = some d :=
  (by decide : ∀ d : Fin 16, Text.hexValue? (upperHexDigit d) = some d.val) ⟨d, h⟩

theorem isPlain_upperHexDigit {d : Nat} (h : d < 16) : Form.isPlain (upperHexDigit d) = true :=
  (by decide : ∀ d : Fin 16, Form.isPlain (upperHexDigit d) = true) ⟨d, h⟩

theorem percentDecode_cons {c : Char} (h : c ≠ '%') (s : List Char) :
    percentDecode (c :: s) = Text.Utf8.encodeChar c ++ percentDecode s := by
  rw [percentDecode]
  intro a b t hc
  exact absurd hc h

theorem percentDecode_percentByte (b : UInt8) (s : List Char) :
    percentDecode (percentByte b ++ s) = b :: percentDecode s := by
  have hb : b.toNat < 256 := b.toNat_lt
  have hHigh := hexValue?_upperHexDigit (show b.toNat / 16 < 16 by omega)
  have hLow := hexValue?_upperHexDigit (show b.toNat % 16 < 16 by omega)
  have hByte : 16 * (b.toNat / 16) + b.toNat % 16 = b.toNat := by omega
  simp only [percentByte, List.cons_append, List.nil_append]
  rw [percentDecode, hHigh, hLow]
  simp [hByte]

theorem percentDecode_percentChar (c : Char) (s : List Char) :
    percentDecode (percentChar c ++ s) = Text.Utf8.encodeChar c ++ percentDecode s := by
  unfold percentChar
  generalize Text.Utf8.encodeChar c = bs
  induction bs with
  | nil => rfl
  | cons b bs ih =>
      rw [List.flatMap_cons, List.append_assoc, percentDecode_percentByte, ih, List.cons_append]

namespace Form

/-- What the writer of a query puts in: plain characters, and the marks for a space and a byte. -/
def isWritten (c : Char) : Bool := isPlain c || c = '+' || c = '%'

theorem isPlain_ne {c d : Char} (h : isPlain c = true) (hd : isPlain d = false) : c ≠ d := by
  rintro rfl
  rw [h] at hd
  cases hd

theorem isWritten_of_mem_percentByte {b : UInt8} {c : Char} (h : c ∈ percentByte b) :
    isWritten c = true := by
  have hb : b.toNat < 256 := b.toNat_lt
  have hHigh := isPlain_upperHexDigit (show b.toNat / 16 < 16 by omega)
  have hLow := isPlain_upperHexDigit (show b.toNat % 16 < 16 by omega)
  simp only [percentByte, List.mem_cons, List.not_mem_nil, or_false] at h
  obtain rfl | rfl | rfl := h
  · rfl
  · simp [isWritten, hHigh]
  · simp [isWritten, hLow]

theorem isWritten_of_mem_encodeChar {c d : Char} (h : d ∈ encodeChar c) : isWritten d = true := by
  unfold encodeChar at h
  split_ifs at h with hPlain hSpace
  · rw [List.mem_singleton] at h
    simp [isWritten, h, hPlain]
  · rw [List.mem_singleton] at h
    simp [isWritten, h]
  · obtain ⟨b, _, hd⟩ := List.mem_flatMap.mp h
    exact isWritten_of_mem_percentByte hd

theorem isWritten_of_mem_encode {s : String} {c : Char} (h : c ∈ encode s) :
    isWritten c = true := by
  obtain ⟨d, _, hc⟩ := List.mem_flatMap.mp h
  exact isWritten_of_mem_encodeChar hc

/-- The character that a mark for a space stands for; any other character stands for itself. -/
def unmark (c : Char) : Char := if c = '+' then ' ' else c

theorem decode_eq (s : List Char) :
    decode s = String.ofList (Text.Utf8.decodeLenient (percentDecode (s.map unmark))) := rfl

theorem plus_not_mem_percentByte (b : UInt8) : '+' ∉ percentByte b := by
  have hb : b.toNat < 256 := b.toNat_lt
  have hHigh := isPlain_upperHexDigit (show b.toNat / 16 < 16 by omega)
  have hLow := isPlain_upperHexDigit (show b.toNat % 16 < 16 by omega)
  simp only [percentByte, List.mem_cons, List.not_mem_nil, or_false, not_or]
  exact ⟨by decide, Ne.symm (isPlain_ne hHigh (by decide)), Ne.symm (isPlain_ne hLow (by decide))⟩

theorem map_unmark_percentChar (c : Char) : (percentChar c).map unmark = percentChar c := by
  refine (List.map_congr_left fun d hd => ?_).trans (List.map_id _)
  obtain ⟨b, _, hd⟩ := List.mem_flatMap.mp hd
  apply if_neg
  rintro rfl
  exact plus_not_mem_percentByte b hd

/-- One written character is read as the bytes of the character that was meant. The
mark for a space is replaced before percent signs are looked at, and none of the
characters behind a percent sign is such a mark. -/
theorem percentDecode_encodeChar (c : Char) (s : List Char) :
    percentDecode ((encodeChar c).map unmark ++ s) = Text.Utf8.encodeChar c ++ percentDecode s := by
  unfold encodeChar
  split_ifs with hPlain hSpace
  · have hMark : unmark c = c := if_neg (isPlain_ne hPlain (by decide))
    rw [List.map_singleton, hMark, List.singleton_append,
      percentDecode_cons (isPlain_ne hPlain (by decide))]
  · subst hSpace
    exact percentDecode_cons (by decide) s
  · rw [map_unmark_percentChar, percentDecode_percentChar]

/-- A name or a value is read back as it was meant, whatever characters it holds. -/
theorem decode_encode (s : String) : decode (encode s) = s := by
  have hBytes (l : List Char) :
      percentDecode ((l.flatMap encodeChar).map unmark) = Text.Utf8.encode l := by
    induction l with
    | nil => rfl
    | cons c l ih =>
        rw [List.flatMap_cons, List.map_append, percentDecode_encodeChar, ih]
        rfl
  rw [decode_eq, encode, hBytes, Text.Utf8.decodeLenient_encode, String.ofList_toList]

theorem not_mem_encode {s : String} {c : Char} (h : isWritten c = false) : c ∉ encode s := by
  intro hc
  rw [isWritten_of_mem_encode hc] at h
  cases h

theorem readPair_pair (name value : String) : readPair (pair name value) = (name, value) := by
  rw [readPair, pair, Text.splitFirst_append (not_mem_encode (by decide))]
  simp [decode_encode]

theorem pair_ne_nil (name value : String) : pair name value ≠ [] := by
  simp [pair]

theorem ampersand_not_mem_pair (name value : String) : '&' ∉ pair name value := by
  have hName : '&' ∉ encode name := not_mem_encode (by decide)
  have hValue : '&' ∉ encode value := not_mem_encode (by decide)
  simp [pair, hName, hValue]

/-- A pair that is written alone is read as that pair. -/
theorem pairs_pair (name value : String) : pairs (pair name value) = [(name, value)] := by
  have hMarks : ∀ c ∈ pair name value, decide (c = '&') = false := by
    intro c hc
    apply decide_eq_false
    rintro rfl
    exact ampersand_not_mem_pair name value hc
  rw [pairs, Text.splitAll_of_none hMarks]
  simp [pair_ne_nil, readPair_pair]

/-- The pairs on either side of a mark between pairs are read separately. -/
theorem pairs_append (q r : List Char) : pairs (q ++ '&' :: r) = pairs q ++ pairs r := by
  simp [pairs, Text.splitAll_append]

/-- A pair that is added to a query leaves the pairs that are there as they are
and comes behind them. A query that ends in a mark between pairs gets a second
one, and the empty stretch between the two is no pair. -/
theorem pairs_append_pair (query : Option (List Char)) (name value : String) :
    pairs (append query name value) = pairs (query.getD []) ++ [(name, value)] := by
  have hEmpty : pairs [] = [] := rfl
  cases query with
  | none => simp [append, pairs_pair, hEmpty]
  | some q =>
      cases q with
      | nil => simp [append, pairs_pair, hEmpty]
      | cons c q => simp only [append, pairs_append, pairs_pair, Option.getD_some]

end Form

theorem queryPairs_appendPair (u : Url) (name value : String) :
    (u.appendPair name value).queryPairs = u.queryPairs ++ [(name, value)] :=
  Form.pairs_append_pair u.query name value

end StartPage.Url
