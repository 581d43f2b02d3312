import StartPage.Proofs.Text.Digits
import StartPage.Proofs.Text.Utf8

/-! The order of texts by their bytes, from the first byte on. It is the order of the numbers where
two texts are as many digits each, and it is decided part by part where the parts of one text are as
long as those of the other. -/
namespace StartPage.Text

/-- Texts are compared byte by byte, and a text comes before those that go on from it. -/
def compareBytes (s t : String) : Ordering := compare (Utf8.encode s.toList) (Utf8.encode t.toList)

theorem compareBytes_eq_iff {s t : String} : compareBytes s t = .eq ↔ s = t := by
  refine ⟨fun h => ?_, fun h => h ▸ Std.ReflOrd.compare_self⟩
  have hBytes := congrArg Utf8.decodeLenient (Std.LawfulEqOrd.eq_of_compare h)
  rwa [Utf8.decodeLenient_encode, Utf8.decodeLenient_encode, String.toList_inj] at hBytes

/-- What stands in front decides, unless it is equal. -/
theorem compare_append {α : Type} [Ord α] {front front' : List α} (h : front.length = front'.length)
    (back back' : List α) :
    compare (front ++ back) (front' ++ back') = (compare front front').then
      (compare back back') := by
  induction front generalizing front' with
  | nil =>
      obtain rfl := List.length_eq_zero_iff.mp h.symm
      rfl
  | cons a front ih =>
      obtain ⟨b, front', rfl⟩ := List.exists_cons_of_length_eq_add_one h.symm
      rw [List.cons_append, List.cons_append, List.compare_cons_cons, List.compare_cons_cons,
        ih (Nat.succ.inj h), Ordering.then_assoc]

/-- The heavier part of a weighted sum decides, unless it is equal. The lighter part has to be below
the weight. -/
theorem compare_weighted (weight : Nat) {heavy heavy' light light' : Nat} (hLight : light < weight)
    (hLight' : light' < weight) :
    (compare heavy heavy').then (compare light light') =
      compare (weight * heavy + light) (weight * heavy' + light') := by
  rcases Nat.lt_trichotomy heavy heavy' with hLess | rfl | hMore
  · have hStep : weight * (heavy + 1) ≤ weight * heavy' := Nat.mul_le_mul_left weight hLess
    rw [Nat.mul_add_one] at hStep
    rw [Nat.compare_eq_lt.mpr hLess, Ordering.lt_then, Nat.compare_eq_lt.mpr (by omega)]
  · simp only [Nat.compare_eq_ite_lt, Nat.add_lt_add_iff_left, Nat.lt_irrefl,
      if_false, Ordering.eq_then]
  · have hStep : weight * (heavy' + 1) ≤ weight * heavy := Nat.mul_le_mul_left weight hMore
    rw [Nat.mul_add_one] at hStep
    rw [Nat.compare_eq_gt.mpr hMore, Ordering.gt_then, Nat.compare_eq_gt.mpr (by omega)]

theorem compare_byte {m n : Nat} (hm : m < 0x100) (hn : n < 0x100) :
    compare (UInt8.ofNat m) (UInt8.ofNat n) = compare m n := by
  simp only [compare, compareOfLessAndEq, UInt8.lt_iff_toNat_lt, ← UInt8.toNat_inj,
    Utf8.toNat_ofNat hm, Utf8.toNat_ofNat hn]

theorem encode_cons_digit {d : Char} (h : isDigit d = true) (s : List Char) :
    Utf8.encode (d :: s) = .ofNat d.toNat :: Utf8.encode s := by
  have hRange := toNat_of_isDigit h
  rw [Utf8.encode, List.flatMap_cons, Utf8.encodeChar, if_pos (by omega)]
  rfl

/-- Digits are compared as the numbers to which they are appended, if they are as many. -/
theorem compare_digits {ds es : List Char} (hLength : ds.length = es.length)
    (hDs : ∀ d ∈ ds, isDigit d = true) (hEs : ∀ e ∈ es, isDigit e = true) (m n : Nat) :
    (compare m n).then (compare (Utf8.encode ds) (Utf8.encode es)) =
      compare (ds.foldl (fun n c => 10 * n + (c.toNat - 48)) m)
        (es.foldl (fun n c => 10 * n + (c.toNat - 48)) n) := by
  induction ds generalizing es m n with
  | nil =>
      obtain rfl := List.length_eq_zero_iff.mp hLength.symm
      exact Ordering.then_eq
  | cons d ds ih =>
      obtain ⟨e, es, rfl⟩ := List.exists_cons_of_length_eq_add_one hLength.symm
      obtain ⟨hD, hDs⟩ := List.forall_mem_cons.mp hDs
      obtain ⟨hE, hEs⟩ := List.forall_mem_cons.mp hEs
      have hRange := toNat_of_isDigit hD
      have hRange' := toNat_of_isDigit hE
      have hFirst : compare d.toNat e.toNat = compare (d.toNat - 48) (e.toNat - 48) := by
        simp only [Nat.compare_eq_ite_lt]
        split_ifs <;> first | rfl | omega
      -- The first digits belong to the numbers in front before the rest is compared.
      rw [encode_cons_digit hD, encode_cons_digit hE, List.compare_cons_cons,
        compare_byte (by omega) (by omega),
        hFirst, ← Ordering.then_assoc, compare_weighted 10 (by omega) (by omega),
          ih (Nat.succ.inj hLength) hDs hEs]
      rfl

theorem compare_value {ds es : List Char} (hLength : ds.length = es.length)
    (hDs : ∀ d ∈ ds, isDigit d = true) (hEs : ∀ e ∈ es, isDigit e = true) :
    compare (Utf8.encode ds) (Utf8.encode es) = compare (value ds) (value es) :=
  compare_digits hLength hDs hEs 0 0

section Two

variable {m n : Nat}

theorem length_encode_padded_two (h : n < 100) : (Utf8.encode (padded 2 n)).length = 2 := by
  obtain ⟨tens, ones, hText, hTens, hOnes, -⟩ := exists_padded_two h
  rw [hText, encode_cons_digit hTens, encode_cons_digit hOnes]
  rfl

theorem compare_padded_two (hm : m < 100) (hn : n < 100) :
    compare (Utf8.encode (padded 2 m)) (Utf8.encode (padded 2 n)) = compare m n := by
  obtain ⟨tens, ones, hText, hTens, hOnes, hValue⟩ := exists_padded_two hm
  obtain ⟨tens', ones', hText', hTens', hOnes', hValue'⟩ := exists_padded_two hn
  have hLength : [tens, ones].length = [tens', ones'].length := rfl
  rw [hText, hText', compare_value hLength (by simp [hTens, hOnes]) (by simp [hTens', hOnes']),
    hValue, hValue']

/-- Two digits decide, unless they are equal. What marks their end is the same in both texts. -/
theorem compare_marked (hm : m < 100) (hn : n < 100) (mark : Char) (s t : List Char) :
    compare (Utf8.encode (padded 2 m ++ mark :: s)) (Utf8.encode (padded 2 n ++ mark :: t)) =
      (compare m n).then (compare (Utf8.encode s) (Utf8.encode t)) := by
  have hLength := (length_encode_padded_two hm).trans (length_encode_padded_two hn).symm
  have hTwo := compare_padded_two hm hn
  simp only [Utf8.encode, List.flatMap_append, List.flatMap_cons] at hLength hTwo ⊢
  rw [compare_append hLength, compare_append rfl, Std.ReflOrd.compare_self, Ordering.eq_then, hTwo]

end Two

end StartPage.Text
