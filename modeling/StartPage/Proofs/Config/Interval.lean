import Mathlib.Algebra.Group.Int.Defs
import StartPage.Proofs.Config.Meaning
import StartPage.Proofs.Config.Validity
import StartPage.Proofs.Page.Basic

/-! The interval of settings as it stands in a text. What is written in plain decimal is either the
interval itself or refused: a minus sign, and more than a word holds, leave the settings without a
meaning. -/
namespace StartPage

open Json

namespace Json

/-- Digits alone are a numeral without a point and without an exponent. -/
theorem Number.Numeral.Denotes.eq_of_digits {text : List Char} {n : Numeral}
    (h : Numeral.Denotes text n) (hDigits : ∀ c ∈ text, Text.isDigit c = true) :
    n = ⟨text, none, none⟩ := by
  obtain ⟨hWhole, hFraction, hExponent⟩ := h
  cases hExponent with
  | present hMark =>
      have hDigit :=
        hDigits _ (List.mem_append_right _ (List.mem_append_right _ List.mem_cons_self))
      obtain rfl | rfl := hMark <;> cases hDigit
  | absent =>
      cases hFraction with
      | present =>
          have hDigit := hDigits '.' (by simp)
          cases hDigit
      | absent => rw [List.append_nil, List.append_nil]

/-- The digits of an integer, with a minus sign in front of a negative one, stand for a word if the
integer is one. -/
theorem Value.word?_of_decimalInt {n : Int} {v : Value}
    (h : Denotes (Text.decimalInt n).toList (.value v)) :
    v.word? = if 0 ≤ n ∧ n < 2 ^ 32 then some (UInt32.ofNat n.toNat) else none := by
  obtain ⟨c, s, hText, hBegins⟩ := h.exists_begins
  cases n with
  | ofNat n =>
      rw [Text.decimalInt, Text.decimal, String.toList_ofList] at h hText
      have hAll : ∀ c ∈ Text.digits n, Text.isDigit c = true := fun c => Text.isDigit_of_mem_digits
      have hFirst : Text.isDigit c = true := hAll c (hText ▸ List.mem_cons_self)
      obtain ⟨numeral, rfl⟩ := hBegins.eq_number hFirst
      rw [h.of_number.eq_of_digits hAll, Value.word?, Number.Numeral.word?, Text.value_digits]
      refine if_congr ?_ rfl rfl
      simp only [Int.ofNat_eq_natCast]
      omega
  | negSucc n =>
      rw [Text.decimalInt, String.toList_append, Text.decimal, String.toList_ofList] at hText
      obtain rfl : '-' = c := (List.cons.inj hText).1
      obtain ⟨numeral, rfl⟩ := hBegins.eq_negative
      rw [if_neg (by omega)]
      rfl

end Json

namespace Config

variable {c : Config} {text : String} {n : Int}

/-- The text gives its interval as an integer in plain decimal, and without it the settings `c`,
which are valid. -/
inductive WritesInterval (text : String) (n : Int) (c : Config) : Prop where
  | intro {v number : Value} {before after : List (String × Value)}
    (hText : Denotes text.toList (.item v))
      (hMembers : v.members? names = some (before ++ ("tickMillis", number) :: after))
      (hNumber : Denotes (Text.decimalInt n).toList (.value number))
      (hOnly : ∀ m ∈ before ++ after, m.1 ≠ "tickMillis")
        (hOthers : ofMembers (before ++ after) = some c)
      (hValid : c.validate = .ok ()) : WritesInterval text n c

theorem lookup_cons_ne {α : Type} {name other : String} (hName : other ≠ name)
    (decode : Value → Option α) (v : Value) (members : List (String × Value)) :
    lookup name decode ((other, v) :: members) = lookup name decode members := by
  rw [lookup, valuesOf_cons_ne hName, lookup]

/-- An interval that stands among other members takes the place of the one that the others amount
to. -/
theorem ofMembers_interval {before after : List (String × Value)} (number : Value)
    (hOnly : ∀ m ∈ before ++ after, m.1 ≠ "tickMillis")
    (hOthers : ofMembers (before ++ after) = some c) :
    ofMembers (before ++ ("tickMillis", number) :: after) =
      number.word?.map fun tickMillis => { c with tickMillis } := by
  have hFront : SameFields names (before ++ ("tickMillis", number) :: after)
      (("tickMillis", number) :: (before ++ after)) := List.perm_middle.filter _
  have hNone : valuesOf "tickMillis" (before ++ after) = [] := by
    have hFilter : (before ++ after).filter (·.1 = "tickMillis") = [] := by
      rw [List.filter_eq_nil_iff]
      intro m hMem
      simpa using hOnly m hMem
    rw [valuesOf, hFilter]
    rfl
  have hTick : lookup "tickMillis" Value.word? (("tickMillis", number) :: (before ++ after)) =
      number.word?.map some := by
    rw [lookup, valuesOf_cons_self, hNone, atMostOne]
  rw [ofMembers_congr hFront]
  simp only [ofMembers, bind, Option.bind_eq_some_iff, pure, Option.some.injEq] at hOthers
  obtain ⟨displayName, hName, searchEngine, hEngine, -, -, links, hLinks, rfl⟩ := hOthers
  rw [ofMembers, hTick, lookup_cons_ne (by decide), lookup_cons_ne (by decide),
    lookup_cons_ne (by decide), hName, hEngine, hLinks]
  cases number.word? <;> rfl

theorem ofValue_of_members {v : Value} {members : List (String × Value)}
    (h : v.members? names = some members) :
    ofValue v = ofMembers members := by
  cases v with
  | null => cases h
  | boolean | number | string => cases h
  | array items => exact congrArg (·.bind ofMembers) h
  | object => exact congrArg (·.bind ofMembers) h

/-- The text means its other settings with the interval that is written, and it is refused if that
is not a word. -/
theorem WritesInterval.meaning (h : WritesInterval text n c) :
    if 0 ≤ n ∧ n < 2 ^ 32 then ofText text = .ok { c with tickMillis := UInt32.ofNat n.toNat }
    else ∃ reason, ofText text = .error (.invalidJson reason) := by
  obtain ⟨hText, hMembers, hNumber, hOnly, hOthers, -⟩ := h
  have hRead := ofText_of_denotes hText
  rw [ofValue_of_members hMembers, ofMembers_interval _ hOnly hOthers,
    Value.word?_of_decimalInt hNumber] at hRead
  split_ifs at hRead ⊢ with hWord
  · exact hRead
  · exact hRead

theorem WritesInterval.valid (h : WritesInterval text n c) : c.validate = .ok () := by
  obtain ⟨-, -, -, -, -, hValid⟩ := h
  exact hValid

/-- Valid settings stay so with another interval, as long as that is not zero. -/
theorem validate_interval (hValid : c.validate = .ok ()) {tickMillis : UInt32}
    (hTick : tickMillis ≠ 0) :
    { c with tickMillis }.validate = .ok () := by
  obtain ⟨page, -, hBuild, -⟩ := Page.create_of_ok hValid
  exact validate_of_build hTick hBuild

end Config

end StartPage
