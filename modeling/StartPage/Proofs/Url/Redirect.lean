import Mathlib.Data.List.Basic
import StartPage.Proofs.SearchEngine

/-! The text of an address to which a pair has been added. The pair is written between the query
and the fragment that were there, in characters that mean nothing to an address; so a value
stays where it was put, and the address tells which value it was. -/
namespace StartPage

namespace Url

namespace Form

/-- The characters that stand for themselves in a name or a value. -/
def alphabet : List Char :=
  "ABCDEFGHIJKLMNOPQRSTUVWXYZabcdefghijklmnopqrstuvwxyz0123456789*-._".toList

/-- A text of harmless characters, marks for a space and escapes of one byte each. -/
inductive Escaped : List Char → Prop where
  | nil : Escaped []
  | plain {c : Char} {s : List Char} (hPlain : c ∈ alphabet) (hRest : Escaped s) : Escaped (c :: s)
  | space {s : List Char} (hRest : Escaped s) : Escaped ('+' :: s)
  | byte {high low : Char} {s : List Char} (hHigh : high ∈ "0123456789ABCDEF".toList)
      (hLow : low ∈ "0123456789ABCDEF".toList) (hRest : Escaped s) : Escaped
        ('%' :: high :: low :: s)

theorem mem_alphabet_of_isPlain {c : Char} (h : isPlain c = true) : c ∈ alphabet := by
  have hRange : c.toNat < 128 := by
    simp only [isPlain, Text.isDigit, Bool.or_eq_true, Bool.and_eq_true, decide_eq_true_eq,
      Char.le_def, UInt32.le_iff_toNat_le] at h
    rcases h with (((((⟨-, h⟩ | ⟨-, h⟩) | ⟨-, h⟩) | rfl) | rfl) | rfl) | rfl
    · exact Nat.lt_of_le_of_lt h (by decide)
    · exact Nat.lt_of_le_of_lt h (by decide)
    · exact Nat.lt_of_le_of_lt h (by decide)
    all_goals decide
  have hAll : ∀ n : Fin 128, isPlain (Char.ofNat n) = true → Char.ofNat n ∈ alphabet := by
    decide +kernel
  have hChar := hAll ⟨c.toNat, hRange⟩
  rw [Char.ofNat_toNat] at hChar
  exact hChar h

theorem upperHexDigit_mem {d : Nat} (h : d < 16) : upperHexDigit d ∈ "0123456789ABCDEF".toList :=
  (by decide : ∀ d : Fin 16, upperHexDigit d ∈ "0123456789ABCDEF".toList) ⟨d, h⟩

namespace Escaped

variable {s : List Char}

theorem percentByte (b : UInt8) (h : Escaped s) : Escaped (Url.percentByte b ++ s) := by
  have hByte : b.toNat < 256 := b.toNat_lt
  exact .byte (upperHexDigit_mem (by omega)) (upperHexDigit_mem (by omega)) h

theorem percentChar (c : Char) (h : Escaped s) : Escaped (Url.percentChar c ++ s) := by
  unfold Url.percentChar
  generalize Text.Utf8.encodeChar c = bytes
  induction bytes with
  | nil => exact h
  | cons b bytes ih =>
      rw [List.flatMap_cons, List.append_assoc]
      exact ih.percentByte b

theorem encodeChar (c : Char) (h : Escaped s) : Escaped (Form.encodeChar c ++ s) := by
  unfold Form.encodeChar
  split_ifs with hPlain hSpace
  · exact .plain (mem_alphabet_of_isPlain hPlain) h
  · exact .space h
  · exact h.percentChar c

theorem encode (x : String) : Escaped (Form.encode x) := by
  unfold Form.encode
  induction x.toList with
  | nil => exact .nil
  | cons c chars ih =>
      rw [List.flatMap_cons]
      exact ih.encodeChar c

end Escaped

theorem encode_injective : Function.Injective encode := Function.LeftInverse.injective decode_encode

/-- What stands between an address and a pair that is added to it. -/
def separator : Option (List Char) → List Char
  | none => ['?']
  | some [] => []
  | some (_ :: _) => ['&']

theorem marked_append (query : Option (List Char)) (name value : String) :
    marked '?' (some (append query name value)) =
      marked '?' query ++ separator query ++ pair name value := by
  cases query with
  | none => rfl
  | some q =>
      cases q with
      | nil => rfl
      | cons c q => simp [marked, separator, append]

end Form

/-- A pair is written behind everything but the fragment. -/
theorem chars_appendPair (u : Url) (name value : String) :
    (u.appendPair name value).chars =
      { u with fragment := none }.chars ++ Form.separator u.query ++ Form.pair name value ++
        marked '#' u.fragment := by
  have hWith : (u.appendPair name value).chars =
      u.frontChars ++ marked '?' (some (Form.append u.query name value)) ++
        marked '#' u.fragment := rfl
  have hWithout : { u with fragment := none }.chars = u.frontChars ++ marked '?' u.query :=
    List.append_nil _
  rw [hWith, hWithout, Form.marked_append]
  simp only [List.append_assoc]

/-- The text of an address tells which value has been added to it. -/
theorem text_appendPair_injective (u : Url) (name : String) :
    Function.Injective fun value => (u.appendPair name value).text := by
  intro value value' hText
  have hChars : (u.appendPair name value).chars = (u.appendPair name value').chars :=
    String.ofList_injective hText
  simp only [chars_appendPair, Form.pair, List.append_assoc, List.cons_append,
    List.append_cancel_left_eq, List.cons.injEq, true_and, List.append_cancel_right_eq] at hChars
  exact Form.encode_injective hChars

end Url

namespace SearchEngine

open Url

/-- A search text stays in the place of its value. Everything else in the text of a redirect is
the base and the parameter, the value is written in harmless characters only, and two texts
never lead to the same place. -/
theorem redirectUrl_confines {base param : String} {e : SearchEngine}
    (h : create base param = .ok e) :
    ∃ url, Url.parse base.toList = .ok url ∧
      (∀ text, (e.redirectUrl text).text.toList =
        { url with fragment := none }.text.toList ++ Form.separator
          url.query ++ Form.encode param ++ ['='] ++
          Form.encode text ++ marked '#' url.fragment) ∧
      (∀ x, Form.Escaped (Form.encode x)) ∧
      (∀ text, (e.redirectUrl text).scheme = url.scheme ∧
        (e.redirectUrl text).authority = url.authority ∧
        (e.redirectUrl text).path = url.path ∧ (e.redirectUrl text).fragment = url.fragment ∧
        (e.redirectUrl text).queryPairs = url.queryPairs ++ [(param, text)]) ∧
      Function.Injective fun text => (e.redirectUrl text).text := by
  obtain ⟨hParse, rfl⟩ := eq_of_create h
  refine ⟨e.base, hParse, fun text => ?_, Form.Escaped.encode, fun text => ?_,
    text_appendPair_injective e.base e.param⟩
  · simp only [Url.text, String.toList_ofList]
    rw [redirectUrl, chars_appendPair, Form.pair]
    simp only [List.append_assoc, List.cons_append, List.nil_append]
  · exact ⟨rfl, rfl, rfl, rfl, queryPairs_appendPair e.base e.param text⟩

/-- A base with an empty query and a fragment, a parameter and a text full of marks. -/
theorem redirectUrl_confines_marks :
    ∃ e, create "http://h/?#f" "&" = .ok e ∧
      (e.redirectUrl "#?= +").text = "http://h/?%26=%23%3F%3D+%2B#f" ∧
      Function.Injective fun text => (e.redirectUrl text).text := by
  have hCreate : create "http://h/?#f" "&" = .ok
      ⟨{ scheme := "http".toList, authority := some { host := .name ['h'] }, path := ['/'],
         query := some [], fragment := some ['f'] }, "&", rfl, by decide⟩ := by decide +kernel
  obtain ⟨url, hParse, hText, -, -, hInjective⟩ := redirectUrl_confines hCreate
  refine ⟨_, hCreate, ?_, hInjective⟩
  obtain rfl := Except.ok.inj (hParse.symm.trans (eq_of_create hCreate).1)
  apply String.toList_injective
  rw [hText]
  decide +kernel

end SearchEngine

end StartPage
