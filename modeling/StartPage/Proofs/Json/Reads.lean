import Mathlib.Tactic.SplitIfs
import StartPage.Json.Printer
import StartPage.Json.Typed
import StartPage.Proofs.Text.Digits

/-! Readers on the texts that the printer writes. A reader is stated to take exactly
its text off the front, whatever can follow a value; so the facts about strings,
words and lists can be put together without looking at the readers again. -/
namespace StartPage.Json

variable {α β σ : Type}

namespace Reader

theorem run_bind_ok {r : Reader α} {f : α → Reader β} {s rest : List Char} {a : α}
    (h : r.run s = .ok (a, rest)) : (r >>= f).run s = (f a).run rest := by
  rw [run_bind, h]

theorem run_onChar_some {f : Char → Option (Reader α)} {otherwise r : Reader α} {c : Char}
    (h : f c = some r) (s : List Char) : (onChar f otherwise).run (c :: s) = r.run s := by
  simp only [onChar, h]

theorem run_onChar_none {f : Char → Option (Reader α)} {otherwise : Reader α} {s : List Char}
    (h : ∀ c ∈ s.head?, f c = none) : (onChar f otherwise).run s = otherwise.run s := by
  cases s with
  | nil => rfl
  | cons c s => simp only [onChar, h c rfl]

theorem run_takeAll {p : Char → Bool} {s rest : List Char} (hAll : ∀ c ∈ s, p c = true)
    (hRest : ∀ c ∈ rest.head?, p c = false) : (takeAll p).run (s ++ rest) = .ok (s, rest) := by
  have hTake : rest.takeWhile p = [] := by
    cases rest with
    | nil => rfl
    | cons c rest => simp [hRest c rfl]
  have hDrop : rest.dropWhile p = rest := by
    cases rest with
    | nil => rfl
    | cons c rest => simp [hRest c rfl]
  simp only [takeAll, List.takeWhile_append_of_pos hAll,
    List.dropWhile_append_of_pos hAll, hTake, hDrop, List.append_nil]

/-- Nothing is skipped in front of a character that is no white space. -/
theorem run_space {s : List Char} (h : ∀ c ∈ s.head?, isSpace c = false) :
    space.run s = .ok ((), s) := by
  have hTake := run_takeAll (s := []) (by simp) h
  rw [List.nil_append] at hTake
  rw [space, run_bind_ok hTake]
  rfl

theorem run_iterate_inl {step : σ → Reader (σ ⊕ α)} {h : ∀ st, (step st).Progresses GoesOn}
    {st st' : σ} {s rest : List Char} (hStep : (step st).run s = .ok (.inl st', rest)) :
    (iterate step h st).run s = (iterate step h st').run rest := by
  rw [run_iterate, hStep]

theorem run_iterate_inr {step : σ → Reader (σ ⊕ α)} {h : ∀ st, (step st).Progresses GoesOn}
    {st : σ} {a : α} {s rest : List Char} (hStep : (step st).run s = .ok (.inr a, rest)) :
    (iterate step h st).run s = .ok (a, rest) := by
  rw [run_iterate, hStep]

end Reader

/-- A mark that can stand behind a value: a comma or a closing bracket. -/
def isMark (c : Char) : Bool := c = ',' || c = ']' || c = '\x7d'

/-- What follows a value cannot be a part of it. -/
def Closed (rest : List Char) : Prop := ∀ c ∈ rest.head?, isMark c = true

theorem closed_nil : Closed [] := by simp [Closed]

theorem closed_cons {c : Char} (h : isMark c = true) (rest : List Char) : Closed (c :: rest) := by
  simpa [Closed] using h

theorem eq_of_isMark {c : Char} (h : isMark c = true) : c = ',' ∨ c = ']' ∨ c = '\x7d' := by
  simpa [isMark, or_assoc] using h

/-- The reader takes a text off the front of another one and answers a value,
provided that what follows cannot belong to the value. -/
def Reader.Reads (r : Reader α) (text : List Char) (a : α) : Prop :=
  ∀ rest, Closed rest → r.run (text ++ rest) = .ok (a, rest)

theorem Reader.Reads.map {r : Reader α} {text : List Char} {a : α}
    (h : r.Reads text a) (f : α → β) : (do return f (← r) : Reader β).Reads text (f a) := by
  intro rest hRest
  rw [run_bind_ok (h rest hRest)]
  rfl

/-- A value that is all of a text is the value of that text. -/
theorem parse_eq_of_reads {r : Reader α} {text : List Char} {a : α} (h : r.Reads text a) :
    parse r text = .ok a := by
  have hRun := h [] closed_nil
  rw [List.append_nil] at hRun
  simp [parse, hRun, bind, Except.bind, pure, Except.pure]

/-- One of the ways in which a character may be written inside a string. -/
inductive Spells : List Char → Char → Prop where
  | plain {c : Char} (hQuote : c ≠ '\"') (hBackslash : c ≠ '\\') (hControl : isControl c = false) :
      Spells [c] c
  | short {e c : Char} (hEscape : shortEscape? e = some c) : Spells ['\\', e] c
  | code {x y z u : Char} {n : Nat} (hDigits : hexNumber? x y z u = some n)
      (hLow : isLowSurrogate n = false) (hHigh : isHighSurrogate n = false) :
      Spells ['\\', 'u', x, y, z, u] (Char.ofNat n)
  | pair {x y z u x' y' z' u' : Char} {high low : Nat} (hDigits : hexNumber? x y z u = some high)
      (hDigits' : hexNumber? x' y' z' u' = some low) (hHigh : isHighSurrogate high = true)
      (hLow : isLowSurrogate low = true) :
      Spells ['\\', 'u', x, y, z, u, '\\', 'u', x', y', z',
        u'] (Char.ofNat (pairSurrogates high low))

theorem run_fourHex {x y z u : Char} {n : Nat} (h : hexNumber? x y z u = some n)
    (rest : List Char) : fourHex.run (x :: y :: z :: u :: rest) = .ok (n, rest) := by
  simp only [fourHex, h]

theorem run_escape_short {e c : Char} (h : shortEscape? e = some c) (rest : List Char) :
    escape.run (e :: rest) = .ok (c, rest) := by
  have hCode : e ≠ 'u' := by
    rintro rfl
    cases h
  rw [escape, Reader.run_onChar_some (r := pure c) (by simp [hCode, h])]
  rfl

theorem run_escape_code {x y z u : Char} {n : Nat} (hDigits : hexNumber? x y z u = some n)
    (hLow : isLowSurrogate n = false) (hHigh : isHighSurrogate n = false) (rest : List Char) :
    escape.run ('u' :: x :: y :: z :: u :: rest) = .ok (Char.ofNat n, rest) := by
  rw [escape, Reader.run_onChar_some (r := codeEscape) rfl, codeEscape,
    Reader.run_bind_ok (run_fourHex hDigits rest)]
  simp [hLow, hHigh]

theorem not_isLowSurrogate {n : Nat} (h : isHighSurrogate n = true) : isLowSurrogate n = false := by
  simp only [isHighSurrogate, isLowSurrogate, Bool.and_eq_true, decide_eq_true_eq,
    Bool.and_eq_false_iff, decide_eq_false_iff_not] at h ⊢
  omega

theorem run_escape_pair {x y z u x' y' z' u' : Char} {high low : Nat}
    (hDigits : hexNumber? x y z u = some high) (hDigits' : hexNumber? x' y' z' u' = some low)
    (hHigh : isHighSurrogate high = true) (hLow : isLowSurrogate low = true) (rest : List Char) :
    escape.run ('u' :: x :: y :: z :: u :: '\\' :: 'u' :: x' :: y' :: z' :: u' :: rest) =
      .ok (Char.ofNat (pairSurrogates high low), rest) := by
  rw [escape, Reader.run_onChar_some (r := codeEscape) rfl, codeEscape,
    Reader.run_bind_ok (run_fourHex hDigits _),
      if_neg (by simp [not_isLowSurrogate hHigh]), if_pos hHigh]
  have hMarks (c : Char) (otherwise : Reader Unit) (s : List Char) :
      (expect c otherwise).run (c :: s) = .ok ((), s) := by
    rw [expect, Reader.run_onChar_some (if_pos rfl)]
    rfl
  rw [Reader.run_bind_ok (hMarks _ _ _), Reader.run_bind_ok (hMarks _ _ _),
    Reader.run_bind_ok (run_fourHex hDigits' rest), if_pos hLow]
  rfl

/-- A written character is one step of the loop over a string. -/
theorem run_stringStep {text : List Char} {c : Char} (h : Spells text c) (before rest : List Char) :
    (stringStep before).run (text ++ rest) = .ok (.inl (c :: before), rest) := by
  cases h with
  | plain hQuote hBackslash hControl =>
      rw [stringStep, List.singleton_append,
        Reader.run_onChar_some (r := pure (.inl (c :: before)))
          (by simp [hQuote, hBackslash, hControl])]
      rfl
  | short hEscape =>
      simp only [List.cons_append, List.nil_append]
      rw [stringStep, Reader.run_onChar_some rfl,
        Reader.run_bind_ok (run_escape_short hEscape rest)]
      rfl
  | code hDigits hLow hHigh =>
      simp only [List.cons_append, List.nil_append]
      rw [stringStep, Reader.run_onChar_some rfl,
        Reader.run_bind_ok (run_escape_code hDigits hLow hHigh rest)]
      rfl
  | pair hDigits hDigits' hHigh hLow =>
      simp only [List.cons_append, List.nil_append]
      rw [stringStep, Reader.run_onChar_some rfl,
        Reader.run_bind_ok (run_escape_pair hDigits hDigits' hHigh hLow rest)]
      rfl

/-- The characters between the quotes of a string, and the text that they spell. -/
inductive SpellsAll : List Char → List Char → Prop where
  | nil : SpellsAll [] []
  | cons {text body : List Char} {c : Char} {s : List Char} (hFirst : Spells text c)
      (hRest : SpellsAll body s) : SpellsAll (text ++ body) (c :: s)

theorem run_stringBody {body s : List Char} (h : SpellsAll body s) (rest : List Char) :
    stringBody.run (body ++ '\"' :: rest) = .ok (s, rest) := by
  have hLoop : ∀ before, (Reader.iterate stringStep stringStep_progresses before).run
      (body ++ '\"' :: rest) = .ok (before.reverse ++ s, rest) := by
    induction h with
    | nil =>
        intro before
        rw [List.append_nil, List.nil_append]
        exact Reader.run_iterate_inr rfl
    | cons hFirst _ ih =>
        intro before
        rw [List.append_assoc, Reader.run_iterate_inl (run_stringStep hFirst before _), ih,
          List.reverse_cons, List.append_assoc, List.singleton_append]
  exact hLoop []

namespace Printer

/-- A control character is written by its code, which has two digits. -/
theorem spells_control {c : Char} (h : c.toNat < 0x20) :
    Spells ['\\', 'u', '0', '0', Text.digitChar (c.toNat / 16),
      Text.digitChar (c.toNat % 16)] c := by
  have hHigh := Text.hexValue?_digitChar (show c.toNat / 16 < 16 by omega)
  have hLow := Text.hexValue?_digitChar (show c.toNat % 16 < 16 by omega)
  have hZero : Text.hexValue? '0' = some 0 := rfl
  have hNumber :
      hexNumber? '0' '0' (Text.digitChar (c.toNat / 16)) (Text.digitChar (c.toNat % 16)) =
      some c.toNat := by
    simp only [hexNumber?, hZero, hHigh, hLow, Option.bind_eq_bind,
      Option.bind_some, Option.pure_def, Option.some.injEq]
    omega
  have hSpells :=
    Spells.code hNumber (by simp [isLowSurrogate]; omega) (by simp [isHighSurrogate]; omega)
  rwa [Char.ofNat_toNat] at hSpells

/-- However a character is written, it is one of its spellings. -/
theorem spells_char (c : Char) : Spells (char c) c := by
  unfold char
  split_ifs with hQuote hBackslash hBackspace hFeed hLine hReturn hTab hControl
  · exact .short (by rw [hQuote]; rfl)
  · exact .short (by rw [hBackslash]; rfl)
  · exact .short (by rw [hBackspace]; rfl)
  · exact .short (by rw [hFeed]; rfl)
  · exact .short (by rw [hLine]; rfl)
  · exact .short (by rw [hReturn]; rfl)
  · exact .short (by rw [hTab]; rfl)
  · exact spells_control hControl
  · exact .plain hQuote hBackslash (by simpa [isControl] using hControl)

theorem spellsAll_flatMap_char (s : List Char) : SpellsAll (s.flatMap char) s := by
  induction s with
  | nil => exact .nil
  | cons c s ih => exact .cons (spells_char c) ih

end Printer

/-- A written string is read as the text that was written. -/
theorem text_reads (s : String) : text.Reads (Printer.text s) s := by
  intro rest _
  have hBody := run_stringBody (Printer.spellsAll_flatMap_char s.toList) rest
  have hText :
      Printer.text s ++ rest = '\"' :: (s.toList.flatMap Printer.char ++ '\"' :: rest) := by
    simp [Printer.text, Printer.string]
  rw [hText, text, Reader.run_bind_ok (Reader.run_space (by simp; decide)),
    Reader.run_onChar_some rfl, Reader.run_bind_ok hBody, String.ofList_toList]
  rfl

namespace Number

/-- Digits are absorbed as long as the number that they denote stays within the bound. -/
theorem absorb_eq {m : Nat} {ds : List Char}
    (h : ds.foldl (fun n c => 10 * n + (c.toNat - 48)) m ≤ maxSignificand) :
    absorb m ds = (ds.foldl (fun n c => 10 * n + (c.toNat - 48)) m, 0) := by
  induction ds generalizing m with
  | nil => rfl
  | cons d ds ih =>
      have hNext := Nat.le_trans (Text.le_foldl_value _ ds) h
      rw [absorb, if_pos hNext]
      exact ih h

end Number

theorem isSpace_of_isDigit {c : Char} (h : Text.isDigit c = true) : Reader.isSpace c = false := by
  cases hSpace : Reader.isSpace c with
  | false => rfl
  | true =>
      simp only [Reader.isSpace, Bool.or_eq_true, decide_eq_true_eq] at hSpace
      obtain ((rfl | rfl) | rfl) | rfl := hSpace <;> cases h

/-- A text in front of which nothing is skipped and which does not end a list. -/
def Starts (text : List Char) : Prop :=
  ∃ c rest, text = c :: rest ∧ Reader.isSpace c = false ∧ c ≠ ']'

theorem run_listHasItem {s : List Char} (h : Starts s) : listHasItem.run s = .ok (true, s) := by
  obtain ⟨c, rest, rfl, hSpace, hClose⟩ := h
  rw [listHasItem, Reader.run_bind_ok (Reader.run_space (by simpa using hSpace)),
    Reader.run_onChar_none (by simpa using hClose)]
  rfl

theorem run_commaInList {s : List Char} (h : Starts s) :
    commaInList.run (',' :: s) = .ok (true, s) := by
  obtain ⟨c, rest, rfl, hSpace, hClose⟩ := h
  rw [commaInList, Reader.run_bind_ok (Reader.run_space (by simp; decide)),
    Reader.run_onChar_some rfl, Reader.run_bind_ok (Reader.run_space (by simpa using hSpace))]
  simp [Reader.lookahead, Reader.run_bind]

theorem Starts.append {s : List Char} (h : Starts s) (t : List Char) : Starts (s ++ t) := by
  obtain ⟨c, rest, rfl, hStart⟩ := h
  exact ⟨c, rest ++ t, rfl, hStart⟩

/-- The items behind the first one are read one after the other up to the closing bracket. -/
theorem run_listSteps {item : Reader α} {print : α → List Char}
    (hItem : ∀ a, item.Reads (print a) a) (hStart : ∀ a, Starts (print a)) (as before : List α)
    (rest : List Char) :
    (Reader.iterate (listStep item) (listStep_progresses item) before).run
      (as.flatMap (fun a => ',' :: print a) ++ ']' :: rest) = .ok (before.reverse ++ as, rest) := by
  induction as generalizing before with
  | nil =>
      rw [List.append_nil]
      exact Reader.run_iterate_inr rfl
  | cons a as ih =>
      have hClosed : Closed (as.flatMap (fun a => ',' :: print a) ++ ']' :: rest) := by
        cases as with
        | nil => exact closed_cons rfl rest
        | cons b as => exact closed_cons rfl _
      have hStep : (listStep item before).run
          (',' :: (print a ++ (as.flatMap (fun a => ',' :: print a) ++ ']' :: rest))) =
          .ok (.inl (a :: before), as.flatMap (fun a => ',' :: print a) ++ ']' :: rest) := by
        rw [listStep, Reader.run_bind_ok (run_commaInList ((hStart a).append _)), if_pos rfl,
          Reader.run_bind_ok (hItem a _ hClosed)]
        rfl
      rw [List.flatMap_cons, List.append_assoc, List.cons_append, Reader.run_iterate_inl hStep, ih,
        List.reverse_cons, List.append_assoc, List.singleton_append]

theorem commas_cons (text : List Char) (texts : List (List Char)) :
    Printer.commas (text :: texts) = text ++ texts.flatMap (',' :: ·) := by
  induction texts generalizing text with
  | nil => simp [Printer.commas]
  | cons t texts ih =>
      rw [Printer.commas, List.intercalate_cons_cons, ← Printer.commas, ih, List.flatMap_cons]
      simp

/-- A list of written items is read item by item. -/
theorem list_reads {item : Reader α} {print : α → List Char} (hItem : ∀ a, item.Reads (print a) a)
    (hStart : ∀ a, Starts (print a)) (as : List α) :
    (list item).Reads (Printer.list (as.map print)) as := by
  intro rest _
  cases as with
  | nil => rfl
  | cons a as =>
      have hClosed : Closed (as.flatMap (fun a => ',' :: print a) ++ ']' :: rest) := by
        cases as with
        | nil => exact closed_cons rfl rest
        | cons b as => exact closed_cons rfl _
      have hText : Printer.list ((a :: as).map print) ++ rest =
          '[' :: (print a ++ (as.flatMap (fun a => ',' :: print a) ++ ']' :: rest)) := by
        simp [Printer.list, commas_cons, List.flatMap_map]
      rw [hText, list, Reader.run_bind_ok (Reader.run_space (by simp; decide)),
        Reader.run_onChar_some rfl,
        Reader.run_bind_ok (run_listHasItem ((hStart a).append _)), if_pos rfl,
        Reader.run_bind_ok (hItem a _ hClosed), run_listSteps hItem hStart]
      rfl

end StartPage.Json
