import StartPage.Json.Skip
import StartPage.Proofs.Json.Number

/-! Values that nobody wants are taken off the front of a text whole, whatever they hold and
however deep they are nested. The induction is on the derivation of the text: each part of it
is one stretch of the loop's run, from the state before the part to the state behind it. -/
namespace StartPage.Json

open Reader

theorem Denotes.bounded_moreItems {more : List Char} {items : List Value}
    (h : Denotes more (.moreItems items)) (rest : List Char) : Bounded (more ++ ']' :: rest) := by
  cases h with
  | noMoreItems => exact bounded_cons (by decide) rest
  | moreItems => exact bounded_cons (by decide) _

theorem Denotes.bounded_moreMembers {more : List Char} {members : List (String × Value)}
    (h : Denotes more (.moreMembers members)) (rest : List Char) :
    Bounded (more ++ '\x7d' :: rest) := by
  cases h with
  | noMoreMembers => exact bounded_cons (by decide) rest
  | moreMembers => exact bounded_cons (by decide) _

theorem Denotes.afterSpace_value {core : List Char} {v : Value} (h : Denotes core (.value v))
    (rest : List Char) :
    afterSpace (core ++ rest) = core ++ rest := by
  obtain ⟨c, s, rfl, hBegins⟩ := h.exists_begins
  have hSpace : (!isSpace c) = true := hBegins.of_all (p := fun c => !isSpace c) (by decide)
  exact afterSpace_cons (by simpa using hSpace) _

/-- Behind the white space in front of a value comes a character that no array and no object ends
with. -/
theorem Denotes.afterSpace_item {text : List Char} {v : Value} (h : Denotes text (.item v))
    (rest : List Char) :
    ∃ c s, afterSpace (text ++ rest) = c :: s ∧ c ≠ ']' ∧ c ≠ '\x7d' := by
  cases h with
  | @item _ _ after _ hBefore hCore _ =>
      obtain ⟨c, s, rfl, hBegins⟩ := hCore.exists_begins
      have hClose : c ≠ ']' ∧ c ≠ '\x7d' := by
        simpa using hBegins.of_all (p := fun c => c != ']' && c != '\x7d') (by decide)
      refine ⟨c, s ++ (after ++ rest), ?_, hClose⟩
      rw [List.append_assoc, List.append_assoc, afterSpace_append hBefore, hCore.afterSpace_value]
      rfl

theorem Denotes.afterSpace_member {text : List Char} {name : String} {v : Value}
    (h : Denotes text (.member name v)) (rest : List Char) :
    ∃ s, afterSpace (text ++ rest) = '\"' :: s := by
  cases h with
  | member hBefore =>
      simp only [List.append_assoc, List.cons_append]
      rw [afterSpace_append hBefore]
      exact ⟨_, afterSpace_cons (by decide) _⟩

namespace Skip

/-- A written character is taken by the loop over a string, a pair of surrogates in two steps. -/
theorem run_skipString_spells {text : List Char} {c : Char} (h : Spells text c) (rest : List Char) :
    (iterate skipStringStep skipStringStep_progresses ()).run (text ++ rest) =
      (iterate skipStringStep skipStringStep_progresses ()).run rest := by
  have hCode {x y z u : Char} {n : Nat} (hDigits : hexNumber? x y z u = some n) (rest : List Char) :
      (skipStringStep ()).run ('\\' :: 'u' :: x :: y :: z :: u :: rest) = .ok (.inl (), rest) := by
    have hEscape : skipEscape.run ('u' :: x :: y :: z :: u :: rest) = .ok ((), rest) := by
      rw [skipEscape, run_onChar_some (if_pos rfl), run_bind_ok (run_fourHex hDigits rest)]
      rfl
    rw [skipStringStep, run_onChar_some rfl, run_bind_ok hEscape]
    rfl
  cases h with
  | plain hQuote hBackslash hControl =>
      refine run_iterate_inl ?_
      rw [skipStringStep, List.singleton_append,
        run_onChar_some (r := pure (.inl ())) (by simp [hQuote, hBackslash, hControl])]
      rfl
  | @short e _ hEscape =>
      have hLetter : e ≠ 'u' := by
        rintro rfl
        cases hEscape
      have hSkip : skipEscape.run (e :: rest) = .ok ((), rest) := by
        rw [skipEscape, run_onChar_some (r := pure ()) (by simp [hLetter, hEscape])]
        rfl
      refine run_iterate_inl ?_
      simp only [List.cons_append, List.nil_append]
      rw [skipStringStep, run_onChar_some rfl, run_bind_ok hSkip]
      rfl
  | code hDigits => exact run_iterate_inl (hCode hDigits rest)
  | pair hDigits hDigits' =>
      exact (run_iterate_inl (hCode hDigits _)).trans (run_iterate_inl (hCode hDigits' rest))

theorem answer?_skipString {body s : List Char} (h : SpellsAll body s) (rest : List Char) :
    skipString.answer? (body ++ '\"' :: rest) = some ((), rest) := by
  apply answer?_of_run
  unfold skipString
  induction h with
  | nil => exact run_iterate_inr rfl
  | cons hFirst _ ih => rw [List.append_assoc, run_skipString_spells hFirst, ih]

/-- The loop on a text, from a given state. -/
def loop (st : State) (s : List Char) : Option (Unit × List Char) :=
  (iterate step step_progresses st).answer? s

/-- The loop on a text, from the answer of one of its steps. -/
def goOn : State ⊕ Unit → List Char → Option (Unit × List Char)
  | .inl st, s => loop st s
  | .inr (), s => some ((), s)

theorem loop_of_step {st : State} {next : State ⊕ Unit} {s rest : List Char}
    (h : (step st).answer? s = some (next, rest)) : loop st s = goOn next rest := by
  rw [loop, answer?_iterate, h]
  cases next <;> rfl

theorem loop_congr {st st' : State} {s s' : List Char}
    (h : (step st).answer? s = (step st').answer? s') :
    loop st s = loop st' s' := by
  rw [loop, loop, answer?_iterate, answer?_iterate, h]

theorem loop_value_afterSpace (opened : List Bracket) (s : List Char) :
    loop (.value opened) (afterSpace s) = loop (.value opened) s := by
  apply loop_congr
  rw [step, answer?_space_bind, answer?_space_bind, afterSpace_afterSpace]

theorem loop_after_spaces {inner : Bracket} {opened : List Bracket} {ws : List Char} (h : Spaces ws)
    (s : List Char) : loop (.after inner opened) (ws ++ s) = loop (.after inner opened) s := by
  apply loop_congr
  rw [step, answer?_space_bind, answer?_space_bind, afterSpace_append h]

/-- What a step at the front of a value comes to. -/
theorem loop_value {opened : List Bracket} {c : Char} {s rest : List Char}
    {r : Reader (State ⊕ Unit)} {next : State ⊕ Unit} (hSpace : isSpace c = false)
    (hChoice : valueFrom? opened c = some r) (hAnswer : r.answer? s = some (next, rest)) :
    loop (.value opened) (c :: s) = goOn next rest := by
  apply loop_of_step
  rw [step, answer?_space_bind, afterSpace_cons hSpace, answer?_onChar_some hChoice, hAnswer]

theorem valueFrom?_digit {opened : List Bracket} {d : Char} (h : Text.isDigit d = true) :
    valueFrom? opened d = some do
      let _ ← Number.numeralFrom .invalidNumber d
      return ended opened := by
  have hAll : decimals.all (fun d => d != 'n' && d != 't' && d != 'f' && d != '-') = true := by
    decide
  have hOther : ((d ≠ 'n' ∧ d ≠ 't') ∧ d ≠ 'f') ∧ d ≠ '-' := by
    simpa using List.all_eq_true.mp hAll d (mem_decimals h)
  simp only [valueFrom?, hOther, h, if_true, if_false]

/-- The loop on a text, in front of an item of a bracket. -/
def enter (inner : Bracket) (opened : List Bracket) (s : List Char) : Option (Unit × List Char) :=
  ((beforeItem inner opened).answer? s).bind fun done => goOn done.1 done.2

theorem enter_afterSpace (inner : Bracket) (opened : List Bracket) (s : List Char) :
    enter inner opened (afterSpace s) = enter inner opened s := by
  cases inner with
  | list => exact loop_value_afterSpace (.list :: opened) s
  | object =>
      unfold enter
      rw [beforeItem, answer?_bind, answer?_bind, key, answer?_space_bind, answer?_space_bind,
        afterSpace_afterSpace]

theorem loop_comma (inner : Bracket) (opened : List Bracket) (s : List Char) :
    loop (.after inner opened) (',' :: s) = enter inner opened s := by
  have hStep : (step (.after inner opened)).answer? (',' :: s) =
      (beforeItem inner opened).answer? s := by
    rw [step, answer?_space_bind, afterSpace_cons (by decide), answer?_onChar_some (if_pos rfl)]
  rw [loop, answer?_iterate, hStep, enter]
  cases (beforeItem inner opened).answer? s with
  | none => rfl
  | some done =>
      obtain ⟨next | _, rest⟩ := done <;> rfl

theorem loop_close (inner : Bracket) (opened : List Bracket) (s : List Char) :
    loop (.after inner opened) (inner.close :: s) = goOn (ended opened) s := by
  apply loop_of_step
  have hSpace : isSpace inner.close = false := by cases inner <;> decide
  have hComma : inner.close ≠ ',' := by cases inner <;> decide
  rw [step, answer?_space_bind, afterSpace_cons hSpace, answer?_onChar_some]
  · exact answer?_pure _ s
  · rw [if_neg hComma, if_pos rfl]

/-- The character that a bracket is opened with. -/
def Bracket.opening : Bracket → Char
  | .list => '['
  | .object => '\x7b'

theorem loop_opening (inner : Bracket) (opened : List Bracket) (s : List Char) :
    loop (.value opened) (inner.opening :: s) =
      ((afterOpening inner opened).answer? s).bind fun done => goOn done.1 done.2 := by
  have hStep : (step (.value opened)).answer? (inner.opening :: s) =
      (afterOpening inner opened).answer? s := by
    cases inner <;> rfl
  rw [loop, answer?_iterate, hStep]
  cases (afterOpening inner opened).answer? s with
  | none => rfl
  | some done =>
      obtain ⟨next | _, rest⟩ := done <;> rfl

theorem loop_opening_close (inner : Bracket) (opened : List Bracket) {ws : List Char}
    (h : Spaces ws) (s : List Char) :
    loop (.value opened) (inner.opening :: (ws ++ inner.close :: s)) = goOn (ended opened) s := by
  have hSpace : isSpace inner.close = false := by cases inner <;> decide
  rw [loop_opening, afterOpening, answer?_space_bind, afterSpace_append h, afterSpace_cons hSpace,
    answer?_onChar_some (if_pos rfl)]
  rfl

theorem loop_opening_item (inner : Bracket) (opened : List Bracket) {c : Char} {s s' : List Char}
    (hNext : afterSpace s = c :: s') (hClose : c ≠ inner.close) :
    loop (.value opened) (inner.opening :: s) = enter inner opened s := by
  have hItem : (afterOpening inner opened).answer? s = (beforeItem inner opened).answer?
      (afterSpace s) := by
    rw [afterOpening, answer?_space_bind, hNext, answer?_onChar_none (by simpa using hClose),
      answer?_lookahead_bind]
    rfl
  rw [loop_opening, hItem, ← enter_afterSpace, enter]

theorem answer?_key {before body name after : List Char} (hBefore : Spaces before)
    (hName : SpellsAll body name) (hAfter : Spaces after) (s : List Char) :
    key.answer? (before ++ '\"' :: (body ++ '\"' :: (after ++ ':' :: s))) = some ((), s) := by
  rw [key, answer?_space_bind, afterSpace_append hBefore, afterSpace_cons (by decide),
    answer?_onChar_some (if_pos rfl), restOfKey, answer?_bind_some (answer?_skipString hName _),
    answer?_space_bind, afterSpace_append hAfter, afterSpace_cons (by decide)]
  rfl

/-- How the loop comes from the front of a part of a text to what is behind the part. -/
def Skips (text : List Char) : Part → Prop
  | .value _ => ∀ opened rest, Bounded rest →
    loop (.value opened) (text ++ rest) = goOn (ended opened) rest
  | .item _ => ∀ inner opened rest, Bounded rest →
      loop (.value (inner :: opened)) (text ++ rest) = loop (.after inner opened) rest
  | .moreItems _ =>
    ∀ opened rest, loop (.after .list opened) (text ++ ']' :: rest) = goOn (ended opened) rest
  | .member _ _ => ∀ opened rest, Bounded rest →
      enter .object opened (text ++ rest) = loop (.after .object opened) rest
  | .moreMembers _ => ∀ opened rest,
      loop (.after .object opened) (text ++ '\x7d' :: rest) = goOn (ended opened) rest

theorem skips_word {word : List Char} {c : Char} {v : Value} (hSpace : isSpace c = false)
    (h : ∀ opened, valueFrom? opened c = some do literal word; return ended opened) :
    Skips (c :: word) (.value v) := by
  intro opened rest _
  have hLiteral (word : List Char) : (literal word).answer? (word ++ rest) = some ((), rest) := by
    induction word with
    | nil => rfl
    | cons c word ih => rw [literal, List.cons_append, answer?_onChar_some (if_pos rfl), ih]
  exact loop_value hSpace (h opened) (answer?_bind_some (hLiteral word))

/-- Every part of a JSON text is skipped whole, wherever in a value it stands. -/
theorem skips_of_denotes {text : List Char} {part : Part} (h : Denotes text part) :
    Skips text part := by
  -- The brackets around a part are left open in `Skips`, so the hypothesis about an item serves
  -- inside the bracket that has just been opened.
  induction h with
  | null => exact skips_word (by decide) fun _ => rfl
  | yes => exact skips_word (by decide) fun _ => rfl
  | no => exact skips_word (by decide) fun _ => rfl
  | number hNumeral =>
      intro opened rest hRest
      obtain ⟨d, ds, rfl, hDigit⟩ := (Denotes.number hNumeral).exists_begins
      exact loop_value (isSpace_of_isDigit hDigit) (valueFrom?_digit hDigit)
        (answer?_bind_some (Number.answer?_numeralFrom hNumeral hRest _))
  | negative hNumeral =>
      intro opened rest hRest
      exact loop_value (by decide) rfl (answer?_bind_some (Number.answer?_numeral hNumeral hRest _))
  | string hBody =>
      intro opened rest _
      rw [List.cons_append, List.cons_append, List.append_assoc]
      exact loop_value (by decide) rfl (answer?_bind_some (answer?_skipString hBody rest))
  | emptyArray hSpaces =>
      intro opened rest _
      rw [List.cons_append, List.cons_append, List.append_assoc]
      exact loop_opening_close .list opened hSpaces rest
  | array hFirst hMore ihFirst ihMore =>
      intro opened rest _
      simp only [List.cons_append, List.append_assoc, List.nil_append]
      obtain ⟨c, s, hNext, hClose, -⟩ := hFirst.afterSpace_item (_ ++ ']' :: rest)
      exact (loop_opening_item .list opened hNext hClose).trans
        ((ihFirst .list opened _ (hMore.bounded_moreItems rest)).trans (ihMore opened rest))
  | emptyObject hSpaces =>
      intro opened rest _
      rw [List.cons_append, List.cons_append, List.append_assoc]
      exact loop_opening_close .object opened hSpaces rest
  | object hFirst hMore ihFirst ihMore =>
      intro opened rest _
      simp only [List.cons_append, List.append_assoc, List.nil_append]
      obtain ⟨s, hNext⟩ := hFirst.afterSpace_member (_ ++ '\x7d' :: rest)
      exact (loop_opening_item .object opened hNext (by decide)).trans
        ((ihFirst opened _ (hMore.bounded_moreMembers rest)).trans (ihMore opened rest))
  | item hBefore hCore hAfter ih =>
      intro inner opened rest hRest
      rw [← loop_value_afterSpace, List.append_assoc, List.append_assoc, afterSpace_append hBefore,
        loop_value_afterSpace, ih (inner :: opened) _ (hAfter.bounded_append hRest)]
      exact loop_after_spaces hAfter rest
  | noMoreItems => exact fun opened rest => loop_close .list opened rest
  | moreItems hNext hMore ihNext ihMore =>
      intro opened rest
      rw [List.cons_append, List.cons_append, List.append_assoc, loop_comma]
      exact (ihNext .list opened _ (hMore.bounded_moreItems rest)).trans (ihMore opened rest)
  | member hBefore hName hAfter hItem ih =>
      intro opened rest hRest
      simp only [List.append_assoc, List.cons_append]
      rw [enter, beforeItem, answer?_bind_some (answer?_key hBefore hName hAfter _)]
      exact ih .object opened rest hRest
  | noMoreMembers => exact fun opened rest => loop_close .object opened rest
  | moreMembers hNext hMore ihNext ihMore =>
      intro opened rest
      rw [List.cons_append, List.cons_append, List.append_assoc, loop_comma]
      exact (ihNext opened _ (hMore.bounded_moreMembers rest)).trans (ihMore opened rest)

end Skip

end StartPage.Json
