import Mathlib.Data.List.Basic
import StartPage.Json.Record
import StartPage.Proofs.Json.Skip

/-! What readers of a known type make of JSON values. A reader decodes values if on every text of
a value it answers the same: what the value is decoded to, with exactly the value's text taken,
or nothing where the value is of another type. -/
namespace StartPage.Json

open Reader

variable {α β σ : Type}

namespace Value

def text? : Value → Option String
  | .string s => some s
  | _ => none

/-- The value as a word of 32 bits, if it is written as a plain whole number in range. -/
def word? : Value → Option UInt32
  | .number negative n => n.word? negative
  | _ => none

def items? : Value → Option (List Value)
  | .array items => some items
  | _ => none

/-- The members of a record with given names of its fields. An array gives its items to the
fields in their order, and it has no more items than there are fields. -/
def members? (names : List String) : Value → Option (List (String × Value))
  | .object members => some members
  | .array items => if items.length ≤ names.length then some (names.zip items) else none
  | _ => none

end Value

/-- The reader answers what `decode` makes of a value, on every text of the value. -/
def Reader.Decodes (r : Reader α) (decode : Value → Option α) : Prop :=
  ∀ ⦃before core rest : List Char⦄ ⦃v : Value⦄, Spaces before →
    Denotes core (.value v) → Bounded rest →
    r.answer? (before ++ (core ++ rest)) = (decode v).map fun a => (a, rest)

theorem Reader.Decodes.answer?_core {r : Reader α} {decode : Value → Option α}
    (h : r.Decodes decode) {core rest : List Char} {v : Value} (hCore : Denotes core (.value v))
    (hRest : Bounded rest) :
    r.answer? (core ++ rest) = (decode v).map fun a => (a, rest) := by
  have hNone : Spaces [] := by simp [Spaces]
  exact h hNone hCore hRest

theorem Reader.Decodes.map {r : Reader α} {decode : Value → Option α} (h : r.Decodes decode)
    (f : α → β) :
    Reader.Decodes (do return f (← r)) fun v => (decode v).map f := by
  intro before core rest v hBefore hCore hRest
  rw [answer?_bind, h hBefore hCore hRest]
  dsimp only
  cases decode v <;> rfl

theorem Reader.Decodes.congr {r : Reader α} {decode decode' : Value → Option α}
    (h : r.Decodes decode) (hSame : ∀ v, decode v = decode' v) : r.Decodes decode' :=
  funext hSame ▸ h

theorem Skip.value_decodes : Skip.value.Decodes fun _ => some () := by
  intro before core rest v hBefore hCore hRest
  have hStart : loop (.value []) (before ++ (core ++ rest)) = loop (.value []) (core ++ rest) := by
    rw [← loop_value_afterSpace, afterSpace_append hBefore, loop_value_afterSpace]
  exact hStart.trans (Skip.skips_of_denotes hCore [] rest hRest)

/-- A value of another type than the expected one is refused, whatever else is wrong with it. -/
theorem answer?_mismatch (expected : String) (s : List Char) :
    (mismatch expected : Reader α).answer? s = none := by
  unfold mismatch
  refine answer?_onChar_never (fun c r hChoice s => ?_) (fun s => ?_) s
  · dsimp only at hChoice
    split_ifs at hChoice
    all_goals
      obtain rfl := Option.some.inj hChoice
      exact answer?_bind_never (fun _ _ => answer?_fault _ _ _) s
  · rw [answer?_lookahead_bind]
    split <;> rfl

/-- A reader that chooses by the first character of a value decodes values if each of its choices
does, and if what it has no choice for is no value of its type. -/
theorem decodes_of_choice {f : Char → Option (Reader α)} {expected : String}
    {decode : Value → Option α}
    (hNone : ∀ {v : Value} {c : Char}, v.Begins c → f c = none → decode v = none)
    (hSome : ∀ {v : Value} {c : Char} {s rest : List Char} {r : Reader α},
      Denotes (c :: s) (.value v) → v.Begins c → Bounded rest → f c = some r →
      r.answer? (s ++ rest) = (decode v).map fun a => (a, rest)) :
    (do space; onChar f (mismatch expected) : Reader α).Decodes decode := by
  intro before core rest v hBefore hCore hRest
  rw [answer?_space_bind, afterSpace_append hBefore, hCore.afterSpace_value]
  obtain ⟨c, s, rfl, hBegins⟩ := hCore.exists_begins
  rw [List.cons_append]
  cases hChoice : f c with
  | none =>
      rw [answer?_onChar_none (by simpa using hChoice), answer?_mismatch, hNone hBegins hChoice]
      rfl
  | some r =>
      rw [answer?_onChar_some hChoice]
      exact hSome hCore hBegins hRest hChoice

theorem text_decodes : text.Decodes Value.text? := by
  refine decodes_of_choice (fun {v c} hBegins hChoice =>
    ?_) (fun {v c s rest r} hCore hBegins _ hChoice => ?_)
  · cases v with
    | string s =>
        obtain rfl : c = '\"' := hBegins
        cases hChoice
    | _ => rfl
  · split_ifs at hChoice with hQuote
    subst hQuote
    obtain rfl := Option.some.inj hChoice
    obtain ⟨s', rfl⟩ := hBegins.eq_string
    obtain ⟨body, hText, hBody⟩ := hCore.of_string
    obtain rfl := (List.cons.inj hText).2
    rw [List.append_assoc, List.singleton_append,
      answer?_bind_some (answer?_of_run (run_stringBody hBody rest)), String.ofList_toList]
    rfl

theorem word_decodes : word.Decodes Value.word? := by
  refine decodes_of_choice (fun {v c} hBegins hChoice => ?_)
    (fun {v c s rest r} hCore hBegins hRest hChoice => ?_)
  · cases v with
    | number negative n =>
        cases negative with
        | false =>
            have hDigit : Text.isDigit c = true := hBegins
            rw [if_pos hDigit] at hChoice
            split_ifs at hChoice
        | true =>
            obtain rfl : c = '-' := hBegins
            cases hChoice
    | _ => rfl
  · split_ifs at hChoice with hMinus hDigit
    · subst hMinus
      obtain rfl := Option.some.inj hChoice
      obtain ⟨n, rfl⟩ := hBegins.eq_negative
      obtain ⟨text, hText, hNumeral⟩ := hCore.of_negative
      obtain rfl := (List.cons.inj hText).2
      have hRead : Number.readNegative.answer? (s ++ rest) =
          (Number.ofNumeral true n).answer? rest :=
        answer?_bind_some (Number.answer?_numeral hNumeral hRest _)
      rw [answer?_bind, hRead, ← answer?_bind, Number.answer?_ofNumeral_bind]
      rfl
    · obtain rfl := Option.some.inj hChoice
      obtain ⟨n, rfl⟩ := hBegins.eq_number hDigit
      have hRead : (Number.readFrom c).answer? (s ++ rest) =
          (Number.ofNumeral false n).answer? rest :=
        answer?_bind_some (Number.answer?_numeralFrom hCore.of_number hRest _)
      rw [answer?_bind, hRead, ← answer?_bind, Number.answer?_ofNumeral_bind]
      rfl

theorem Number.whole_digits (n : Nat) : Number.Whole (Text.digits n) := by
  obtain ⟨d, ds, hDigits⟩ := List.exists_cons_of_ne_nil (Text.digits_ne_nil n)
  have hAll : ∀ c ∈ d :: ds, Text.isDigit c = true :=
    fun c hc => Text.isDigit_of_mem_digits (hDigits ▸ hc)
  obtain ⟨hFirst, hRest⟩ := List.forall_mem_cons.mp hAll
  rcases Nat.eq_zero_or_pos n with rfl | hPositive
  · rw [Text.digits, if_pos (by decide)]
    exact .zero
  · rw [hDigits]
    exact .positive hFirst (Text.digits_head_ne_zero hPositive hDigits) hRest

/-- A written word is read as the word that was written. -/
theorem word_reads (n : UInt32) : word.Reads (Printer.word n) n := by
  intro rest hRest
  have hCore :
      Denotes (Printer.word n) (.value (.number false ⟨Text.digits n.toNat, none, none⟩)) := by
    have hNumeral := Number.Numeral.Denotes.intro (Number.whole_digits n.toNat) .absent .absent
    rw [List.append_nil, List.append_nil] at hNumeral
    exact .number hNumeral
  have hBounded : Bounded rest := fun c hc => by
    obtain rfl | rfl | rfl := eq_of_isMark (hRest c hc) <;> decide
  have hWord : (Value.number false ⟨Text.digits n.toNat, none, none⟩).word? = some n := by
    have hRange : n.toNat < 0x100000000 := n.toNat_lt
    rw [Value.word?, Number.Numeral.word?, Text.value_digits, if_pos hRange, UInt32.ofNat_toNat]
  apply run_of_answer?
  rw [word_decodes.answer?_core hCore hBounded, hWord]
  rfl

/-- What a reader of items comes to, that is asked whether an array has another item: the array ends
and `rest` follows it, or the next item comes, with the others and the end of the array behind
it. -/
inductive Awaits (hasItem : Reader Bool) (s rest : List Char) : List Value → Prop where
  | done (hEnd : hasItem.answer? s = some (false, rest)) : Awaits hasItem s rest []
  | item {core after more : List Char} {v : Value} {items : List Value}
    (hCore : Denotes core (.value v))
      (hAfter : Spaces after) (hMore : Denotes more (.moreItems items))
      (hItem : hasItem.answer? s = some (true, core ++ (after ++ (more ++ ']' :: rest)))) :
      Awaits hasItem s rest (v :: items)

theorem awaits_commaInList {ws more : List Char} {items : List Value} (hSpaces : Spaces ws)
    (hMore : Denotes more (.moreItems items)) (rest : List Char) :
    Awaits commaInList (ws ++ (more ++ ']' :: rest)) rest items := by
  cases hMore with
  | noMoreItems =>
      refine .done ?_
      rw [commaInList, answer?_space_bind, afterSpace_append hSpaces]
      rfl
  | moreItems hNext hMore =>
      cases hNext with
      | item hBefore hCore hAfter =>
          refine .item hCore hAfter hMore ?_
          simp only [List.cons_append, List.append_assoc]
          rw [commaInList, answer?_space_bind, afterSpace_append hSpaces,
            afterSpace_cons (by decide),
            answer?_onChar_some rfl, answer?_space_bind, afterSpace_append hBefore,
              hCore.afterSpace_value,
            answer?_lookahead_bind]
          obtain ⟨c, s, rfl, hBegins⟩ := hCore.exists_begins
          have hClose : c ≠ ']' := by simpa using hBegins.of_all (p := (· != ']')) (by decide)
          split
          · next hHead => exact absurd (Option.some.inj hHead) hClose
          · rfl
          · next hHead => cases hHead

theorem awaits_listHasItem {s : List Char} {items : List Value}
    (h : Denotes ('[' :: s) (.value (.array items)))
    (rest : List Char) : Awaits listHasItem (s ++ rest) rest items := by
  obtain ⟨ws, hText, hSpaces, rfl⟩ | ⟨first, more, v, others, hText, hFirst, hMore, rfl⟩ :=
    h.of_array
  · obtain rfl := (List.cons.inj hText).2
    refine .done ?_
    rw [listHasItem, answer?_space_bind, List.append_assoc, afterSpace_append hSpaces]
    rfl
  · obtain rfl := (List.cons.inj hText).2
    cases hFirst with
    | item hBefore hCore hAfter =>
        refine .item hCore hAfter hMore ?_
        simp only [List.cons_append, List.append_assoc, List.nil_append]
        rw [listHasItem, answer?_space_bind, afterSpace_append hBefore, hCore.afterSpace_value]
        obtain ⟨c, s, rfl, hBegins⟩ := hCore.exists_begins
        have hClose : c ≠ ']' := by simpa using hBegins.of_all (p := (· != ']')) (by decide)
        rw [List.cons_append, answer?_onChar_none (by simpa using hClose), answer?_lookahead_bind]
        rfl

/-- The items of a list behind the first ones are decoded one by one. -/
theorem answer?_listSteps {item : Reader α} {decode : Value → Option α}
    (hItem : item.Decodes decode) {ws more : List Char} {items : List Value} (hSpaces : Spaces ws)
    (hMore : Denotes more (.moreItems items)) (before : List α) (rest : List Char) :
    (iterate (listStep item) (listStep_progresses item) before).answer?
      (ws ++ (more ++ ']' :: rest)) =
      (items.mapM decode).map fun as => (before.reverse ++ as, rest) := by
  -- The items read so far are kept in reverse, so they are arbitrary in the induction.
  induction items generalizing ws more before with
  | nil =>
      cases awaits_commaInList hSpaces hMore rest with
      | done hEnd =>
          rw [answer?_iterate, listStep, answer?_bind_some hEnd]
          simp [resume]
  | cons v items ih =>
      cases awaits_commaInList hSpaces hMore rest with
      | item hCore hAfter hMore hNext =>
          have hRead :=
            hItem.answer?_core hCore (hAfter.bounded_append (hMore.bounded_moreItems rest))
          rw [answer?_iterate, listStep, answer?_bind_some hNext, if_pos rfl, answer?_bind,
            hRead, List.mapM_cons]
          cases decode v with
          | none => rfl
          | some a =>
              refine (ih hAfter hMore (a :: before)).trans ?_
              cases items.mapM decode with
              | none => rfl
              | some as => simp

theorem list_decodes {item : Reader α} {decode : Value → Option α} (hItem : item.Decodes decode) :
    (list item).Decodes fun v => v.items?.bind (List.mapM decode) := by
  refine decodes_of_choice (fun {v c} hBegins hChoice => ?_)
    (fun {v c s rest r} hCore hBegins hRest hChoice => ?_)
  · cases v with
    | array items =>
        obtain rfl : c = '[' := hBegins
        cases hChoice
    | _ => rfl
  · split_ifs at hChoice with hOpen
    subst hOpen
    obtain rfl := Option.some.inj hChoice
    obtain ⟨items, rfl⟩ := hBegins.eq_array
    cases awaits_listHasItem hCore rest with
    | done hEnd =>
        rw [answer?_bind_some hEnd]
        rfl
    | @item core after more v items hFirst hAfter hMore hNext =>
        have hRead :=
          hItem.answer?_core hFirst (hAfter.bounded_append (hMore.bounded_moreItems rest))
        rw [answer?_bind_some hNext, if_pos rfl, answer?_bind, hRead]
        change _ = Option.map _ ((v :: items).mapM decode)
        rw [List.mapM_cons]
        cases decode v with
        | none => rfl
        | some a =>
            refine (answer?_listSteps hItem hAfter hMore [a] rest).trans ?_
            cases items.mapM decode with
            | none => rfl
            | some as => rfl

namespace Record

variable {r : Record σ α} {assign : σ → String × Value → Option σ}

/-- A member of a field's name leaves another field set or not set, as it was. -/
def Apart (assign : σ → String × Value → Option σ) (field other : Field σ) : Prop :=
  ∀ st v st', assign st (field.name, v) = some st' → other.isSet st' = other.isSet st

/-- What the members of a record do to the state that it is put together in. A field is set once,
to what its value is decoded to, and a member of another name does nothing. -/
structure Assigns (r : Record σ α) (assign : σ → String × Value → Option σ) : Prop where
  nonempty : r.fields ≠ []
  unset : ∀ field ∈ r.fields, field.isSet r.start = false
  duplicate : ∀ field ∈ r.fields, ∀ st v, field.isSet st = true → assign st (field.name, v) = none
  decodes : ∀ field ∈ r.fields, ∀ st, field.isSet st = false →
    (field.read st).Decodes fun v => assign st (field.name, v)
  unknown : ∀ name, (∀ field ∈ r.fields, field.name ≠ name) → ∀ st v, assign st (name, v) = some st
  apart : r.fields.Pairwise (Apart assign)

theorem answer?_reject (close : Char) (cause : Cause) (s : List Char) :
    (reject close cause : Reader β).answer? s = none := by
  rw [reject, answer?_space_bind]
  exact answer?_bind_never (fun _ _ => answer?_fault _ _ _) _

theorem answer?_member (h : r.Assigns assign) {text : List Char} {name : String} {v : Value}
    (hMember : Denotes text (.member name v)) {rest : List Char} (hRest : Bounded rest) :
    ∃ s ws, afterSpace (text ++ rest) = '\"' :: s ∧ Spaces ws ∧
      ∀ st, (r.member st).answer? s = (assign st (name, v)).map fun st' => (st', ws ++ rest) := by
  cases hMember with
  | @member before body after _ _ _ hBefore hName hAfter hItem =>
      cases hItem with
      | @item before' core after' _ hBefore' hCore hAfter' =>
          refine ⟨body ++ '\"' :: (after ++ ':' :: (before' ++ (core ++ (after' ++ rest)))), after',
            ?_, hAfter', ?_⟩
          · simp only [List.append_assoc, List.cons_append]
            rw [afterSpace_append hBefore, afterSpace_cons (by decide)]
          · intro st
            have hColon : colon.answer? (after ++ ':' :: (before' ++ (core ++ (after' ++ rest)))) =
                some ((), before' ++ (core ++ (after' ++ rest))) := by
              rw [colon, answer?_space_bind, afterSpace_append hAfter, afterSpace_cons (by decide)]
              rfl
            have hBounded := hAfter'.bounded_append hRest
            rw [member, answer?_bind_some (answer?_of_run (run_stringBody hName _)),
              String.ofList_toList]
            dsimp only
            split
            · next field hField =>
                have hMem := List.mem_of_find?_eq_some hField
                obtain rfl : field.name = name := by simpa using List.find?_some hField
                split
                · next hSet =>
                    rw [h.duplicate field hMem st v hSet]
                    exact answer?_reject _ _ _
                · next hUnset =>
                    rw [answer?_bind_some hColon]
                    exact h.decodes field hMem st (by simpa using hUnset) hBefore' hCore hBounded
            · next hField =>
                have hUnknown : ∀ field ∈ r.fields, field.name ≠ name := by
                  simpa using List.find?_eq_none.mp hField
                rw [answer?_bind_some hColon,
                  answer?_bind_some (Skip.value_decodes hBefore' hCore hBounded),
                  h.unknown name hUnknown]
                rfl

/-- The members of an object behind the first one are taken in turn. -/
theorem answer?_memberSteps (h : r.Assigns assign) {members : List (String × Value)}
    {ws more : List Char} (hSpaces : Spaces ws) (hMore : Denotes more (.moreMembers members))
    (st : σ) (rest : List Char) :
    (iterate r.memberStep r.memberStep_progresses st).answer? (ws ++ (more ++ '\x7d' :: rest)) =
      (members.foldlM assign st).map fun st' => (st', rest) := by
  induction members generalizing ws more st with
  | nil =>
      cases hMore
      rw [answer?_iterate, memberStep, answer?_space_bind, afterSpace_append hSpaces]
      rfl
  | cons m members ih =>
      cases hMore with
      | @moreMembers next more name v _ hNext hMore =>
          obtain ⟨s, ws', hStart, hSpaces', hMember⟩ :=
            answer?_member h hNext (hMore.bounded_moreMembers rest)
          rw [answer?_iterate, memberStep, answer?_space_bind, afterSpace_append hSpaces,
            List.cons_append, List.cons_append, afterSpace_cons (by decide),
            answer?_onChar_some rfl, answer?_space_bind, List.append_assoc, hStart,
            answer?_onChar_some rfl, answer?_bind, hMember, List.foldlM_cons]
          cases assign st (name, v) with
          | none => rfl
          | some st' => exact ih hSpaces' hMore st'

theorem answer?_members (h : r.Assigns assign) {s : List Char} {members : List (String × Value)}
    (hObject : Denotes ('\x7b' :: s) (.value (.object members))) (rest : List Char) :
    r.members.answer? (s ++ rest) = (members.foldlM assign r.start).map fun st => (st, rest) := by
  obtain ⟨ws, hText, hSpaces, rfl⟩ | ⟨first, more, name, v, others, hText, hFirst, hMore, rfl⟩ :=
    hObject.of_object
  · obtain rfl := (List.cons.inj hText).2
    rw [Record.members, answer?_space_bind, List.append_assoc, afterSpace_append hSpaces]
    rfl
  · obtain rfl := (List.cons.inj hText).2
    obtain ⟨s, ws, hStart, hSpaces, hMember⟩ :=
      answer?_member h hFirst (hMore.bounded_moreMembers rest)
    rw [Record.members, answer?_space_bind, List.append_assoc, List.append_assoc,
      List.singleton_append, hStart, answer?_onChar_some rfl, answer?_bind, hMember,
      List.foldlM_cons]
    cases assign r.start (name, v) with
    | none => rfl
    | some st => exact answer?_memberSteps h hSpaces hMore st rest

variable {finish : σ → Option α}

/-- What the items of an array come to that are left for some fields. -/
def ofItems (assign : σ → String × Value → Option σ) (finish : σ → Option α)
    (fields : List (Field σ)) (items : List Value) (st : σ) : Option α :=
  if items.length ≤ fields.length then
    (((fields.map (·.name)).zip items).foldlM assign st).bind finish
  else none

/-- Wherever the fields of an array have been read up to these, its other items are taken in
turn. -/
def TakesItems (r : Record σ α) (assign : σ → String × Value → Option σ) (finish : σ → Option α)
    (fields : List (Field σ)) (st : σ) : Prop :=
  ∀ ⦃ws more : List Char⦄ ⦃items : List Value⦄, Spaces ws → Denotes more (.moreItems items) →
    ∀ count rest, (r.itemsFrom count st commaInList fields).answer? (ws ++ (more ++ ']' :: rest)) =
      (ofItems assign finish fields items st).map fun a => (a, rest)

theorem answer?_conclude (hFinish : ∀ written st, (r.finish written st).toOption = finish st)
    (written : Written) (st : σ) (s : List Char) :
    (r.conclude written st).answer? s = (finish st).map fun a => (a, s) := by
  rw [conclude, ← hFinish written st]
  cases r.finish written st <;> rfl

/-- One field is read from the next item, if there is one, and the other fields from the others. -/
theorem answer?_itemsFrom_cons (h : r.Assigns assign)
    (hFinish : ∀ written st, (r.finish written st).toOption = finish st) {field : Field σ}
    (hMem : field ∈ r.fields) {fields : List (Field σ)} {st : σ} (hUnset : field.isSet st = false)
    {hasItem : Reader Bool} {s rest : List Char} {items : List Value}
    (hNext : Awaits hasItem s rest items)
    (hOthers : ∀ v st', assign st (field.name, v) = some st' →
      TakesItems r assign finish fields st')
    (count : Nat) :
    (r.itemsFrom count st hasItem (field :: fields)).answer? s =
      (ofItems assign finish (field :: fields) items st).map fun a => (a, rest) := by
  cases hNext with
  | done hEnd =>
      rw [itemsFrom, answer?_bind_some hEnd, if_neg Bool.false_ne_true, answer?_conclude hFinish]
      rfl
  | @item core after more v others hCore hAfter hMore hItem =>
      have hRead := (h.decodes field hMem st hUnset).answer?_core hCore
        (hAfter.bounded_append (hMore.bounded_moreItems rest))
      rw [itemsFrom, answer?_bind_some hItem, if_pos rfl, answer?_bind, hRead]
      simp only [ofItems, List.map_cons, List.zip_cons_cons, List.foldlM_cons, List.length_cons,
        Nat.add_le_add_iff_right]
      cases hAssign : assign st (field.name, v) with
      | none => split_ifs <;> rfl
      | some st' => exact hOthers v st' hAssign hAfter hMore (count + 1) rest

theorem takesItems_nil (hFinish : ∀ written st, (r.finish written st).toOption = finish st)
    (st : σ) : TakesItems r assign finish [] st := by
  intro ws more items hSpaces hMore count rest
  cases hMore with
  | noMoreItems =>
      have hEnd : endOfArray.answer? (ws ++ ([] ++ ']' :: rest)) = some ((), rest) := by
        rw [endOfArray, answer?_space_bind, afterSpace_append hSpaces]
        rfl
      rw [itemsFrom, answer?_bind_some hEnd, answer?_conclude hFinish]
      rfl
  | moreItems hNext hMore =>
      have hEnd (s : List Char) : endOfArray.answer? (ws ++ (',' :: s)) = none := by
        rw [endOfArray, answer?_space_bind, afterSpace_append hSpaces, afterSpace_cons (by decide),
          answer?_onChar_some rfl, answer?_space_bind, answer?_lookahead_bind]
        split <;> rfl
      rw [itemsFrom]
      exact answer?_bind_none (hEnd _)

theorem takesItems (h : r.Assigns assign)
    (hFinish : ∀ written st, (r.finish written st).toOption = finish st) {fields : List (Field σ)}
    (hFields : ∀ field ∈ fields, field ∈ r.fields) (hApart : fields.Pairwise (Apart assign))
    {st : σ} (hUnset : ∀ field ∈ fields, field.isSet st = false) :
    TakesItems r assign finish fields st := by
  induction fields generalizing st with
  | nil => exact takesItems_nil hFinish st
  | cons field fields ih =>
      obtain ⟨hField, hFields⟩ := List.forall_mem_cons.mp hFields
      obtain ⟨hFieldUnset, hUnset⟩ := List.forall_mem_cons.mp hUnset
      obtain ⟨hFieldApart, hApart⟩ := List.pairwise_cons.mp hApart
      intro ws more items hSpaces hMore count rest
      refine answer?_itemsFrom_cons h hFinish hField hFieldUnset
        (awaits_commaInList hSpaces hMore rest)
        (fun v st' hAssign => ih hFields hApart fun later hLater => ?_) count
      rw [hFieldApart later hLater st v st' hAssign, hUnset later hLater]

/-- A record is read from an object by what its members do in turn, and from an array by what
the members would do that give the items to the fields in their order. -/
theorem Assigns.read_decodes (h : r.Assigns assign) (finish : σ → Option α)
    (hFinish : ∀ written st, (r.finish written st).toOption = finish st) :
    r.read.Decodes fun v => (v.members? (r.fields.map (·.name))).bind fun members =>
      (members.foldlM assign r.start).bind finish := by
  refine decodes_of_choice (fun {v c} hBegins hChoice => ?_)
    (fun {v c s rest reader} hCore hBegins hRest hChoice => ?_)
  · cases v with
    | array items =>
        obtain rfl : c = '[' := hBegins
        cases hChoice
    | object members =>
        obtain rfl : c = '\x7b' := hBegins
        cases hChoice
    | _ => rfl
  · split_ifs at hChoice with hBrace hBracket
    · subst hBrace
      obtain rfl := Option.some.inj hChoice
      obtain ⟨members, rfl⟩ := hBegins.eq_object
      rw [answer?_bind, answer?_members h hCore rest]
      change _ = Option.map _ ((members.foldlM assign r.start).bind finish)
      cases members.foldlM assign r.start with
      | none => rfl
      | some st => exact answer?_conclude hFinish .object st rest
    · subst hBracket
      obtain rfl := Option.some.inj hChoice
      obtain ⟨items, rfl⟩ := hBegins.eq_array
      obtain ⟨field, fields, hFields⟩ := List.exists_cons_of_ne_nil h.nonempty
      have hMem : ∀ other ∈ field :: fields, other ∈ r.fields :=
        fun other hOther => hFields ▸ hOther
      have hUnset := List.forall_mem_cons.mp (hFields ▸ h.unset)
      have hApart := List.pairwise_cons.mp (hFields ▸ h.apart)
      rw [List.forall_mem_cons] at hMem
      have hItems :=
        answer?_itemsFrom_cons h hFinish hMem.1 hUnset.1 (awaits_listHasItem hCore rest)
          (fun v st' hAssign => takesItems h hFinish hMem.2 hApart.2 fun later hLater =>
          (hApart.1 later hLater r.start v st' hAssign).trans (hUnset.2 later hLater)) 0
      rw [hFields, hItems, ofItems, Value.members?, List.length_map]
      split_ifs <;> rfl

end Record

end StartPage.Json
