import StartPage.Json.Typed
import StartPage.Proofs.Json.Reads

/-! What readers answer, without the faults. A reader that reports a fault answers nothing,
whichever fault it is; so the answers of readers in sequence are put together as options. -/
namespace StartPage.Json

variable {α β σ : Type}

namespace Reader

/-- What the reader answers on a text, and the rest of that text. -/
def answer? (r : Reader α) (s : List Char) : Option (α × List Char) := (r.run s).toOption

theorem answer?_of_run {r : Reader α} {s rest : List Char} {a : α} (h : r.run s = .ok (a, rest)) :
    r.answer? s = some (a, rest) := by
  rw [answer?, h]
  rfl

theorem run_of_answer? {r : Reader α} {s rest : List Char} {a : α}
    (h : r.answer? s = some (a, rest)) :
    r.run s = .ok (a, rest) := by
  unfold answer? at h
  cases hRun : r.run s with
  | error fault =>
      rw [hRun] at h
      cases h
  | ok done =>
      rw [hRun] at h
      exact congrArg Except.ok (Option.some.inj h)

theorem exists_fault_of_answer? {r : Reader α} {s : List Char} (h : r.answer? s = none) :
    ∃ fault, r.run s = .error fault := by
  unfold answer? at h
  cases hRun : r.run s with
  | error fault => exact ⟨fault, rfl⟩
  | ok done =>
      rw [hRun] at h
      cases h

@[simp] theorem answer?_pure (a : α) (s : List Char) :
    (pure a : Reader α).answer? s = some (a, s) := rfl

@[simp] theorem answer?_fault (cause : Cause) (ahead : Nat) (s : List Char) :
    (fault cause ahead : Reader α).answer? s = none := rfl

theorem answer?_bind (r : Reader α) (f : α → Reader β) (s : List Char) :
    (r >>= f).answer? s = (r.answer? s).bind fun done => (f done.1).answer? done.2 := by
  unfold answer?
  rw [run_bind]
  cases r.run s <;> rfl

theorem answer?_bind_some {r : Reader α} {f : α → Reader β} {s rest : List Char} {a : α}
    (h : r.answer? s = some (a, rest)) : (r >>= f).answer? s = (f a).answer? rest := by
  rw [answer?_bind, h]
  rfl

theorem answer?_bind_none {r : Reader α} {f : α → Reader β} {s : List Char}
    (h : r.answer? s = none) : (r >>= f).answer? s = none := by
  rw [answer?_bind, h]
  rfl

/-- Whatever the first reader answers, the next one answers nothing. -/
theorem answer?_bind_never {r : Reader α} {f : α → Reader β} (h : ∀ a s, (f a).answer? s = none)
    (s : List Char) : (r >>= f).answer? s = none := by
  rw [answer?_bind]
  cases r.answer? s with
  | none => rfl
  | some done => exact h done.1 done.2

theorem answer?_lookahead_bind (f : Option Char → Reader β) (s : List Char) :
    (lookahead >>= f).answer? s = (f s.head?).answer? s := rfl

theorem answer?_onChar_some {f : Char → Option (Reader α)} {otherwise r : Reader α} {c : Char}
    (h : f c = some r) (s : List Char) : (onChar f otherwise).answer? (c :: s) = r.answer? s := by
  unfold answer?
  rw [run_onChar_some h]

theorem answer?_onChar_none {f : Char → Option (Reader α)} {otherwise : Reader α} {s : List Char}
    (h : ∀ c ∈ s.head?, f c = none) : (onChar f otherwise).answer? s = otherwise.answer? s := by
  unfold answer?
  rw [run_onChar_none h]

/-- A choice on the next character answers nothing if none of the choices does. -/
theorem answer?_onChar_never {f : Char → Option (Reader α)} {otherwise : Reader α}
    (h : ∀ c r, f c = some r → ∀ s, r.answer? s = none)
    (hOtherwise : ∀ s, otherwise.answer? s = none) (s : List Char) :
    (onChar f otherwise).answer? s = none := by
  cases s with
  | nil => exact hOtherwise []
  | cons c s =>
      cases hChoice : f c with
      | none =>
          rw [answer?_onChar_none (by simpa using hChoice)]
          exact hOtherwise (c :: s)
      | some r =>
          rw [answer?_onChar_some hChoice]
          exact h c r hChoice s

/-- The answer of a loop, one of whose steps has answered already. -/
def resume (step : σ → Reader (σ ⊕ α)) (h : ∀ st, (step st).Progresses GoesOn) :
    (σ ⊕ α) × List Char → Option (α × List Char)
  | (.inl st, rest) => (iterate step h st).answer? rest
  | (.inr a, rest) => some (a, rest)

theorem answer?_iterate (step : σ → Reader (σ ⊕ α)) (h : ∀ st, (step st).Progresses GoesOn) (st : σ)
    (s : List Char) :
    (iterate step h st).answer? s = ((step st).answer? s).bind (resume step h) := by
  unfold answer?
  rw [run_iterate]
  cases (step st).run s with
  | error fault => rfl
  | ok done =>
      obtain ⟨next | a, rest⟩ := done <;> rfl

/-- The text behind the white space in front of it. -/
def afterSpace (s : List Char) : List Char := s.dropWhile isSpace

theorem answer?_space_bind (f : Unit → Reader α) (s : List Char) :
    (space >>= f).answer? s = (f ()).answer? (afterSpace s) := rfl

theorem afterSpace_cons {c : Char} (h : isSpace c = false) (s : List Char) :
    afterSpace (c :: s) = c :: s := by
  simp [afterSpace, h]

theorem afterSpace_append {ws : List Char} (h : ∀ c ∈ ws, isSpace c = true) (s : List Char) :
    afterSpace (ws ++ s) = afterSpace s := List.dropWhile_append_of_pos h

@[simp] theorem afterSpace_afterSpace (s : List Char) :
    afterSpace (afterSpace s) = afterSpace s := by
  induction s with
  | nil => rfl
  | cons c s ih =>
      cases hSpace : isSpace c with
      | false => rw [afterSpace_cons hSpace, afterSpace_cons hSpace]
      | true => simpa only [afterSpace, List.dropWhile_cons_of_pos hSpace] using ih

end Reader

/-- A text that is read to its end stands for what the reader answers. -/
theorem parse_eq_of_answer? {r : Reader α} {s : List Char} {a : α}
    (h : r.answer? s = some (a, [])) : parse r s = .ok a := by
  rw [parse, Reader.run_of_answer? h]
  rfl

theorem exists_parse_eq_error {r : Reader α} {s : List Char} (h : r.answer? s = none) :
    ∃ fault, parse r s = .error fault := by
  obtain ⟨fault, hRun⟩ := Reader.exists_fault_of_answer? h
  refine ⟨fault, ?_⟩
  rw [parse, hRun]
  rfl

end StartPage.Json
