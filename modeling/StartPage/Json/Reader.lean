import StartPage.Json.Fault

/-! Readers of JSON texts. A reader takes characters off the front of a text
and answers a value and the rest, or a fault. The rest is never longer than
the text, which is part of the type; so a loop whose steps take at least one
character ends, and `Reader.iterate` is the only loop that is needed. -/
namespace StartPage.Json

structure Reader (α : Type) where
  run : List Char → Except Fault (α × List Char)
  length_le : ∀ {s a rest}, run s = .ok (a, rest) → rest.length ≤ s.length

namespace Reader

variable {α β σ : Type}

protected def pure (a : α) : Reader α where
  run s := .ok (a, s)
  length_le h := by
    injection h with h
    injection h with _ h
    exact Nat.le_of_eq (congrArg List.length h.symm)

/-- Reads with one reader and then with the next one, which may depend on the value. -/
protected def bind (r : Reader α) (f : α → Reader β) : Reader β where
  run s := match r.run s with
    | .error e => .error e
    | .ok (a, rest) => (f a).run rest
  length_le {s b rest} h := by
    split at h
    · cases h
    · next a middle h' => exact Nat.le_trans ((f a).length_le h) (r.length_le h')

instance : Monad Reader where
  pure := Reader.pure
  bind := Reader.bind

@[simp] theorem run_pure (a : α) (s : List Char) : (pure a : Reader α).run s = .ok (a, s) := rfl

theorem run_bind (r : Reader α) (f : α → Reader β) (s : List Char) :
    (r >>= f).run s = match r.run s with
      | .error e => .error e
      | .ok (a, rest) => (f a).run rest := rfl

/-- Refuses the text, at the place `ahead` bytes further on. -/
def fault (cause : Cause) (ahead : Nat := 0) : Reader α where
  run s := .error ⟨cause, Text.Utf8.size s - ahead⟩
  length_le h := by cases h

/-- Refuses the text, at the place `behind` bytes back. -/
def faultBehind (cause : Cause) (behind : Nat) : Reader α where
  run s := .error ⟨cause, Text.Utf8.size s + behind⟩
  length_le h := by cases h

/-- Refuses what comes next: the end of the text with one cause, a character
with the other. The place is behind the first byte of that character. -/
def refuse (atEnd other : Cause) (ahead : Nat := 1) : Reader α where
  run s := .error ⟨if s.isEmpty then atEnd else other, Text.Utf8.size s - ahead⟩
  length_le h := by cases h

/-- The next character, which stays unread. -/
def lookahead : Reader (Option Char) where
  run s := .ok (s.head?, s)
  length_le h := by
    injection h with h
    injection h with _ h
    exact Nat.le_of_eq (congrArg List.length h.symm)

/-- Takes the next character and goes on as `f` says for it. Where `f` has
nothing for it, and at the end of the text, reads with `otherwise`. -/
def onChar (f : Char → Option (Reader α)) (otherwise : Reader α) : Reader α where
  run s := match s with
    | [] => otherwise.run []
    | c :: rest => match f c with
      | some r => r.run rest
      | none => otherwise.run (c :: rest)
  length_le {s a rest} h := by
    split at h
    · exact otherwise.length_le h
    · next c tail =>
        split at h
        · next r _ => exact Nat.le_succ_of_le (r.length_le h)
        · exact otherwise.length_le h

def takeAll (p : Char → Bool) : Reader (List Char) where
  run s := .ok (s.takeWhile p, s.dropWhile p)
  length_le {s a rest} h := by
    injection h with h
    injection h with _ h
    rw [← h]
    exact (List.dropWhile_suffix p).length_le

/-- White space between tokens: space, tab and the two line ends. -/
def isSpace (c : Char) : Bool := c = ' ' || c = '\t' || c = '\n' || c = '\r'

def space : Reader Unit := do
  let _ ← takeAll isSpace

/-- The reader takes at least one character whenever its answer is in `P`. -/
def Progresses (r : Reader α) (P : α → Prop := fun _ => True) : Prop :=
  ∀ s a rest, r.run s = .ok (a, rest) → P a → rest.length < s.length

namespace Progresses

theorem refuse {atEnd other : Cause} {ahead : Nat} {P : α → Prop} :
    (Reader.refuse atEnd other ahead).Progresses P :=
  fun _ _ _ h => by cases h

/-- It is enough that the first reader takes a character. -/
theorem bind_left {r : Reader α} {f : α → Reader β} {P : β → Prop} (h : r.Progresses) :
    (r >>= f).Progresses P := by
  intro s b rest hrun _
  rw [run_bind] at hrun
  split at hrun
  · cases hrun
  · next a middle h' =>
      exact Nat.lt_of_le_of_lt ((f a).length_le hrun) (h _ _ _ h' trivial)

/-- It is enough that the next reader takes a character, whatever it depends on. -/
theorem bind_right {r : Reader α} {f : α → Reader β} {P : β → Prop}
    (h : ∀ a, (f a).Progresses P) : (r >>= f).Progresses P := by
  intro s b rest hrun hb
  rw [run_bind] at hrun
  split at hrun
  · cases hrun
  · next a middle h' => exact Nat.lt_of_lt_of_le (h a _ _ _ hrun hb) (r.length_le h')

/-- A choice on the next character takes it, unless the other reader is used. -/
theorem onChar {f : Char → Option (Reader α)} {otherwise : Reader α} {P : α → Prop}
    (h : otherwise.Progresses P) : (Reader.onChar f otherwise).Progresses P := by
  intro s a rest hrun ha
  simp only [Reader.onChar] at hrun
  split at hrun
  · exact h _ _ _ hrun ha
  · next c tail =>
      split at hrun
      · next r _ => exact Nat.lt_succ_of_le (r.length_le hrun)
      · exact h _ _ _ hrun ha

end Progresses

/-- The answer of a step of a loop says that the loop goes on, from a new state. -/
def GoesOn : σ ⊕ α → Prop
  | .inl _ => True
  | .inr _ => False

/-- The loop behind `iterate`, on the text itself. -/
def iterateRun (step : σ → Reader (σ ⊕ α)) (h : ∀ st, (step st).Progresses GoesOn) (st : σ)
    (s : List Char) : Except Fault (α × List Char) :=
  match hrun : (step st).run s with
  | .error e => .error e
  | .ok (.inr a, rest) => .ok (a, rest)
  | .ok (.inl st', rest) =>
    have : rest.length < s.length := h st _ _ _ hrun trivial
    iterateRun step h st' rest
  termination_by s.length

theorem iterateRun_length_le (step : σ → Reader (σ ⊕ α)) (h : ∀ st, (step st).Progresses GoesOn)
    (st : σ) (s : List Char) {a : α} {rest : List Char}
    (hrun : iterateRun step h st s = .ok (a, rest)) : rest.length ≤ s.length := by
  fun_induction iterateRun step h st s with
  | case1 => cases hrun
  | case2 st s a' rest' h' =>
      injection hrun with hrun
      injection hrun with _ hrun
      exact hrun ▸ (step st).length_le h'
  | case3 st s st' rest' h' hlt ih => exact Nat.le_of_lt (Nat.lt_of_le_of_lt (ih hrun) hlt)

/-- Repeats a step until it answers. Every step that goes on takes a character. -/
def iterate (step : σ → Reader (σ ⊕ α)) (h : ∀ st, (step st).Progresses GoesOn) (st : σ) :
    Reader α where
  run := iterateRun step h st
  length_le := iterateRun_length_le step h st _

theorem run_iterate (step : σ → Reader (σ ⊕ α)) (h : ∀ st, (step st).Progresses GoesOn) (st : σ)
    (s : List Char) :
    (iterate step h st).run s = match (step st).run s with
      | .error e => .error e
      | .ok (.inr a, rest) => .ok (a, rest)
      | .ok (.inl st', rest) => (iterate step h st').run rest := by
  simp only [iterate]
  rw [iterateRun]
  split <;> simp_all

end Reader

end StartPage.Json
