import Mathlib.Data.List.Basic
import StartPage.Proofs.Json.Decode

/-! The members of a record that have a given name. Each field of a record looks for its own
members only, and it does not matter how they are mixed with others. The two records that are
made of two texts are read alike. -/
namespace StartPage.Json

variable {α : Type} {name : String} {decode : Value → Option α}
    {members members' : List (String × Value)}

/-- The values of the members of a name, in their order. -/
def valuesOf (name : String) (members : List (String × Value)) : List Value :=
  (members.filter (·.1 = name)).map (·.2)

/-- What the value of a field is decoded to, if there is one. There is no answer for two values,
nor for one that is not what it has to be. -/
def atMostOne (decode : Value → Option α) : List Value → Option (Option α)
  | [] => some none
  | [v] => (decode v).map some
  | _ => none

/-- What the member of a name is decoded to, if there is one. -/
def lookup (name : String) (decode : Value → Option α) (members : List (String × Value)) :
    Option (Option α) :=
  atMostOne decode (valuesOf name members)

theorem valuesOf_cons_self (name : String) (v : Value) (members : List (String × Value)) :
    valuesOf name ((name, v) :: members) = v :: valuesOf name members := by
  simp [valuesOf]

theorem valuesOf_cons_ne {m : String × Value} (h : m.1 ≠ name) (members : List (String × Value)) :
    valuesOf name (m :: members) = valuesOf name members := by
  simp [valuesOf, h]

/-- What a member does to the field of a name, which may be set already. -/
def putOnce (name : String) (decode : Value → Option α) (current : Option α) (m : String × Value) :
    Option (Option α) :=
  if m.1 = name then
    match current with
    | none => (decode m.2).map some
    | some _ => none
  else some current

@[simp] theorem putOnce_ne {m : String × Value} (h : m.1 ≠ name) (current : Option α) :
    putOnce name decode current m = some current := if_neg h

@[simp] theorem putOnce_none (v : Value) :
    putOnce name decode none (name, v) = (decode v).map some := if_pos rfl

@[simp] theorem putOnce_some (a : α) (v : Value) : putOnce name decode (some a) (name, v) = none :=
  if_pos rfl

/-- A field that is set stays as it is if no member has its name. -/
theorem foldlM_putOnce_some (decode : Value → Option α) (a : α) (members : List (String × Value)) :
    members.foldlM (putOnce name decode) (some a) =
      if valuesOf name members = [] then some (some a) else none := by
  induction members with
  | nil => rfl
  | cons m members ih =>
      obtain ⟨other, v⟩ := m
      by_cases hName : other = name
      · subst hName
        rw [List.foldlM_cons, putOnce_some, valuesOf_cons_self]
        rfl
      · rw [List.foldlM_cons, putOnce_ne hName, valuesOf_cons_ne hName]
        exact ih

/-- Members that are taken in turn set the field of a name to what is found under the name. -/
theorem foldlM_putOnce (name : String) (decode : Value → Option α)
    (members : List (String × Value)) :
    members.foldlM (putOnce name decode) none = lookup name decode members := by
  induction members with
  | nil => rfl
  | cons m members ih =>
      obtain ⟨other, v⟩ := m
      by_cases hName : other = name
      · subst hName
        rw [List.foldlM_cons, putOnce_none, lookup, valuesOf_cons_self]
        cases hDecode : decode v with
        | none =>
            cases hOthers : valuesOf other members with
            | nil => simp [atMostOne, hDecode]
            | cons => rfl
        | some a =>
            refine (foldlM_putOnce_some decode a members).trans ?_
            cases hOthers : valuesOf other members with
            | nil => simp [atMostOne, hDecode]
            | cons => rfl
      · rw [List.foldlM_cons, putOnce_ne hName, lookup, valuesOf_cons_ne hName]
        exact ih

theorem atMostOne_congr {here there : List Value} (h : here.Perm there) :
    atMostOne decode here = atMostOne decode there := by
  match here, there, h with
  | [], there, h => rw [h.nil_eq]
  | [v], there, h => rw [h.singleton_eq]
  | _ :: _ :: _, [], h => exact absurd h.eq_nil (List.cons_ne_nil _ _)
  | _ :: _ :: _, [v], h => exact absurd h.length_eq (by simp)
  | _ :: _ :: _, _ :: _ :: _, _ => rfl

/-- The members of known names are the same, in whatever order and with whatever others among
them. -/
def SameFields (known : List String) (members members' : List (String × Value)) : Prop :=
  (members.filter (·.1 ∈ known)).Perm (members'.filter (·.1 ∈ known))

theorem SameFields.lookup_eq {known : List String} (h : SameFields known members members')
    (hName : name ∈ known) (decode : Value → Option α) :
    lookup name decode members = lookup name decode members' := by
  have hValues (members : List (String × Value)) :
      valuesOf name (members.filter (·.1 ∈ known)) = valuesOf name members := by
    unfold valuesOf
    rw [List.filter_filter]
    refine congrArg _ (List.filter_congr fun m _ => ?_)
    by_cases hm : m.1 = name <;> simp [hm, hName]
  have hPerm : (valuesOf name members).Perm (valuesOf name members') := by
    rw [← hValues members, ← hValues members']
    exact (h.filter _).map _
  exact atMostOne_congr hPerm

namespace Record

variable {σ β : Type}

/-- A record that is put together from two texts. Its state is made from what has been read of the
two, and nothing else. -/
structure OfTexts (r : Record σ β) (first second : String)
    (make : Option String → Option String → σ) (getFirst getSecond : σ → Option String) : Prop where
  ne : first ≠ second
  start : r.start = make none none
  make_get : ∀ st, make (getFirst st) (getSecond st) = st
  getFirst_make : ∀ a b, getFirst (make a b) = a
  getSecond_make : ∀ a b, getSecond (make a b) = b
  fields : r.fields =
    [{ name := first
       isSet := fun st => (getFirst st).isSome
       read := fun st => do return make (some (← text)) (getSecond st) },
     { name := second
       isSet := fun st => (getSecond st).isSome
       read := fun st => do return make (getFirst st) (some (← text)) }]

namespace OfTexts

variable {r : Record σ β} {first second : String} {make : Option String → Option String → σ}
  {getFirst getSecond : σ → Option String}

/-- What a member does to the state. -/
def take (first second : String) (make : Option String → Option String → σ)
    (getFirst getSecond : σ → Option String) (st : σ) (m : String × Value) : Option σ := do
  let a ← putOnce first Value.text? (getFirst st) m
  let b ← putOnce second Value.text? (getSecond st) m
  return make a b

theorem take_first (h : r.OfTexts first second make getFirst getSecond) (st : σ) (v : Value) :
    take first second make getFirst getSecond st (first, v) =
      (putOnce first Value.text? (getFirst st) (first, v)).map fun a => make a (getSecond st) := by
  have hOther : putOnce second Value.text? (getSecond st) (first, v) = some (getSecond st) :=
    putOnce_ne h.ne _
  rw [take, hOther]
  cases putOnce first Value.text? (getFirst st) (first, v) <;> rfl

theorem take_second (h : r.OfTexts first second make getFirst getSecond) (st : σ) (v : Value) :
    take first second make getFirst getSecond st (second, v) =
      (putOnce second Value.text? (getSecond st) (second, v)).map fun b =>
        make (getFirst st) b := by
  have hOther : putOnce first Value.text? (getFirst st) (second, v) = some (getFirst st) :=
    putOnce_ne h.ne.symm _
  rw [take, hOther]
  cases putOnce second Value.text? (getSecond st) (second, v) <;> rfl

theorem assigns (h : r.OfTexts first second make getFirst getSecond) :
    r.Assigns (take first second make getFirst getSecond) where
  nonempty := by simp [h.fields]
  unset := by simp [h.fields, h.start, h.getFirst_make, h.getSecond_make]
  duplicate := by
    intro field hField st v hSet
    simp only [h.fields, List.mem_cons, List.not_mem_nil, or_false] at hField
    obtain rfl | rfl := hField
    all_goals obtain ⟨s, hs⟩ := Option.isSome_iff_exists.mp hSet
    · rw [h.take_first, hs, putOnce_some]
      rfl
    · rw [h.take_second, hs, putOnce_some]
      rfl
  decodes := by
    intro field hField st hUnset
    simp only [h.fields, List.mem_cons, List.not_mem_nil, or_false] at hField
    obtain rfl | rfl := hField
    all_goals
      have hNone := Option.not_isSome_iff_eq_none.mp (ne_true_of_eq_false hUnset)
      refine (text_decodes.map _).congr fun v => ?_
    · rw [h.take_first, hNone, putOnce_none, Option.map_map]
      rfl
    · rw [h.take_second, hNone, putOnce_none, Option.map_map]
      rfl
  unknown := by
    intro name hName st v
    have hNames : first ≠ name ∧ second ≠ name := by simpa [h.fields] using hName
    unfold take
    rw [putOnce_ne hNames.1.symm, putOnce_ne hNames.2.symm]
    exact congrArg some (h.make_get st)
  apart := by
    rw [h.fields, List.pairwise_pair]
    intro st v st' hTake
    rw [h.take_first, Option.map_eq_some_iff] at hTake
    obtain ⟨a, -, rfl⟩ := hTake
    exact congrArg Option.isSome (h.getSecond_make a _)

theorem foldlM_take (h : r.OfTexts first second make getFirst getSecond)
    (members : List (String × Value)) (st : σ) :
    members.foldlM (take first second make getFirst getSecond) st = do
      let a ← members.foldlM (putOnce first Value.text?) (getFirst st)
      let b ← members.foldlM (putOnce second Value.text?) (getSecond st)
      return make a b := by
  induction members generalizing st with
  | nil => exact congrArg some (h.make_get st).symm
  | cons m members ih =>
      simp only [List.foldlM_cons, take]
      cases putOnce first Value.text? (getFirst st) m with
      | none => rfl
      | some a =>
          cases putOnce second Value.text? (getSecond st) m with
          | none => simp
          | some b =>
              refine (ih (make a b)).trans ?_
              rw [h.getFirst_make, h.getSecond_make]
              rfl

/-- Each of the two texts is looked up under its name. -/
theorem read_decodes (h : r.OfTexts first second make getFirst getSecond) (finish : σ → Option β)
    (hFinish : ∀ written st, (r.finish written st).toOption = finish st) :
    r.read.Decodes fun v => (v.members? [first, second]).bind fun members =>
      (lookup first Value.text? members).bind fun a =>
        (lookup second Value.text? members).bind fun b => finish (make a b) := by
  refine (h.assigns.read_decodes finish hFinish).congr fun v => ?_
  have hNames : r.fields.map (·.name) = [first, second] := by
    rw [h.fields]
    rfl
  rw [hNames]
  refine congrArg (v.members? _).bind (funext fun members => ?_)
  rw [h.foldlM_take, h.start, h.getFirst_make, h.getSecond_make, foldlM_putOnce, foldlM_putOnce]
  cases lookup first Value.text? members with
  | none => rfl
  | some a => cases lookup second Value.text? members <;> rfl

end OfTexts

end Record

end StartPage.Json
