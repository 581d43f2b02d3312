import StartPage.Json.Record
import StartPage.Proofs.Json.Reads

/-! Records that are read from the objects that the printer writes. What a record
is put together from is followed member by member: each member sets one field that
has not been set before. -/
namespace StartPage.Json.Record

variable {α σ : Type} {r : Record σ α}

/-- A member with the given name and the text of its value takes a record from one
state to the next. -/
def Sets (r : Record σ α) (st : σ) (name : String) (value : List Char) (st' : σ) : Prop :=
  ∃ field, r.fields.find? (·.name == name) = some field ∧ field.isSet st = false ∧
    (field.read st).Reads value st'

/-- Members that are read in turn take a record from one state to another. -/
inductive Fills (r : Record σ α) : σ → List (String × List Char) → σ → Prop where
  | nil (st : σ) : Fills r st [] st
  | cons {st middle st' : σ} {name : String} {value : List Char}
    {members : List (String × List Char)}
      (hFirst : r.Sets st name value middle) (hRest : Fills r middle members st') :
      Fills r st ((name, value) :: members) st'

/-- The text of a member. -/
def memberChars (m : String × List Char) : List Char := Printer.member m.1 m.2

theorem run_member {st st' : σ} {name : String} {value rest : List Char}
    (h : r.Sets st name value st') (hRest : Closed rest) :
    (r.member st).run (name.toList.flatMap Printer.char ++ '\"' :: ':' :: (value ++ rest)) =
      .ok (st', rest) := by
  obtain ⟨field, hField, hUnset, hRead⟩ := h
  have hName := run_stringBody (Printer.spellsAll_flatMap_char name.toList) (':' :: (value ++ rest))
  have hColon : colon.run (':' :: (value ++ rest)) = .ok ((), value ++ rest) := rfl
  rw [member, Reader.run_bind_ok hName, String.ofList_toList]
  simp only [hField, hUnset]
  exact (Reader.run_bind_ok hColon).trans (hRead rest hRest)

theorem memberChars_append (name : String) (value rest : List Char) :
    memberChars (name, value) ++ rest =
      '\"' :: (name.toList.flatMap Printer.char ++ '\"' :: ':' :: (value ++ rest)) := by
  simp [memberChars, Printer.member, Printer.text, Printer.string]

/-- What follows a member is a comma or the closing brace. -/
theorem closed_members (members : List (String × List Char)) (rest : List Char) :
    Closed (members.flatMap (fun m => ',' :: memberChars m) ++ '\x7d' :: rest) := by
  cases members with
  | nil => exact closed_cons rfl rest
  | cons m members => exact closed_cons rfl _

theorem run_memberSteps {st st' : σ} {members : List (String × List Char)}
    (h : r.Fills st members st') (rest : List Char) :
    (Reader.iterate r.memberStep r.memberStep_progresses st).run
      (members.flatMap (fun m => ',' :: memberChars m) ++ '\x7d' :: rest) = .ok (st', rest) := by
  induction h with
  | nil st => exact Reader.run_iterate_inr rfl
  | @cons st middle st' name value members hFirst hRest ih =>
      have hStep : (r.memberStep st).run (',' :: (memberChars (name, value) ++
          (members.flatMap (fun m => ',' :: memberChars m) ++ '\x7d' :: rest))) =
          .ok (.inl middle, members.flatMap (fun m => ',' :: memberChars m) ++ '\x7d' :: rest) := by
        rw [memberStep, Reader.run_bind_ok (Reader.run_space (by simp; decide)),
          Reader.run_onChar_some rfl, memberChars_append,
          Reader.run_bind_ok (Reader.run_space (by simp; decide)), Reader.run_onChar_some rfl,
          Reader.run_bind_ok (run_member hFirst (closed_members members rest))]
        rfl
      rw [List.flatMap_cons, List.append_assoc, List.cons_append, Reader.run_iterate_inl hStep, ih]

theorem object_append (m : String × List Char) (members : List (String × List Char))
    (rest : List Char) :
    Printer.object ((m :: members).map memberChars) ++ rest =
      '\x7b' ::
        (memberChars m ++ (members.flatMap (fun m => ',' :: memberChars m) ++ '\x7d' :: rest)) := by
  simp [Printer.object, commas_cons, List.flatMap_map]

/-- An object is read as the record that its members amount to. -/
theorem read_reads {m : String × List Char} {members : List (String × List Char)} {st : σ} {a : α}
    (h : r.Fills r.start (m :: members) st) (hFinish : r.finish .object st = .ok a) :
    r.read.Reads (Printer.object ((m :: members).map memberChars)) a := by
  intro rest _
  cases h with
  | @cons _ middle _ name value _ hFirst hRest =>
      have hMembers : r.members.run (memberChars (name, value) ++
          (members.flatMap (fun m => ',' :: memberChars m) ++ '\x7d' :: rest)) =
            .ok (st, rest) := by
        rw [Record.members, memberChars_append,
          Reader.run_bind_ok (Reader.run_space (by simp; decide)), Reader.run_onChar_some rfl,
          Reader.run_bind_ok (run_member hFirst (closed_members members rest)),
          run_memberSteps hRest]
      rw [object_append, read, Reader.run_bind_ok (Reader.run_space (by simp; decide)),
        Reader.run_onChar_some rfl, Reader.run_bind_ok hMembers, conclude, hFinish]
      rfl

end StartPage.Json.Record
