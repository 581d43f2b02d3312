import StartPage.Proofs.Browser.Registration

/-! What the documents show along a run. Elements come and go, but two selectors never
find the same element of one document, and what is found exists. -/
namespace StartPage.Browser

namespace World

/-- Whatever a selector finds exists, and no other selector finds it in that document. -/
structure Tidy (w : World) : Prop where
  exists_of_find : ∀ {document selector id}, w.find document selector = some id →
    id < w.elements.length
  eq_of_find : ∀ {document s t id}, w.find document s = some id →
    w.find document t = some id → s = t

theorem find_setDocument (w : World) (changed document : DocumentId) (selector t : Selector)
    (element : Option ElementId) :
    (w.setDocument changed ((w.document changed).place selector element)).find document t =
      if document = changed ∧ t = selector then element else w.find document t := by
  have hDocument :
      (w.setDocument changed ((w.document changed).place selector element)).find document t =
      if document = changed then ((w.document changed).place selector element).find t
        else w.find document t := by
    cases changed <;> cases document <;> rfl
  rw [hDocument, Document.find_place]
  by_cases hSame : document = changed
  · rw [if_pos hSame, hSame]
    simp only [true_and]
    rfl
  · rw [if_neg hSame, if_neg (fun hBoth => hSame hBoth.1)]

theorem elements_setDocument (w : World) (changed : DocumentId) (d : Document) :
    (w.setDocument changed d).elements = w.elements := by
  cases changed <;> rfl

namespace Tidy

variable {w w' : World}

theorem initial : Tidy World.initial where
  exists_of_find {document selector id} hFind := by
    cases document <;> cases selector <;> cases hFind <;> decide
  eq_of_find {document s t id} hFirst hSecond := by
    cases document <;> cases s <;> cases t <;> first | rfl | (cases hFirst; cases hSecond)

/-- Documents that find the same stay tidy as long as no element goes away. -/
theorem mono (h : w.Tidy)
    (hFind : ∀ document selector, w'.find document selector = w.find document selector)
    (hLength : w.elements.length ≤ w'.elements.length) : w'.Tidy where
  exists_of_find {document selector _} hFound :=
    Nat.lt_of_lt_of_le (h.exists_of_find (hFind document selector ▸ hFound)) hLength
  eq_of_find {document s t _} hFirst hSecond :=
    h.eq_of_find (hFind document s ▸ hFirst) (hFind document t ▸ hSecond)

theorem sameView (h : w.Tidy) (hView : SameView w w') : w'.Tidy :=
  h.mono hView.find (Nat.le_of_eq hView.elements.symm)

theorem remove (h : w.Tidy) (selector : Selector) (document : DocumentId) :
    (w.setDocument document ((w.document document).place selector none)).Tidy := by
  have hFind {d : DocumentId} {s : Selector} {id : ElementId}
      (hFound : (w.setDocument document ((w.document document).place selector none)).find d s =
        some id) :
      w.find d s = some id := by
    rw [find_setDocument] at hFound
    split at hFound
    · cases hFound
    · exact hFound
  refine ⟨fun hFound => ?_, fun hFirst hSecond => h.eq_of_find (hFind hFirst) (hFind hSecond)⟩
  rw [elements_setDocument]
  exact h.exists_of_find (hFind hFound)

/-- A new element has a number that no selector has found before. -/
theorem put (h : w.Tidy) (selector : Selector) (tag : String) (document : DocumentId) :
    (w.put selector tag document).Tidy := by
  have hFind {d : DocumentId} {s : Selector} {id : ElementId}
      (hFound : (w.put selector tag document).find d s = some id) :
      id = w.elements.length ∧ d = document ∧ s = selector ∨ w.find d s = some id := by
    change (w.setDocument document
      ((w.document document).place selector (some w.elements.length))).find d s =
      some id at hFound
    rw [find_setDocument] at hFound
    split at hFound
    · next hPlace => exact .inl ⟨(Option.some.inj hFound).symm, hPlace⟩
    · exact .inr hFound
  have hLength : (w.put selector tag document).elements.length = w.elements.length + 1 :=
    List.length_append
  refine ⟨fun hFound => ?_, fun hFirst hSecond => ?_⟩
  · rw [hLength]
    rcases hFind hFound with ⟨rfl, -⟩ | hOld
    · exact Nat.lt_succ_self _
    · exact Nat.lt_succ_of_lt (h.exists_of_find hOld)
  · rcases hFind hFirst with ⟨hNew, -, hPlace⟩ | hOld
    · rcases hFind hSecond with ⟨-, -, hSamePlace⟩ | hOldSecond
      · rw [hPlace, hSamePlace]
      · exact absurd hNew (Nat.ne_of_lt (h.exists_of_find hOldSecond))
    · rcases hFind hSecond with ⟨hNew, -, -⟩ | hOldSecond
      · exact absurd hNew (Nat.ne_of_lt (h.exists_of_find hOld))
      · exact h.eq_of_find hOld hOldSecond

/-- Every step leaves the documents tidy. -/
theorem next (h : w.Tidy) {l : Ledger} (hAccounts : l.Accounts w) (step : Step) :
    (w.performAfresh step).2.Tidy := by
  have hFresh : Tidy { w with calls := [], log := [] } := h.mono (fun _ _ => rfl) (Nat.le_refl _)
  cases hQuiet : step.isQuiet with
  | false =>
      obtain ⟨handle, hView⟩ := sameView_performAfresh hAccounts.registers.fresh hQuiet
      have hHeld : Tidy { w with handle, calls := [], log := [] } :=
        h.mono (fun _ _ => rfl) (Nat.le_refl _)
      exact hHeld.sameView hView
  | true =>
      cases step with
      | newHandle | init | start | destroy | free => cases hQuiet
      | key input document =>
          obtain ⟨calls, log, hPress⟩ := performAfresh_key w input document
          rw [hPress]
          exact h.mono (fun _ _ => rfl) (Nat.le_refl _)
      | fire => exact hFresh.sameView (steady_fire _).toSameView
      | setTime | breakDown | fix => exact h.mono (fun _ _ => rfl) (Nat.le_refl _)
      | type text document => exact hFresh.sameView (w.steady_type text document).toSameView
      | remove selector document => exact hFresh.remove selector document
      | put selector tag document => exact hFresh.put selector tag document

theorem after (h : w.Tidy) {l : Ledger} (hAccounts : l.Accounts w) (steps : List Step) :
    (w.after steps).Tidy := by
  induction steps generalizing l w with
  | nil => exact h
  | cons step steps ih => exact ih (h.next hAccounts step) (hAccounts.next step)

end Tidy

end World

end StartPage.Browser
