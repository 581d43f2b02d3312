import StartPage.Proofs.Greeting
import StartPage.Proofs.Page.Basic
import StartPage.Proofs.Text.Blank

/-! The name that a page greets. It is the name of the settings without the blanks around it, or a
name that stands in for one that is all blank. So blanks around the name make no difference to a
page. -/
namespace StartPage

namespace Config

variable {c d : Config}

theorem bare_defaultName : Text.Bare Greeting.defaultName.toList where
  first := by
    rintro c ⟨⟩
    rfl
  last := by
    rintro c ⟨⟩
    rfl

theorem bare_shownName (c : Config) : Text.Bare c.shownName.toList ∧ c.shownName.toList ≠ [] := by
  unfold shownName
  split
  · exact ⟨bare_defaultName, by decide⟩
  · next hSome =>
      rw [String.toList_ofList]
      exact ⟨Text.bare_trim _, hSome⟩

/-- A name that is not empty and has no blanks around it is shown as it is. -/
theorem shownName_eq_self (hBare : Text.Bare c.displayName.toList)
    (hSome : c.displayName.toList ≠ []) :
    c.shownName = c.displayName := by
  unfold shownName
  rw [hBare.trim_eq]
  split
  · next hNone => exact absurd hNone hSome
  · exact String.ofList_toList

theorem shownName_of_blank (h : Text.Blank c.displayName.toList) :
    c.shownName = Greeting.defaultName := by
  rw [shownName, Text.trim_eq_nil_iff.mpr h]

/-- Nothing but blanks is taken off a name, and only at its ends. -/
theorem padded_shownName (h : ¬Text.Blank c.displayName.toList) :
    Text.Padded c.shownName.toList c.displayName.toList := by
  unfold shownName
  split
  · next hNone => exact absurd (Text.trim_eq_nil_iff.mp hNone) h
  · rw [String.toList_ofList]
    exact Text.padded_trim _

/-- The settings differ at most in the blanks around their names. -/
structure SameButPadding (c d : Config) : Prop where
  name : ∃ core, Text.Padded core c.displayName.toList ∧ Text.Padded core d.displayName.toList
  others : d = { c with displayName := d.displayName }

theorem SameButPadding.shownName_eq (h : c.SameButPadding d) : d.shownName = c.shownName := by
  obtain ⟨core, hC, hD⟩ := h.name
  rw [shownName, shownName, hC.trim_eq, hD.trim_eq]

theorem SameButPadding.create_eq (h : c.SameButPadding d) : Page.create d = Page.create c := by
  have hName := h.shownName_eq
  obtain ⟨-, hOthers⟩ := h
  rw [hOthers] at hName ⊢
  exact Page.create_congr rfl hName rfl rfl

end Config

namespace Page

/-- Every page of valid settings greets a name, which is logged when the page is made. The name is
not empty and has no blanks at its ends; it is the name of the settings but for the blanks around
it, unless that is all blank. Settings that differ in such blanks alone have the same page and the
same log. -/
theorem greets_name {c : Config} (hValid : c.validate = .ok ()) :
    ∃ page name, create c = (.ok page, [.configured name page.engine.base.text c.tickMillis]) ∧
      (∀ clock surface,
        let shown := page.tick clock surface
        shown.frame = ClockFrame.render clock.now name ∧ shown.frame.Tells clock.now.total ∧
          shown.frame.title = "Good " ++ shown.frame.greeting.label ++ ", " ++ name ∧
          shown.surface.title = some shown.frame.title) ∧
      name ≠ "" ∧ Text.Bare name.toList ∧
      (Text.Blank c.displayName.toList → name = "Unknown") ∧
      (¬Text.Blank c.displayName.toList → Text.Padded name.toList c.displayName.toList) ∧
      ∀ d, c.SameButPadding d → d.validate = .ok () ∧ create d = create c := by
  obtain ⟨page, hCreate, -, hUpdater, -, hTick⟩ := create_of_ok hValid
  obtain ⟨hBare, hSome⟩ := c.bare_shownName
  have hName : page.displayName = c.shownName := congrArg ClockUpdater.displayName hUpdater
  rw [configuredEvent, hName, hTick] at hCreate
  refine ⟨page, c.shownName, hCreate, fun clock surface => ?_,
    fun hNone => hSome (by rw [hNone]; rfl), hBare,
    Config.shownName_of_blank, Config.padded_shownName, fun d hSame => ?_⟩
  · have hFrame : (page.tick clock surface).frame = ClockFrame.render clock.now c.shownName :=
      congrArg (ClockFrame.render clock.now) hName
    exact ⟨hFrame, hFrame ▸ ClockFrame.tells_render .., hFrame ▸ rfl, rfl⟩
  · have hSamePage := hSame.create_eq
    exact ⟨(of_create (hSamePage ▸ congrArg Prod.fst hCreate)).1, hSamePage⟩

/-- A name with a blank inside it and blanks around it, some of them others than the space. -/
theorem greets_name_padded :
    let c : Config := { displayName := "\u3000 Ada\u00a0B\n" }
    let d : Config := { displayName := "\tAda\u00a0B" }
    c.validate = .ok () ∧ c.SameButPadding d ∧
    ∃ page, create c = (.ok page, [.configured "Ada\u00a0B" page.engine.base.text 1000]) ∧
      create d = create c ∧
      ∀ surface, (page.tick ⟨⟨18, 59, 59⟩⟩ surface).frame.title = "Good Afternoon, Ada\u00a0B" := by
  intro c d
  have hValid : c.validate = .ok () := by decide +kernel
  have hC : Text.trim c.displayName.toList = "Ada\u00a0B".toList := by decide
  have hD : Text.trim d.displayName.toList = "Ada\u00a0B".toList := by decide
  have hSame : c.SameButPadding d := ⟨⟨_, hC ▸ Text.padded_trim _, hD ▸ Text.padded_trim _⟩, rfl⟩
  obtain ⟨page, name, hCreate, hShown, -, hBare, -, hPadded, hOthers⟩ := greets_name hValid
  have hTrim : Text.trim c.displayName.toList = name.toList := (hPadded (by decide)).eq_trim hBare
  have hName : name = "Ada\u00a0B" := String.toList_inj.mp (hTrim.symm.trans hC)
  rw [hName] at hCreate hShown
  refine ⟨hValid, hSame, page, hCreate, (hOthers d hSame).2, fun surface => ?_⟩
  rw [(hShown _ surface).1]
  decide

end Page

end StartPage
