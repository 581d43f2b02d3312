import StartPage.Page.Basic

/-! Pages are made from exactly the settings that are valid, and every page has all its
links. -/
namespace StartPage

namespace Config

theorem length_quickLinks (c : Config) : c.quickLinks.length = quickLinkSlots := by
  have hKept : (c.links.take quickLinkSlots).length ≤ quickLinkSlots := List.length_take_le ..
  simp only [quickLinks, List.length_append, List.length_replicate]
  omega

theorem quickLinks_ne_nil (c : Config) : c.quickLinks ≠ [] := by
  intro hNone
  have hLength := c.length_quickLinks
  rw [hNone] at hLength
  cases hLength

/-- Valid settings have a search engine. -/
theorem exists_build_of_validate {c : Config} (h : c.validate = .ok ()) :
    ∃ engine, c.searchEngine.build = .ok engine := by
  unfold validate at h
  split at h
  · cases h
  · cases hBuild : c.searchEngine.build with
    | error e =>
        rw [hBuild] at h
        cases h
    | ok engine => exact ⟨engine, rfl⟩

end Config

namespace Page

theorem create_of_error {c : Config} {e : ConfigError} (h : c.validate = .error e) :
    create c = (.error e, []) := by
  unfold create
  rw [h]

/-- The page of valid settings holds their engine and their effective values. -/
theorem create_of_ok {c : Config} (h : c.validate = .ok ()) :
    ∃ page, create c = (.ok page, [page.configuredEvent]) ∧ c.searchEngine.build = .ok page.engine ∧
      page.updater = ⟨c.shownName⟩ ∧ page.links = c.quickLinks ∧
        page.tickMillis = c.tickMillis := by
  obtain ⟨engine, hBuild⟩ := Config.exists_build_of_validate h
  refine ⟨{ engine, updater := ⟨c.shownName⟩, links := c.quickLinks, tickMillis := c.tickMillis },
    ?_, hBuild, rfl, rfl, rfl⟩
  unfold create
  rw [h, hBuild]

/-- Settings that have a page are valid, and the page is theirs. -/
theorem of_create {c : Config} {page : Page} (h : (create c).1 = .ok page) :
    c.validate = .ok () ∧ create c = (.ok page, [page.configuredEvent]) ∧
      c.searchEngine.build = .ok page.engine ∧
      page.updater = ⟨c.shownName⟩ ∧ page.links = c.quickLinks ∧
        page.tickMillis = c.tickMillis := by
  cases hValid : c.validate with
  | error e =>
      rw [create_of_error hValid] at h
      cases h
  | ok =>
      obtain ⟨made, hCreate, hMade⟩ := create_of_ok hValid
      rw [hCreate] at h
      cases h
      exact ⟨rfl, hCreate, hMade⟩

/-- Settings matter to a page only by their engine and their effective values. -/
theorem create_congr {c d : Config} (hBuild : d.searchEngine.build = c.searchEngine.build)
    (hName : d.shownName = c.shownName) (hLinks : d.quickLinks = c.quickLinks)
    (hTick : d.tickMillis = c.tickMillis) : create d = create c := by
  have hValid : d.validate = c.validate := by simp only [Config.validate, hTick, hBuild]
  simp only [create, hValid, hBuild, hName, hLinks, hTick]

end Page

end StartPage
