import StartPage.SearchEngine

/-! Which settings are valid, and what is reported for those that are not. Of several faults the
first one is reported, in the order interval, parameter, base. -/
namespace StartPage

namespace SearchEngine

variable {base param : String} {url : Url}

theorem create_of_empty (base : String) (h : param = "") :
    create base param = .error .emptyQueryParam := dif_pos h

theorem create_of_unreadable (hParam : param ≠ "") {e : Url.ParseError}
    (hParse : Url.parse base.toList = .error e) :
    create base param = .error (.invalidSearchBase e.message) := by
  rw [create, dif_neg hParam, hParse]

theorem create_of_opaque (hParam : param ≠ "") (hParse : Url.parse base.toList = .ok url)
    (hOpaque : url.isHierarchical = false) :
    create base param = .error (.invalidSearchBase (url.text ++ " cannot carry a query")) := by
  rw [create, dif_neg hParam, hParse]
  exact dif_neg (by simp [hOpaque])

theorem create_of_hierarchical (hParam : param ≠ "") (hParse : Url.parse base.toList = .ok url)
    (hBase : url.isHierarchical = true) :
    create base param = .ok ⟨url, param, hBase, hParam⟩ := by
  rw [create, dif_neg hParam, hParse]
  exact dif_pos hBase

end SearchEngine

namespace Config

variable {c : Config} {url : Url}

theorem validate_of_zero (h : c.tickMillis = 0) : c.validate = .error .zeroTickInterval := if_pos h

theorem validate_of_build_error (hTick : c.tickMillis ≠ 0) {e : ConfigError}
    (hBuild : c.searchEngine.build = .error e) : c.validate = .error e := by
  rw [validate, if_neg hTick, hBuild]
  rfl

theorem validate_of_build (hTick : c.tickMillis ≠ 0) {engine : SearchEngine}
    (hBuild : c.searchEngine.build = .ok engine) : c.validate = .ok () := by
  rw [validate, if_neg hTick, hBuild]
  rfl

/-- What is reported for settings, by what is wrong with them. A fault counts only where none of
those before it is there. -/
structure CheckedInOrder (c : Config) : Prop where
  interval : c.tickMillis = 0 → c.validate = .error .zeroTickInterval
  parameter : c.tickMillis ≠ 0 → c.searchEngine.queryParam = "" →
    c.validate = .error .emptyQueryParam
  unreadable : c.tickMillis ≠ 0 → c.searchEngine.queryParam ≠ "" →
    ∀ e, Url.parse c.searchEngine.base.toList = .error e →
      c.validate = .error (.invalidSearchBase e.message)
  queryless : c.tickMillis ≠ 0 → c.searchEngine.queryParam ≠ "" →
    ∀ url, Url.parse c.searchEngine.base.toList = .ok url → url.isHierarchical = false →
      c.validate = .error (.invalidSearchBase (url.text ++ " cannot carry a query"))
  valid : c.tickMillis ≠ 0 → c.searchEngine.queryParam ≠ "" →
    ∀ url, Url.parse c.searchEngine.base.toList = .ok url → url.isHierarchical = true →
      c.validate = .ok ()

theorem checkedInOrder (c : Config) : c.CheckedInOrder where
  interval := validate_of_zero
  parameter hTick hParam := validate_of_build_error hTick (SearchEngine.create_of_empty _ hParam)
  unreadable hTick hParam _ hParse :=
    validate_of_build_error hTick (SearchEngine.create_of_unreadable hParam hParse)
  queryless hTick hParam _ hParse hOpaque :=
    validate_of_build_error hTick (SearchEngine.create_of_opaque hParam hParse hOpaque)
  valid hTick hParam _ hParse hBase :=
    validate_of_build hTick (SearchEngine.create_of_hierarchical hParam hParse hBase)

end Config

end StartPage
