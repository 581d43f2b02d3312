import Mathlib.Data.List.Basic
import StartPage.Proofs.Url.Form
import StartPage.SearchEngine

/-! What a search engine makes of a text. The address of the results carries the
pairs of the base and the text behind them. -/
namespace StartPage.SearchEngine

/-- An engine that is made from a base and a parameter has the address that the
base denotes, and the parameter as it was given. -/
theorem eq_of_create {base param : String} {e : SearchEngine} (h : create base param = .ok e) :
    Url.parse base.toList = .ok e.base ∧ e.param = param := by
  unfold create at h
  split at h
  · cases h
  · split at h
    · cases h
    · next url hParse =>
        split at h
        · cases h
          exact ⟨hParse, rfl⟩
        · cases h

/-- The pairs in the query of a redirect are those of the base in their order, and
behind them the parameter with the text. Both are read back as they were given. -/
theorem queryPairs_redirectUrl {base param : String} {e : SearchEngine}
    (h : create base param = .ok e) (text : String) :
    ∃ url, Url.parse base.toList = .ok url ∧
      (e.redirectUrl text).queryPairs = url.queryPairs ++ [(param, text)] := by
  obtain ⟨hParse, rfl⟩ := eq_of_create h
  exact ⟨e.base, hParse, Url.queryPairs_appendPair e.base e.param text⟩

/-- A base with an escape that is none, an empty last stretch and a fragment. -/
theorem queryPairs_redirectUrl_malformed :
    ∃ e, create "http://h/?a=%zz&#f" "q&" = .ok e ∧
      ∃ url, Url.parse "http://h/?a=%zz&#f".toList = .ok url ∧
        (e.redirectUrl "=\u00e9 +").queryPairs = url.queryPairs ++ [("q&", "=\u00e9 +")] := by
  have h : create "http://h/?a=%zz&#f" "q&" = .ok
      ⟨{ scheme := "http".toList, authority := some { host := .name ['h'] }, path := ['/'],
         query := some "a=%zz&".toList, fragment := some ['f'] }, "q&",
           rfl, by decide⟩ := by decide +kernel
  exact ⟨_, h, queryPairs_redirectUrl h "=\u00e9 +"⟩

end StartPage.SearchEngine
