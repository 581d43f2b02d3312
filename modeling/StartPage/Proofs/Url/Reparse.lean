import StartPage.Proofs.Config.Validity
import StartPage.Proofs.Url.Written

/-! Reading an address again that has been written. A pair that is added to an address that reads as
itself gives such an address again, so its text can take the place of the one it came from. -/
namespace StartPage

namespace Url

theorem splitFirst_marked {mark : Char} {s : List Char} (h : mark ∉ s) (part : Option (List Char)) :
    Text.splitFirst mark (s ++ marked mark part) = (s, part) := by
  cases part with
  | none => rw [marked, List.append_nil, Text.splitFirst_of_not_mem h]
  | some t => exact Text.splitFirst_append h t

theorem forall_marked {p : Char → Prop} {mark : Char} {part : Option (List Char)} (hMark : p mark)
    (hPart : ∀ s, part = some s → ∀ c ∈ s, p c) : ∀ c ∈ marked mark part, p c := by
  cases part with
  | none => exact nofun
  | some s => exact List.forall_mem_cons.mpr ⟨hMark, hPart s rfl⟩

theorem trim_eq_self {s : List Char} (h : ∀ c ∈ s, 0x20 < c.toNat) : trim s = s := by
  have hKept {t : List Char} (hVisible : ∀ c ∈ t, 0x20 < c.toNat) :
      t.dropWhile (fun c => decide (c.toNat ≤ 0x20)) = t := by
    cases t with
    | nil => rfl
    | cons c t =>
        have hHead := hVisible c List.mem_cons_self
        exact List.dropWhile_cons_of_neg (by simpa using hHead)
  unfold trim
  dsimp only
  rw [hKept h, hKept fun c hMem => h c (List.mem_reverse.mp hMem), List.reverse_reverse]

theorem visible_of_isClean {c : Char} (h : isClean c = true) : 0x20 < c.toNat := by
  simp only [isClean, Bool.and_eq_true, decide_eq_true_eq] at h
  exact h.1.1

theorem Clean.not_mem {s : List Char} (h : Clean s) {mark : Char} (hMark : isClean mark = false) :
    mark ∉ s := by
  intro hMem
  rw [h mark hMem] at hMark
  cases hMark

namespace Authority

/-- Only an authority that is nothing but the sign for a user depends on the end of the address. -/
theorem read_false {kind : SchemeKind} {s : List Char} {r : Authority × List Char}
    (h : Authority.read kind true s = .ok r) :
    Authority.read kind false s = .ok r ∨
      kind.isSpecial = false ∧ s = ['@'] ∧ r = (⟨[], [], .name [], none⟩, []) := by
  by_cases hSign : s = ['@']
  · rw [hSign] at h
    cases kind with
    | file => cases h
    | network port => cases h
    | other =>
        cases h
        exact .inr ⟨rfl, hSign, rfl⟩
  · refine .inl ?_
    rw [read_eq] at h ⊢
    dsimp only at h ⊢
    have hAlone : ¬((Text.splitLast '@' (s.takeWhile (!kind.isSlash ·))).1 = some [] ∧
        (Text.splitLast '@' (s.takeWhile (!kind.isSlash ·))).2 = [] ∧
          s.dropWhile (!kind.isSlash ·) = []) := by
      rintro ⟨hUser, hBehind, hRest⟩
      have hCut := Text.eq_of_splitLast (Prod.ext hUser hBehind)
      rw [← List.takeWhile_append_dropWhile (p := (!kind.isSlash ·)) (l := s), hRest,
        List.append_nil] at hSign
      exact hSign hCut
    simp only [Bool.and_true, Bool.and_false, Bool.not_false] at h ⊢
    split at h
    · cases h
    · next hOther =>
        rw [← h]
        refine if_neg ?_
        simp only [Bool.and_eq_true, decide_eq_true_eq, Bool.not_eq_true',
          decide_eq_false_iff_not] at hOther ⊢
        rintro ⟨hUser, hBehind⟩
        exact hOther ⟨⟨hUser, hBehind⟩, fun hRest => hAlone ⟨hUser, hBehind, hRest⟩⟩

end Authority

/-- The front of an address reads the same if something is added behind the address, unless it is
an authority of nothing but the sign for a user. -/
theorem Front.read_false {kind : SchemeKind} {s : List Char} {front : Front}
    (h : Front.read kind true s = .ok front) :
    Front.read kind false s = .ok front ∨
      dropBreaks s = ['/', '/', '@'] ∧ front = ⟨some ⟨[], [], .name [], none⟩, []⟩ := by
  cases kind with
  | file => exact .inl h
  | network port =>
      unfold Front.read at h ⊢
      rcases hRead : Authority.read (.network port) true
        ((dropBreaks s).dropWhile (SchemeKind.network port).isSlash)
        with e | r
      · rw [hRead] at h
        cases h
      · rcases Authority.read_false hRead with hSame | ⟨hOther, -⟩
        · rw [hRead] at h
          rw [hSame]
          exact .inl h
        · cases hOther
  | other =>
      unfold Front.read at h ⊢
      dsimp only at h ⊢
      split at h
      · next rest hSlashes =>
          rcases hRead : Authority.read .other true rest with e | r
          · rw [hRead] at h
            cases h
          · rcases Authority.read_false hRead with hSame | ⟨-, hSign, hEmpty⟩
            · rw [hRead] at h
              rw [hSame]
              exact .inl h
            · rw [hRead, hEmpty] at h
              cases h
              exact .inr ⟨by rw [hSlashes, hSign], rfl⟩
      · exact .inl h
      · exact .inl h

/-- An address in parts is cut where the parts meet. -/
theorem parse_marked {front : List Char} {query fragment : Option (List Char)}
    (hFront : Clean front) (hQuery : ∀ q, query = some q → ∀ c ∈ q, 0x20 < c.toNat ∧ c ≠ '#')
    (hFragment : ∀ f, fragment = some f → ∀ c ∈ f, 0x20 < c.toNat) :
    parse (front ++ marked '?' query ++ marked '#' fragment) = match scheme? front with
      | none => .error .noScheme
      | some (scheme, rest) =>
        let kind := SchemeKind.ofScheme scheme
        (Front.read kind (query.isNone && fragment.isNone) rest).map fun r =>
          { scheme
            authority := r.authority
            path := r.path
            query :=
              query.map fun q => percentEncode (EncodeSet.query kind.isSpecial) (dropBreaks q)
            fragment :=
              fragment.map fun f => percentEncode EncodeSet.fragment (dropBreaks f) } := by
  have hVisible : ∀ c ∈ front ++ marked '?' query ++ marked '#' fragment, 0x20 < c.toNat := by
    refine List.forall_mem_append.mpr ⟨List.forall_mem_append.mpr ⟨?_, ?_⟩, ?_⟩
    · exact fun c hMem => visible_of_isClean (hFront c hMem)
    · exact forall_marked (by decide) fun q hSome c hMem => (hQuery q hSome c hMem).1
    · exact forall_marked (by decide) hFragment
  have hNoFragment : '#' ∉ front ++ marked '?' query := by
    rw [List.mem_append, not_or]
    refine ⟨hFront.not_mem rfl, fun hMem => ?_⟩
    have hOther : ∀ c ∈ marked '?' query, c ≠ '#' :=
      forall_marked (by decide) fun q hSome c hMem => (hQuery q hSome c hMem).2
    exact hOther '#' hMem rfl
  unfold parse
  rw [trim_eq_self hVisible, splitFirst_marked hNoFragment]
  dsimp only
  rw [splitFirst_marked (hFront.not_mem rfl)]
  dsimp only
  cases scheme? front with
  | none => rfl
  | some parts =>
      obtain ⟨scheme, rest⟩ := parts
      dsimp only
      cases Front.read _ _ rest <;> rfl

/-- What a scheme stands in front of begins behind its colon. -/
theorem rest_of_scheme? {scheme found rest t : List Char} (hScheme : ':' ∉ scheme)
    (h : scheme? (scheme ++ ':' :: t) = some (found, rest)) : rest = t := by
  unfold scheme? at h
  rw [Text.splitFirst_append hScheme] at h
  dsimp only at h
  split at h
  · next _ _ _ _ hRest =>
      split at h
      · cases h
        exact (Option.some.inj hRest).symm
      · cases h
  · cases h

/-- What a written address is read as in front of its query does not depend on there being one. The
sign for a user is never written alone. -/
theorem read_frontChars {u : Url} {kind : SchemeKind} {atEnd : Bool} {scheme rest : List Char}
    (hColon : ':' ∉ u.scheme) (hScheme : scheme? u.frontChars = some (scheme, rest))
    (hRead : Front.read kind atEnd rest = .ok ⟨u.authority, u.path⟩) :
    Front.read kind false rest = .ok ⟨u.authority, u.path⟩ := by
  cases atEnd with
  | false => exact hRead
  | true =>
      rcases Front.read_false hRead with hSame | ⟨hSign, hEmpty⟩
      · exact hSame
      · obtain ⟨hAuthority, hPath⟩ := Front.mk.inj hEmpty
        have hWritten : u.frontChars = u.scheme ++ ':' :: ['/', '/'] := by
          rw [frontChars, hAuthority, hPath]
          rfl
        rw [hWritten] at hScheme
        rw [rest_of_scheme? hColon hScheme] at hSign
        exact absurd hSign (by decide)

/-- An added pair does not have to be encoded again. -/
theorem outside_append {special : Bool} {query : Option (List Char)}
    (hQuery : ∀ q, query = some q → ∀ c ∈ q, EncodeSet.query special c = false)
    (name value : String) :
    ∀ c ∈ Form.append query name value, EncodeSet.query special c = false := by
  have hEncode (s : String) : ∀ c ∈ Form.encode s, EncodeSet.query special c = false :=
    fun c hMem => outside_query_of_isWritten c (Form.isWritten_of_mem_encode hMem)
  have hPair : ∀ c ∈ Form.pair name value, EncodeSet.query special c = false := by
    refine List.forall_mem_append.mpr ⟨hEncode name, List.forall_mem_cons.mpr ⟨?_, hEncode value⟩⟩
    cases special <;> rfl
  cases query with
  | none => exact hPair
  | some q =>
      cases q with
      | nil => exact hPair
      | cons c q =>
          refine List.forall_mem_append.mpr ⟨hQuery _ rfl, List.forall_mem_cons.mpr ⟨?_, hPair⟩⟩
          cases special <;> rfl

/-- An address that reads as itself still does so with one more pair. -/
theorem parse_appendPair {u : Url} (hHierarchical : u.isHierarchical = true)
    (h : parse u.chars = .ok u) (name value : String) :
    parse (u.appendPair name value).chars = .ok (u.appendPair name value) := by
  have hWritten : Written u := gives_parse u.chars u h
  have hFront : Clean u.frontChars := hWritten.front hHierarchical
  have hQuery : ∀ q, u.query = some q → ∀ c ∈ q, 0x20 < c.toNat ∧ c ≠ '#' :=
    fun q hSome c hMem => EncodeSet.visible_of_query (hWritten.query q hSome c hMem)
  have hFragment : ∀ f, u.fragment = some f → ∀ c ∈ f, 0x20 < c.toNat :=
    fun f hSome c hMem => EncodeSet.visible_of_fragment (hWritten.fragment f hSome c hMem)
  have hAppended := outside_append hWritten.query name value
  change parse (u.frontChars ++ marked '?' u.query ++ marked '#' u.fragment) = _ at h
  change parse (u.frontChars ++ marked '?' (some (Form.append u.query name value)) ++
    marked '#' u.fragment) = _
  rw [parse_marked hFront hQuery hFragment] at h
  rw [parse_marked hFront ?_ hFragment]
  · cases hScheme : scheme? u.frontChars with
    | none =>
        rw [hScheme] at h
        cases h
    | some parts =>
        obtain ⟨scheme, rest⟩ := parts
        rw [hScheme] at h
        dsimp only at h ⊢
        cases hRead : Front.read (.ofScheme scheme) (u.query.isNone && u.fragment.isNone) rest with
        | error e =>
            rw [hRead] at h
            cases h
        | ok front =>
            rw [hRead] at h
            have hSame := Except.ok.inj h
            have hKind : scheme = u.scheme := congrArg Url.scheme hSame
            have hPlace : front = ⟨u.authority, u.path⟩ := by rw [← hSame]
            have hKept :
                u.fragment.map (fun f => percentEncode EncodeSet.fragment (dropBreaks f)) =
                u.fragment :=
              congrArg Url.fragment hSame
            rw [hKind] at hRead ⊢
            rw [hPlace] at hRead
            have hAgain := read_frontChars hWritten.scheme.2 hScheme hRead
            rw [Option.isNone_some, Bool.false_and, hAgain, hKept, Option.map_some,
              percentEncode_dropBreaks (fun _ => EncodeSet.query_of_controls) hAppended]
            rfl
  · rintro _ ⟨⟩ c hMem
    exact EncodeSet.visible_of_query (hAppended c hMem)

end Url

namespace SearchEngine

open Url

/-- One search after another, each with an engine that is made from the address the last one led to
and from a parameter of its own. -/
def searchAll (base : String) (searches : List (String × String)) : Except ConfigError String :=
  searches.foldlM
    (fun base search => (create base search.1).map fun e => (e.redirectUrl search.2).text) base

/-- An address that can carry a query and reads as itself. -/
structure Stable (u : Url) : Prop where
  hierarchical : u.isHierarchical = true
  parse_text : Url.parse u.text.toList = .ok u

theorem Stable.appendPair {u : Url} (h : Stable u) (name value : String) :
    Stable (u.appendPair name value) where
  hierarchical := h.hierarchical
  parse_text := by
    have hParse := h.parse_text
    rw [Url.text, String.toList_ofList] at hParse ⊢
    exact parse_appendPair h.hierarchical hParse name value

/-- The second address is the first one with more pairs in its query. -/
structure Extends (u v : Url) (pairs : List (String × String)) : Prop where
  scheme : v.scheme = u.scheme
  authority : v.authority = u.authority
  path : v.path = u.path
  fragment : v.fragment = u.fragment
  queryPairs : v.queryPairs = u.queryPairs ++ pairs

/-- Searches never fail one after another, and each adds its pair to what the ones before it have
left. -/
theorem exists_searchAll {base : String} {u : Url} (hBase : Url.parse base.toList = .ok u)
    (hStable : Stable u) {searches : List (String × String)}
    (hParams : ∀ search ∈ searches, search.1 ≠ "") :
    ∃ last v, searchAll base searches = .ok last ∧ (searches ≠ [] → last = v.text) ∧
      Url.parse last.toList = .ok v ∧ Extends u v searches := by
  induction searches generalizing base u with
  | nil => exact ⟨base, u, rfl, fun hSome => absurd rfl hSome, hBase, rfl, rfl, rfl, rfl,
      (List.append_nil _).symm⟩
  | cons search searches ih =>
      obtain ⟨hParam, hLater⟩ := List.forall_mem_cons.mp hParams
      have hCreate := create_of_hierarchical hParam hBase hStable.hierarchical
      have hNext := hStable.appendPair search.1 search.2
      obtain ⟨last, v, hLast, hText, hParse, hExtends⟩ := ih hNext.parse_text hNext hLater
      refine ⟨last, v, ?_, fun _ => ?_, hParse, hExtends.scheme, hExtends.authority, hExtends.path,
        hExtends.fragment, ?_⟩
      · rw [searchAll, List.foldlM_cons, hCreate]
        exact hLast
      · cases searches with
        | cons => exact hText (List.cons_ne_nil _ _)
        | nil =>
            cases hLast
            rw [← Except.ok.inj (hNext.parse_text.symm.trans hParse)]
      · rw [hExtends.queryPairs, queryPairs_appendPair, List.append_assoc]
        rfl

/-- If the base of an engine reads as itself, so does every redirect, and it can be a base in its
turn. However many searches follow one another in this way, the last address is the first base
with all their pairs. -/
theorem redirectUrl_reparses {base param : String} {e : SearchEngine}
    (h : create base param = .ok e) (hStable : Url.parse e.base.text.toList = .ok e.base) :
    (∀ text, Url.parse (e.redirectUrl text).text.toList = .ok (e.redirectUrl text)) ∧
    (∀ text next, next ≠ "" → ∃ e', create (e.redirectUrl text).text next = .ok e' ∧
      e'.base = e.redirectUrl text ∧ e'.param = next) ∧
    ∀ searches : List (String × String), (∀ search ∈ searches, search.1 ≠ "") →
      ∃ last v, searchAll base searches = .ok last ∧ (searches ≠ [] → last = v.text) ∧
        Url.parse last.toList = .ok v ∧ v.scheme = e.base.scheme ∧ v.authority = e.base.authority ∧
        v.path = e.base.path ∧ v.fragment = e.base.fragment ∧
          v.queryPairs = e.base.queryPairs ++ searches := by
  have hBase : Stable e.base := ⟨e.base_hierarchical, hStable⟩
  have hRedirect (text : String) : Stable (e.redirectUrl text) := hBase.appendPair e.param text
  refine ⟨fun text => (hRedirect text).parse_text, fun text next hNext => ?_,
    fun searches hParams => ?_⟩
  · have hCreate :=
      create_of_hierarchical hNext (hRedirect text).parse_text (hRedirect text).hierarchical
    exact ⟨_, hCreate, rfl, rfl⟩
  · obtain ⟨last, v, hLast, hText, hParse, hExtends⟩ :=
      exists_searchAll (eq_of_create h).1 hBase hParams
    exact ⟨last, v, hLast, hText, hParse, hExtends.scheme, hExtends.authority, hExtends.path,
      hExtends.fragment, hExtends.queryPairs⟩

/-- A base that is not in normal form, and two searches full of marks. -/
theorem redirectUrl_reparses_marks :
    ∃ e, create "HTTP://H:80/?x'y#f f" "q" = .ok e ∧
      Url.parse (e.redirectUrl "#'&").text.toList = .ok (e.redirectUrl "#'&") ∧
      ∃ last v, searchAll "HTTP://H:80/?x'y#f f" [("q", "#'&"), ("'", " +")] = .ok last ∧
        Url.parse last.toList = .ok v ∧ v.fragment = some "f%20f".toList ∧
        v.queryPairs = e.base.queryPairs ++ [("q", "#'&"), ("'", " +")] := by
  have hCreate : create "HTTP://H:80/?x'y#f f" "q" = .ok
      ⟨{ scheme := "http".toList, authority := some { host := .name ['h'] }, path := ['/'],
         query := some "x%27y".toList, fragment := some "f%20f".toList }, "q",
           rfl, by decide⟩ := by decide +kernel
  obtain ⟨hParse, -, hAll⟩ := redirectUrl_reparses hCreate (by decide +kernel)
  obtain ⟨last, v, hLast, -, hLastParse, -, -, -, hFragment, hPairs⟩ :=
    hAll [("q", "#'&"), ("'", " +")] (by decide)
  exact ⟨_, hCreate, hParse _, last, v, hLast, hLastParse, hFragment, hPairs⟩

end SearchEngine

end StartPage
