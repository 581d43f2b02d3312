import StartPage.Config.Text
import StartPage.Proofs.Json.Members
import StartPage.Proofs.Text.Blank

/-! What a JSON text means as settings. The meaning is told of the value that the text denotes,
so it is the same for all texts of one value. -/
namespace StartPage

open Json Json.Reader

/-- What the members of an object for a search engine amount to. -/
def EngineConfig.ofMembers (members : List (String × Value)) : Option EngineConfig := do
  let base ← lookup "base" Value.text? members
  let queryParam ← lookup "queryParam" Value.text? members
  return { base := base.getD default.base, queryParam := queryParam.getD default.queryParam }

/-- The names of the fields of a search engine. -/
def EngineConfig.names : List String := ["base", "queryParam"]

def EngineConfig.ofValue (v : Value) : Option EngineConfig := (v.members? names).bind ofMembers

/-- What the members of an object for a link amount to. Both fields are needed. -/
def QuickLink.ofMembers (members : List (String × Value)) : Option QuickLink := do
  let name ← lookup "name" Value.text? members
  let url ← lookup "url" Value.text? members
  return { name := ← name, url := ← url }

/-- The names of the fields of a link. -/
def QuickLink.names : List String := ["name", "url"]

def QuickLink.ofValue (v : Value) : Option QuickLink := (v.members? names).bind ofMembers

def Config.linksOfValue (v : Value) : Option (List QuickLink) :=
  v.items?.bind (List.mapM QuickLink.ofValue)

/-- The names of the settings. -/
def Config.names : List String := ["displayName", "searchEngine", "tickMillis", "links"]

/-- What the members of an object for settings amount to. -/
def Config.ofMembers (members : List (String × Value)) : Option Config := do
  let displayName ← lookup "displayName" Value.text? members
  let searchEngine ← lookup "searchEngine" EngineConfig.ofValue members
  let tickMillis ← lookup "tickMillis" Value.word? members
  let links ← lookup "links" linksOfValue members
  return {
    displayName := displayName.getD default.displayName
    searchEngine := searchEngine.getD default.searchEngine
    tickMillis := tickMillis.getD default.tickMillis
    links := links.getD default.links }

def Config.ofValue : Value → Option Config
  | .null => some default
  | v => (v.members? names).bind ofMembers

namespace EngineConfig

theorem ofMembers_congr {members members' : List (String × Value)}
    (h : SameFields names members members') :
    ofMembers members = ofMembers members' := by
  unfold ofMembers
  rw [h.lookup_eq (by decide), h.lookup_eq (by decide)]

theorem record_ofTexts :
    record.OfTexts "base" "queryParam" Draft.mk Draft.base Draft.queryParam where
  ne := by decide
  start := rfl
  make_get _ := rfl
  getFirst_make _ _ := rfl
  getSecond_make _ _ := rfl
  fields := rfl

theorem reader_decodes : reader.Decodes ofValue :=
  record_ofTexts.read_decodes (fun d => some d.complete) fun _ _ => rfl

end EngineConfig

namespace QuickLink

theorem ofMembers_congr {members members' : List (String × Value)}
    (h : SameFields names members members') :
    ofMembers members = ofMembers members' := by
  unfold ofMembers
  rw [h.lookup_eq (by decide), h.lookup_eq (by decide)]

theorem record_ofTexts : record.OfTexts "name" "url" Draft.mk Draft.name Draft.url where
  ne := by decide
  start := rfl
  make_get _ := rfl
  getFirst_make _ _ := rfl
  getSecond_make _ _ := rfl
  fields := rfl

/-- The link of a draft in which nothing is missing. -/
def Draft.link? (d : Draft) : Option QuickLink := do return { name := ← d.name, url := ← d.url }

theorem Draft.toOption_finish (written : Written) (d : Draft) :
    (d.finish written).toOption = d.link? := by
  obtain ⟨_ | name, _ | url⟩ := d <;> cases written <;> rfl

theorem reader_decodes : reader.Decodes ofValue :=
  record_ofTexts.read_decodes Draft.link? Draft.toOption_finish

end QuickLink

namespace Config

theorem ofMembers_congr {members members' : List (String × Value)}
    (h : SameFields names members members') :
    ofMembers members = ofMembers members' := by
  unfold ofMembers
  rw [h.lookup_eq (by decide), h.lookup_eq (by decide), h.lookup_eq (by decide),
    h.lookup_eq (by decide)]

/-- What a member does to the fields of settings. -/
def Draft.take (d : Draft) (m : String × Value) : Option Draft := do
  let displayName ← putOnce "displayName" Value.text? d.displayName m
  let searchEngine ← putOnce "searchEngine" EngineConfig.ofValue d.searchEngine m
  let tickMillis ← putOnce "tickMillis" Value.word? d.tickMillis m
  let links ← putOnce "links" linksOfValue d.links m
  return { displayName, searchEngine, tickMillis, links }

theorem Draft.of_take {d d' : Draft} {m : String × Value} (h : d.take m = some d') :
    putOnce "displayName" Value.text? d.displayName m = some d'.displayName ∧
    putOnce "searchEngine" EngineConfig.ofValue d.searchEngine m = some d'.searchEngine ∧
    putOnce "tickMillis" Value.word? d.tickMillis m = some d'.tickMillis ∧
    putOnce "links" linksOfValue d.links m = some d'.links := by
  simp only [take, bind, Option.bind_eq_some_iff, pure, Option.some.injEq] at h
  obtain ⟨displayName, hName, searchEngine, hEngine, tickMillis, hTick, links, hLinks, rfl⟩ := h
  exact ⟨hName, hEngine, hTick, hLinks⟩

theorem Draft.foldlM_take (d : Draft) (members : List (String × Value)) :
    members.foldlM take d = do
      let displayName ← members.foldlM (putOnce "displayName" Value.text?) d.displayName
      let searchEngine ← members.foldlM (putOnce "searchEngine" EngineConfig.ofValue) d.searchEngine
      let tickMillis ← members.foldlM (putOnce "tickMillis" Value.word?) d.tickMillis
      let links ← members.foldlM (putOnce "links" linksOfValue) d.links
      return { displayName, searchEngine, tickMillis, links } := by
  induction members generalizing d with
  | nil => rfl
  | cons m members ih =>
      simp only [List.foldlM_cons, take]
      cases putOnce "displayName" Value.text? d.displayName m with
      | none => rfl
      | some displayName =>
          cases putOnce "searchEngine" EngineConfig.ofValue d.searchEngine m with
          | none => simp
          | some searchEngine =>
              cases putOnce "tickMillis" Value.word? d.tickMillis m with
              | none => simp
              | some tickMillis =>
                  cases putOnce "links" linksOfValue d.links m with
                  | none => simp
                  | some links => exact ih { displayName, searchEngine, tickMillis, links }

theorem assigns_take : record.Assigns Draft.take where
  nonempty := by simp [record]
  unset := by simp [record]
  duplicate := by
    intro field hField st v hSet
    simp only [record, List.mem_cons, List.not_mem_nil, or_false] at hField
    obtain rfl | rfl | rfl | rfl := hField
    all_goals
      obtain ⟨s, hs⟩ := Option.isSome_iff_exists.mp hSet
      simp [Draft.take, hs]
  decodes := by
    intro field hField st hUnset
    simp only [record, List.mem_cons, List.not_mem_nil, or_false] at hField
    obtain rfl | rfl | rfl | rfl := hField
    all_goals have hNone := Option.not_isSome_iff_eq_none.mp (ne_true_of_eq_false hUnset)
    · refine (text_decodes.map _).congr fun v => ?_
      cases hValue : v.text? <;> simp [Draft.take, hNone, hValue]
    · refine (EngineConfig.reader_decodes.map _).congr fun v => ?_
      cases hValue : EngineConfig.ofValue v <;> simp [Draft.take, hNone, hValue]
    · refine (word_decodes.map _).congr fun v => ?_
      cases hValue : v.word? <;> simp [Draft.take, hNone, hValue]
    · have hLinks : (list QuickLink.reader).Decodes linksOfValue :=
        list_decodes QuickLink.reader_decodes
      refine (hLinks.map _).congr fun v => ?_
      cases hValue : linksOfValue v <;> simp [Draft.take, hNone, hValue]
  unknown := by
    intro name hName st v
    have hNames : name ≠ "displayName" ∧ name ≠ "searchEngine" ∧ name ≠ "tickMillis" ∧
        name ≠ "links" := by
      simpa [record, eq_comm] using hName
    simp [Draft.take, hNames]
  apart := by
    simp only [record, List.pairwise_cons, List.mem_cons, List.not_mem_nil, or_false,
      forall_eq_or_imp, forall_eq]
    refine ⟨⟨?_, ?_, ?_⟩, ⟨?_, ?_⟩, ?_, ?_, ?_⟩
    rotate_right 2
    · simp
    · exact .nil
    -- For each pair, a member of the first name leaves the field of the second one alone.
    all_goals
      intro st v st' hTake
      have hFields := Draft.of_take hTake
      simp at hFields
      simp [hFields]

theorem reader_decodes : reader.Decodes fun v => (v.members? names).bind ofMembers := by
  refine (assigns_take.read_decodes (fun d => some d.complete) fun _ _ => rfl).congr fun v => ?_
  refine congrArg (v.members? _).bind (funext fun members => ?_)
  rw [show record.start = {} from rfl, Draft.foldlM_take, foldlM_putOnce,
    foldlM_putOnce, foldlM_putOnce, foldlM_putOnce, ofMembers]
  cases lookup "displayName" Value.text? members with
  | none => rfl
  | some displayName =>
      cases lookup "searchEngine" EngineConfig.ofValue members with
      | none => rfl
      | some searchEngine =>
          cases lookup "tickMillis" Value.word? members with
          | none => rfl
          | some tickMillis => cases lookup "links" linksOfValue members <;> rfl

theorem trim_item {text : List Char} {v : Value} (h : Denotes text (.item v)) :
    Denotes (Text.trim text) (.value v) := by
  cases h with
  | @item before core after _ hBefore hCore hAfter =>
      have hBlank : ∀ c, Reader.isSpace c = true → Text.isBlank c = true := by
        intro c hSpace
        simp only [Reader.isSpace, Bool.or_eq_true, decide_eq_true_eq] at hSpace
        obtain ((rfl | rfl) | rfl) | rfl := hSpace <;> rfl
      have hPadded : Text.Padded core (before ++ core ++ after) :=
        .intro (fun c hMem => hBlank c (hBefore c hMem)) (fun c hMem => hBlank c (hAfter c hMem))
      have hBare : Text.Bare core := by
        constructor
        · intro c hFirst
          obtain ⟨d, s, rfl, hBegins⟩ := hCore.exists_begins
          obtain rfl : d = c := Option.some.inj hFirst
          have hEdge : (!Text.isBlank d) = true :=
            hBegins.of_all (p := fun c => !Text.isBlank c) (by decide)
          simpa using hEdge
        · intro c hLast
          obtain ⟨d, hMem, hCloser⟩ := hCore.getLast?_mem
          obtain rfl : d = c := Option.some.inj (hCloser.symm.trans hLast)
          have hAll : closers.all (fun c => !Text.isBlank c) = true := by decide
          simpa using List.all_eq_true.mp hAll d hMem
      rw [hPadded.eq_trim hBare]
      exact hCore

/-- A text is read as the settings that its value means, and it is refused if the value means
none. -/
theorem ofText_of_denotes {text : String} {v : Value} (h : Denotes text.toList (.item v)) :
    match ofValue v with
    | some c => ofText text = .ok c
    | none => ∃ reason, ofText text = .error (.invalidJson reason) := by
  have hCore := trim_item h
  rw [ofText, ofChars]
  generalize Text.trim text.toList = core at hCore
  by_cases hNull : v = .null
  · obtain rfl : core = ['n', 'u', 'l', 'l'] := by
      subst hNull
      cases hCore
      rfl
    subst hNull
    rfl
  · have hOther : ofValue v = (v.members? names).bind ofMembers := by
      unfold ofValue
      split
      · exact absurd rfl hNull
      · rfl
    -- Only one value begins with an `n`, so the shortcuts take no other value away from the reader.
    have hShort : ¬ (core = [] || core = ['n', 'u', 'l', 'l']) = true := by
      obtain ⟨c, s, rfl, hBegins⟩ := hCore.exists_begins
      have hFirst : c ≠ 'n' := by
        rintro rfl
        exact hNull hBegins.eq_null
      simp [hFirst]
    have hRead := reader_decodes.answer?_core hCore bounded_nil
    rw [List.append_nil, ← hOther] at hRead
    rw [if_neg hShort]
    cases hValue : ofValue v with
    | some c =>
        rw [hValue] at hRead
        rw [parse_eq_of_answer? hRead]
    | none =>
        rw [hValue] at hRead
        obtain ⟨fault, hFault⟩ := exists_parse_eq_error hRead
        rw [hFault]
        exact ⟨_, rfl⟩

theorem toOption_ofText {text : String} {v : Value} (h : Denotes text.toList (.item v)) :
    (ofText text).toOption = ofValue v := by
  have hRead := ofText_of_denotes h
  cases hValue : ofValue v with
  | some c =>
      rw [hValue] at hRead
      rw [hRead]
      rfl
  | none =>
      rw [hValue] at hRead
      obtain ⟨reason, hReason⟩ := hRead
      rw [hReason]
      rfl

/-- Every JSON text of a value is read as what the value means, and it is refused if the value
means nothing. The order of members and members of other names make no difference, to the
settings and to the records inside them, and an array means the same as an object that gives
its items to the settings in their order. -/
theorem ofText_means {text : String} {v : Value} (h : Denotes text.toList (.item v)) :
    (∀ c, ofValue v = some c → ofText text = .ok c) ∧
    (ofValue v = none → ∃ reason, ofText text = .error (.invalidJson reason)) ∧
    (∀ members members' text', v = .object members → SameFields names members members' →
      Denotes text'.toList (.item (.object members')) →
        (ofText text').toOption = (ofText text).toOption) ∧
    (∀ items text', v = .array items → items.length ≤ 4 →
      Denotes text'.toList (.item (.object (names.zip items))) →
        (ofText text').toOption = (ofText text).toOption) ∧
    (∀ members members', SameFields EngineConfig.names members members' →
      EngineConfig.ofValue (.object members) = EngineConfig.ofValue (.object members')) ∧
    ∀ members members', SameFields QuickLink.names members members' →
      QuickLink.ofValue (.object members) = QuickLink.ofValue (.object members') := by
  refine ⟨fun c hValue => ?_, fun hValue => ?_, ?_, ?_, fun _ _ => EngineConfig.ofMembers_congr,
    fun _ _ => QuickLink.ofMembers_congr⟩
  · have hRead := ofText_of_denotes h
    rw [hValue] at hRead
    exact hRead
  · have hRead := ofText_of_denotes h
    rw [hValue] at hRead
    exact hRead
  · rintro members members' text' rfl hSame h'
    rw [toOption_ofText h', toOption_ofText h]
    exact (ofMembers_congr hSame).symm
  · rintro items text' rfl hLength h'
    rw [toOption_ofText h', toOption_ofText h]
    have hArray : (Value.array items).members? names = some (names.zip items) := if_pos hLength
    change some (names.zip items) >>= ofMembers = (Value.array items).members? names >>= ofMembers
    rw [hArray]

/-- An unknown member that is nested, white space and a field. -/
theorem ofText_means_nested :
    ofText " \x7b\"x\":[\x7b\x7d] ,\"tickMillis\":7\x7d" = .ok { tickMillis := 7 } := by
  have hNone : Spaces [] := by simp [Spaces]
  have hOne : Spaces [' '] := by simp [Spaces, Reader.isSpace]
  have hBare {core : List Char} {v : Value} (hCore : Denotes core (.value v)) :
      Denotes core (.item v) := by
    have hItem := Denotes.item hNone hCore hNone
    rwa [List.nil_append, List.append_nil] at hItem
  have hSeven : Denotes ['7'] (.value (.number false ⟨['7'], none, none⟩)) :=
    .number
      (@Number.Numeral.Denotes.intro ['7'] [] [] none none
      (.positive rfl (by decide) (by simp)) .absent .absent)
  have hNested : Denotes "[\x7b\x7d] ".toList (.item (.array [.object []])) :=
    .item hNone (.array (hBare (.emptyObject hNone)) .noMoreItems) hOne
  have h : Denotes " \x7b\"x\":[\x7b\x7d] ,\"tickMillis\":7\x7d".toList (.item (.object
      [("x", .array [.object []]), ("tickMillis", .number false ⟨['7'], none, none⟩)])) :=
    .item hOne (.object (.member hNone (Printer.spellsAll_flatMap_char "x".toList) hNone hNested)
      (.moreMembers
        (.member hNone (Printer.spellsAll_flatMap_char "tickMillis".toList) hNone (hBare hSeven))
        .noMoreMembers)) hNone
  exact (ofText_means h).1 _ rfl

end Config

end StartPage
