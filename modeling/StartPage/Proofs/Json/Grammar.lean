import StartPage.Json.Number
import StartPage.Proofs.Json.Reads
import StartPage.Text.Blank

/-! Which texts denote which JSON values. This is the grammar of RFC 8259 as a relation: it
says nothing about reading, and a value has as many texts as there are ways to write it. -/
namespace StartPage.Json

/-- A JSON value. A number is kept as the numeral that was written, and the members of an object
are kept in their order, also where a name occurs twice. -/
inductive Value where
  | null
  | boolean (b : Bool)
  | number (negative : Bool) (n : Number.Numeral)
  | string (s : String)
  | array (items : List Value)
  | object (members : List (String × Value))

namespace Number

/-- One digit or more. -/
def Digits (ds : List Char) : Prop := ds ≠ [] ∧ ∀ c ∈ ds, Text.isDigit c = true

/-- The digits before the point, which have no zero in front. -/
inductive Whole : List Char → Prop where
  | zero : Whole ['0']
  | positive {d : Char} {ds : List Char} (hFirst : Text.isDigit d = true) (hZero : d ≠ '0')
      (hRest : ∀ c ∈ ds, Text.isDigit c = true) : Whole (d :: ds)

/-- The point with the digits behind it, which may be absent. -/
inductive Fraction : List Char → Option (List Char) → Prop where
  | absent : Fraction [] none
  | present {ds : List Char} (hDigits : Digits ds) : Fraction ('.' :: ds) (some ds)

inductive Sign : List Char → Bool → Prop where
  | absent : Sign [] false
  | plus : Sign ['+'] false
  | minus : Sign ['-'] true

/-- The power of ten that a numeral is scaled by, which may be absent. -/
inductive Exponent : List Char → Option (Bool × List Char) → Prop where
  | absent : Exponent [] none
  | present {mark : Char} {sign ds : List Char} {below : Bool} (hMark : mark = 'e' ∨ mark = 'E')
      (hSign : Sign sign below) (hDigits : Digits ds) : Exponent (mark :: sign ++ ds)
        (some (below, ds))

/-- The texts of a numeral, without a minus sign. -/
inductive Numeral.Denotes : List Char → Numeral → Prop where
  | intro {whole fraction exponent : List Char} {places : Option (List Char)}
    {power : Option (Bool × List Char)}
      (hWhole : Whole whole) (hFraction : Fraction fraction places)
        (hExponent : Exponent exponent power) :
      Numeral.Denotes (whole ++ (fraction ++ exponent)) ⟨whole, places, power⟩

end Number

/-- White space as it may stand between tokens. -/
def Spaces (s : List Char) : Prop := ∀ c ∈ s, Reader.isSpace c = true

/-- The parts of a JSON text that stand for something. -/
inductive Part where
  /-- A value from its first to its last character. -/
  | value (v : Value)
  /-- A value with the white space on either side of it. -/
  | item (v : Value)
  /-- The items of an array behind the first one, each with the comma in front of it. -/
  | moreItems (items : List Value)
  /-- A name with its colon and its value, and the white space around these. -/
  | member (name : String) (v : Value)
  /-- The members of an object behind the first one, each with the comma in front of it. -/
  | moreMembers (members : List (String × Value))

/-- The texts of the parts of a JSON text. -/
inductive Denotes : List Char → Part → Prop where
  | null : Denotes ['n', 'u', 'l', 'l'] (.value .null)
  | yes : Denotes ['t', 'r', 'u', 'e'] (.value (.boolean true))
  | no : Denotes ['f', 'a', 'l', 's', 'e'] (.value (.boolean false))
  | number {text : List Char} {n : Number.Numeral} (hNumeral : Number.Numeral.Denotes text n) :
      Denotes text (.value (.number false n))
  | negative {text : List Char} {n : Number.Numeral} (hNumeral : Number.Numeral.Denotes text n) :
      Denotes ('-' :: text) (.value (.number true n))
  | string {body : List Char} {s : String} (hBody : SpellsAll body s.toList) :
      Denotes ('\"' :: body ++ ['\"']) (.value (.string s))
  | emptyArray {ws : List Char} (hSpaces : Spaces ws) : Denotes ('[' :: ws ++ [']'])
    (.value (.array []))
  | array {first more : List Char} {v : Value} {items : List Value}
    (hFirst : Denotes first (.item v))
      (hMore : Denotes more (.moreItems items)) :
      Denotes ('[' :: first ++ more ++ [']']) (.value (.array (v :: items)))
  | emptyObject {ws : List Char} (hSpaces : Spaces ws) :
      Denotes ('\x7b' :: ws ++ ['\x7d']) (.value (.object []))
  | object {first more : List Char} {name : String} {v : Value} {members : List (String × Value)}
      (hFirst : Denotes first (.member name v)) (hMore : Denotes more (.moreMembers members)) :
      Denotes ('\x7b' :: first ++ more ++ ['\x7d']) (.value (.object ((name, v) :: members)))
  | item {before core after : List Char} {v : Value} (hBefore : Spaces before)
      (hCore : Denotes core (.value v)) (hAfter : Spaces after) : Denotes
        (before ++ core ++ after) (.item v)
  | noMoreItems : Denotes [] (.moreItems [])
  | moreItems {next more : List Char} {v : Value} {items : List Value}
    (hNext : Denotes next (.item v))
      (hMore : Denotes more (.moreItems items)) : Denotes (',' :: next ++ more)
        (.moreItems (v :: items))
  | member {before body after text : List Char} {name : String} {v : Value}
    (hBefore : Spaces before)
      (hName : SpellsAll body name.toList) (hAfter : Spaces after)
        (hItem : Denotes text (.item v)) :
      Denotes (before ++ '\"' :: body ++ '\"' :: after ++ ':' :: text) (.member name v)
  | noMoreMembers : Denotes [] (.moreMembers [])
  | moreMembers {next more : List Char} {name : String} {v : Value}
    {members : List (String × Value)}
      (hNext : Denotes next (.member name v)) (hMore : Denotes more (.moreMembers members)) :
      Denotes (',' :: next ++ more) (.moreMembers ((name, v) :: members))

/-- The first character of a value tells of which kind the value is. -/
def Value.Begins : Value → Char → Prop
  | .null, c => c = 'n'
  | .boolean true, c => c = 't'
  | .boolean false, c => c = 'f'
  | .number false _, c => Text.isDigit c = true
  | .number true _, c => c = '-'
  | .string _, c => c = '\"'
  | .array _, c => c = '['
  | .object _, c => c = '\x7b'

namespace Value

variable {v : Value}

theorem Begins.eq_null (h : v.Begins 'n') : v = .null := by
  unfold Begins at h
  split at h <;> first | rfl | exact absurd h (by decide)

theorem Begins.eq_string (h : v.Begins '\"') : ∃ s, v = .string s := by
  unfold Begins at h
  split at h <;> first | exact ⟨_, rfl⟩ | exact absurd h (by decide)

theorem Begins.eq_array (h : v.Begins '[') : ∃ items, v = .array items := by
  unfold Begins at h
  split at h <;> first | exact ⟨_, rfl⟩ | exact absurd h (by decide)

theorem Begins.eq_object (h : v.Begins '\x7b') : ∃ members, v = .object members := by
  unfold Begins at h
  split at h <;> first | exact ⟨_, rfl⟩ | exact absurd h (by decide)

theorem Begins.eq_negative (h : v.Begins '-') : ∃ n, v = .number true n := by
  unfold Begins at h
  split at h <;> first | exact ⟨_, rfl⟩ | exact absurd h (by decide)

theorem Begins.eq_number {c : Char} (h : v.Begins c) (hDigit : Text.isDigit c = true) :
    ∃ n, v = .number false n := by
  unfold Begins at h
  split at h <;> first | exact ⟨_, rfl⟩ | (subst h; cases hDigit)

end Value

theorem Number.Whole.exists_cons {text : List Char} (h : Whole text) :
    ∃ d ds, text = d :: ds ∧ Text.isDigit d = true ∧ ∀ c ∈ ds, Text.isDigit c = true := by
  cases h with
  | zero => exact ⟨'0', [], rfl, rfl, by simp⟩
  | positive hFirst _ hRest => exact ⟨_, _, rfl, hFirst, hRest⟩

theorem Denotes.exists_begins {core : List Char} {v : Value} (h : Denotes core (.value v)) :
    ∃ c s, core = c :: s ∧ v.Begins c := by
  cases h with
  | null => exact ⟨_, _, rfl, rfl⟩
  | yes => exact ⟨_, _, rfl, rfl⟩
  | no => exact ⟨_, _, rfl, rfl⟩
  | number hNumeral =>
      obtain ⟨hWhole, hFraction, hExponent⟩ := hNumeral
      obtain ⟨d, ds, rfl, hDigit, -⟩ := hWhole.exists_cons
      exact ⟨_, _, List.cons_append, hDigit⟩
  | negative => exact ⟨_, _, rfl, rfl⟩
  | string => exact ⟨_, _, rfl, rfl⟩
  | emptyArray => exact ⟨_, _, rfl, rfl⟩
  | array => exact ⟨_, _, rfl, rfl⟩
  | emptyObject => exact ⟨_, _, rfl, rfl⟩
  | object => exact ⟨_, _, rfl, rfl⟩

theorem Denotes.of_string {core : List Char} {s : String} (h : Denotes core (.value (.string s))) :
    ∃ body, core = '\"' :: (body ++ ['\"']) ∧ SpellsAll body s.toList := by
  cases h with
  | string hBody => exact ⟨_, rfl, hBody⟩

theorem Denotes.of_number {core : List Char} {n : Number.Numeral}
    (h : Denotes core (.value (.number false n))) :
    Number.Numeral.Denotes core n := by
  cases h with
  | number hNumeral => exact hNumeral

theorem Denotes.of_negative {core : List Char} {n : Number.Numeral}
    (h : Denotes core (.value (.number true n))) :
    ∃ text, core = '-' :: text ∧ Number.Numeral.Denotes text n := by
  cases h with
  | negative hNumeral => exact ⟨_, rfl, hNumeral⟩

/-- The text of an array: the array is empty, or a first item comes before the others. -/
theorem Denotes.of_array {core : List Char} {items : List Value}
    (h : Denotes core (.value (.array items))) :
    (∃ ws, core = '[' :: (ws ++ [']']) ∧ Spaces ws ∧ items = []) ∨
    ∃ first more v others, core = '[' :: (first ++ (more ++ [']'])) ∧ Denotes first (.item v) ∧
      Denotes more (.moreItems others) ∧ items = v :: others := by
  cases h with
  | emptyArray hSpaces => exact .inl ⟨_, rfl, hSpaces, rfl⟩
  | array hFirst hMore =>
      refine .inr ⟨_, _, _, _, ?_, hFirst, hMore, rfl⟩
      rw [List.cons_append, List.cons_append, List.append_assoc]

/-- The text of an object: the object is empty, or a first member comes before the others. -/
theorem Denotes.of_object {core : List Char} {members : List (String × Value)}
    (h : Denotes core (.value (.object members))) :
    (∃ ws, core = '\x7b' :: (ws ++ ['\x7d']) ∧ Spaces ws ∧ members = []) ∨
    ∃ first more name v others, core = '\x7b' :: (first ++ (more ++ ['\x7d'])) ∧
      Denotes first (.member name v) ∧ Denotes more (.moreMembers others) ∧
        members = (name, v) :: others := by
  cases h with
  | emptyObject hSpaces => exact .inl ⟨_, rfl, hSpaces, rfl⟩
  | object hFirst hMore =>
      refine .inr ⟨_, _, _, _, _, ?_, hFirst, hMore, rfl⟩
      rw [List.cons_append, List.cons_append, List.append_assoc]

/-- The decimal digits. -/
def decimals : List Char := "0123456789".toList

theorem mem_decimals {c : Char} (h : Text.isDigit c = true) : c ∈ decimals := by
  have hRange := Text.toNat_of_isDigit h
  have hAll : ∀ n : Fin 58, 48 ≤ n.val → Char.ofNat n ∈ decimals := by decide
  have hMem := hAll ⟨c.toNat, by omega⟩ hRange.1
  rw [Char.ofNat_toNat] at hMem
  exact hMem

/-- The characters that a value can begin with. -/
def openers : List Char := "ntf-\"[\x7b".toList ++ decimals

/-- The characters that a value can end with. -/
def closers : List Char := "le\"]\x7d".toList ++ decimals

theorem Value.Begins.mem_openers {v : Value} {c : Char} (h : v.Begins c) : c ∈ openers := by
  unfold Begins at h
  split at h
  case h_4 => exact List.mem_append_right _ (mem_decimals h)
  all_goals
    subst h
    decide

/-- What is checked of every character that a value can begin with holds of the one it does. -/
theorem Value.Begins.of_all {v : Value} {c : Char} (h : v.Begins c) {p : Char → Bool}
    (hAll : openers.all p = true) : p c = true :=
  List.all_eq_true.mp hAll c h.mem_openers

theorem Number.Digits.getLast?_mem {ds : List Char} (h : Digits ds) :
    ∃ d ∈ decimals, ds.getLast? = some d :=
  ⟨ds.getLast h.1, mem_decimals (h.2 _ (List.getLast_mem h.1)), List.getLast?_eq_some_getLast h.1⟩

theorem Number.Whole.digits {text : List Char} (h : Whole text) : Digits text := by
  obtain ⟨d, ds, rfl, hDigit, hRest⟩ := h.exists_cons
  exact ⟨List.cons_ne_nil d ds, by simpa using ⟨hDigit, hRest⟩⟩

theorem Number.Numeral.Denotes.getLast?_mem {text : List Char} {n : Numeral}
    (h : Numeral.Denotes text n) :
    ∃ d ∈ decimals, text.getLast? = some d := by
  obtain ⟨hWhole, hFraction, hExponent⟩ := h
  -- The last part that is present ends in a digit.
  cases hExponent with
  | present _ _ hPower =>
      obtain ⟨d, hMem, hLast⟩ := hPower.getLast?_mem
      exact ⟨d, hMem, by simp [List.getLast?_cons, hLast]⟩
  | absent =>
      cases hFraction with
      | present hPlaces =>
          obtain ⟨d, hMem, hLast⟩ := hPlaces.getLast?_mem
          exact ⟨d, hMem, by simp [List.getLast?_cons, hLast]⟩
      | absent =>
          obtain ⟨d, hMem, hLast⟩ := hWhole.digits.getLast?_mem
          exact ⟨d, hMem, by simp [hLast]⟩

theorem Denotes.getLast?_mem {core : List Char} {v : Value} (h : Denotes core (.value v)) :
    ∃ c ∈ closers, core.getLast? = some c := by
  have hDigit {text : List Char} (h : ∃ d ∈ decimals, text.getLast? = some d) :
      ∃ c ∈ closers, text.getLast? = some c := by
    obtain ⟨d, hMem, hLast⟩ := h
    exact ⟨d, List.mem_append_right _ hMem, hLast⟩
  cases h with
  | number hNumeral => exact hDigit hNumeral.getLast?_mem
  | negative hNumeral =>
      obtain ⟨d, hMem, hLast⟩ := hDigit hNumeral.getLast?_mem
      exact ⟨d, hMem, by simp [List.getLast?_cons, hLast]⟩
  | null => exact ⟨'l', by decide, rfl⟩
  | yes => exact ⟨'e', by decide, rfl⟩
  | no => exact ⟨'e', by decide, rfl⟩
  | string => exact ⟨'\"', by decide, List.getLast?_concat⟩
  | emptyArray => exact ⟨']', by decide, List.getLast?_concat⟩
  | array => exact ⟨']', by decide, List.getLast?_concat⟩
  | emptyObject => exact ⟨'\x7d', by decide, List.getLast?_concat⟩
  | object => exact ⟨'\x7d', by decide, List.getLast?_concat⟩

/-- The characters that can stand right behind a value. -/
def bounds : List Char := ",]\x7d \t\n\r".toList

/-- What follows a value is nothing, or begins with a character that ends the value. -/
def Bounded (rest : List Char) : Prop := ∀ c ∈ rest.head?, c ∈ bounds

theorem bounded_nil : Bounded [] := by simp [Bounded]

theorem bounded_cons {c : Char} (h : c ∈ bounds) (rest : List Char) : Bounded (c :: rest) := by
  simpa [Bounded] using h

theorem Spaces.bounded_append {ws rest : List Char} (h : Spaces ws) (hRest : Bounded rest) :
    Bounded (ws ++ rest) := by
  cases ws with
  | nil => exact hRest
  | cons c ws =>
      have hSpace : Reader.isSpace c = true := h c List.mem_cons_self
      simp only [Reader.isSpace, Bool.or_eq_true, decide_eq_true_eq] at hSpace
      obtain ((rfl | rfl) | rfl) | rfl := hSpace <;> exact bounded_cons (by decide) _

end StartPage.Json
