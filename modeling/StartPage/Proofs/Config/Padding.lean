import StartPage.Config.Text
import StartPage.Proofs.Text.Blank

/-! Blanks around the text of some settings. They change nothing, neither the settings that are read
nor what is reported for a text that is refused: faults are placed in the text without them. -/
namespace StartPage.Config

variable {s t : List Char}

/-- A text means what trimming leaves of it. -/
theorem ofChars_congr (h : Text.trim s = Text.trim t) : ofChars s = ofChars t := by
  rw [ofChars, ofChars, h]

theorem ofChars_of_blank (h : Text.Blank s) : ofChars s = .ok .default := by
  rw [ofChars, Text.trim_eq_nil_iff.mpr h]
  rfl

/-- A text without blanks at its ends is left to the reader as it stands. -/
theorem ofChars_of_bare (hBare : Text.Bare s) (hSome : s ≠ []) (hNull : s ≠ ['n', 'u', 'l', 'l']) :
    ofChars s = (Json.parse reader s).mapError fun fault => .invalidJson (fault.message s) := by
  have hShort : ¬(s = [] || s = ['n', 'u', 'l', 'l']) = true := by simp [hSome, hNull]
  rw [ofChars, hBare.trim_eq, if_neg hShort]
  cases Json.parse reader s <;> rfl

variable {before after : String}

theorem ofText_append (hBefore : Text.Blank before.toList) (hAfter : Text.Blank after.toList)
    (text : String) :
    ofText (before ++ text ++ after) = ofText text := by
  have hPadded : Text.Padded text.toList (before.toList ++ text.toList ++ after.toList) :=
    .intro hBefore hAfter
  rw [ofText, String.toList_append, String.toList_append]
  exact ofChars_congr hPadded.trim_eq

/-- Blanks of any kind may be put around a text. It is read as the same settings, or it is refused
for the same reason at the same place. Blanks alone, and `null` among blanks, are the default
settings. -/
theorem ofText_padded (hBefore : Text.Blank before.toList) (hAfter : Text.Blank after.toList) :
    (∀ text, ofText (before ++ text ++ after) = ofText text) ∧
    ofText before = .ok .default ∧ ofText (before ++ "null" ++ after) = .ok .default ∧
    ∀ core, Text.Bare core.toList → core ≠ "" → core ≠ "null" →
      (∀ c, Json.parse reader core.toList = .ok c → ofText (before ++ core ++ after) = .ok c) ∧
      ∀ fault, Json.parse reader core.toList = .error fault →
        let place := fault.position core.toList
        ofText (before ++ core ++ after) = .error (.invalidJson (fault.cause.text ++ " at line " ++
          Text.decimal place.line ++ " column " ++ Text.decimal place.column)) := by
  refine ⟨ofText_append hBefore hAfter, ofChars_of_blank hBefore, ?_,
    fun core hBare hSome hNull => ?_⟩
  · rw [ofText_append hBefore hAfter]
    rfl
  · have hNull : core.toList ≠ ['n', 'u', 'l', 'l'] :=
      fun hSame => hNull (String.toList_inj.mp hSame)
    have hRead : ofText core = _ := ofChars_of_bare hBare (by simpa using hSome) hNull
    rw [ofText_append hBefore hAfter, hRead]
    refine ⟨fun c hParse => ?_, fun fault hParse => ?_⟩
    all_goals
      rw [hParse]
      rfl

/-- A text of two lines that is refused, among blanks of which one breaks a line and two are none
between the tokens of a text. -/
theorem ofText_padded_malformed :
    Text.Blank "\u3000\n".toList ∧ Text.Blank "\u0085\t".toList ∧
    ofText ("\u3000\n" ++ "\x7b\n x" ++ "\u0085\t") =
      .error (.invalidJson "key must be a string at line 2 column 2") := by
  have hBefore : Text.Blank "\u3000\n".toList := by decide
  have hAfter : Text.Blank "\u0085\t".toList := by decide
  have hBare : Text.Bare "\x7b\n x".toList := by
    constructor
    all_goals
      rintro c ⟨⟩
      rfl
  have hParse : Json.parse reader "\x7b\n x".toList = .error ⟨.keyNotString, 0⟩ := by decide +kernel
  have hPlace : (Json.Fault.mk .keyNotString 0).position "\x7b\n x".toList = ⟨2, 2⟩ := by decide
  have hTwo : Text.decimal 2 = "2" := by decide +kernel
  have hReason := ((ofText_padded hBefore hAfter).2.2.2 _ hBare (by decide) (by decide)).2 _ hParse
  rw [hPlace] at hReason
  dsimp only at hReason
  rw [hTwo] at hReason
  exact ⟨hBefore, hAfter, hReason⟩

end StartPage.Config
