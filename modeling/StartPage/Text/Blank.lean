/-! White space and its removal at the two ends of a text. The set is the
Unicode property `White_Space`, which is wider than the white space that most
formats allow between their own tokens. -/
namespace StartPage.Text

/-- The code points with the property `White_Space`, as closed ranges. -/
def blankRanges : List (Nat × Nat) :=
  [(0x09, 0x0D), (0x20, 0x20), (0x85, 0x85), (0xA0, 0xA0), (0x1680, 0x1680), (0x2000, 0x200A),
    (0x2028, 0x2029), (0x202F, 0x202F), (0x205F, 0x205F), (0x3000, 0x3000)]

/-- A character with the property `White_Space`. -/
def isBlank (c : Char) : Bool :=
  blankRanges.any fun (low, high) => low ≤ c.toNat && c.toNat ≤ high

/-- The text without its longest blank beginning. -/
def trimStart (s : List Char) : List Char := s.dropWhile isBlank

/-- The text without its longest blank end. -/
def trimEnd (s : List Char) : List Char := (s.reverse.dropWhile isBlank).reverse

/-- The text without blanks at either end; its interior is untouched. -/
def trim (s : List Char) : List Char := trimEnd (trimStart s)

end StartPage.Text
