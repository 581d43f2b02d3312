/-! Breaks in an address: tabs and line ends, as they get into a text that is
wrapped. They stand for nothing in themselves and are passed over wherever a
part of the address is read. -/
namespace StartPage.Url

def isBreak (c : Char) : Bool := c = '\t' || c = '\n' || c = '\r'

def dropBreaks (s : List Char) : List Char := s.filter (!isBreak ·)

theorem dropBreaks_eq_self {s : List Char} (h : ∀ c ∈ s, isBreak c = false) :
    dropBreaks s = s := by
  simpa [dropBreaks] using h

end StartPage.Url
