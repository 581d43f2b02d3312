import StartPage.Text.Split
import StartPage.Url.Basic
import StartPage.Url.Percent

/-! Pairs of a name and a value in a query. Every character is written so that
it cannot be taken for one of the marks between pairs, which makes reading the
inverse of writing; a pair is added behind the pairs that are there. -/
namespace StartPage.Url

namespace Form

def isPlain (c : Char) : Bool :=
  ('a' ≤ c && c ≤ 'z') || ('A' ≤ c && c ≤ 'Z') || Text.isDigit c || c = '*' || c = '-' ||
    c = '.' || c = '_'

def encodeChar (c : Char) : List Char :=
  if isPlain c then [c] else if c = ' ' then ['+'] else percentChar c

/-- A name or a value as it is written in a query. -/
def encode (s : String) : List Char := s.toList.flatMap encodeChar

/-- A name or a value as it is meant. Bytes that are no text are replaced. -/
def decode (s : List Char) : String :=
  String.ofList (Text.Utf8.decodeLenient
    (percentDecode (s.map fun c => if c = '+' then ' ' else c)))

def pair (name value : String) : List Char := encode name ++ '=' :: encode value

/-- A pair as it is meant. Without a mark between them, all is the name. -/
def readPair (s : List Char) : String × String :=
  let (name, value) := Text.splitFirst '=' s
  (decode name, decode (value.getD []))

/-- The pairs of a query, in their order. Empty stretches are no pairs. -/
def pairs (query : List Char) : List (String × String) :=
  ((Text.splitAll (· = '&') query).filter (· ≠ [])).map readPair

/-- A query with one more pair at its end. -/
def append (query : Option (List Char)) (name value : String) : List Char :=
  match query with
  | none => pair name value
  | some [] => pair name value
  | some q => q ++ '&' :: pair name value

end Form

def queryPairs (u : Url) : List (String × String) := Form.pairs (u.query.getD [])

def appendPair (u : Url) (name value : String) : Url :=
  { u with query := some (Form.append u.query name value) }

end StartPage.Url
