import StartPage.Text.Split
import StartPage.Url.Basic
import StartPage.Url.Break
import StartPage.Url.Percent

/-! The path of an address. It is read segment by segment; segments of one or
two dots are resolved at once. A segment that looks like a drive is never
removed, and at the root of a file address it is written with a colon. Breaks in
a segment do not count, but for one place: at the root of a file address, a
break behind the colon of a drive ends the segment. -/
namespace StartPage.Url.Path

/-- A dot, as it may be written in a path. -/
def dot? : List Char → Option (List Char)
  | '.' :: s => some s
  | '%' :: '2' :: c :: s => if c = 'e' || c = 'E' then some s else none
  | _ => none

/-- A segment that stands for the directory itself. -/
def isSingleDot (segment : List Char) : Bool := dot? segment = some []

/-- A segment that stands for the directory above. -/
def isDoubleDot (segment : List Char) : Bool := (dot? segment >>= dot?) = some []

def isLetter (c : Char) : Bool := ('a' ≤ c && c ≤ 'z') || ('A' ≤ c && c ≤ 'Z')

/-- A segment that begins like a drive: a letter and a colon or a bar, and
nothing behind them but what a backslash cuts off. -/
def beginsWithDrive : List Char → Bool
  | [c, d] => isLetter c && (d = ':' || d = '|')
  | c :: d :: '\\' :: _ => isLetter c && (d = ':' || d = '|')
  | _ => false

/-- The letter of a segment that is a drive. -/
def drive? : List Char → Option Char
  | [c, d] => if isLetter c && (d = ':' || d = '|') then some c else none
  | _ => none

/-- The letter of a drive that is cut off by a break behind its colon, and the
text that follows in the same segment. -/
def cutDrive? (segment : List Char) : Option (Char × List Char) :=
  match segment.dropWhile isBreak with
  | [] => none
  | c :: s =>
    match s.dropWhile isBreak with
    | ':' :: d :: s =>
      let behind := dropBreaks s
      if isLetter c && isBreak d && behind ≠ [] then some (c, behind) else none
    | _ => none

/-- The segments without the last one, unless it begins like a drive. The last
segment comes first in the list. -/
def removeLast : List (List Char) → List (List Char)
  | [] => []
  | segment :: closed => if beginsWithDrive segment then segment :: closed else closed

/-- The segments of a path in their order, and whether a drive was found at its
root. -/
structure Resolved where
  segments : List (List Char)
  hasDrive : Bool := false
  deriving DecidableEq, Repr

/-- Resolve segments on top of those that are closed by a slash, of which the
last comes first. What a break cuts off from a drive is a segment of its own; it
is taken as it is, even if it consists of dots. -/
def resolve (kind : SchemeKind) (closed : List (List Char)) : List (List Char) → Resolved
  | [] => ⟨closed.reverse, false⟩
  | segment :: rest =>
    match kind, closed, cutDrive? segment with
    | .file, [], some (letter, behind) =>
      resolve kind [percentEncode EncodeSet.path behind, [letter, ':']] rest
    | _, _, _ =>
      let segment := dropBreaks segment
      let isLast := rest.isEmpty
      if isDoubleDot segment then
        let closed := removeLast closed
        if isLast then ⟨closed.reverse ++ [[]], false⟩ else resolve kind closed rest
      else if isSingleDot segment then
        if isLast then ⟨closed.reverse ++ [[]], false⟩ else resolve kind closed rest
      else match kind, closed, drive? segment with
        | .file, [], some letter =>
          let r := resolve kind [[letter, ':']] rest
          { r with hasDrive := true }
        | _, _, _ => resolve kind (percentEncode EncodeSet.path segment :: closed) rest

/-- Segments with a slash in front of each. -/
def join (segments : List (List Char)) : List Char := segments.flatMap ('/' :: ·)

/-- Resolve a text that comes behind the slash at the root. -/
def resolveText (kind : SchemeKind) (s : List Char) : Resolved :=
  resolve kind [] (Text.splitAll kind.isSlash s)

/-- The text behind a slash, if it begins with one. -/
def slash? (kind : SchemeKind) (s : List Char) : Option (List Char) :=
  match s.dropWhile isBreak with
  | [] => none
  | c :: s => if kind.isSlash c then some s else none

/-- The text without one slash in front of it, if there is one. -/
def dropSlash (kind : SchemeKind) (s : List Char) : List Char := (slash? kind s).getD s

/-- The path of an address that is no file. -/
def read (kind : SchemeKind) (s : List Char) : List Char :=
  join (resolveText kind (dropSlash kind s)).segments

/-- The path of a file starts with exactly one slash. -/
def ofFile (r : Resolved) : List Char := '/' :: (join r.segments).dropWhile (· = '/')

end StartPage.Url.Path
