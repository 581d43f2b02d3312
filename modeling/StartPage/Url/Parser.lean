import StartPage.Url.Host
import StartPage.Url.Path

/-! Reading addresses. White space around a text does not count, and breaks inside it count in no
part but the path of a file. The fragment is cut off first and the query after it; what is left is
read by the rules of its scheme. An address that is read and written again is in normal form. -/
namespace StartPage.Url

/-- A text without the controls and spaces at its ends. -/
def trim (s : List Char) : List Char :=
  let isOuter (c : Char) : Bool := c.toNat ≤ 0x20
  ((s.dropWhile isOuter).reverse.dropWhile isOuter).reverse

/-- A character that a scheme may hold behind its first letter. -/
def isSchemeChar (c : Char) : Bool :=
  Path.isLetter c || Text.isDigit c || c = '+' || c = '-' || c = '.'

def lowerAscii (c : Char) : Char :=
  if 'A' ≤ c && c ≤ 'Z' then Char.ofNat (c.toNat + 32) else c

/-- The scheme in small letters and what comes behind its colon. -/
def scheme? (s : List Char) : Option (List Char × List Char) :=
  let (front, rest) := Text.splitFirst ':' s
  match dropBreaks front, rest with
  | c :: cs, some rest =>
    if Path.isLetter c && cs.all isSchemeChar then some ((c :: cs).map lowerAscii, rest) else none
  | _, _ => none

/-- The user and the password of an address. -/
structure Userinfo where
  username : List Char := []
  password : List Char := []
  deriving DecidableEq, Repr

/-- The user comes before the first colon and the password behind it. -/
def Userinfo.read (s : List Char) : Userinfo :=
  let (username, password) := Text.splitFirst ':' s
  { username := percentEncode EncodeSet.userinfo username
    password := percentEncode EncodeSet.userinfo (password.getD []) }

/-- The port behind a colon. It ends at a slash of either form. -/
def port? (kind : SchemeKind) (s : List Char) : Except ParseError (Option Nat × List Char) :=
  let ds := s.takeWhile Text.isDigit
  let rest := s.dropWhile Text.isDigit
  let n := Text.value ds
  if 65535 < n then .error .invalidPort
  else match rest with
    | c :: _ =>
      if c = '/' || c = '\\' then .ok (kept ds n, rest) else .error .invalidPort
    | [] => .ok (kept ds n, rest)
where
  /-- The port, unless it is absent or implied by the scheme. -/
  kept (ds : List Char) (n : Nat) : Option Nat :=
    if ds = [] || kind.impliedPort = some n then none else some n

/-- The authority and the text behind it. The user is cut off at the last sign
that can end it. An empty host is refused in a special scheme, and in any scheme
when a user or a port comes with it. -/
def Authority.read (kind : SchemeKind) (atEnd : Bool) (s : List Char) :
    Except ParseError (Authority × List Char) := do
  let front := s.takeWhile (!kind.isSlash ·)
  let rest := s.dropWhile (!kind.isSlash ·)
  let (user, hostPort) := Text.splitLast '@' front
  if user = some [] && hostPort = [] && !(rest = [] && atEnd) then throw .emptyHost
  let info := Userinfo.read (user.getD [])
  let (hostText, behind) := Host.split kind false (hostPort ++ rest)
  let host ← if kind.isSpecial then
      if hostText = [] then throw .emptyHost else Host.ofDomain hostText
    else Host.ofPlain hostText
  let hasUser := !(info.username = [] && info.password = [])
  match behind with
  | ':' :: afterColon =>
    if host = .name [] then throw .emptyHost
    let (port, rest) ← port? kind afterColon
    return (⟨info.username, info.password, host, port⟩, rest)
  | rest =>
    if host = .name [] && hasUser then throw .emptyHost
    return (⟨info.username, info.password, host, none⟩, rest)

/-- The front of an address: all that comes before the query and the fragment. -/
structure Front where
  authority : Option Authority
  path : List Char
  deriving DecidableEq, Repr

/-- The front of a file address without a host. -/
def Front.ofLocalFile (r : Path.Resolved) : Front :=
  ⟨some { host := .name [] }, Path.ofFile r⟩

/-- The front of a file address behind its two slashes. A drive in the place of
the host belongs to the path, and so does everything if there is no host. -/
def Front.ofFile (s : List Char) : Except ParseError Front := do
  let hostText := dropBreaks (s.takeWhile (!SchemeKind.file.isSlash ·))
  let rest := s.dropWhile (!SchemeKind.file.isSlash ·)
  if (Path.drive? hostText).isSome then return .ofLocalFile (Path.resolveText .file s)
  if hostText = [] then return .ofLocalFile (Path.resolveText .file rest)
  let host ← Host.ofDomain hostText
  if host = .name ['l', 'o', 'c', 'a', 'l', 'h', 'o', 's', 't'] then
    return .ofLocalFile (Path.resolveText .file rest)
  let r := Path.resolveText .file (Path.dropSlash .file rest)
  if r.hasDrive then return .ofLocalFile r
  return ⟨some { host }, Path.ofFile r⟩

/-- The front of an address behind the colon of its scheme. `atEnd` says that
neither a query nor a fragment follows. -/
def Front.read (kind : SchemeKind) (atEnd : Bool) (s : List Char) : Except ParseError Front :=
  match kind with
  | .network _ => do
    let (authority, rest) ← Authority.read kind atEnd ((dropBreaks s).dropWhile kind.isSlash)
    return ⟨some authority, Path.read kind rest⟩
  | .file =>
    match Path.slash? .file s >>= Path.slash? .file with
    | some rest => Front.ofFile rest
    | none => .ok (.ofLocalFile (Path.resolveText .file (Path.dropSlash .file s)))
  | .other =>
    match dropBreaks s with
    | '/' :: '/' :: rest => do
      let (authority, rest) ← Authority.read kind atEnd rest
      return ⟨some authority, if rest = [] then [] else Path.read kind rest⟩
    | '/' :: rest => .ok ⟨none, Path.read kind ('/' :: rest)⟩
    | s => .ok ⟨none, percentEncode EncodeSet.controls s⟩

/-- The address that a list of characters denotes. -/
def parse (s : List Char) : Except ParseError Url := do
  let (s, fragment) := Text.splitFirst '#' (trim s)
  let (s, query) := Text.splitFirst '?' s
  match scheme? s with
  | none => throw .noScheme
  | some (scheme, rest) =>
    let kind := SchemeKind.ofScheme scheme
    let front ← Front.read kind (query.isNone && fragment.isNone) rest
    return { scheme
             authority := front.authority
             path := front.path
             query :=
               query.map fun q => percentEncode (EncodeSet.query kind.isSpecial) (dropBreaks q)
             fragment := fragment.map fun f => percentEncode EncodeSet.fragment (dropBreaks f) }

end StartPage.Url
