import StartPage.Url.Domain

/-! The host of an address. In a special scheme it is a domain name or an
address in numbers; in any other it is a text of its own, in which only
addresses in brackets have a meaning. -/
namespace StartPage.Url.Host

/-- A character that no host of a scheme that is not special may hold. -/
def isForbidden (c : Char) : Bool :=
  c = '\x00' || c = '\t' || c = '\n' || c = '\r' || c = ' ' || c = '#' || c = '/' ||
    c = ':' || c = '<' || c = '>' || c = '?' || c = '@' || c = '[' || c = '\\' || c = ']' ||
    c = '^' || c = '|'

/-- The address between an opening bracket, which has been read, and a closing
one, which has to be the last character. -/
def ofBrackets (s : List Char) : Except ParseError Host :=
  if s.getLast? = some ']' then
    match Ipv6.parse? s.dropLast with
    | some pieces => .ok (.ipv6 pieces)
    | none => .error .invalidIpv6
  else .error .invalidIpv6

/-- The host of a scheme that is not special. -/
def ofPlain : List Char → Except ParseError Host
  | '[' :: s => ofBrackets s
  | s =>
    if s.any isForbidden then .error .invalidHostCharacter
    else .ok (.name (percentEncode EncodeSet.controls s))

/-- The host that a domain name in ASCII stands for. A name whose last label is a
number has to be an address. -/
def ofAscii (domain : List Char) : Except ParseError Host :=
  if domain = [] then .error .emptyHost
  else if Ipv4.endsInNumber domain then
    match Ipv4.parse? domain with
    | some address => .ok (.ipv4 address)
    | none => .error .invalidIpv4
  else .ok (.name domain)

/-- The host of a special scheme. -/
def ofDomain : List Char → Except ParseError Host
  | '[' :: s => ofBrackets s
  | s =>
    match Text.Utf8.decode? (percentDecode s) >>= Domain.toAscii? with
    | none => .error .invalidDomain
    | some domain => ofAscii domain

/-- The text of a host and what comes behind it. A colon ends a host unless it
stands in brackets. -/
def split (kind : SchemeKind) (inBrackets : Bool) : List Char → List Char × List Char
  | [] => ([], [])
  | c :: s =>
    if (c = ':' && !inBrackets) || kind.isSlash c then ([], c :: s)
    else
      let inside := if c = '[' then true else if c = ']' then false else inBrackets
      let (host, behind) := split kind inside s
      (c :: host, behind)

end StartPage.Url.Host
