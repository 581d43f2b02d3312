import StartPage.Text.Digits
import StartPage.Url.Ipv4
import StartPage.Url.Ipv6

/-! Absolute addresses of resources, in their normal form. `Url.chars` writes
an address; the parts of it are kept as they are written, so an address and its
text determine each other. -/
namespace StartPage

namespace Url

/-- The machine that an address names. The empty name stands for no machine. -/
inductive Host where
  | name (s : List Char)
  | ipv4 (address : Nat)
  | ipv6 (pieces : List Nat)
  deriving DecidableEq, Repr

def Host.chars : Host → List Char
  | .name s => s
  | .ipv4 address => Ipv4.chars address
  | .ipv6 pieces => '[' :: Ipv6.chars pieces ++ [']']

/-- The part of an address between two slashes and the path. A port is kept
only if it is not the one that the scheme implies. -/
structure Authority where
  username : List Char := []
  password : List Char := []
  host : Host
  port : Option Nat := none
  deriving DecidableEq, Repr

namespace Authority

/-- The user, and the password behind a colon unless it is empty. -/
def userinfo (a : Authority) : List Char :=
  a.username ++ (if a.password = [] then [] else ':' :: a.password)

def chars (a : Authority) : List Char :=
  (if a.userinfo = [] then [] else a.userinfo ++ ['@']) ++ a.host.chars ++
    match a.port with
    | none => []
    | some n => ':' :: Text.digits n

end Authority

end Url

structure Url where
  scheme : List Char
  authority : Option Url.Authority
  path : List Char
  query : Option (List Char) := none
  fragment : Option (List Char) := none
  deriving DecidableEq, Repr

namespace Url

/-- The path starts at a root, so relative addresses and queries make sense for
the address. Otherwise all behind the scheme is one unstructured text. -/
def isHierarchical (u : Url) : Bool := u.authority.isSome || u.path.head? = some '/'

/-- The scheme, the authority and the path. A path that starts with two slashes
is kept apart from an authority by a dot segment. -/
def frontChars (u : Url) : List Char :=
  u.scheme ++ ':' :: match u.authority with
    | some a => '/' :: '/' :: a.chars ++ u.path
    | none => (match u.path with
      | '/' :: '/' :: _ => ['/', '.']
      | _ => []) ++ u.path

/-- A part that follows a mark, or nothing if it is absent. -/
def marked (mark : Char) : Option (List Char) → List Char
  | none => []
  | some s => mark :: s

def charsBeforeFragment (u : Url) : List Char := u.frontChars ++ marked '?' u.query

def chars (u : Url) : List Char := u.charsBeforeFragment ++ marked '#' u.fragment

def text (u : Url) : String := String.ofList u.chars

inductive ParseError where
  | noScheme
  | emptyHost
  | invalidPort
  | invalidIpv4
  | invalidIpv6
  | invalidHostCharacter
  | invalidDomain
  deriving DecidableEq, Repr

def ParseError.message : ParseError → String
  | .noScheme => "relative URL without a base"
  | .emptyHost => "empty host"
  | .invalidPort => "invalid port number"
  | .invalidIpv4 => "invalid IPv4 address"
  | .invalidIpv6 => "invalid IPv6 address"
  | .invalidHostCharacter => "invalid domain character"
  | .invalidDomain => "invalid international domain name"

/-- The schemes fall into three kinds, which differ in how the rest of an
address is read. -/
inductive SchemeKind where
  /-- Addresses of files on a machine. -/
  | file
  /-- A known scheme with a machine and a port of its own. -/
  | network (port : Nat)
  | other
  deriving DecidableEq, Repr

namespace SchemeKind

def ofScheme (scheme : List Char) : SchemeKind :=
  if scheme = ['f', 'i', 'l', 'e'] then .file
  else if scheme = ['h', 't', 't', 'p'] || scheme = ['w', 's'] then .network 80
  else if scheme = ['h', 't', 't', 'p', 's'] || scheme = ['w', 's', 's'] then .network 443
  else if scheme = ['f', 't', 'p'] then .network 21
  else .other

def isSpecial : SchemeKind → Bool
  | .other => false
  | _ => true

/-- A character that separates the parts of a path. -/
def isSlash (kind : SchemeKind) (c : Char) : Bool := c = '/' || (kind.isSpecial && c = '\\')

def impliedPort : SchemeKind → Option Nat
  | .network port => some port
  | _ => none

end SchemeKind

end Url

end StartPage
