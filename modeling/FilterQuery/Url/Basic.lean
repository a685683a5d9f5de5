import FilterQuery.Url.Domain
import FilterQuery.Url.Ipv4
import FilterQuery.Url.Ipv6
import FilterQuery.Url.Percent

namespace FilterQuery

namespace Url

/-- A domain name is written as it stands; it may be empty where the scheme allows it. -/
inductive Host
  | domain (name : List Char)
  | ipv4 (address : Nat)
  | ipv6 (pieces : List Nat)
deriving DecidableEq, Repr

namespace Host

def empty : Host := .domain []

def isEmpty (h : Host) : Bool := h == empty

def text : Host → List Char
  | domain name => name
  | ipv4 address => ipv4Text address
  | ipv6 pieces => '[' :: ipv6Text pieces ++ [']']

end Host

structure Authority where
  username : List Char
  password : List Char
  host : Host
  portNumber : Option Nat
deriving DecidableEq, Repr

namespace Authority

def ofHost (host : Host) : Authority := ⟨[], [], host, none⟩

def credentials (a : Authority) : List Char :=
  if a.username.isEmpty && a.password.isEmpty then []
  else a.username ++ (if a.password.isEmpty then [] else ':' :: a.password) ++ ['@']

def text (a : Authority) : List Char :=
  a.credentials ++ a.host.text ++
    match a.portNumber with
    | some n => ':' :: Decimal.digits n
    | none => []

end Authority

/-- The schemes of the web have an authority and a path that starts with a slash. -/
inductive SchemeKind
  | file
  | web
  | other
deriving DecidableEq, Repr

def schemeKind (scheme : List Char) : SchemeKind :=
  match String.ofList scheme with
  | "http" | "https" | "ws" | "wss" | "ftp" => .web
  | "file" => .file
  | _ => .other

def SchemeKind.isSpecial (kind : SchemeKind) : Bool := kind != .other

def defaultPortNumber (scheme : List Char) : Option Nat :=
  match String.ofList scheme with
  | "http" | "ws" => some 80
  | "https" | "wss" => some 443
  | "ftp" => some 21
  | _ => none

end Url

open Url in
/-- All parts are in the form in which they are written. -/
structure Url where
  scheme : List Char
  authority : Option Authority
  path : List Char
  query : Option (List Char)
  fragment : Option (List Char)
deriving DecidableEq, Repr

namespace Url

def isHierarchical (u : Url) : Bool := u.authority.isSome || u.path.head? == some '/'

def host (u : Url) : Host :=
  match u.authority with
  | some a => a.host
  | none => Host.empty

/-- What stands before the path. A path that starts with two slashes must not be taken for an
authority. -/
def origin (u : Url) : List Char :=
  u.scheme ++ ':' ::
    match u.authority with
    | some a => '/' :: '/' :: a.text
    | none => if u.path.take 2 = ['/', '/'] then ['/', '.'] else []

def text (u : Url) : List Char :=
  u.origin ++ u.path ++
    (match u.query with
      | some q => '?' :: q
      | none => []) ++
    match u.fragment with
    | some f => '#' :: f
    | none => []

def render (u : Url) : String := String.ofList u.text

end Url

inductive UrlError
  | emptyHost
  | badDomain
  | badDomainCharacter
  | badIpv4
  | badIpv6
  | badPortNumber
  | relativeWithoutBase
  | relativeToRootless
deriving DecidableEq, Repr

def UrlError.message : UrlError → String
  | emptyHost => "empty host"
  | badDomain => "invalid international domain name"
  | badDomainCharacter => "invalid domain character"
  | badIpv4 => "invalid IPv4 address"
  | badIpv6 => "invalid IPv6 address"
  | badPortNumber => "invalid port number"
  | relativeWithoutBase => "relative URL without a base"
  | relativeToRootless => "relative URL with a cannot-be-a-base base"

end FilterQuery
