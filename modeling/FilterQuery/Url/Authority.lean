import FilterQuery.Url.Basic

namespace FilterQuery.Url

def endsAuthority (kind : SchemeKind) (c : Char) : Bool :=
  c == '/' || c == '?' || c == '#' || (kind.isSpecial && c == '\\')

def bracketed? : List Char → Option (Except UrlError Host)
  | '[' :: cs =>
    match cs.reverse with
    | ']' :: body =>
      match ipv6? body.reverse with
      | some pieces => some (.ok (.ipv6 pieces))
      | none => some (.error .badIpv6)
    | _ => some (.error .badIpv6)
  | _ => none

def specialHost (cs : List Char) : Except UrlError Host :=
  match bracketed? cs with
  | some result => result
  | none =>
    match String.fromUTF8? ⟨(percentDecode cs).toArray⟩ with
    | none => .error .badDomain
    | some decoded =>
      match asciiDomain? decoded.toList with
      | none => .error .badDomain
      | some [] => .error .emptyHost
      | some name =>
        if endsInNumber name then
          match ipv4? name with
          | some address => .ok (.ipv4 address)
          | none => .error .badIpv4
        else .ok (.domain name)

def isForbiddenInHost (c : Char) : Bool :=
  c.toNat == 0 || "\t\n\r #/:<>?@[\\]^|".contains c

def otherHost (cs : List Char) : Except UrlError Host :=
  match bracketed? cs with
  | some result => result
  | none =>
    if cs.any isForbiddenInHost then .error .badDomainCharacter
    else .ok (.domain (percentEncode EncodeSet.least cs))

/-- The characters up to the end of the host. A colon ends it too, but for one inside brackets. -/
def hostLength (kind : SchemeKind) (inBrackets : Bool) : List Char → Nat
  | [] => 0
  | c :: cs =>
    if endsAuthority kind c || (c == ':' && !inBrackets) then 0
    else hostLength kind (if c == '[' then true else if c == ']' then false else inBrackets) cs + 1

def scanHost (kind : SchemeKind) (cs : List Char) : Except UrlError (Host × List Char) := do
  let length := hostLength kind false cs
  let name := cs.take length
  if kind = .web ∧ name = [] then throw .emptyHost
  let host ← if kind.isSpecial then specialHost name else otherHost name
  return (host, cs.drop length)

/-- The number behind the colon after a host, and what follows it. The usual one of the scheme is
dropped. -/
def scanPortNumber (scheme cs : List Char) : Except UrlError (Option Nat × List Char) :=
  let ds := cs.takeWhile Char.isDigit
  let rest := cs.dropWhile Char.isDigit
  let n := Decimal.value ds
  if n > 65535 then .error .badPortNumber
  else if rest.head?.any fun c => !"/\\?#".contains c then .error .badPortNumber
  else .ok (if ds.isEmpty || defaultPortNumber scheme == some n then none else some n, rest)

def splitCredentials (kind : SchemeKind) (cs : List Char) : Option (List Char × List Char) :=
  let authority := cs.takeWhile fun c => !endsAuthority kind c
  if authority.contains '@' then
    let host := authority.reverse.takeWhile (· ≠ '@')
    let length := authority.length - host.length
    some (cs.take (length - 1), cs.drop length)
  else none

def readCredentials (cs : List Char) : List Char × List Char :=
  (percentEncode EncodeSet.userinfo (cs.takeWhile (· ≠ ':')),
    percentEncode EncodeSet.userinfo (cs.dropWhile (· ≠ ':')).tail)

/-- The authority at the front of a text, and what follows it. -/
def scanAuthority (scheme cs : List Char) : Except UrlError (Authority × List Char) := do
  let kind := schemeKind scheme
  let (credentials, cs, marked) :=
    match splitCredentials kind cs with
    | some (credentials, rest) => (credentials, rest, true)
    | none => ([], cs, false)
  if marked && credentials.isEmpty && cs.head?.any (endsAuthority kind) then throw .emptyHost
  let (username, password) := readCredentials credentials
  let (host, cs) ← scanHost kind cs
  if host.isEmpty && (kind.isSpecial || cs.head? == some ':') then throw .emptyHost
  let (portNumber, cs) ←
    match cs with
    | ':' :: cs => scanPortNumber scheme cs
    | cs => pure (none, cs)
  if host.isEmpty && !(username.isEmpty && password.isEmpty) then throw .emptyHost
  return (⟨username, password, host, portNumber⟩, cs)

end FilterQuery.Url
