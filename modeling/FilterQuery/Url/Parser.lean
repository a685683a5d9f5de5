import FilterQuery.Url.Authority
import FilterQuery.Url.Path

namespace FilterQuery.Url

/-- The text without the blanks and control characters at its ends, and without tabs and line ends
anywhere. -/
def clean (cs : List Char) : List Char :=
  let trim (cs : List Char) := cs.dropWhile fun c => c.toNat ≤ 32
  (trim (trim cs).reverse).reverse.filter fun c => !"\t\n\r".contains c

def scheme? (cs : List Char) : Option (List Char × List Char) :=
  let isPart (c : Char) : Bool := c.isAlphanum || c == '+' || c == '-' || c == '.'
  match cs.takeWhile isPart, cs.dropWhile isPart with
  | c :: name, ':' :: rest => if c.isAlpha then some ((c :: name).map Char.toLower, rest) else none
  | _, _ => none

def withQuery (u : Url) (cs : List Char) : Url :=
  let set := if (schemeKind u.scheme).isSpecial then EncodeSet.specialQuery else EncodeSet.query
  let fragment := (cs.dropWhile (· ≠ '#')).tail?.map (percentEncode EncodeSet.fragment)
  let query :=
    match cs with
    | '?' :: rest => some (percentEncode set (rest.takeWhile (· ≠ '#')))
    | _ => none
  { u with query := query, fragment := fragment }

def withFragment (u : Url) (cs : List Char) : Url :=
  { u with fragment := some (percentEncode EncodeSet.fragment cs) }

def afterSlashes (scheme cs : List Char) : Except UrlError Url := do
  let (authority, cs) ← scanAuthority scheme cs
  let (r, cs) := scanPathStart (schemeKind scheme) cs
  return withQuery ⟨scheme, some authority, r.path, none, none⟩ cs

def isAnySlash (c : Char) : Bool := c == '/' || c == '\\'

def fileUrl (host : Host) (path cs : List Char) : Url :=
  withQuery ⟨"file".toList, some (.ofHost host), path, none, none⟩ cs

/-- A file address that names a host, after its two slashes. The host of this machine is left out,
and a drive is no host. -/
def fileAfterSlashes (cs : List Char) : Except UrlError Url := do
  let name := cs.takeWhile fun c => !endsAuthority .file c
  let rest := cs.dropWhile fun c => !endsAuthority .file c
  let (host, rest) ←
    if isDrive name then pure (Host.empty, cs)
    else if name.isEmpty then pure (Host.empty, rest)
    else do
      let host ← specialHost name
      pure (if host = .domain "localhost".toList then Host.empty else host, rest)
  if host.isEmpty then
    let (r, rest) := scanPath .file ['/'] rest
    return fileUrl Host.empty r.path rest
  else
    let (r, rest) := scanPathStart .file rest
    return fileUrl (if r.drive then Host.empty else host) r.path rest

/-- A file address, perhaps relative to another one. -/
def fileAddress (base : Option Url) (cs : List Char) : Except UrlError Url :=
  match cs, base with
  | c :: d :: rest, base =>
    if isAnySlash c && isAnySlash d then fileAfterSlashes rest
    else fileRest base (c :: d :: rest)
  | cs, base => fileRest base cs
where
  fileRest (base : Option Url) (cs : List Char) : Except UrlError Url :=
    let read (host : Host) (path cs : List Char) :=
      let (r, rest) := scanPath .file path cs
      fileUrl host r.path rest
    match base, cs with
    | none, c :: rest => .ok (if isAnySlash c then read Host.empty [] (c :: rest)
        else read Host.empty ['/'] (c :: rest))
    | none, [] => .ok (read Host.empty ['/'] [])
    | some base, [] => .ok { base with fragment := none }
    | some base, '?' :: rest => .ok (withQuery base ('?' :: rest))
    | some base, '#' :: rest => .ok (withFragment base rest)
    | some base, c :: rest =>
      let first := base.path.tail.takeWhile (· ≠ '/')
      if isAnySlash c then
        if startsWithDrive rest then .ok (read Host.empty [] (c :: rest))
        else if isNormalDrive first then .ok (read Host.empty ('/' :: first) (c :: rest))
        else .ok (read base.host [] (c :: rest))
      else if startsWithDrive (c :: rest) then .ok (read Host.empty ['/'] (c :: rest))
      else .ok (read base.host (popSegment .file base.path) (c :: rest))

def relativeTo (base : Url) (cs : List Char) : Except UrlError Url :=
  let kind := schemeKind base.scheme
  let read (path cs : List Char) : Url :=
    let (r, rest) := scanPath kind path cs
    withQuery { base with path := r.path } rest
  match cs with
  | [] => .ok { base with fragment := none }
  | '?' :: _ => .ok (withQuery base cs)
  | '#' :: rest => .ok (withFragment base rest)
  | '/' :: '/' :: rest => afterSlashes base.scheme rest
  | c :: rest =>
    if isAnySlash c then
      if rest.head?.any isAnySlash then afterSlashes base.scheme (rest.dropWhile isAnySlash)
      else .ok (read ['/'] rest)
    else
      let path := popSegment kind base.path
      .ok (read (if path.isEmpty then ['/'] else path) cs)

def afterScheme (base : Option Url) (scheme cs : List Char) : Except UrlError Url :=
  match schemeKind scheme with
  | .file => fileAddress (base.filter fun b => b.scheme = scheme) cs
  | .web =>
    let slashes := (cs.takeWhile isAnySlash).length
    match base.filter fun b => b.scheme = scheme with
    | some b =>
      if slashes < 2 then relativeTo b cs else afterSlashes scheme (cs.dropWhile isAnySlash)
    | none => afterSlashes scheme (cs.dropWhile isAnySlash)
  | .other =>
    match cs with
    | '/' :: '/' :: rest => afterSlashes scheme rest
    | '/' :: rest =>
      let (r, rest) := scanPath .other ['/'] rest
      .ok (withQuery ⟨scheme, none, r.path, none, none⟩ rest)
    | cs =>
      let path := percentEncode EncodeSet.least (cs.takeWhile fun c => !endsPath c)
      .ok (withQuery ⟨scheme, none, path, none, none⟩ (cs.dropWhile fun c => !endsPath c))

def resolve (base : Option Url) (s : String) : Except UrlError Url :=
  let cs := clean s.toList
  match scheme? cs with
  | some (scheme, rest) => afterScheme base scheme rest
  | none =>
    match base with
    | none => .error .relativeWithoutBase
    | some base =>
      match cs with
      | '#' :: rest => .ok (withFragment base rest)
      | cs =>
        if !base.isHierarchical then .error .relativeToRootless
        else if base.scheme = "file".toList then fileAddress (some base) cs
        else relativeTo base cs

def ofString (s : String) : Except UrlError Url := resolve none s

def join (base : Url) (s : String) : Except UrlError Url := resolve (some base) s

end FilterQuery.Url
