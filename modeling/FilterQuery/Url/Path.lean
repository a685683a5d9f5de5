import FilterQuery.Url.Basic

namespace FilterQuery.Url

def isDrive : List Char → Bool
  | [c, d] => c.isAlpha && (d == ':' || d == '|')
  | _ => false

def isNormalDrive (cs : List Char) : Bool := isDrive cs && cs.getLast? == some ':'

def startsWithDrive (cs : List Char) : Bool :=
  isDrive (cs.take 2) && (cs.drop 2).head?.all fun c => "/\\?#".contains c

def splitLast (path : List Char) : List Char × List Char :=
  let segment := (path.reverse.takeWhile (· ≠ '/')).reverse
  (path.take (path.length - segment.length), segment)

/-- The path without its last segment. The drive of a file stays. -/
def popSegment (kind : SchemeKind) (path : List Char) : List Char :=
  let (before, segment) := splitLast path
  if kind = .file ∧ isNormalDrive segment then path else before

/-- Whether the slash at the end of a path may go: it is not the root's, nor a drive's. -/
def isRemovableSlash (path : List Char) : Bool :=
  let (before, segment) := splitLast path.dropLast
  path.getLast? == some '/' && !before.isEmpty && !startsWithDrive (segment ++ ['/'])

def parent (kind : SchemeKind) (path : List Char) : List Char :=
  popSegment kind (if isRemovableSlash path then path.dropLast else path)

def isDot (cs : List Char) : Bool := String.ofList (cs.map Char.toLower) ∈ [".", "%2e"]

def isDoubleDot (cs : List Char) : Bool :=
  String.ofList (cs.map Char.toLower) ∈ ["..", ".%2e", "%2e.", "%2e%2e"]

def endsWithSlash (path : List Char) : Bool := path.getLast? == some '/'

structure PathReading where
  path : List Char
  drive : Bool
deriving DecidableEq, Repr

/-- One more segment, already encoded, with the slash after it if there is one. A segment right
after a drive is set apart from it. -/
def PathReading.push (kind : SchemeKind) (r : PathReading) (segment : List Char) (slash : Bool) :
    PathReading :=
  let close (path : List Char) := if slash then path ++ ['/'] else path
  let path :=
    if kind = .file && !segment.isEmpty && isNormalDrive r.path.tail then r.path ++ ['/'] else r.path
  if isDoubleDot segment then
    let path := parent kind path
    ⟨if slash && !endsWithSlash path then path ++ ['/'] else path, r.drive⟩
  else if isDot segment then ⟨if endsWithSlash path then path else path ++ ['/'], r.drive⟩
  else if kind = .file ∧ path.length = 1 ∧ isDrive segment then
    ⟨close (path ++ segment.take 1 ++ [':']), true⟩
  else ⟨close (path ++ segment), r.drive⟩

def isSlash (kind : SchemeKind) (c : Char) : Bool := c == '/' || (kind.isSpecial && c == '\\')

def endsPath (c : Char) : Bool := c == '?' || c == '#'

def segments (kind : SchemeKind) (cs : List Char) : List (List Char × Bool) :=
  let parts := cs.splitOnP (isSlash kind)
  parts.dropLast.map (·, true) ++ (parts.getLast?.map (·, false)).toList

/-- Reads on from a path that is already there. Returns also what follows the path. -/
def scanPath (kind : SchemeKind) (path cs : List Char) : PathReading × List Char :=
  let parts := segments kind (cs.takeWhile fun c => !endsPath c)
  let push (r : PathReading) (part : List Char × Bool) : PathReading :=
    r.push kind (percentEncode EncodeSet.path part.1) part.2
  let r := parts.foldl push ⟨path, false⟩
  let path := if kind = .file then '/' :: r.path.dropWhile (· == '/') else r.path
  (⟨path, r.drive⟩, cs.dropWhile fun c => !endsPath c)

def scanPathStart (kind : SchemeKind) (cs : List Char) : PathReading × List Char :=
  if kind.isSpecial then
    scanPath kind ['/'] (if cs.head?.any (isSlash kind) then cs.tail else cs)
  else
    match cs with
    | [] => (⟨[], false⟩, [])
    | c :: _ =>
      if endsPath c then (⟨[], false⟩, cs)
      else scanPath kind (if c = '/' then [] else ['/']) cs

end FilterQuery.Url
