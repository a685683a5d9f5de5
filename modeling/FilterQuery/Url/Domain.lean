import FilterQuery.Text.Normal
import FilterQuery.Url.Domain.Classes
import FilterQuery.Url.Domain.Mapping
import FilterQuery.Url.Punycode

namespace FilterQuery.Url

open FilterQuery.Text FilterQuery.Url.Domain

def isForbiddenInDomain (c : Char) : Bool :=
  c.toNat ≤ 32 || c.toNat == 127 || "%#/:<>?@[\\]^|".contains c

def isAscii (cs : List Char) : Bool := cs.all (·.toNat < 128)

def mapDomainChar? (c : Char) : Option (List Char) :=
  if c.toNat < 128 then some [c.toLower] else mapping? c

def mapDomain? (cs : List Char) : Option (List Char) := do
  return normalize (← cs.mapM mapDomainChar?).flatten

/-- What a label in ASCII starts with if it stands for another text. -/
def encodedMark : List Char := "xn--".toList

structure Label where
  text : List Char
  ascii : List Char

/-- A label that is in its normal form already. An encoded one has to stand for a text that is not
ASCII and is in its normal form too. -/
def Label.of? (cs : List Char) : Option Label :=
  if encodedMark.isPrefixOf cs then do
    let text ← Punycode.decode? (cs.drop encodedMark.length)
    if isAscii cs && !isAscii text && mapDomain? text == some text then some ⟨text, cs⟩ else none
  else if isAscii cs then some ⟨cs, cs⟩
  else some ⟨cs, encodedMark ++ Punycode.encode cs⟩

def isVirama (c : Char) : Bool := combiningClass c == 9

/-- Whether a letter that is joined to its next one stands before, marks aside. `before` is what
stands before, the nearest first. -/
def joinsFrom (before : List Char) : Bool :=
  (before.dropWhile fun c => within transparent c.toNat).head?.any (within joinsNext ·.toNat)

def joinsTo (after : List Char) : Bool :=
  (after.dropWhile fun c => within transparent c.toNat).head?.any (within joinsPrevious ·.toNat)

/-- Joiners stand after a virama; the one that keeps letters apart may also stand between letters
that would be joined. -/
def joinersFit (before : List Char) : List Char → Bool
  | [] => true
  | c :: cs =>
    let fits :=
      if c = '\u200C' then before.head?.any isVirama || (joinsFrom before && joinsTo cs)
      else if c = '\u200D' then before.head?.any isVirama
      else true
    fits && joinersFit (c :: before) cs

def Label.isWellFormed (l : Label) : Bool :=
  !l.text.head?.any (within marks ·.toNat) && joinersFit [] l.text &&
    !l.text.any isForbiddenInDomain

def Label.isRightToLeft (l : Label) : Bool :=
  l.text.any fun c => direction c ∈ [Direction.rightToLeft, .arabicNumber]

/-- Whether the directions in a label go together: it starts with a letter of its own direction,
holds only what fits that direction, and ends, marks aside, with a letter or a number of it. -/
def Label.directionsFit (l : Label) : Bool :=
  let ds := l.text.map direction
  let last := (ds.reverse.dropWhile (· = .nonspacing)).head?
  match ds.head? with
  | none => true
  | some .rightToLeft =>
    ds.all (· ∉ [Direction.leftToRight, .separator]) &&
      last.any (· ∈ [Direction.rightToLeft, .europeanNumber, .arabicNumber]) &&
      !(Direction.europeanNumber ∈ ds && Direction.arabicNumber ∈ ds)
  | some .leftToRight =>
    ds.all (· ∉ [Direction.rightToLeft, .arabicNumber, .separator]) &&
      last.any (· ∈ [Direction.leftToRight, .europeanNumber])
  | _ => false

/-- The form of a name in ASCII and lower case, label by label; `none` if it is not well formed. -/
def asciiDomain? (cs : List Char) : Option (List Char) := do
  let labels ← ((← mapDomain? cs).splitOn '.').mapM Label.of?
  if labels.all Label.isWellFormed &&
      (!labels.any Label.isRightToLeft || labels.all Label.directionsFit) then
    some (['.'].intercalate (labels.map Label.ascii))
  else none

end FilterQuery.Url
