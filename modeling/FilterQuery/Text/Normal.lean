import FilterQuery.Text.Composition

namespace FilterQuery.Text

def firstSyllable : Nat := 0xAC00

def firstLead : Nat := 0x1100

def firstVowel : Nat := 0x1161

/-- The tails start one below, since the first of them means none. -/
def firstTail : Nat := 0x11A7

def leadCount : Nat := 19

def vowelCount : Nat := 21

def tailCount : Nat := 28

def splitSyllable? (c : Char) : Option (Char × Char) :=
  let n := c.toNat - firstSyllable
  if c.toNat < firstSyllable ∨ leadCount * vowelCount * tailCount ≤ n then none
  else if n % tailCount ≠ 0 then
    some (Char.ofNat (c.toNat - n % tailCount), Char.ofNat (firstTail + n % tailCount))
  else
    some (Char.ofNat (firstLead + n / tailCount / vowelCount),
      Char.ofNat (firstVowel + n / tailCount % vowelCount))

def joinSyllable? (a b : Char) : Option Char :=
  let lead := a.toNat - firstLead
  let vowel := b.toNat - firstVowel
  let syllable := a.toNat - firstSyllable
  let tail := b.toNat - firstTail
  if firstLead ≤ a.toNat ∧ lead < leadCount ∧ firstVowel ≤ b.toNat ∧ vowel < vowelCount then
    some (Char.ofNat (firstSyllable + (lead * vowelCount + vowel) * tailCount))
  else if firstSyllable ≤ a.toNat ∧ syllable < leadCount * vowelCount * tailCount ∧
      syllable % tailCount = 0 ∧ firstTail < b.toNat ∧ tail < tailCount then
    some (Char.ofNat (a.toNat + tail))
  else none

def split? (c : Char) : Option (Char × Char) :=
  match splitSyllable? c with
  | some parts => some parts
  | none =>
    pairTable.findSome? fun
      | [whole, a, b] => if whole = c.toNat then some (Char.ofNat a, Char.ofNat b) else none
      | _ => none

def join? (a b : Char) : Option Char :=
  match joinSyllable? a b with
  | some c => some c
  | none =>
    pairTable.findSome? fun
      | [whole, x, y] => if x = a.toNat ∧ y = b.toNat then some (Char.ofNat whole) else none
      | _ => none

def maxParts : Nat := 4

def partsOf (depth : Nat) (c : Char) : List Char :=
  match depth, split? c with
  | depth + 1, some (a, b) => partsOf depth a ++ [b]
  | _, _ => [c]

def placeMark (c : Char) : List Char → List Char
  | [] => [c]
  | d :: ds =>
    if 0 < combiningClass d ∧ combiningClass d < combiningClass c then d :: placeMark c ds
    else c :: d :: ds

def orderMarks : List Char → List Char
  | [] => []
  | c :: cs => placeMark c (orderMarks cs)

/-- Joins what follows a character to it, unless a mark of no lower class stands between them.
`marks` are the marks between them and `last` is the class of the last one. -/
def joinMarks (base : Char) (marks : List Char) (last : Nat) : List Char → List Char
  | [] => base :: marks
  | c :: cs =>
    let k := combiningClass c
    match if marks.isEmpty || last < k then join? base c else none with
    | some whole => joinMarks whole marks last cs
    | none =>
      if k = 0 then base :: marks ++ joinMarks c [] 0 cs
      else joinMarks base (marks ++ [c]) k cs

def normalize (cs : List Char) : List Char :=
  match orderMarks (cs.flatMap (partsOf maxParts)) with
  | [] => []
  | c :: cs => joinMarks c [] (combiningClass c) cs

end FilterQuery.Text
