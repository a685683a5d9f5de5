
namespace FilterQuery.Url.Punycode

def base : Nat := 36

def firstCode : Nat := 128

def firstBias : Nat := 72

def minThreshold : Nat := 1

def maxThreshold : Nat := 26

/-- The threshold at the digit with `k` places before it, counted in steps of 36. -/
def threshold (k bias : Nat) : Nat := min maxThreshold (max minThreshold (k - bias))

def places (k delta : Nat) : Nat :=
  if delta > (base - minThreshold) * maxThreshold / 2 then
    places (k + base) (delta / (base - minThreshold))
  else k + (base - minThreshold + 1) * delta / (delta + 38)
termination_by delta
decreasing_by
  simp only [base, minThreshold, maxThreshold] at *
  omega

def adapt (delta count : Nat) (first : Bool) : Nat :=
  let delta := if first then delta / 700 else delta / 2
  places 0 (delta + delta / count)

def digitValue? (c : Char) : Option Nat :=
  if 'a' ≤ c ∧ c ≤ 'z' then some (c.toNat - 'a'.toNat)
  else if '0' ≤ c ∧ c ≤ '9' then some (c.toNat - '0'.toNat + 26)
  else none

def digitChar (n : Nat) : Char :=
  if n < 26 then Char.ofNat ('a'.toNat + n) else Char.ofNat ('0'.toNat + (n - 26))

/-- The text so far, the next character and place to come, and the number being read: its value so
far, and the weight and place of its next digit. -/
structure Reading where
  output : List Char
  code : Nat
  position : Nat
  bias : Nat
  value : Nat
  weight : Nat
  place : Nat

def Reading.insert (r : Reading) (value : Nat) : Option Reading :=
  let count := r.output.length + 1
  let position := (r.position + value) % count
  let code := r.code + (r.position + value) / count
  if h : code.isValidChar then
    some ⟨r.output.take position ++ [Char.ofNatAux code h] ++ r.output.drop position, code,
      position + 1, adapt value count (r.position == 0), 0, 1, base⟩
  else none

def Reading.step (r : Reading) (c : Char) : Option Reading := do
  let digit ← digitValue? c
  let value := r.value + digit * r.weight
  let t := threshold r.place r.bias
  if digit < t then r.insert value
  else some { r with value := value, weight := r.weight * (base - t), place := r.place + base }

def splitHyphen (cs : List Char) : List Char × List Char :=
  let tail := (cs.reverse.takeWhile (· ≠ '-')).reverse
  let length := cs.length - tail.length
  if length ≤ 1 then ([], cs) else (cs.take (length - 1), tail)

/-- The text that was encoded, from its code in lower case. -/
def decode? (cs : List Char) : Option (List Char) := do
  let (ascii, code) := splitHyphen cs
  let r ← code.foldlM Reading.step ⟨ascii, firstCode, 0, firstBias, 0, 1, base⟩
  if r.weight = 1 then some r.output else none

def encodeNumber (n place bias : Nat) : List Char :=
  let t := threshold place bias
  if n < t then [digitChar n]
  else digitChar (t + (n - t) % (base - t)) :: encodeNumber ((n - t) / (base - t)) (place + base) bias
termination_by n
decreasing_by
  have ht : 1 ≤ threshold place bias := by
    simp only [threshold, minThreshold, maxThreshold]
    omega
  have hq := Nat.div_le_self (n - threshold place bias) (base - threshold place bias)
  omega

/-- The number being counted, the bias, and how many characters are encoded. -/
structure Writing where
  delta : Nat
  bias : Nat
  count : Nat
  output : List Char

/-- Goes over the text once for the character `code`, writing where it stands. -/
def Writing.pass (first : Nat) (code : Nat) (w : Writing) : List Char → Writing
  | [] => w
  | c :: cs =>
    if c.toNat < code then pass first code { w with delta := w.delta + 1 } cs
    else if c.toNat = code then
      pass first code ⟨0, adapt w.delta (w.count + 1) (w.count == first), w.count + 1,
        w.output ++ encodeNumber w.delta base w.bias⟩ cs
    else pass first code w cs

def Writing.passes (first : Nat) (text : List Char) (previous : Nat) (w : Writing) :
    List Nat → Writing
  | [] => w
  | code :: codes =>
    let w := { w with delta := w.delta + (code - previous) * (w.count + 1) }
    let w := w.pass first code text
    passes first text (code + 1) { w with delta := w.delta + 1 } codes

def encode (cs : List Char) : List Char :=
  let ascii := cs.filter (·.toNat < firstCode)
  let codes := ((cs.map Char.toNat).filter (firstCode ≤ ·)).eraseDups.mergeSort
  let start := if ascii.isEmpty then [] else ascii ++ ['-']
  (Writing.passes ascii.length cs firstCode ⟨0, firstBias, ascii.length, start⟩ codes).output

end FilterQuery.Url.Punycode
