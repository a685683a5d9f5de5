import FilterQuery.Json.Basic
import FilterQuery.Text.Hex

namespace FilterQuery.Json

inductive Token
  | openArray
  | closeArray
  | openObject
  | closeObject
  | comma
  | colon
  | text (s : Option String)
  | atom (v : Json)

/-- A character of a string literal, or the number that an escape gives. -/
inductive Piece
  | char (c : Char)
  | code (n : Nat)
deriving DecidableEq, Repr

namespace Token

def isSpace (c : Char) : Bool := c == ' ' || c == '\t' || c == '\n' || c == '\r'

def unescape? : Char → Option Char
  | '"' => some '"'
  | '\\' => some '\\'
  | '/' => some '/'
  | 'b' => some '\x08'
  | 'f' => some '\x0c'
  | 'n' => some '\n'
  | 'r' => some '\r'
  | 't' => some '\t'
  | _ => none

/-- Reads a string literal after its opening quote, and what follows the closing one. -/
def scanPieces : List Char → Option (List Piece × List Char)
  | '"' :: cs => some ([], cs)
  | '\\' :: 'u' :: a :: b :: c :: d :: cs => do
    let n ← Text.valueInBase? 16 [a, b, c, d]
    let (pieces, rest) ← scanPieces cs
    return (.code n :: pieces, rest)
  | '\\' :: e :: cs => do
    let c ← unescape? e
    let (pieces, rest) ← scanPieces cs
    return (.char c :: pieces, rest)
  | c :: cs =>
    if c = '\\' ∨ c.toNat < 32 then none
    else do
      let (pieces, rest) ← scanPieces cs
      return (.char c :: pieces, rest)
  | [] => none

def isHighSurrogate (n : Nat) : Bool := 0xD800 ≤ n && n < 0xDC00

def isLowSurrogate (n : Nat) : Bool := 0xDC00 ≤ n && n < 0xE000

/-- The text of a string literal; `none` if half of a surrogate pair stands alone. -/
def assemble : List Piece → Option (List Char)
  | [] => some []
  | .char c :: pieces => (assemble pieces).map (c :: ·)
  | .code high :: .code low :: pieces =>
    if isHighSurrogate high && isLowSurrogate low then
      (assemble pieces).map
        (Char.ofNat (0x10000 + (high - 0xD800) * 0x400 + (low - 0xDC00)) :: ·)
    else if isHighSurrogate high || isLowSurrogate high then none
    else (assemble (.code low :: pieces)).map (Char.ofNat high :: ·)
  | .code n :: pieces =>
    if isHighSurrogate n || isLowSurrogate n then none
    else (assemble pieces).map (Char.ofNat n :: ·)

def scanWhole : List Char → Option (List Char × List Char)
  | '0' :: cs => some (['0'], cs)
  | c :: cs =>
    if c.isDigit then some (c :: cs.takeWhile Char.isDigit, cs.dropWhile Char.isDigit) else none
  | [] => none

def scanFraction : List Char → Option (List Char × List Char)
  | '.' :: cs =>
    match cs.takeWhile Char.isDigit with
    | [] => none
    | digits => some (digits, cs.dropWhile Char.isDigit)
  | cs => some ([], cs)

def scanExponent : List Char → Option (Option Int × List Char)
  | c :: cs =>
    if c = 'e' ∨ c = 'E' then
      let (negative, cs) := Decimal.Binary64.splitSign cs
      match cs.takeWhile Char.isDigit with
      | [] => none
      | digits =>
        let n : Int := Decimal.value digits
        some (some (if negative then -n else n), cs.dropWhile Char.isDigit)
    else some (none, c :: cs)
  | [] => some (none, [])

def scanUnsigned (negative : Bool) (cs : List Char) : Option (Number × List Char) := do
  let (whole, cs) ← scanWhole cs
  let (fraction, cs) ← scanFraction cs
  let (exponent, cs) ← scanExponent cs
  return (⟨negative, whole, fraction, exponent⟩, cs)

def scan : List Char → Option (Token × List Char)
  | '[' :: cs => some (.openArray, cs)
  | ']' :: cs => some (.closeArray, cs)
  | '\x7b' :: cs => some (.openObject, cs)
  | '\x7d' :: cs => some (.closeObject, cs)
  | ',' :: cs => some (.comma, cs)
  | ':' :: cs => some (.colon, cs)
  | '"' :: cs => (scanPieces cs).map fun (pieces, rest) =>
    (.text ((assemble pieces).map String.ofList), rest)
  | 'n' :: 'u' :: 'l' :: 'l' :: cs => some (.atom .null, cs)
  | 't' :: 'r' :: 'u' :: 'e' :: cs => some (.atom (.bool true), cs)
  | 'f' :: 'a' :: 'l' :: 's' :: 'e' :: cs => some (.atom (.bool false), cs)
  | '-' :: cs => (scanUnsigned true cs).map fun (n, rest) => (.atom (.number n), rest)
  | cs => (scanUnsigned false cs).map fun (n, rest) => (.atom (.number n), rest)

theorem length_of_scanPieces {cs : List Char} {pieces : List Piece} {rest : List Char}
    (h : scanPieces cs = some (pieces, rest)) : rest.length < cs.length := by
  fun_induction scanPieces cs generalizing pieces with
  | case1 => cases h; simp
  | case2 a b c d cs ih =>
    simp only [Option.bind_eq_bind, Option.bind_eq_some_iff] at h
    obtain ⟨n, -, ⟨ps, r⟩, hs, hr⟩ := h
    cases hr
    have : r.length < cs.length := ih hs
    simp only [List.length_cons]
    omega
  | case3 e cs _ ih =>
    simp only [Option.bind_eq_bind, Option.bind_eq_some_iff] at h
    obtain ⟨n, -, ⟨ps, r⟩, hs, hr⟩ := h
    cases hr
    have : r.length < cs.length := ih hs
    simp only [List.length_cons]
    omega
  | case4 => cases h
  | case5 c cs _ _ _ _ ih =>
    simp only [Option.bind_eq_bind, Option.bind_eq_some_iff] at h
    obtain ⟨⟨ps, r⟩, hs, hr⟩ := h
    cases hr
    have : r.length < cs.length := ih hs
    simp only [List.length_cons]
    omega
  | case6 => cases h

theorem length_of_scanWhole {cs whole rest : List Char} (h : scanWhole cs = some (whole, rest)) :
    rest.length < cs.length := by
  unfold scanWhole at h
  split at h
  · cases h; simp
  · split at h
    · cases h
      exact Nat.lt_succ_of_le (List.dropWhile_sublist _).length_le
    · cases h
  · cases h

theorem length_of_scanFraction {cs fraction rest : List Char}
    (h : scanFraction cs = some (fraction, rest)) : rest.length ≤ cs.length := by
  unfold scanFraction at h
  split at h
  · split at h
    · cases h
    · cases h
      exact Nat.le_succ_of_le (List.dropWhile_sublist _).length_le
  · cases h; exact Nat.le_refl _

theorem length_of_splitSign (cs : List Char) :
    (Decimal.Binary64.splitSign cs).2.length ≤ cs.length := by
  unfold Decimal.Binary64.splitSign
  split <;> simp

theorem length_of_scanExponent {cs rest : List Char} {exponent : Option Int}
    (h : scanExponent cs = some (exponent, rest)) : rest.length ≤ cs.length := by
  unfold scanExponent at h
  split at h
  · next c cs =>
    split at h
    · dsimp only at h
      split at h
      · cases h
      · cases h
        have := (List.dropWhile_sublist Char.isDigit (l := (Decimal.Binary64.splitSign cs).2)).length_le
        have := length_of_splitSign cs
        simp only [List.length_cons]
        omega
    · cases h; exact Nat.le_refl _
  · cases h; exact Nat.le_refl _

theorem length_of_scanUnsigned {negative : Bool} {cs rest : List Char} {n : Number}
    (h : scanUnsigned negative cs = some (n, rest)) : rest.length < cs.length := by
  unfold scanUnsigned at h
  simp only [Option.bind_eq_bind, Option.bind_eq_some_iff] at h
  obtain ⟨⟨whole, r₁⟩, h₁, ⟨fraction, r₂⟩, h₂, ⟨exponent, r₃⟩, h₃, h⟩ := h
  cases h
  have := length_of_scanWhole h₁
  have := length_of_scanFraction h₂
  have := length_of_scanExponent h₃
  dsimp only at *
  omega

theorem length_of_scan {cs rest : List Char} {t : Token} (h : scan cs = some (t, rest)) :
    rest.length < cs.length := by
  unfold scan at h
  split at h
  · cases h; simp
  · cases h; simp
  · cases h; simp
  · cases h; simp
  · cases h; simp
  · cases h; simp
  · obtain ⟨⟨pieces, r⟩, hs, h⟩ := Option.map_eq_some_iff.mp h
    cases h
    exact Nat.lt_succ_of_lt (length_of_scanPieces hs)
  · cases h; simp only [List.length_cons]; omega
  · cases h; simp only [List.length_cons]; omega
  · cases h; simp only [List.length_cons]; omega
  · obtain ⟨⟨n, r⟩, hs, h⟩ := Option.map_eq_some_iff.mp h
    cases h
    exact Nat.lt_succ_of_lt (length_of_scanUnsigned hs)
  · obtain ⟨⟨n, r⟩, hs, h⟩ := Option.map_eq_some_iff.mp h
    cases h
    exact length_of_scanUnsigned hs

def all (cs : List Char) : Option (List Token) :=
  match _h : cs.dropWhile isSpace with
  | [] => some []
  | c :: tail =>
    match _hs : scan (c :: tail) with
    | none => none
    | some (t, rest) => (all rest).map (t :: ·)
termination_by cs.length
decreasing_by
  have := length_of_scan (by assumption)
  have := (List.dropWhile_sublist isSpace (l := cs)).length_le
  rw [_h] at this
  omega

end Token

end FilterQuery.Json
