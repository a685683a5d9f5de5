import FilterQuery.Decimal.Binary64

namespace FilterQuery.Decimal

structure Fraction where
  digits : Nat
  exponent : Int
deriving DecidableEq, Repr

namespace Fraction

def strip (x : Fraction) : Fraction :=
  if x.digits ≠ 0 ∧ x.digits % 10 = 0 then strip ⟨x.digits / 10, x.exponent + 1⟩ else x
termination_by x.digits
decreasing_by omega

def positional (x : Fraction) : List Char :=
  let ds := Decimal.digits x.digits
  if 0 ≤ x.exponent then ds ++ List.replicate x.exponent.toNat '0'
  else
    let places := (-x.exponent).toNat
    let ds := padded (places + 1) x.digits
    ds.take (ds.length - places) ++ '.' :: ds.drop (ds.length - places)

end Fraction

namespace Binary64

/-- The numbers that are rounded to `significand * 2 ^ exponent` lie between these two, in units of
`2 ^ (exponent - 2)`. -/
def rounds (significand : Nat) (exponent : Int) : Nat × Nat :=
  let narrow := significand = Nat.pow 2 (precision - 1) ∧ minExponent < exponent
  (4 * significand - (if narrow then 1 else 2), 4 * significand + 2)

/-- Whether a decimal fraction is rounded to `significand * 2 ^ exponent`. The bounds belong to the
even significands. -/
def reads (significand : Nat) (exponent : Int) (x : Fraction) : Bool :=
  let (low, high) := rounds significand exponent
  let unit := exponent - 2
  let point := x.digits * Nat.pow 10 x.exponent.toNat * Nat.pow 2 (-unit).toNat
  let scaled (n : Nat) := n * Nat.pow 2 unit.toNat * Nat.pow 10 (-x.exponent).toNat
  if significand % 2 = 0 then scaled low ≤ point && point ≤ scaled high
  else scaled low < point && point < scaled high

def leadingPlace (num den : Nat) : Int :=
  if den ≤ num then (digits (num / den)).length
  else 1 - ((digits ((den - 1) / num)).length : Int)

/-- The multiple of `10 ^ exponent` nearest to `num / den` and the one on its other side. A half goes
up. -/
def neighbours (num den : Nat) (exponent : Int) : List Fraction :=
  let n := num * Nat.pow 10 (-exponent).toNat
  let d := den * Nat.pow 10 exponent.toNat
  let low : Fraction := ⟨n / d, exponent⟩
  let high : Fraction := ⟨n / d + 1, exponent⟩
  if d ≤ 2 * (n % d) then [high, low] else [low, high]

def maxDigits : Nat := 17

/-- Of the decimal fractions that are rounded to `significand * 2 ^ exponent`, the nearest one among
those with the fewest digits. -/
def shortest (significand : Nat) (exponent : Int) : Fraction :=
  if significand = 0 then ⟨0, 0⟩
  else
    let num := significand * Nat.pow 2 exponent.toNat
    let den := Nat.pow 2 (-exponent).toNat
    let place := leadingPlace num den
    let candidates := (List.range maxDigits).flatMap fun k => neighbours num den (place - (k + 1 : Nat))
    match candidates.find? (reads significand exponent) with
    | some x => x.strip
    | none => ⟨num / den, 0⟩

/-- The shortest text that reads back, without an exponent. -/
def render : Binary64 → String
  | nan => "NaN"
  | infinite negative => if negative then "-inf" else "inf"
  | finite negative significand exponent =>
    (if negative then "-" else "") ++ String.ofList (shortest significand exponent).positional

end Binary64

end FilterQuery.Decimal
