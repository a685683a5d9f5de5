import FilterQuery.Decimal.Shortest

namespace FilterQuery.Json

open FilterQuery.Decimal

structure Number where
  negative : Bool
  whole : List Char
  fraction : List Char
  exponent : Option Int
deriving DecidableEq, Repr

namespace Number

def ofNat (n : Nat) : Number := ⟨false, digits n, [], none⟩

def isPlain (n : Number) : Bool := n.fraction.isEmpty && n.exponent.isNone

def word? (n : Number) : Option UInt64 :=
  if n.isPlain && !n.negative && value n.whole < UInt64.size then some (UInt64.ofNat (value n.whole))
  else none

def toBinary64 (n : Number) : Binary64 :=
  Binary64.ofFraction n.negative n.whole n.fraction (n.exponent.getD 0)

/-- Positional from `0.00001` up to sixteen digits before the point, with `.0` where no other digit
follows the point; beyond, one digit before the point and an exponent. -/
def fractionText (x : Fraction) : List Char :=
  let ds := digits x.digits
  let place := (ds.length : Int) + x.exponent
  if 0 ≤ x.exponent ∧ place ≤ 16 then x.positional ++ ['.', '0']
  else if -5 < place ∧ place ≤ 16 then x.positional
  else
    let power := place - 1
    let mantissa :=
      match ds with
      | d :: [] => [d]
      | d :: rest => d :: '.' :: rest
      | [] => []
    mantissa ++ 'e' :: (if power < 0 then ['-'] else []) ++ digits power.natAbs

def floatText : Binary64 → List Char
  | .finite negative significand exponent =>
    (if negative then ['-'] else []) ++ fractionText (Binary64.shortest significand exponent)
  | _ => "null".toList

def render (n : Number) : String :=
  let size := value n.whole
  if n.isPlain && !n.negative && size < UInt64.size then String.ofList (digits size)
  else if n.isPlain && n.negative && 0 < size && size ≤ UInt64.size / 2 then
    String.ofList ('-' :: digits size)
  else String.ofList (floatText n.toBinary64)

end Number

end FilterQuery.Json
