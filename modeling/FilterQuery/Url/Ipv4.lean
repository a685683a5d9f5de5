import FilterQuery.Decimal.Digits
import FilterQuery.Text.Hex

namespace FilterQuery.Url

open FilterQuery.Decimal FilterQuery.Text

def splitDots (cs : List Char) : List (List Char) := cs.splitOn '.'

def ipv4Part? : List Char → Option Nat
  | [] => none
  | ['0'] => some 0
  | '0' :: 'x' :: cs => valueInBase? 16 cs
  | '0' :: 'X' :: cs => valueInBase? 16 cs
  | '0' :: cs => valueInBase? 8 cs
  | cs => valueInBase? 10 cs

/-- Whether the last part of a name, an empty one at the end aside, makes it an address: all its
characters are digits, or it is a part of an address. -/
def endsInNumber (cs : List Char) : Bool :=
  let isNumber (part : List Char) : Bool := isDigits part || (ipv4Part? part).isSome
  match (splitDots cs).reverse with
  | [] :: [] => false
  | [] :: last :: _ => isNumber last
  | last :: _ => isNumber last
  | [] => false

def joinIpv4 (parts : List Nat) : Option Nat :=
  match parts.reverse with
  | [] => none
  | last :: bytes =>
    if last < Nat.pow 256 (4 - bytes.length) ∧ bytes.all (· < 256) then
      some (last + Nat.pow 256 (4 - bytes.length) * bytes.reverse.foldl (256 * · + ·) 0)
    else none

def ipv4? (cs : List Char) : Option Nat := do
  let parts := splitDots cs
  let parts := if parts.getLast? = some [] then parts.dropLast else parts
  if 4 < parts.length then none
  else joinIpv4 (← parts.mapM ipv4Part?)

def ipv4Text (address : Nat) : List Char :=
  let byte (k : Nat) : List Char := digits (address / Nat.pow 256 k % 256)
  byte 3 ++ '.' :: byte 2 ++ '.' :: byte 1 ++ '.' :: byte 0

end FilterQuery.Url
