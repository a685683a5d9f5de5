import FilterQuery.Date
import FilterQuery.Decimal.Shortest

namespace FilterQuery

open FilterQuery.Decimal

inductive Value
  | text (content : String)
  | integer (n : Int64)
  | decimal (x : Binary64)
  | bool (b : Bool)
  | date (d : Date)
deriving DecidableEq, Repr

inductive ColumnType
  | string
  | number
  | bool
  | date
deriving DecidableEq, Repr

namespace ColumnType

def name : ColumnType → String
  | string => "string"
  | number => "number"
  | bool => "bool"
  | date => "date"

def ofName? : String → Option ColumnType
  | "string" => some string
  | "number" => some number
  | "bool" => some bool
  | "date" => some date
  | _ => none

def describe : ColumnType → String
  | date => "date (YYYY-MM-DD)"
  | t => t.name

end ColumnType

namespace Value

/-- The integer with this sign and these digits, if 64 bits hold it. -/
def integer? (negative : Bool) (digits : List Char) : Option Int64 :=
  let n : Int := if negative then -(Decimal.value digits : Int) else Decimal.value digits
  if Int64.minValue.toInt ≤ n ∧ n ≤ Int64.maxValue.toInt then some (Int64.ofInt n) else none

/-- Digits make an integer, digits with a point between them a decimal; either may be negative. An
integer that is too large is no number, nor is a decimal without a finite neighbour. -/
def unsignedNumber? (negative : Bool) (cs : List Char) : Option Value :=
  let whole := cs.takeWhile (· ≠ '.')
  match cs.dropWhile (· ≠ '.') with
  | [] => if isDigits whole then (integer? negative whole).map .integer else none
  | _ :: fraction =>
    if isDigits whole && isDigits fraction then
      let x := Binary64.ofFraction negative whole fraction 0
      if x.isFinite then some (.decimal x) else none
    else none

def number? (text : String) : Option Value :=
  match text.toList with
  | '-' :: cs => unsignedNumber? true cs
  | cs => unsignedNumber? false cs

def bool? : String → Option Value
  | "true" => some (.bool true)
  | "false" => some (.bool false)
  | _ => none

def ofText? (type : ColumnType) (text : String) : Option Value :=
  match type with
  | .string => some (.text text)
  | .number => number? text
  | .bool => bool? text
  | .date => (Date.ofText? text).map .date

def render : Value → String
  | text s => s
  | integer n => toString n.toInt
  | decimal x => x.render
  | bool b => if b then "true" else "false"
  | date d => d.render

end Value

end FilterQuery
