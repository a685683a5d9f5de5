import FilterQuery.Text.Hex
import FilterQuery.Text.RangeSet

namespace FilterQuery.Text

def tableNumber (cs : List Char) : Nat := (valueInBase? 16 cs).getD 0

def numbersOf (cs : List Char) : List Nat := (cs.splitOn ' ').map tableNumber

def tableNumbers (lines : List String) : List Nat := lines.flatMap fun line => numbersOf line.toList

def tableRows (lines : List String) : List (List Nat) :=
  lines.flatMap fun line => (line.toList.splitOn ',').map numbersOf

end FilterQuery.Text
