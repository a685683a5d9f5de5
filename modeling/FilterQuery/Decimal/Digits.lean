
namespace FilterQuery.Decimal

def value (digits : List Char) : Nat := digits.foldl (fun n c => 10 * n + (c.toNat - '0'.toNat)) 0

def isDigits (cs : List Char) : Bool := !cs.isEmpty && cs.all Char.isDigit

def digits (n : Nat) : List Char := Nat.toDigits 10 n

/-- The digits of `n`, led by zeros up to the given length. -/
def padded (length n : Nat) : List Char :=
  List.replicate (length - (digits n).length) '0' ++ digits n

end FilterQuery.Decimal
