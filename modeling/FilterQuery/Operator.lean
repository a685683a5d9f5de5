
namespace FilterQuery

inductive Operator
  | eq
  | ne
  | gt
  | ge
  | lt
  | le
  | isIn
  | notIn
  | like
deriving DecidableEq, Repr

namespace Operator

def takesList : Operator → Bool
  | isIn | notIn => true
  | _ => false

def symbol : Operator → String
  | eq => "=="
  | ne => "!="
  | gt => ">"
  | ge => ">="
  | lt => "<"
  | le => "<="
  | isIn => "=in="
  | notIn => "=out="
  | like => "=like="

/-- The operator that is written with this lower-case name between two equals signs. -/
def ofName? : String → Option Operator
  | "gt" => some gt
  | "ge" => some ge
  | "lt" => some lt
  | "le" => some le
  | "in" => some isIn
  | "out" => some notIn
  | "like" => some like
  | _ => none

end Operator

end FilterQuery
