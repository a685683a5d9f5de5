import FilterQuery.Operator

namespace FilterQuery

variable {α β ε : Type}

inductive Operand (α : Type)
  | single (x : α)
  | list (xs : List α)
deriving DecidableEq, Repr

/-- The subject is a field of the domain or a column of the store. -/
structure Comparison (α : Type) where
  subject : String
  operator : Operator
  operand : Operand α
deriving DecidableEq, Repr

inductive Criteria (α : Type)
  | everything
  | test (comparison : Comparison α)
  | and (left right : Criteria α)
  | or (left right : Criteria α)
deriving DecidableEq, Repr

namespace Operand

def toList : Operand α → List α
  | single x => [x]
  | list xs => xs

end Operand

namespace Criteria

def isEverything : Criteria α → Bool
  | everything => true
  | _ => false

def comparisons : Criteria α → List (Comparison α)
  | everything => []
  | test c => [c]
  | and l r | or l r => l.comparisons ++ r.comparisons

def size : Criteria α → Nat
  | everything => 0
  | test _ => 1
  | and l r | or l r => l.size + r.size

def subjects (p : Criteria α) : List String := p.comparisons.map (·.subject)

/-- The same tree with each comparison replaced. Comparisons are visited from left to right, and
the first error ends the visit. -/
def traverse (f : Comparison α → Except ε (Comparison β)) : Criteria α → Except ε (Criteria β)
  | everything => .ok .everything
  | test c => do return .test (← f c)
  | and l r => do return .and (← l.traverse f) (← r.traverse f)
  | or l r => do return .or (← l.traverse f) (← r.traverse f)

end Criteria

end FilterQuery
