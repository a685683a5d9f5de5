import FilterQuery.Paging.Request
import FilterQuery.Sql.Expr
import FilterQuery.Sql.Quoted

namespace FilterQuery.Sql

def Relation.symbol : Relation → String
  | eq => "="
  | ne => "<>"
  | gt => ">"
  | ge => ">="
  | lt => "<"
  | le => "<="

namespace Expr

def isConjunction : Expr → Bool
  | .and _ _ => true
  | _ => false

def isDisjunction : Expr → Bool
  | .or _ _ => true
  | _ => false

def isConnective (e : Expr) : Bool := e.isConjunction || e.isDisjunction

def parenthesized (needed : Bool) (s : String) : String := if needed then "(" ++ s ++ ")" else s

/-- Connectives inside connectives stand in parentheses, but for one on the left of its own kind.
A membership test of no values at all is a comparison of constants. -/
def render : Expr → String
  | .constant b => if b then "TRUE" else "FALSE"
  | .compare column relation v => identifier column ++ " " ++ relation.symbol ++ " " ++
      valueConstant v
  | .like column pattern =>
    identifier column ++ " LIKE " ++ textConstant pattern ++ " ESCAPE " ++ textConstant "\\"
  | .isIn _ negated [] => if negated then "1 = 1" else "1 = 2"
  | .isIn column negated values =>
    identifier column ++ (if negated then " NOT IN (" else " IN (") ++
      ", ".intercalate (values.map valueConstant) ++ ")"
  | .and l r =>
    parenthesized l.isDisjunction l.render ++ " AND " ++ parenthesized r.isConnective r.render
  | .or l r =>
    parenthesized l.isConjunction l.render ++ " OR " ++ parenthesized r.isConnective r.render

end Expr

structure Scope where
  table : String
  condition : Option Expr
deriving DecidableEq, Repr

namespace Scope

def render (s : Scope) : String :=
  " FROM " ++ identifier s.table ++
    match s.condition with
    | some e => " WHERE " ++ e.render
    | none => ""

def select (s : Scope) (page : PageRequest) : String :=
  "SELECT *" ++ s.render ++ " LIMIT " ++ toString page.size.toNat ++ " OFFSET " ++
    toString page.offset.toNat

def count (s : Scope) : String := "SELECT COUNT(*)" ++ s.render

end Scope

structure Statements where
  select : String
  count : String
  collapses : List Collapse
deriving DecidableEq, Repr

/-- A filter that holds of every record needs no condition. -/
def Scope.ofFilter (table : String) (threshold : Nat) (filter : Filter) : Scope × List Collapse :=
  if filter.isEverything then (⟨table, none⟩, [])
  else
    let (e, collapses) := Expr.ofFilter threshold filter
    (⟨table, some e⟩, collapses)

def Statements.ofFilter (table : String) (threshold : Nat) (filter : Filter) (page : PageRequest) :
    Statements :=
  let (scope, collapses) := Scope.ofFilter table threshold filter
  ⟨scope.select page, scope.count, collapses⟩

end FilterQuery.Sql
