import FilterQuery.Filter.Fields

namespace FilterQuery.Sql

inductive Relation
  | eq
  | ne
  | gt
  | ge
  | lt
  | le
deriving DecidableEq, Repr

inductive Expr
  | constant (b : Bool)
  | compare (column : String) (relation : Relation) (value : Value)
  /-- The pattern is in SQL's own wildcards, escaped by a backslash. -/
  | like (column : String) (pattern : String)
  | isIn (column : String) (negated : Bool) (values : List Value)
  | and (left right : Expr)
  | or (left right : Expr)
deriving DecidableEq, Repr

/-- A text in which only `*` is a wildcard as a pattern for SQL, whose wildcards are `%` and `_`. -/
def likeText (s : String) : String :=
  String.ofList (s.toList.flatMap fun c =>
    if c = '*' then ['%']
    else if c = '%' ∨ c = '_' ∨ c = '\\' then ['\\', c]
    else [c])

def likePattern : Value → String
  | .text s => likeText s
  | v => v.render

namespace Expr

/-- One value against one column. Being in a list of one is being equal to its element. -/
def ofValue (column : String) (op : Operator) (v : Value) : Expr :=
  match op with
  | .eq | .isIn => .compare column .eq v
  | .ne | .notIn => .compare column .ne v
  | .gt => .compare column .gt v
  | .ge => .compare column .ge v
  | .lt => .compare column .lt v
  | .le => .compare column .le v
  | .like => .like column (likePattern v)

def anyOf : List Expr → Expr
  | [] => .constant false
  | e :: es => es.foldl .or e

/-- A list under an operator for single values asks for any one of its elements. -/
def ofComparison (c : Comparison Value) : Expr :=
  match c.operator with
  | .isIn => .isIn c.subject false c.operand.toList
  | .notIn => .isIn c.subject true c.operand.toList
  | op => anyOf (c.operand.toList.map (ofValue c.subject op))

end Expr

structure Collapse where
  column : String
  count : Nat
deriving DecidableEq, Repr

/-- The column and the values of a disjunction of equalities that all concern one column. -/
def equalities? : Filter → Option (String × List Value)
  | .test ⟨column, .eq, .single v⟩ => some (column, [v])
  | .or l r => do
    let (column, vs) ← equalities? l
    let (column', vs') ← equalities? r
    if column = column' then some (column, vs ++ vs') else none
  | _ => none

def defaultThreshold : Nat := 5

/-- The membership test for a disjunction of at least `threshold` equalities. -/
def collapse? (threshold : Nat) (filter : Filter) : Option (Expr × Collapse) :=
  match equalities? filter with
  | some (column, values) =>
    if threshold ≤ values.length then
      some (.isIn column false values, ⟨column, values.length⟩)
    else none
  | none => none

/-- The expression for a filter, with the disjunctions that were collapsed from left to right. -/
def Expr.ofFilter (threshold : Nat) : Filter → Expr × List Collapse
  | .everything => (.constant true, [])
  | .test c => (.ofComparison c, [])
  | .and l r =>
    let (left, collapses) := ofFilter threshold l
    let (right, collapses') := ofFilter threshold r
    (.and left right, collapses ++ collapses')
  | .or l r =>
    match collapse? threshold (.or l r) with
    | some (e, collapse) => (e, [collapse])
    | none =>
      let (left, collapses) := ofFilter threshold l
      let (right, collapses') := ofFilter threshold r
      (.or left right, collapses ++ collapses')

end FilterQuery.Sql
