import FilterQuery.Criteria

namespace FilterQuery

inductive Literal
  | text (content : String)
  | number (digits : String)
  | bool (value : Bool)
  | date (text : String)
deriving DecidableEq, Repr

abbrev Predicate := Criteria Literal

/-- A text between double quotes, with a backslash before each double quote and backslash. -/
def quoted (s : String) : String :=
  "\"" ++ String.ofList (s.toList.flatMap fun c => if c = '"' ∨ c = '\\' then ['\\', c] else [c]) ++
    "\""

namespace Literal

def content : Literal → String
  | text s | number s | date s => s
  | bool true => "true"
  | bool false => "false"

def render : Literal → String
  | text s => quoted s
  | l => l.content

end Literal

namespace Operand

def render : Operand Literal → String
  | single l => l.render
  | list ls => "(" ++ ",".intercalate (ls.map Literal.render) ++ ")"

end Operand

namespace Criteria

def render : Predicate → String
  | everything => ""
  | test c => c.subject ++ c.operator.symbol ++ c.operand.render
  | and l r => "(" ++ render l ++ " and " ++ render r ++ ")"
  | or l r => "(" ++ render l ++ " or " ++ render r ++ ")"

end Criteria

end FilterQuery
