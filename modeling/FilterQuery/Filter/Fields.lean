import FilterQuery.Criteria
import FilterQuery.Filter.Value
import FilterQuery.NameMap
import FilterQuery.Query.Predicate

namespace FilterQuery

structure Column where
  name : String
  type : ColumnType
deriving DecidableEq, Repr

abbrev Fields := NameMap Column

abbrev Filter := Criteria Value

inductive FieldError
  | unknown (field : String)
  | mistyped (field : String) (value : String) (expected : ColumnType)
deriving DecidableEq, Repr

namespace FieldError

def field : FieldError → String
  | unknown field | mistyped field _ _ => field

def message : FieldError → String
  | unknown field => "unknown field '" ++ field ++ "'"
  | mistyped field value expected =>
    "value '" ++ value ++ "' is not valid for field '" ++ field ++ "': expected " ++
      expected.describe

end FieldError

namespace Literal

def read (field : String) (type : ColumnType) (l : Literal) : Except FieldError Value :=
  match Value.ofText? type l.content with
  | some v => .ok v
  | none => .error (.mistyped field l.content type)

end Literal

namespace Comparison

/-- A comparison of columns and values. A pattern needs a text column; an operator that takes a list
takes a single literal as a list of one, and no other operator takes a list. -/
def resolve (fields : Fields) (c : Comparison Literal) : Except FieldError (Comparison Value) :=
  match fields.get? c.subject with
  | none => .error (.unknown c.subject)
  | some column =>
    let read := Literal.read c.subject column.type
    if c.operator = .like ∧ column.type ≠ .string then
      .error (.mistyped c.subject c.operand.render .string)
    else if c.operator.takesList then do
      return ⟨column.name, c.operator, .list (← c.operand.toList.mapM read)⟩
    else
      match c.operand with
      | .single l => do return ⟨column.name, c.operator, .single (← read l)⟩
      | .list _ => .error (.mistyped c.subject c.operand.render column.type)

end Comparison

/-- The filter that a predicate asks for. The leftmost comparison without a meaning is reported. -/
def Criteria.resolve (fields : Fields) (p : Predicate) : Except FieldError Filter :=
  p.traverse (Comparison.resolve fields)

end FilterQuery
