import FilterQuery.Query.Predicate

namespace FilterQuery.Query

namespace Token

inductive Kind
  | and
  | or
  | name (text : String)
  | text (content : String)
  | number (digits : String)
  | bool (value : Bool)
  | date (text : String)
  | openParen
  | closeParen
  | comma
  | operator (op : Operator)
deriving DecidableEq, Repr

def Kind.describe : Kind → String
  | .and => "'and'"
  | .or => "'or'"
  | .name s => "identifier '" ++ s ++ "'"
  | .text s => "string \"" ++ s ++ "\""
  | .number s => "number " ++ s
  | .bool true => "boolean true"
  | .bool false => "boolean false"
  | .date s => "date " ++ s
  | .openParen => "'('"
  | .closeParen => "')'"
  | .comma => "','"
  | .operator op => "operator '" ++ op.symbol ++ "'"

def Kind.literal? : Kind → Option Literal
  | .text s | .name s => some (.text s)
  | .number s => some (.number s)
  | .bool b => some (.bool b)
  | .date s => some (.date s)
  | _ => none

end Token

/-- A range of bytes in the query, from `start` up to but not including `stop`. -/
structure Span where
  start : Nat
  stop : Nat
deriving DecidableEq, Repr

structure Token where
  kind : Token.Kind
  span : Span
deriving DecidableEq, Repr

end FilterQuery.Query
