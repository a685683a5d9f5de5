import FilterQuery.Filter.Fields
import FilterQuery.Query.Parser

namespace FilterQuery

open FilterQuery.Query

inductive QueryError
  | lex (e : LexError)
  | parse (e : ParseError)
  | field (e : FieldError)
deriving DecidableEq, Repr

namespace QueryError

def message : QueryError → String
  | lex e => e.message
  | parse e => e.message
  | field e => e.message

def kind : QueryError → String
  | lex _ => "LexError"
  | parse _ => "ParseError"
  | field (.unknown _) => "UnknownFieldError"
  | field (.mistyped _ _ _) => "TypeCoercionError"

def status (_ : QueryError) : Nat := 400

def position? : QueryError → Option Nat
  | lex e => some e.position
  | parse e => some e.position
  | field _ => none

def field? : QueryError → Option String
  | field e => some e.field
  | _ => none

end QueryError

/-- The predicate that a query states. A blank query states `everything`. -/
def parseQuery (query : String) : Except QueryError Predicate := do
  let tokens ← (tokenize query).mapError .lex
  (parse tokens).mapError .parse

def compileQuery (query : Option String) (fields : Fields) : Except QueryError Filter := do
  let predicate ←
    match query with
    | some q => parseQuery q
    | none => pure .everything
  (predicate.resolve fields).mapError .field

end FilterQuery
