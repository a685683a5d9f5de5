import FilterQuery.Query.Lexer

namespace FilterQuery.Query

def maxNesting : Nat := 32

def maxComparisons : Nat := 256

inductive Expected
  | term
  | operator
  | literal
  | singleLiteral (op : Operator)
  | listOpening (op : Operator)
  | listContinuation
  | groupClosing
  | connectiveOrEnd
  | shallowerNesting
  | fewerComparisons
deriving DecidableEq, Repr

def Expected.describe : Expected → String
  | term => "field name or '('"
  | operator => "comparison operator"
  | literal => "literal value"
  | singleLiteral op => "a single literal after '" ++ op.symbol ++ "'"
  | listOpening op => "'(' to open the value list of '" ++ op.symbol ++ "'"
  | listContinuation => "',' or ')'"
  | groupClosing => "')'"
  | connectiveOrEnd => "'and', 'or' or end of input"
  | shallowerNesting => "nesting depth <= " ++ toString maxNesting
  | fewerComparisons => "at most " ++ toString maxComparisons ++ " comparisons"

/-- `found` is `none` at the end of the input. -/
structure ParseError where
  position : Nat
  expected : Expected
  found : Option Token.Kind
deriving DecidableEq, Repr

namespace ParseError

def foundText (e : ParseError) : String :=
  match e.found with
  | some kind => kind.describe
  | none => "end of input"

def message (e : ParseError) : String :=
  "parse error at position " ++ toString e.position ++ ": expected " ++ e.expected.describe ++
    ", found " ++ e.foundText

end ParseError

namespace Parser

/-- The part of an expression that stands before the term in hand: its disjuncts and, within the
last one, its conjuncts. -/
structure Pending where
  disjuncts : Option Predicate
  conjuncts : Option Predicate
deriving DecidableEq, Repr

namespace Pending

def empty : Pending := ⟨none, none⟩

def conjunction (e : Pending) (p : Predicate) : Predicate :=
  match e.conjuncts with
  | none => p
  | some l => .and l p

def expression (e : Pending) (p : Predicate) : Predicate :=
  match e.disjuncts with
  | none => e.conjunction p
  | some l => .or l (e.conjunction p)

end Pending

inductive Phase
  | term
  | operator (field : String)
  | literal (field : String) (op : Operator)
  | listOpening (field : String) (op : Operator)
  | listLiteral (field : String) (op : Operator) (before : List Literal)
  | listContinuation (field : String) (op : Operator) (literals : List Literal)
  | termEnd (p : Predicate)
deriving DecidableEq, Repr

/-- `outer` holds the expressions around each open group, the innermost first. -/
structure State where
  outer : List Pending
  current : Pending
  comparisons : Nat
  phase : Phase
deriving DecidableEq, Repr

namespace State

def initial : State := ⟨[], .empty, 0, .term⟩

def depth (s : State) : Nat := s.outer.length

def goto (s : State) (phase : Phase) : Except Expected State := .ok { s with phase := phase }

def complete (s : State) (field : String) (op : Operator) (operand : Operand Literal) :
    Except Expected State :=
  s.goto (.termEnd (.test ⟨field, op, operand⟩))

def startTerm (s : State) : Token.Kind → Except Expected State
  | .openParen =>
    if s.depth < maxNesting then
      .ok { s with outer := s.current :: s.outer, current := .empty, phase := .term }
    else .error .shallowerNesting
  | .name field =>
    if s.comparisons < maxComparisons then
      .ok { s with comparisons := s.comparisons + 1, phase := .operator field }
    else .error .fewerComparisons
  | _ => .error .term

def endTerm (s : State) (p : Predicate) : Token.Kind → Except Expected State
  | .and => .ok { s with current := ⟨s.current.disjuncts, s.current.conjunction p⟩, phase := .term }
  | .or => .ok { s with current := ⟨s.current.expression p, none⟩, phase := .term }
  | kind =>
    match s.outer, kind with
    | [], _ => .error .connectiveOrEnd
    | outside :: outer, .closeParen =>
      .ok { s with outer := outer, current := outside, phase := .termEnd (s.current.expression p) }
    | _ :: _, _ => .error .groupClosing

/-- One token. The error says what was expected in its place. -/
def step (s : State) (kind : Token.Kind) : Except Expected State :=
  match s.phase with
  | .term => s.startTerm kind
  | .operator field =>
    match kind with
    | .operator op => s.goto (if op.takesList then .listOpening field op else .literal field op)
    | _ => .error .operator
  | .literal field op =>
    match kind.literal? with
    | some l => s.complete field op (.single l)
    | none => .error (if kind = .openParen then .singleLiteral op else .literal)
  | .listOpening field op =>
    if kind = .openParen then s.goto (.listLiteral field op []) else .error (.listOpening op)
  | .listLiteral field op before =>
    match kind.literal? with
    | some l => s.goto (.listContinuation field op (before ++ [l]))
    | none => .error .literal
  | .listContinuation field op literals =>
    match kind with
    | .comma => s.goto (.listLiteral field op literals)
    | .closeParen => s.complete field op (.list literals)
    | _ => .error .listContinuation
  | .termEnd p => s.endTerm p kind

def finish (s : State) : Except Expected Predicate :=
  match s.phase with
  | .term => .error .term
  | .operator _ => .error .operator
  | .literal _ _ => .error .literal
  | .listOpening _ op => .error (.listOpening op)
  | .listLiteral _ _ _ => .error .literal
  | .listContinuation _ _ _ => .error .listContinuation
  | .termEnd p => if s.outer.isEmpty then .ok (s.current.expression p) else .error .groupClosing

/-- Reads on from a state. `stop` is the end of the last token read. -/
def run (s : State) (stop : Nat) : List Token → Except ParseError Predicate
  | [] => s.finish.mapError fun expected => ⟨stop, expected, none⟩
  | t :: ts =>
    match s.step t.kind with
    | .ok s' => s'.run t.span.stop ts
    | .error expected => .error ⟨t.span.start, expected, some t.kind⟩

end State

end Parser

/-- The predicate that the tokens spell. No tokens at all ask for every record. -/
def parse : List Token → Except ParseError Predicate
  | [] => .ok .everything
  | ts => Parser.State.initial.run 0 ts

end FilterQuery.Query
