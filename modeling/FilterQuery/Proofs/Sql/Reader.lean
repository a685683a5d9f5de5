import FilterQuery.Proofs.Sql.Tokens

namespace FilterQuery.Sql

inductive Constant
  | text (content : String)
  | number (digits : String)
  | bool (b : Bool)
deriving DecidableEq, Repr

inductive Term
  | column (name : String)
  | constant (c : Constant)
deriving DecidableEq, Repr

/-- What a condition is read as. -/
inductive Phrase
  | truth (b : Bool)
  | compare (left : Term) (relation : Relation) (right : Constant)
  | like (column : String) (pattern escape : String)
  | isIn (column : String) (negated : Bool) (values : List Constant)
  | and (left right : Phrase)
  | or (left right : Phrase)
deriving DecidableEq, Repr

def Constant.ofToken? : Token → Option Constant
  | .text s => some (.text s)
  | .number s => some (.number s)
  | .keyword .isTrue => some (.bool true)
  | .keyword .isFalse => some (.bool false)
  | _ => none

namespace Reader

/-- The part of a condition that stands before the term in hand: its disjuncts and, within the last
one, its conjuncts. -/
structure Pending where
  disjuncts : Option Phrase
  conjuncts : Option Phrase
deriving DecidableEq, Repr

namespace Pending

def empty : Pending := ⟨none, none⟩

def conjunction (p : Pending) (e : Phrase) : Phrase :=
  match p.conjuncts with
  | some l => .and l e
  | none => e

def condition (p : Pending) (e : Phrase) : Phrase :=
  match p.disjuncts with
  | some l => .or l (p.conjunction e)
  | none => p.conjunction e

end Pending

inductive Phase
  | start
  | operand (t : Term)
  | relation (t : Term) (r : Relation)
  | negation (column : String)
  | membership (column : String) (negated : Bool)
  | value (column : String) (negated : Bool) (values : List Constant)
  | valueEnd (column : String) (negated : Bool) (values : List Constant)
  | like (column : String)
  | pattern (column : String) (pattern : String)
  | escape (column : String) (pattern : String)
  | stop (e : Phrase)
deriving DecidableEq, Repr

structure State where
  outer : List Pending
  pending : Pending
  phase : Phase
deriving DecidableEq, Repr

namespace State

def initial : State := ⟨[], .empty, .start⟩

def step (s : State) (t : Token) : Option State :=
  match s.phase, t with
  | .start, .openParen => some ⟨s.pending :: s.outer, .empty, .start⟩
  | .start, .keyword .isTrue => some { s with phase := .stop (.truth true) }
  | .start, .keyword .isFalse => some { s with phase := .stop (.truth false) }
  | .start, .name column => some { s with phase := .operand (.column column) }
  | .start, t => (Constant.ofToken? t).map fun c => { s with phase := .operand (.constant c) }
  | .operand t, .relation r => some { s with phase := .relation t r }
  | .operand (.column column), .keyword .isIn => some { s with phase := .membership column false }
  | .operand (.column column), .keyword .not => some { s with phase := .negation column }
  | .operand (.column column), .keyword .like => some { s with phase := .like column }
  | .relation l r, t =>
    (Constant.ofToken? t).map fun c => { s with phase := .stop (.compare l r c) }
  | .negation column, .keyword .isIn => some { s with phase := .membership column true }
  | .membership column negated, .openParen => some { s with phase := .value column negated [] }
  | .value column negated vs, t =>
    (Constant.ofToken? t).map fun c => { s with phase := .valueEnd column negated (vs ++ [c]) }
  | .valueEnd column negated vs, .comma => some { s with phase := .value column negated vs }
  | .valueEnd column negated vs, .closeParen =>
    some { s with phase := .stop (.isIn column negated vs) }
  | .like column, .text pattern => some { s with phase := .pattern column pattern }
  | .pattern column pattern, .keyword .escape => some { s with phase := .escape column pattern }
  | .escape column pattern, .text escape =>
    some { s with phase := .stop (.like column pattern escape) }
  | .stop e, .keyword .and =>
    some ⟨s.outer, ⟨s.pending.disjuncts, some (s.pending.conjunction e)⟩, .start⟩
  | .stop e, .keyword .or => some ⟨s.outer, ⟨some (s.pending.condition e), none⟩, .start⟩
  | .stop e, .closeParen =>
    match s.outer with
    | p :: outer => some ⟨outer, p, .stop (s.pending.condition e)⟩
    | [] => none
  | _, _ => none

/-- Goes on as long as the tokens allow it. -/
def run (s : State) : List Token → State × List Token
  | [] => (s, [])
  | t :: ts =>
    match s.step t with
    | some s' => s'.run ts
    | none => (s, t :: ts)

def finish? (s : State) : Option Phrase :=
  match s.outer, s.phase with
  | [], .stop e => some (s.pending.condition e)
  | _, _ => none

end State

end Reader

inductive Projection
  | records
  | count
deriving DecidableEq, Repr

structure Window where
  limit : Nat
  offset : Nat
deriving DecidableEq, Repr

structure Statement where
  projection : Projection
  table : String
  condition : Option Phrase
  window : Option Window
deriving DecidableEq, Repr

namespace Statement

def natural? (digits : String) : Option Nat :=
  if Decimal.isDigits digits.toList then some (Decimal.value digits.toList) else none

def window? : List Token → Option (Option Window)
  | [] => some none
  | [.keyword .limit, .number limit, .keyword .offset, .number offset] => do
    return some ⟨← natural? limit, ← natural? offset⟩
  | _ => none

def ofScope? (projection : Projection) (table : String) (ts : List Token) : Option Statement :=
  match ts with
  | .keyword .condition :: ts => do
    let (s, ts) := Reader.State.initial.run ts
    return ⟨projection, table, some (← s.finish?), ← window? ts⟩
  | ts => do return ⟨projection, table, none, ← window? ts⟩

def ofTokens? : List Token → Option Statement
  | .keyword .select :: .star :: .keyword .source :: .name table :: ts =>
    ofScope? .records table ts
  | .keyword .select :: .keyword .count :: .openParen :: .star :: .closeParen ::
      .keyword .source :: .name table :: ts =>
    ofScope? .count table ts
  | _ => none

/-- Reads one statement and nothing after it. What a letter after a backslash stands for in a text
is left open. -/
def read (letter : Char → Char) (sql : String) : Option Statement :=
  (tokens letter sql.toList).bind ofTokens?

end Statement

end FilterQuery.Sql
