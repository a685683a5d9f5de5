import FilterQuery.Query.Lexeme

namespace FilterQuery.Query

open FilterQuery.Text

structure LexError where
  position : Nat
  fault : Fault
deriving DecidableEq, Repr

def LexError.message (e : LexError) : String :=
  "lex error at position " ++ toString e.position ++ ": " ++ e.fault.reason

/-- A place in a query: the number of bytes before it and the characters after it. -/
structure Lexer where
  position : Nat
  rest : List Char
deriving DecidableEq, Repr

namespace Lexer

def ofString (query : String) : Lexer := ⟨0, query.toList⟩

def atEnd (l : Lexer) : Lexer := ⟨l.position + width l.rest, []⟩

def skipBlanks (l : Lexer) : Lexer :=
  ⟨l.position + width (l.rest.takeWhile isBlank), l.rest.dropWhile isBlank⟩

/-- The next token or fault, `none` at the end, and the place after it. After a fault that place is
the end. -/
def next (l : Lexer) : Option (Except LexError Token) × Lexer :=
  match l.skipBlanks with
  | ⟨start, []⟩ => (none, ⟨start, []⟩)
  | ⟨start, c :: cs⟩ =>
    match Lexeme.scan c cs with
    | .ok lexeme =>
      let stop := start + width lexeme.spelling
      (some (.ok ⟨lexeme.kind, ⟨start, stop⟩⟩), ⟨stop, lexeme.rest⟩)
    | .error flaw => (some (.error ⟨start + flaw.offset, flaw.fault⟩), l.atEnd)

theorem length_rest_of_next {l l' : Lexer} {step : Except LexError Token}
    (h : l.next = (some step, l')) : l'.rest.length < l.rest.length := by
  unfold next at h
  split at h
  · cases h
  · next start c cs hs =>
    have hc : (l.rest.dropWhile isBlank).length ≤ l.rest.length :=
      (List.dropWhile_sublist _).length_le
    have hd : l.rest.dropWhile isBlank = c :: cs := congrArg Lexer.rest hs
    rw [hd, List.length_cons] at hc
    split at h
    · next x hx =>
      cases h
      have := Lexeme.length_rest_of_scan hx
      show x.rest.length < l.rest.length
      omega
    · cases h
      show 0 < l.rest.length
      omega

def drain (l : Lexer) : List (Except LexError Token) × Lexer :=
  match _h : l.next with
  | (none, l') => ([], l')
  | (some step, l') =>
    let (steps, last) := drain l'
    (step :: steps, last)
termination_by l.rest.length
decreasing_by exact length_rest_of_next (by assumption)

def steps (l : Lexer) : List (Except LexError Token) := l.drain.1

end Lexer

def tokenize (query : String) : Except LexError (List Token) :=
  (Lexer.ofString query).steps.mapM id

end FilterQuery.Query
