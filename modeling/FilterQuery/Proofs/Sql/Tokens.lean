import FilterQuery.Proofs.Text.Classes
import FilterQuery.Sql.Select

namespace FilterQuery.Sql

open FilterQuery.Text

inductive Keyword
  | select
  | count
  | source
  | condition
  | and
  | or
  | not
  | isIn
  | like
  | escape
  | isTrue
  | isFalse
  | limit
  | offset
deriving DecidableEq, Repr

namespace Keyword

def spelling : Keyword → String
  | select => "SELECT"
  | count => "COUNT"
  | source => "FROM"
  | condition => "WHERE"
  | and => "AND"
  | or => "OR"
  | not => "NOT"
  | isIn => "IN"
  | like => "LIKE"
  | escape => "ESCAPE"
  | isTrue => "TRUE"
  | isFalse => "FALSE"
  | limit => "LIMIT"
  | offset => "OFFSET"

def all : List Keyword :=
  [select, count, source, condition, and, or, not, isIn, like, escape, isTrue, isFalse, limit,
    offset]

def ofWord? (cs : List Char) : Option Keyword := all.find? fun k => k.spelling.toList == cs

theorem ofWord?_spelling (k : Keyword) : ofWord? k.spelling.toList = some k := by
  cases k <;> decide

end Keyword

def Relation.ofSymbol? (cs : List Char) : Option Relation :=
  [.eq, .ne, .gt, .ge, .lt, .le].find? fun r => r.symbol.toList == cs

theorem Relation.ofSymbol?_symbol (r : Relation) : ofSymbol? r.symbol.toList = some r := by
  cases r <;> decide

inductive Token
  | keyword (k : Keyword)
  | name (content : String)
  | text (content : String)
  | number (digits : String)
  | relation (r : Relation)
  | star
  | comma
  | openParen
  | closeParen
deriving DecidableEq, Repr

def isSpace (c : Char) : Bool := c ∈ [' ', '\t', '\n', '\r', '\x0c']

def isWordPart (c : Char) : Bool := c.isAlphanum || c == '_'

def isOperatorPart (c : Char) : Bool :=
  c ∈ ['+', '-', '*', '/', '<', '>', '=', '~', '!', '@', '#', '%', '^', '&', '|', '?']

/-- The content and the rest after an opening quote. Where `letter` is given, it says which
character a letter after a backslash stands for. -/
def scanQuoted (quote : Char) (letter : Option (Char → Char)) :
    List Char → Option (List Char × List Char)
  | [] => none
  | c :: cs =>
    if c = quote then
      match cs with
      | [] => some ([], [])
      | d :: ds =>
        if d = quote then (scanQuoted quote letter ds).map (Prod.map (quote :: ·) id)
        else some ([], d :: ds)
    else
      match if c = '\\' then letter else none, cs with
      | some decode, d :: ds => (scanQuoted quote letter ds).map (Prod.map (decode d :: ·) id)
      | _, cs => (scanQuoted quote letter cs).map (Prod.map (c :: ·) id)

def scanDigits (cs : List Char) : List Char × List Char :=
  let whole := cs.takeWhile Char.isDigit
  match cs.dropWhile Char.isDigit with
  | '.' :: rest => (whole ++ '.' :: rest.takeWhile Char.isDigit, rest.dropWhile Char.isDigit)
  | rest => (whole, rest)

/-- A word is a keyword in any case, but for the letter `E` right before a text. There are no bare
names. -/
def scanWord (letter : Char → Char) (c : Char) (cs : List Char) : Option (Token × List Char) :=
  let word := (c :: cs.takeWhile isWordPart).map Char.toUpper
  match cs.dropWhile isWordPart with
  | '\'' :: rest =>
    if word = ['E'] then (scanQuoted '\'' (some letter) rest).map (Prod.map (.text <| .ofList ·) id)
    else (Keyword.ofWord? word).map (.keyword ·, '\'' :: rest)
  | rest => (Keyword.ofWord? word).map (.keyword ·, rest)

/-- There are no operators but the relations, and no comments. -/
def scanOperator (c : Char) (cs : List Char) : Option (Token × List Char) :=
  let run := c :: cs.takeWhile isOperatorPart
  let token? := if run = ['*'] then some .star else (Relation.ofSymbol? run).map .relation
  token?.map (·, cs.dropWhile isOperatorPart)

/-- The token at the front of the text and the rest, where no space comes first. A hyphen right
before a digit is its sign. -/
def scanToken (letter : Char → Char) (c : Char) (cs : List Char) : Option (Token × List Char) :=
  if c = '"' then (scanQuoted '"' none cs).map (Prod.map (.name <| .ofList ·) id)
  else if c = '\'' then (scanQuoted '\'' none cs).map (Prod.map (.text <| .ofList ·) id)
  else if c = ',' then some (.comma, cs)
  else if c = '(' then some (.openParen, cs)
  else if c = ')' then some (.closeParen, cs)
  else if c.isDigit ∨ c = '-' ∧ cs.head?.any Char.isDigit then
    some (Prod.map (.number <| .ofList <| c :: ·) id (scanDigits cs))
  else if isWordPart c then scanWord letter c cs
  else scanOperator c cs

theorem length_rest_of_scanQuoted {quote : Char} {letter : Option (Char → Char)}
    {cs content rest : List Char} (h : scanQuoted quote letter cs = some (content, rest)) :
    rest.length < cs.length := by
  fun_induction scanQuoted quote letter cs generalizing content with
  | case1 => cases h
  | case2 => cases h; exact Nat.zero_lt_one
  | case3 ds ih =>
    obtain ⟨x, hx, ⟨⟩⟩ := Option.map_eq_some_iff.mp h
    exact Nat.lt_succ_of_lt (Nat.lt_succ_of_lt (ih hx))
  | case4 => cases h; exact Nat.lt_succ_self _
  | case5 c hc decode d ds hl ih =>
    obtain ⟨x, hx, ⟨⟩⟩ := Option.map_eq_some_iff.mp h
    exact Nat.lt_succ_of_lt (Nat.lt_succ_of_lt (ih hx))
  | case6 c cs hc hm ih =>
    obtain ⟨x, hx, ⟨⟩⟩ := Option.map_eq_some_iff.mp h
    exact Nat.lt_succ_of_lt (ih hx)

theorem length_rest_scanDigits (cs : List Char) :
    (scanDigits cs).2.length ≤ cs.length := by
  have hd := (List.dropWhile_sublist Char.isDigit (l := cs)).length_le
  rw [scanDigits]
  split
  · next rest h =>
    have := (List.dropWhile_sublist Char.isDigit (l := rest)).length_le
    rw [h, List.length_cons] at hd
    dsimp only
    omega
  · exact hd

theorem length_rest_of_quoted {quote : Char} {letter : Option (Char → Char)} {cs rest : List Char}
    {t : Token} {token : List Char → Token}
    (h : (scanQuoted quote letter cs).map (Prod.map token id) = some (t, rest)) :
    rest.length ≤ cs.length := by
  obtain ⟨x, hx, h⟩ := Option.map_eq_some_iff.mp h
  cases h
  exact Nat.le_of_lt (length_rest_of_scanQuoted hx)

theorem length_rest_of_scanWord {letter : Char → Char} {c : Char} {cs rest : List Char} {t : Token}
    (h : scanWord letter c cs = some (t, rest)) : rest.length ≤ cs.length := by
  have hw := (List.dropWhile_sublist isWordPart (l := cs)).length_le
  unfold scanWord at h
  dsimp only at h
  split at h
  · next ds hd =>
    rw [hd] at hw
    split at h
    · exact Nat.le_trans (length_rest_of_quoted h) (Nat.le_of_succ_le hw)
    · obtain ⟨k, -, h⟩ := Option.map_eq_some_iff.mp h
      cases h
      exact hw
  · obtain ⟨k, -, h⟩ := Option.map_eq_some_iff.mp h
    cases h
    exact hw

theorem length_rest_of_scanOperator {c : Char} {cs rest : List Char} {t : Token}
    (h : scanOperator c cs = some (t, rest)) : rest.length ≤ cs.length := by
  obtain ⟨t, -, h⟩ := Option.map_eq_some_iff.mp h
  cases h
  exact (List.dropWhile_sublist isOperatorPart).length_le

theorem length_rest_of_scanToken {letter : Char → Char} {c : Char} {cs rest : List Char}
    {t : Token} (h : scanToken letter c cs = some (t, rest)) :
    rest.length ≤ cs.length := by
  rw [scanToken] at h
  split at h
  · exact length_rest_of_quoted h
  split at h
  · exact length_rest_of_quoted h
  iterate 3
    split at h
    · cases h
      exact Nat.le_refl _
  split at h
  · cases h
    exact length_rest_scanDigits cs
  split at h
  · exact length_rest_of_scanWord h
  · exact length_rest_of_scanOperator h

def tokens (letter : Char → Char) : List Char → Option (List Token)
  | [] => some []
  | c :: cs =>
    if isSpace c then tokens letter cs
    else
      match _h : scanToken letter c cs with
      | none => none
      | some (t, rest) => (tokens letter rest).map (t :: ·)
termination_by cs => cs.length
decreasing_by
  · exact Nat.lt_succ_self _
  · exact Nat.lt_succ_of_le (length_rest_of_scanToken (by assumption))

variable {letter : Char → Char} {rest : List Char} {ts : List Token}

theorem tokens_nil : tokens letter [] = some [] := by
  rw [tokens]

theorem tokens_space (h : tokens letter rest = some ts) :
    tokens letter (' ' :: rest) = some ts := by
  rw [tokens, if_pos (by decide), h]

theorem tokens_scan {c : Char} {cs : List Char} {t : Token} (hc : isSpace c = false)
    (hs : scanToken letter c cs = some (t, rest)) (h : tokens letter rest = some ts) :
    tokens letter (c :: cs) = some (t :: ts) := by
  rw [tokens, if_neg (by simp [hc])]
  split
  · next hn => rw [hs] at hn; cases hn
  · next ht =>
    rw [hs] at ht
    cases ht
    rw [h, Option.map_some]

end FilterQuery.Sql
