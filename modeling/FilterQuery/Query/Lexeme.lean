import FilterQuery.Text.CharClass
import FilterQuery.Query.Token

namespace FilterQuery.Query

open FilterQuery.Text

inductive Fault
  | loneEquals
  | loneBang
  | unclosedOperator (name : String)
  | unknownOperator (name : String)
  | unterminatedText
  | badEscape
  | malformedDate
  | missingFraction
  | malformedNumber (digits : String)
  | strayCharacter (c : Char)
deriving DecidableEq, Repr

def Fault.reason : Fault → String
  | loneEquals => "expected '==' or a named operator like '=in='"
  | loneBang => "expected '!='"
  | unclosedOperator name => "operator '=" ++ name ++ "' is missing its closing '='"
  | unknownOperator name => "unknown operator '=" ++ name ++ "='"
  | unterminatedText => "unterminated string literal"
  | badEscape => "invalid escape sequence"
  | malformedDate => "malformed date, expected YYYY-MM-DD"
  | missingFraction => "malformed number: missing fraction digits"
  | malformedNumber digits => "malformed number starting with '" ++ digits ++ "'"
  | strayCharacter c => "unexpected character '" ++ c.toString ++ "'"

/-- A fault and its distance in bytes from the first character of the token. -/
structure Flaw where
  offset : Nat
  fault : Fault
deriving DecidableEq, Repr

structure Lexeme where
  kind : Token.Kind
  spelling : List Char
  rest : List Char
deriving DecidableEq, Repr

namespace Lexeme

def fail (fault : Fault) : Except Flaw Lexeme := .error ⟨0, fault⟩

/-- A name that may be one of the keywords. `and` and `or` are keywords in any case. -/
def wordKind (word : List Char) : Token.Kind :=
  if word = "true".toList then .bool true
  else if word = "false".toList then .bool false
  else if word.map Char.toLower = "and".toList then .and
  else if word.map Char.toLower = "or".toList then .or
  else .name (String.ofList word)

def scanWord (c : Char) (cs : List Char) : Lexeme :=
  let word := c :: cs.takeWhile isNamePart
  ⟨wordKind word, word, cs.dropWhile isNamePart⟩

def scanDatePart : List Char → Option (List Char × List Char)
  | '-' :: cs =>
    let digits := cs.takeWhile Char.isDigit
    if digits.length = 2 then some ('-' :: digits, cs.dropWhile Char.isDigit) else none
  | _ => none

def continuesNumber : List Char → Bool
  | c :: _ => isAlphanumeric c || c == '_' || c == '.'
  | [] => false

def continuesDate (cs : List Char) : Bool := continuesNumber cs || cs.head? == some '-'

/-- The rest of a date whose year is read. -/
def scanDate (year cs : List Char) : Except Flaw Lexeme :=
  match scanDatePart cs with
  | none => fail .malformedDate
  | some (month, cs) =>
    match scanDatePart cs with
    | none => fail .malformedDate
    | some (day, cs) =>
      if continuesDate cs then fail .malformedDate
      else
        let date := year ++ month ++ day
        .ok ⟨.date (String.ofList date), date, cs⟩

def endNumber (digits cs : List Char) : Except Flaw Lexeme :=
  if continuesNumber cs then fail (.malformedNumber (String.ofList digits))
  else .ok ⟨.number (String.ofList digits), digits, cs⟩

/-- A number or a date: four digits before a hyphen are a year. -/
def scanNumber (c : Char) (cs : List Char) : Except Flaw Lexeme :=
  let whole := c :: cs.takeWhile Char.isDigit
  match cs.dropWhile Char.isDigit with
  | '-' :: rest =>
    if c ≠ '-' ∧ whole.length = 4 then scanDate whole ('-' :: rest) else endNumber whole ('-' :: rest)
  | '.' :: rest =>
    match rest.takeWhile Char.isDigit with
    | [] => fail .missingFraction
    | fraction => endNumber (whole ++ '.' :: fraction) (rest.dropWhile Char.isDigit)
  | rest => endNumber whole rest

def isEscapable (c : Char) : Bool := c == '"' || c == '\'' || c == '\\'

/-- The body of a text literal up to its closing quote: its content, its spelling with the quote,
and what follows. -/
structure Body where
  content : List Char
  spelling : List Char
  rest : List Char
deriving DecidableEq, Repr

def Body.push (content : Char) (spelling : List Char) (b : Body) : Body :=
  ⟨content :: b.content, spelling ++ b.spelling, b.rest⟩

/-- Reads up to the quote that stands bare and copies the content all the way. `offset` is the
distance from the opening quote. -/
def scanBody (quote : Char) (offset : Nat) : List Char → Except Flaw Body
  | [] => .error ⟨0, .unterminatedText⟩
  | '\\' :: e :: cs =>
    if isEscapable e then
      (scanBody quote (offset + 2) cs).map (Body.push e ['\\', e])
    else .error ⟨offset, .badEscape⟩
  | c :: cs =>
    if c = quote then .ok ⟨[], [c], cs⟩
    else if c = '\\' then .error ⟨offset, .badEscape⟩
    else (scanBody quote (offset + c.utf8Size) cs).map (Body.push c [c])

/-- Reads up to the quote that stands bare, with `passed` characters of the body behind it. Up to the
first escape the content is a piece of the body; only from there on it is copied. -/
def sliceBody (quote : Char) (body : List Char) (passed offset : Nat) (copy : Option String) :
    List Char → Except Flaw Lexeme
  | [] => .error ⟨0, .unterminatedText⟩
  | '\\' :: e :: cs =>
    if isEscapable e then
      let copied := copy.getD (String.ofList (body.take passed))
      sliceBody quote body (passed + 2) (offset + 2) (some (copied.push e)) cs
    else .error ⟨offset, .badEscape⟩
  | c :: cs =>
    if c = quote then
      let content := copy.getD (String.ofList (body.take passed))
      .ok ⟨.text content, quote :: body.take (passed + 1), cs⟩
    else if c = '\\' then .error ⟨offset, .badEscape⟩
    else
      sliceBody quote body (passed + 1) (offset + c.utf8Size) (copy.map fun s => s.push c) cs

def scanText (quote : Char) (cs : List Char) : Except Flaw Lexeme :=
  sliceBody quote cs 0 quote.utf8Size none cs

def isAsciiLetter (c : Char) : Bool := c.isAlpha

def scanEquals : List Char → Except Flaw Lexeme
  | '=' :: cs => .ok ⟨.operator .eq, ['=', '='], cs⟩
  | cs =>
    match cs.takeWhile isAsciiLetter with
    | [] => fail .loneEquals
    | name =>
      match cs.dropWhile isAsciiLetter with
      | '=' :: rest =>
        match Operator.ofName? (String.ofList (name.map Char.toLower)) with
        | some op => .ok ⟨.operator op, '=' :: name ++ ['='], rest⟩
        | none => fail (.unknownOperator (String.ofList name))
      | _ => fail (.unclosedOperator (String.ofList name))

/-- The token that starts with `c`, a character that is no blank. -/
def scan (c : Char) (cs : List Char) : Except Flaw Lexeme :=
  match c, cs with
  | '(', cs => .ok ⟨.openParen, ['('], cs⟩
  | ')', cs => .ok ⟨.closeParen, [')'], cs⟩
  | ',', cs => .ok ⟨.comma, [','], cs⟩
  | '=', cs => scanEquals cs
  | '!', '=' :: cs => .ok ⟨.operator .ne, ['!', '='], cs⟩
  | '!', _ => fail .loneBang
  | '<', '=' :: cs => .ok ⟨.operator .le, ['<', '='], cs⟩
  | '<', cs => .ok ⟨.operator .lt, ['<'], cs⟩
  | '>', '=' :: cs => .ok ⟨.operator .ge, ['>', '='], cs⟩
  | '>', cs => .ok ⟨.operator .gt, ['>'], cs⟩
  | c, cs =>
    if c = '"' ∨ c = '\'' then scanText c cs
    else if c.isDigit ∨ c = '-' ∧ cs.head?.any Char.isDigit then scanNumber c cs
    else if isNameStart c then .ok (scanWord c cs)
    else fail (.strayCharacter c)

def Tiles (x : Lexeme) (cs : List Char) : Prop := x.spelling ≠ [] ∧ x.spelling ++ x.rest = cs

theorem tiles_scanWord (c : Char) (cs : List Char) : (scanWord c cs).Tiles (c :: cs) := by
  simp [scanWord, Tiles]

theorem append_of_scanDatePart {cs part rest : List Char}
    (h : scanDatePart cs = some (part, rest)) : part ++ rest = cs := by
  unfold scanDatePart at h
  split at h
  · dsimp only at h
    split at h
    · cases h
      simp
    · cases h
  · cases h

theorem tiles_of_scanDate {year cs : List Char} {x : Lexeme} (hy : year ≠ [])
    (h : scanDate year cs = .ok x) : x.Tiles (year ++ cs) := by
  unfold scanDate at h
  split at h
  · cases h
  · next month rest hm =>
    split at h
    · cases h
    · next day rest' hd =>
      split at h
      · cases h
      · cases h
        simp [Tiles, hy, ← append_of_scanDatePart hm, ← append_of_scanDatePart hd]

theorem tiles_of_endNumber {digits cs : List Char} {x : Lexeme} (hd : digits ≠ [])
    (h : endNumber digits cs = .ok x) : x.Tiles (digits ++ cs) := by
  unfold endNumber at h
  split at h
  · cases h
  · cases h
    exact ⟨hd, rfl⟩

theorem tiles_of_scanNumber {c : Char} {cs : List Char} {x : Lexeme}
    (h : scanNumber c cs = .ok x) : x.Tiles (c :: cs) := by
  have split_digits (ds : List Char) : ds.takeWhile Char.isDigit ++ ds.dropWhile Char.isDigit = ds :=
    List.takeWhile_append_dropWhile
  unfold scanNumber at h
  dsimp only at h
  split at h
  · next rest hr =>
    have ht : c :: cs = c :: cs.takeWhile Char.isDigit ++ '-' :: rest := by
      rw [List.cons_append, ← hr, split_digits]
    rw [ht]
    split at h
    · exact tiles_of_scanDate (by simp) h
    · exact tiles_of_endNumber (by simp) h
  · next rest hr =>
    split at h
    · cases h
    · next fraction hf =>
      have ht : c :: cs =
          (c :: cs.takeWhile Char.isDigit ++ '.' :: rest.takeWhile Char.isDigit) ++
            rest.dropWhile Char.isDigit := by
        simp only [List.cons_append, List.append_assoc, split_digits, ← hr]
      rw [ht]
      exact tiles_of_endNumber (by simp) h
  · have ht : c :: cs = c :: cs.takeWhile Char.isDigit ++ cs.dropWhile Char.isDigit := by
      rw [List.cons_append, split_digits]
    rw [ht]
    exact tiles_of_endNumber (by simp) h

theorem append_of_scanBody {quote : Char} {offset : Nat} {cs : List Char} {b : Body}
    (h : scanBody quote offset cs = .ok b) : b.spelling ++ b.rest = cs := by
  fun_induction scanBody quote offset cs generalizing b with
  | case1 => cases h
  | case2 offset e cs he ih =>
    match hr : scanBody quote (offset + 2) cs with
    | .ok b' =>
      rw [hr] at h
      cases h
      simp [Body.push, ih hr]
    | .error f =>
      rw [hr] at h
      cases h
  | case3 => cases h
  | case4 =>
    cases h
    rfl
  | case5 => cases h
  | case6 offset c cs _ _ _ ih =>
    match hr : scanBody quote (offset + c.utf8Size) cs with
    | .ok b' =>
      rw [hr] at h
      cases h
      simp [Body.push, ih hr]
    | .error f =>
      rw [hr] at h
      cases h

theorem push_append_ofList (s : String) (c : Char) (cs : List Char) :
    s.push c ++ String.ofList cs = s ++ String.ofList (c :: cs) := by
  rw [String.ofList_cons, ← String.append_assoc, String.append_singleton]

theorem sliceBody_eq (quote : Char) (offset : Nat) (copy : Option String) (before cs : List Char) :
    sliceBody quote (before ++ cs) before.length offset copy cs =
      (scanBody quote offset cs).map fun b =>
        ⟨.text (copy.getD (String.ofList before) ++ String.ofList b.content),
          quote :: (before ++ b.spelling), b.rest⟩ := by
  -- without a copy the part of the body that is passed stands in for it, up to the first escape
  fun_induction scanBody quote offset cs generalizing copy before with
  | case1 => rfl
  | case2 offset e cs he ih =>
    have happend : before ++ '\\' :: e :: cs = before ++ ['\\', e] ++ cs := by simp
    rw [sliceBody, if_pos he, List.take_left]
    have hrest := ih (some ((copy.getD (String.ofList before)).push e)) (before ++ ['\\', e])
    rw [List.length_append, ← happend] at hrest
    refine hrest.trans ?_
    cases scanBody quote (offset + 2) cs with
    | ok b => simp [Except.map, Body.push, push_append_ofList, - String.ofList_cons]
    | error f => rfl
  | case3 offset e cs he =>
    rw [sliceBody, if_neg he]
    rfl
  | case4 offset cs hne =>
    have htake : (before ++ quote :: cs).take (before.length + 1) = before ++ [quote] := by
      rw [List.append_cons]
      exact List.take_left' List.length_append
    rw [sliceBody, if_pos rfl, List.take_left, htake]
    · simp [Except.map]
    · exact hne
  | case5 offset cs hne hq =>
    rw [sliceBody, if_neg hq, if_pos rfl]
    · rfl
    · exact hne
  | case6 offset c cs hne hc hb ih =>
    rw [sliceBody, if_neg hc, if_neg hb]
    · have hrest := ih (copy.map fun s => s.push c) (before ++ [c])
      rw [List.length_append, ← List.append_cons] at hrest
      refine hrest.trans ?_
      have hcopy : (copy.map fun s => s.push c).getD (String.ofList (before ++ [c])) =
          (copy.getD (String.ofList before)).push c := by
        cases copy with
        | none => simp
        | some s => rfl
      rw [hcopy]
      cases scanBody quote (offset + c.utf8Size) cs with
      | ok b => simp [Except.map, Body.push, push_append_ofList, - String.ofList_cons]
      | error f => rfl
    · exact hne

/-- The content of a text is what is copied of it, wherever the copy begins. -/
theorem scanText_eq (quote : Char) (cs : List Char) :
    scanText quote cs = (scanBody quote quote.utf8Size cs).map fun b =>
      ⟨.text (String.ofList b.content), quote :: b.spelling, b.rest⟩ := by
  have h := sliceBody_eq quote quote.utf8Size none [] cs
  simpa [scanText] using h

theorem tiles_of_scanText {quote : Char} {cs : List Char} {x : Lexeme}
    (h : scanText quote cs = .ok x) : x.Tiles (quote :: cs) := by
  rw [scanText_eq] at h
  match hb : scanBody quote quote.utf8Size cs with
  | .ok b =>
    rw [hb] at h
    cases h
    simp [Tiles, append_of_scanBody hb]
  | .error f =>
    rw [hb] at h
    cases h

theorem tiles_of_scanEquals {cs : List Char} {x : Lexeme} (h : scanEquals cs = .ok x) :
    x.Tiles ('=' :: cs) := by
  unfold scanEquals at h
  split at h
  · cases h
    simp [Tiles]
  · split at h
    · cases h
    · split at h
      · next rest hr =>
        split at h
        · cases h
          have ht := List.takeWhile_append_dropWhile (p := isAsciiLetter) (l := cs)
          rw [hr] at ht
          simp [Tiles, ht]
        · cases h
      · cases h

theorem tiles_of_scan {c : Char} {cs : List Char} {x : Lexeme} (h : scan c cs = .ok x) :
    x.Tiles (c :: cs) := by
  unfold scan at h
  split at h
  · cases h; simp [Tiles]
  · cases h; simp [Tiles]
  · cases h; simp [Tiles]
  · exact tiles_of_scanEquals h
  · cases h; simp [Tiles]
  · cases h
  · cases h; simp [Tiles]
  · cases h; simp [Tiles]
  · cases h; simp [Tiles]
  · cases h; simp [Tiles]
  · split at h
    · exact tiles_of_scanText h
    · split at h
      · exact tiles_of_scanNumber h
      · split at h
        · cases h
          exact tiles_scanWord _ _
        · cases h

theorem length_rest_of_scan {c : Char} {cs : List Char} {x : Lexeme} (h : scan c cs = .ok x) :
    x.rest.length ≤ cs.length := by
  obtain ⟨hs, ht⟩ := tiles_of_scan h
  have hp := List.length_pos_iff.mpr hs
  have hl := congrArg List.length ht
  simp only [List.length_append, List.length_cons] at hl
  omega

end Lexeme

end FilterQuery.Query
