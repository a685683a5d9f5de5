import FilterQuery.Json.Number

namespace FilterQuery

/-- A string of JSON, or a name of a member, has no text if an escape in it names one half of a
surrogate pair without the other. The members of an object keep the order they are written in. -/
inductive Json
  | null
  | bool (b : Bool)
  | number (n : Json.Number)
  | string (text : Option String)
  | array (items : List Json)
  | object (members : List (Option String × Json))
deriving Repr

namespace Json

def text (s : String) : Json := .string (some s)

def nat (n : Nat) : Json := .number (.ofNat n)

def word (n : UInt64) : Json := nat n.toNat

def record (members : List (String × Json)) : Json :=
  .object (members.map fun m => (some m.1, m.2))

def escapeLetter? : Char → Option Char
  | '"' => some '"'
  | '\\' => some '\\'
  | '\x08' => some 'b'
  | '\x0c' => some 'f'
  | '\n' => some 'n'
  | '\r' => some 'r'
  | '\t' => some 't'
  | _ => none

def hexByte (n : Nat) : List Char := [Nat.digitChar (n / 16), Nat.digitChar (n % 16)]

/-- Quotes, backslashes and the control characters below the space are escaped, nothing else. -/
def escaped (c : Char) : List Char :=
  match escapeLetter? c with
  | some letter => ['\\', letter]
  | none => if c.toNat < 32 then '\\' :: 'u' :: '0' :: '0' :: hexByte c.toNat else [c]

def quote (s : String) : String := "\"" ++ String.ofList (s.toList.flatMap escaped) ++ "\""

def replacement : String := "\uFFFD"

def quoteText (s : Option String) : String := quote (s.getD replacement)

def atomText : Json → String
  | null => "null"
  | bool b => if b then "true" else "false"
  | number n => n.render
  | string s => quoteText s
  | array _ => "[]"
  | object _ => "\x7b\x7d"

mutual

def compact : Json → String
  | array items => "[" ++ ",".intercalate (compactItems items) ++ "]"
  | object members => "\x7b" ++ ",".intercalate (compactMembers members) ++ "\x7d"
  | v => v.atomText

def compactItems : List Json → List String
  | [] => []
  | v :: vs => v.compact :: compactItems vs

def compactMembers : List (Option String × Json) → List String
  | [] => []
  | (k, v) :: ms => (quoteText k ++ ":" ++ v.compact) :: compactMembers ms

end

def block (level : Nat) (opening closing : String) (lines : List String) : String :=
  let indent (n : Nat) := String.ofList (List.replicate (2 * n) ' ')
  opening ++ "\n" ++ ",\n".intercalate (lines.map (indent (level + 1) ++ ·)) ++ "\n" ++
    indent level ++ closing

mutual

def prettyAt (level : Nat) : Json → String
  | array (v :: vs) => block level "[" "]" (prettyItems (level + 1) (v :: vs))
  | object (m :: ms) => block level "\x7b" "\x7d" (prettyMembers (level + 1) (m :: ms))
  | v => v.atomText

def prettyItems (level : Nat) : List Json → List String
  | [] => []
  | v :: vs => v.prettyAt level :: prettyItems level vs

def prettyMembers (level : Nat) : List (Option String × Json) → List String
  | [] => []
  | (k, v) :: ms => (quoteText k ++ ": " ++ v.prettyAt level) :: prettyMembers level ms

end

def pretty (v : Json) : String := v.prettyAt 0

end Json

end FilterQuery
