import FilterQuery.Filter.Value

namespace FilterQuery.Sql

def identifier (name : String) : String :=
  "\"" ++ String.ofList (name.toList.flatMap fun c => if c = '"' then ['"', '"'] else [c]) ++ "\""

def escapeLetter? : Char → Option Char
  | '\\' => some '\\'
  | '"' => some '"'
  | '\'' => some '\''
  | '\x00' => some '0'
  | '\x08' => some 'b'
  | '\t' => some 't'
  | '\x1a' => some 'z'
  | '\n' => some 'n'
  | '\r' => some 'r'
  | _ => none

def escaped (cs : List Char) : List Char :=
  cs.flatMap fun c =>
    match escapeLetter? c with
    | some letter => ['\\', letter]
    | none => [c]

/-- A text between single quotes. The letter `E` in front says that backslashes escape. -/
def textConstant (s : String) : String :=
  let body := escaped s.toList
  (if body.contains '\\' then "E'" else "'") ++ String.ofList body ++ "'"

def valueConstant : Value → String
  | .text s => textConstant s
  | .bool b => if b then "TRUE" else "FALSE"
  | .date d => "'" ++ d.render ++ "'"
  | v => v.render

end FilterQuery.Sql
