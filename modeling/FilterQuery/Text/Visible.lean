import FilterQuery.Text.Extending
import FilterQuery.Text.Invisible
import FilterQuery.Text.RangeSet

namespace FilterQuery.Text

def isVisible (c : Char) : Bool :=
  !within extendingBounds c.toNat && !within invisibleBounds c.toNat

def visibleLetter? : Char → Option Char
  | '\x00' => some '0'
  | '\t' => some 't'
  | '\r' => some 'r'
  | '\n' => some 'n'
  | '"' => some '"'
  | '\\' => some '\\'
  | _ => none

def visibleChar (c : Char) : List Char :=
  match visibleLetter? c with
  | some letter => ['\\', letter]
  | none =>
    if isVisible c then [c] else ['\\', 'u', '\x7b'] ++ Nat.toDigits 16 c.toNat ++ ['\x7d']

def visible (s : String) : String := "\"" ++ String.ofList (s.toList.flatMap visibleChar) ++ "\""

end FilterQuery.Text
