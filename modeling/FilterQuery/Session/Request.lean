import FilterQuery.Config.Basic
import FilterQuery.Text.CharClass

namespace FilterQuery

open FilterQuery.Text

inductive SessionError
  | config (e : ConfigError)
  | usage
  | missing (what : String)
  | badNumber (what word : String) (tooLarge : Bool)
  | emptyPage
  | unknownCommand (word : String)
deriving DecidableEq, Repr

namespace SessionError

/-- A bad address names its reason twice, once of its own and once as its cause. -/
def message : SessionError → String
  | config (.badUrl url reason) =>
    (ConfigError.badUrl url reason).message ++ ": " ++ reason.message
  | config e => e.message
  | usage => "usage: :entity <name>"
  | missing what => "missing " ++ what
  | badNumber what word tooLarge =>
    "invalid " ++ what ++ " '" ++ word ++ "': " ++
      (if tooLarge then "number too large to fit in target type"
        else "invalid digit found in string")
  | emptyPage => "page size must be at least 1"
  | unknownCommand word => "unknown command " ++ word

end SessionError

def readWord (what : String) (word : List Char) : Except SessionError UInt64 :=
  let cs := if word.head? = some '+' then word.tail else word
  let ds := cs.takeWhile Char.isDigit
  let n := Decimal.value ds
  if n ≥ UInt64.size then .error (.badNumber what (String.ofList word) true)
  else if ds.isEmpty || ds.length < cs.length then
    .error (.badNumber what (String.ofList word) false)
  else .ok (UInt64.ofNat n)

inductive Request
  | query (text : String)
  | entity (name : String)
  | page (number size total : UInt64)
deriving DecidableEq, Repr

namespace Request

def readNumber (what : String) : List (List Char) → Except SessionError (UInt64 × List (List Char))
  | [] => .error (.missing what)
  | word :: words => do return (← readWord what word, words)

def readPage (words : List (List Char)) : Except SessionError Request := do
  let (number, words) ← readNumber "page number" words
  let (size, words) ← readNumber "page size" words
  let (total, _) ← readNumber "total" words
  if size = 0 then throw .emptyPage
  return .page number size total

/-- Reads a line. Words after those that a command needs count for nothing. -/
def ofLine (line : List Char) : Except SessionError Request :=
  match words line with
  | [] => .ok (.query (String.ofList line))
  | first :: rest =>
    match String.ofList first, rest with
    | ":entity", [] => .error .usage
    | ":entity", name :: _ => .ok (.entity (String.ofList name))
    | ":page", words => readPage words
    | word, _ =>
      if first.head? = some ':' then .error (.unknownCommand word)
      else .ok (.query (String.ofList line))

end Request

end FilterQuery
