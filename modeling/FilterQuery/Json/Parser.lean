import FilterQuery.Json.Token

namespace FilterQuery

namespace Json.Parser

/-- An array with its items so far, or an object with its members so far and the name of the one
that is being read; both with the latest first. -/
inductive Frame
  | array (before : List Json)
  | object (before : List (Option String × Json)) (name : Option String)

inductive Phase
  | value
  | firstItem
  | firstName
  | name (before : List (Option String × Json))
  | colon (before : List (Option String × Json)) (name : Option String)
  | valueEnd (v : Json)

structure State where
  frames : List Frame
  phase : Phase

namespace State

def initial : State := ⟨[], .value⟩

def startValue (frames : List Frame) : Token → Option State
  | .atom v => some ⟨frames, .valueEnd v⟩
  | .text s => some ⟨frames, .valueEnd (.string s)⟩
  | .openArray => some ⟨.array [] :: frames, .firstItem⟩
  | .openObject => some ⟨frames, .firstName⟩
  | _ => none

def startName (frames : List Frame) (before : List (Option String × Json)) :
    Token → Option State
  | .text s => some ⟨frames, .colon before s⟩
  | _ => none

def endValue (frames : List Frame) (v : Json) : Token → Option State
  | .comma =>
    match frames with
    | .array before :: frames => some ⟨.array (v :: before) :: frames, .value⟩
    | .object before name :: frames => some ⟨frames, .name ((name, v) :: before)⟩
    | [] => none
  | .closeArray =>
    match frames with
    | .array before :: frames => some ⟨frames, .valueEnd (.array (v :: before).reverse)⟩
    | _ => none
  | .closeObject =>
    match frames with
    | .object before name :: frames =>
      some ⟨frames, .valueEnd (.object ((name, v) :: before).reverse)⟩
    | _ => none
  | _ => none

def step (s : State) (t : Token) : Option State :=
  match s.phase, t with
  | .value, t => startValue s.frames t
  | .firstItem, .closeArray => some ⟨s.frames.tail, .valueEnd (.array [])⟩
  | .firstItem, t => startValue s.frames t
  | .firstName, .closeObject => some ⟨s.frames, .valueEnd (.object [])⟩
  | .firstName, t => startName s.frames [] t
  | .name before, t => startName s.frames before t
  | .colon before name, .colon => some ⟨.object before name :: s.frames, .value⟩
  | .colon _ _, _ => none
  | .valueEnd v, t => endValue s.frames v t

def finish (s : State) : Option Json :=
  match s with
  | ⟨[], .valueEnd v⟩ => some v
  | _ => none

end State

end Json.Parser

namespace Json

open Json.Parser

def ofString? (s : String) : Option Json := do
  let tokens ← Token.all s.toList
  let state ← tokens.foldlM State.step State.initial
  state.finish

end Json

end FilterQuery
