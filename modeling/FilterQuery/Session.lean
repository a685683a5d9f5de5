import FilterQuery.ListEndpoint
import FilterQuery.Session.Request
import FilterQuery.Text.Visible

namespace FilterQuery

open FilterQuery.Text

def QueryError.body (e : QueryError) : Json :=
  .record ([("kind", .text e.kind)] ++
    (e.position?.map fun p => ("position", Json.nat p)).toList ++
    (e.field?.map fun f => ("field", Json.text f)).toList ++
    [("reason", .text e.message)])

def Sql.Collapse.report (c : Collapse) : String :=
  "  • OrToIn \x7b column: " ++ visible c.column ++ ", value_count: " ++ toString c.count ++ " \x7d"

structure Session where
  config : Config
  entity : String

namespace Session

def banner : List String :=
  ["--- profile_query: filter → SQL ---",
    "commands: <filter query> | :entity <name> | :page <number> <size> <total> | :quit"]

def noEntities : String := "Error: configuration defines no entities"

/-- The reason that is given when a program breaks off. Where it did so is left out here. -/
def overflow : String := "capacity overflow"

def answerQuery (c : Config) (e : Entity) (query : String) : List String :=
  match c.statements e (some query) none none with
  | .ok s => [s.select, s.count] ++ s.collapses.map Sql.Collapse.report
  | .error e => [toString e.status ++ " " ++ e.body.pretty]

/-- The envelope of a page, after a word on its size if that was too large. `none` is for a page
that ends the program. -/
def answerPage (c : Config) (entity : String) (number size total : UInt64) :
    List String × Option (Except SessionError Unit) :=
  let allowed := (c.pagination.request (some number) (some size)).size
  let clamped :=
    if allowed = size then [] else ["page size clamped to " ++ toString allowed.toNat]
  match c.samplePage (some number) (some size) total with
  | none => (clamped, none)
  | some page =>
    match c.entityUrl entity with
    | .ok url => (clamped ++ [((page.map Json.word).envelope url).pretty], some (.ok ()))
    | .error e => (clamped, some (.error (.config e)))

def errorLine (e : SessionError) : String := "error: " ++ e.message

/-- The lines that answer a line which is neither blank nor the end, and the session after it, if the
program goes on. -/
def handle (s : Session) (line : List Char) : List String × Option Session :=
  match Request.ofLine line with
  | .error e => ([errorLine e], some s)
  | .ok (.entity name) =>
    match s.config.entity name with
    | .ok _ => (["entity: " ++ name], some { s with entity := name })
    | .error e => ([errorLine (.config e)], some s)
  | .ok (.page number size total) =>
    match answerPage s.config s.entity number size total with
    | (lines, some (.ok ())) => (lines, some s)
    | (lines, some (.error e)) => (lines ++ [errorLine e], some s)
    | (lines, none) => (lines, none)
  | .ok (.query text) =>
    match s.config.entity s.entity with
    | .ok e => (answerQuery s.config e text, some s)
    | .error e => ([errorLine (.config e)], some s)

def isQuit (line : List Char) : Bool := String.ofList line ∈ [":quit", ":q"]

/-- The answer to a line and the session after it, if the program goes on; `none` if the line ends
the session. A blank line gets no answer. -/
def step (s : Session) (line : String) : Option (List String × Option Session) :=
  let line := trim line.toList
  if isQuit line then none
  else if line.isEmpty then some ([], some s)
  else some (s.handle line)

/-- The answers to the lines up to the one that ends the session, and whether the program broke off
at the last of them. -/
structure Run where
  answers : List (List String)
  broken : Bool
deriving DecidableEq, Repr

def run (s : Session) : List String → Run
  | [] => ⟨[], false⟩
  | line :: lines =>
    match s.step line with
    | none => ⟨[], false⟩
    | some (answer, none) => ⟨[answer], true⟩
    | some (answer, some s) =>
      let rest := s.run lines
      ⟨answer :: rest.answers, rest.broken⟩

/-- The session that a configuration starts with: about profiles if there are any, else about its
first entity. -/
def start? (c : Config) : Option Session :=
  if (c.entities.get? "profile").isSome then some ⟨c, "profile"⟩
  else c.entities.names.head?.map fun name => ⟨c, name⟩

end Session

structure Transcript where
  output : List String
  errors : List String
  exitCode : UInt32
deriving DecidableEq, Repr

/-- A session from its first line to its last. A configuration without entities starts none. -/
def transcript (c : Config) (lines : List String) : Transcript :=
  match Session.start? c with
  | none => ⟨[], [Session.noEntities], 1⟩
  | some s =>
    let run := s.run lines
    if run.broken then ⟨Session.banner ++ run.answers.flatten, [Session.overflow], 101⟩
    else ⟨Session.banner ++ run.answers.flatten, [], 0⟩

end FilterQuery
