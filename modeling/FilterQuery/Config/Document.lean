import FilterQuery.Config.Basic
import FilterQuery.Json.Parser

namespace FilterQuery

namespace Json

structure Parts where
  members : List (String × Json)

/-- The members of an object that belong to a structure with these parts, or the items of an array
as its first parts. `none` if a part is there twice, if a name has no text, or if there are too many
items. -/
def parts? (names : List String) : Json → Option Parts
  | .object members => do
    let named ← members.mapM fun (name, v) => name.map (·, v)
    let known := named.filter fun m => names.contains m.1
    if known.map (·.1) |>.Nodup then some ⟨known⟩ else none
  | .array items => if items.length ≤ names.length then some ⟨names.zip items⟩ else none
  | _ => none

def Parts.get? (p : Parts) (name : String) : Option Json := p.members.lookup name

def Parts.read (p : Parts) (name : String) (decode : Json → Option α) : Option α :=
  (p.get? name).bind decode

/-- A part that may be left out. -/
def Parts.readD (p : Parts) (name : String) (decode : Json → Option α) (x : α) : Option α :=
  match p.get? name with
  | some v => decode v
  | none => some x

def string? : Json → Option String
  | .string s => s
  | _ => none

def word? : Json → Option UInt64
  | .number n => n.word?
  | _ => none

/-- A map from names. A name that comes again replaces what it stood for. -/
def nameMap? (decode : Json → Option α) : Json → Option (NameMap α)
  | .object members => do
    let entries ← members.mapM fun (name, v) => do return (← name, ← decode v)
    return NameMap.ofList entries
  | _ => none

def ofNameMap (encode : α → Json) (m : NameMap α) : Json :=
  .record (m.entries.map fun e => (e.1, encode e.2))

end Json

namespace ColumnType

def ofJson? : Json → Option ColumnType
  | .string (some name) => ofName? name
  | .object [(some name, .null)] => ofName? name
  | _ => none

end ColumnType

namespace Column

def ofJson? (j : Json) : Option Column := do
  let p ← j.parts? ["column", "type"]
  return ⟨← p.read "column" Json.string?, ← p.read "type" ColumnType.ofJson?⟩

def toJson (c : Column) : Json :=
  .record [("column", .text c.name), ("type", .text c.type.name)]

end Column

namespace Entity

def ofJson? (j : Json) : Option Entity := do
  let p ← j.parts? ["table", "path", "fields"]
  return ⟨← p.read "table" Json.string?, ← p.read "path" Json.string?,
    ← p.read "fields" (Json.nameMap? Column.ofJson?)⟩

def toJson (e : Entity) : Json :=
  .record [("table", .text e.table), ("path", .text e.path),
    ("fields", Json.ofNameMap Column.toJson e.fields)]

end Entity

namespace Pagination

def ofJson? (j : Json) : Option Pagination := do
  let p ← j.parts? ["maxPageSize", "defaultPageSize"]
  let usual : Pagination := {}
  return ⟨← p.readD "maxPageSize" Json.word? usual.maxSize,
    ← p.readD "defaultPageSize" Json.word? usual.defaultSize⟩

def toJson (p : Pagination) : Json :=
  .record [("maxPageSize", .word p.maxSize), ("defaultPageSize", .word p.defaultSize)]

end Pagination

namespace Config

def ofJson? (j : Json) : Option Config := do
  let p ← j.parts? ["baseUrl", "pagination", "entities"]
  return ⟨← p.read "baseUrl" Json.string?, ← p.readD "pagination" Pagination.ofJson? {},
    ← p.read "entities" (Json.nameMap? Entity.ofJson?)⟩

def toJson (c : Config) : Json :=
  .record [("baseUrl", .text c.baseUrl), ("pagination", c.pagination.toJson),
    ("entities", Json.ofNameMap Entity.toJson c.entities)]

inductive Source
  | nothing
  | directory
  | file (content : ByteArray)

/-- Reads a configuration. The path is named in errors only, and so is what `explain` finds wrong
with a text that is no configuration. -/
def load (explain : String → String) (path : String) : Source → Except ConfigError Config
  | .nothing => .error (.missing path)
  | .directory => .error (.unreadable path "Is a directory (os error 21)")
  | .file content =>
    match String.fromUTF8? content with
    | none => .error (.unreadable path "stream did not contain valid UTF-8")
    | some text =>
      match (Json.ofString? text).bind ofJson? with
      | some c => .ok c
      | none => .error (.malformed path (explain text))

end Config

end FilterQuery
