import FilterQuery.Filter.Fields
import FilterQuery.Paging.Request
import FilterQuery.Url.Parser

namespace FilterQuery

structure Entity where
  table : String
  path : String
  fields : Fields

structure Config where
  baseUrl : String
  pagination : Pagination
  entities : NameMap Entity

inductive ConfigError
  | missing (path : String)
  | unreadable (path : String) (reason : String)
  | malformed (path : String) (reason : String)
  | badUrl (url : String) (reason : UrlError)
  | unknownEntity (name : String)
deriving DecidableEq, Repr

def ConfigError.message : ConfigError → String
  | missing path => "配置文件不存在: " ++ path
  | unreadable path reason => "无法读取配置文件 " ++ path ++ ": " ++ reason
  | malformed path reason => "无法解析JSON配置文件 " ++ path ++ ": " ++ reason
  | badUrl url reason => "无效的URL " ++ url ++ ": " ++ reason.message
  | unknownEntity name => "未知实体: " ++ name

namespace Config

def entity (c : Config) (name : String) : Except ConfigError Entity :=
  match c.entities.get? name with
  | some e => .ok e
  | none => .error (.unknownEntity name)

def entityUrl (c : Config) (name : String) : Except ConfigError Url := do
  let e ← c.entity name
  ((Url.ofString c.baseUrl).bind (·.join e.path)).mapError (.badUrl (c.baseUrl ++ e.path))

def default : Config where
  baseUrl := "http://localhost:8080"
  pagination := {}
  entities := .ofList [("profile", {
    table := "profiles"
    path := "/api/v1/profiles"
    fields := .ofList [
      ("id", ⟨"id", .string⟩),
      ("mail", ⟨"mail", .string⟩),
      ("firstName", ⟨"first_name", .string⟩),
      ("lastName", ⟨"last_name", .string⟩),
      ("age", ⟨"age", .number⟩),
      ("active", ⟨"active", .bool⟩),
      ("birthDate", ⟨"birth_date", .date⟩),
      ("address.city", ⟨"city", .string⟩)] })]

end Config

end FilterQuery
