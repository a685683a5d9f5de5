import FilterQuery.Config.Basic
import FilterQuery.Paging.Page
import FilterQuery.Query.Compile
import FilterQuery.Sql.Select

namespace FilterQuery

/-- The most words that a vector holds, `2 ^ 60 - 1`: it takes no more bytes than the largest signed
word. -/
def maxRows : Nat := (UInt64.size / 2 - 1) / 8

/-- The records from `start` up to but not including `stop`. Where no vector holds so many there are
none of them, and the program ends. -/
def rowsFrom (start stop : UInt64) : Option (List UInt64) :=
  let count := stop.toNat - start.toNat
  if count ≤ maxRows then some ((List.range count).map fun k => start + UInt64.ofNat k)
  else none

/-- Where the records of a page start and stop among `total` of them. -/
def PageRequest.bounds (r : PageRequest) (total : UInt64) : UInt64 × UInt64 :=
  let start := min r.offset total
  (start, min total (saturatingAdd start r.size))

namespace Config

def statements (c : Config) (e : Entity) (query : Option String) (number size : Option UInt64) :
    Except QueryError Sql.Statements := do
  let filter ← compileQuery query e.fields
  return .ofFilter e.table Sql.defaultThreshold filter (c.pagination.request number size)

/-- A page of the numbers below `total`, counted from zero, which stand for its records. -/
def samplePage (c : Config) (number size : Option UInt64) (total : UInt64) :
    Option (Page UInt64) :=
  let request := c.pagination.request number size
  let bounds := request.bounds total
  (rowsFrom bounds.1 bounds.2).map fun rows => .ofRequest rows total request

end Config

end FilterQuery
