import FilterQuery.Json.Basic
import FilterQuery.Paging.Request
import FilterQuery.Url.Update

namespace FilterQuery

variable {α β : Type}

structure Page (α : Type) where
  items : List α
  total : UInt64
  size : UInt64
  number : UInt64
deriving Repr

namespace Page

def ofRequest (items : List α) (total : UInt64) (r : PageRequest) : Page α :=
  ⟨items, total, r.size, r.number⟩

/-- The number of the last page; `0` where there are no records. -/
def lastNumber (p : Page α) : UInt64 :=
  if p.size = 0 ∨ p.total = 0 then 0 else (p.total - 1) / p.size

def hasNext (p : Page α) : Bool := p.number < p.lastNumber

def map (f : α → β) (p : Page α) : Page β := { p with items := p.items.map f }

end Page

namespace Url

/-- The same address, asking for one page. What it asked for before is dropped. -/
def withPage (u : Url) (number size : UInt64) : Url :=
  let cleared := u.removeQuery.removeFragment
  (cleared.addParameter "page" (toString number.toNat)).addParameter "size" (toString size.toNat)

end Url

structure PageLinks where
  first : Url
  next : Option Url
  last : Url
deriving DecidableEq, Repr

def PageLinks.ofPage (p : Page α) (base : Url) : PageLinks where
  first := base.withPage 0 p.size
  next := if p.hasNext then some (base.withPage (p.number + 1) p.size) else none
  last := base.withPage p.lastNumber p.size

def Page.envelope (p : Page Json) (base : Url) : Json :=
  let links := PageLinks.ofPage p base
  .record ([("data", .array p.items), ("totalElements", .word p.total),
      ("pageSize", .word p.size), ("first", .text links.first.render)] ++
    (links.next.map fun next => ("next", Json.text next.render)).toList ++
    [("last", .text links.last.render)])

end FilterQuery
