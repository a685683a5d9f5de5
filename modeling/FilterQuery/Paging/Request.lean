
namespace FilterQuery

def saturatingMul (a b : UInt64) : UInt64 :=
  UInt64.ofNat (min (a.toNat * b.toNat) (UInt64.size - 1))

def saturatingAdd (a b : UInt64) : UInt64 :=
  UInt64.ofNat (min (a.toNat + b.toNat) (UInt64.size - 1))

structure PageRequest where
  number : UInt64
  size : UInt64
deriving DecidableEq, Repr

namespace PageRequest

def offset (r : PageRequest) : UInt64 := saturatingMul r.number r.size

def clamp (maxSize : UInt64) (r : PageRequest) : PageRequest := ⟨r.number, min r.size maxSize⟩

end PageRequest

structure Pagination where
  maxSize : UInt64 := 200
  defaultSize : UInt64 := 20
deriving DecidableEq, Repr

/-- The request for a page whose number and size may be left open. -/
def Pagination.request (p : Pagination) (number size : Option UInt64) : PageRequest :=
  PageRequest.clamp p.maxSize ⟨number.getD 0, size.getD p.defaultSize⟩

end FilterQuery
