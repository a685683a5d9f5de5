import FilterQuery.Decimal.Digits

namespace FilterQuery

open FilterQuery.Decimal

namespace Date

def isLeapYear (year : Int) : Bool := year % 4 == 0 && (year % 100 != 0 || year % 400 == 0)

/-- The number of days in a month; `0` where there is no such month. -/
def daysIn (year : Int) : Nat → Nat
  | 1 | 3 | 5 | 7 | 8 | 10 | 12 => 31
  | 4 | 6 | 9 | 11 => 30
  | 2 => if isLeapYear year then 29 else 28
  | _ => 0

end Date

structure Date where
  year : Int
  month : Nat
  day : Nat
  one_le_day : 1 ≤ day
  day_le : day ≤ Date.daysIn year month
deriving DecidableEq, Repr

namespace Date

def of? (year : Int) (month day : Nat) : Option Date :=
  if h : 1 ≤ day ∧ day ≤ daysIn year month then some ⟨year, month, day, h.1, h.2⟩ else none

/-- A year has four digits. Years outside of 0000 to 9999 carry a sign. -/
def renderYear : Int → List Char
  | .ofNat year => if year < 10000 then padded 4 year else '+' :: padded 4 year
  | .negSucc n => '-' :: padded 4 (n + 1)

def render (d : Date) : String :=
  String.ofList (renderYear d.year ++ '-' :: padded 2 d.month ++ '-' :: padded 2 d.day)

/-- Reads four digits, a hyphen, two digits, a hyphen, two digits, and nothing else. -/
def ofText? (text : String) : Option Date :=
  match text.toList with
  | [y₁, y₂, y₃, y₄, '-', m₁, m₂, '-', d₁, d₂] =>
    let year := [y₁, y₂, y₃, y₄]
    let month := [m₁, m₂]
    let day := [d₁, d₂]
    if (year ++ month ++ day).all Char.isDigit then of? (value year) (value month) (value day)
    else none
  | _ => none

end Date

end FilterQuery
