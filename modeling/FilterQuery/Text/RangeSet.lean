
namespace FilterQuery.Text

/-- Whether `n` lies in the set whose bounds are listed: membership begins at the first bound,
ends before the second, begins again at the third, and so on. -/
def within : List Nat → Nat → Bool
  | start :: stop :: rest, n => start ≤ n && (n < stop || within rest n)
  | [start], n => start ≤ n
  | [], _ => false

end FilterQuery.Text
