import FilterQuery.Proofs.Filter.Resolution
import FilterQuery.Proofs.Query.RoundTrip
import FilterQuery.Sql.Expr

namespace FilterQuery

variable {α β ε : Type}

namespace Criteria

theorem depth_lt_size {p : Criteria α} (h : p.AllTests) : p.depth < p.size := by
  induction p with
  | everything => exact h.elim
  | test => exact Nat.one_pos
  | and l r ihl ihr | or l r ihl ihr =>
    have hl := ihl h.1
    have hr := ihr h.2
    simp only [depth, size]
    omega

theorem Related.depth_eq {R : Comparison α → Comparison β → Prop} {p : Criteria α}
    {q : Criteria β} (h : Related R p q) : q.depth = p.depth := by
  induction h with
  | everything | test => rfl
  | and _ _ ihl ihr | or _ _ ihl ihr => simp only [depth, ihl, ihr]

def renderWithin : Nat → Predicate → Option String
  | 0, _ => none
  | _ + 1, everything => some ""
  | _ + 1, test c => some (render (test c))
  | n + 1, and l r => do
    return "(" ++ (← renderWithin n l) ++ " and " ++ (← renderWithin n r) ++ ")"
  | n + 1, or l r => do
    return "(" ++ (← renderWithin n l) ++ " or " ++ (← renderWithin n r) ++ ")"

def traverseWithin (f : Comparison α → Except ε (Comparison β)) :
    Nat → Criteria α → ExceptT ε Option (Criteria β)
  | 0, _ => ExceptT.mk none
  | _ + 1, everything => return .everything
  | _ + 1, test c => do return .test (← f c)
  | n + 1, and l r => do return .and (← traverseWithin f n l) (← traverseWithin f n r)
  | n + 1, or l r => do return .or (← traverseWithin f n l) (← traverseWithin f n r)

theorem renderWithin_of_depth_lt {n : Nat} {p : Predicate} (h : p.depth < n) :
    renderWithin n p = some p.render := by
  induction n generalizing p with
  | zero => cases h
  | succ n ih =>
    cases p with
    | everything | test => rfl
    | and l r | or l r =>
      simp only [depth] at h
      have hl := @ih l (by omega)
      have hr := @ih r (by omega)
      simp [renderWithin, render, hl, hr]

theorem traverseWithin_of_depth_lt (f : Comparison α → Except ε (Comparison β)) {n : Nat}
    {p : Criteria α} (h : p.depth < n) : (traverseWithin f n p).run = some (p.traverse f) := by
  induction n generalizing p with
  | zero => cases h
  | succ n ih =>
    cases p with
    | everything => rfl
    | test c =>
      rw [traverseWithin, traverse]
      cases f c <;> rfl
    | and l r | or l r =>
      simp only [depth] at h
      have hl := @ih l (by omega)
      have hr := @ih r (by omega)
      simp only [traverseWithin, traverse, ExceptT.run_bind, hl]
      cases l.traverse f with
      | error e => rfl
      | ok l =>
        simp only [Option.bind_eq_bind, Option.bind_some, hr]
        cases r.traverse f <;> rfl

end Criteria

namespace Sql.Expr

def ofFilterWithin (threshold : Nat) : Nat → Filter → Option (Expr × List Collapse)
  | 0, _ => none
  | _ + 1, .everything => some (.constant true, [])
  | _ + 1, .test c => some (.ofComparison c, [])
  | n + 1, .and l r => do
    let (left, collapses) ← ofFilterWithin threshold n l
    let (right, collapses') ← ofFilterWithin threshold n r
    return (.and left right, collapses ++ collapses')
  | n + 1, .or l r =>
    match collapse? threshold (.or l r) with
    | some (e, collapse) => return (e, [collapse])
    | none => do
      let (left, collapses) ← ofFilterWithin threshold n l
      let (right, collapses') ← ofFilterWithin threshold n r
      return (.or left right, collapses ++ collapses')

theorem ofFilterWithin_of_depth_lt (threshold : Nat) {n : Nat} {f : Filter} (h : f.depth < n) :
    ofFilterWithin threshold n f = some (ofFilter threshold f) := by
  induction n generalizing f with
  | zero => cases h
  | succ n ih =>
    cases f with
    | everything | test => rfl
    | and l r =>
      simp only [Criteria.depth] at h
      have hl := @ih l (by omega)
      have hr := @ih r (by omega)
      simp [ofFilterWithin, ofFilter, hl, hr]
    | or l r =>
      simp only [Criteria.depth] at h
      have hl := @ih l (by omega)
      have hr := @ih r (by omega)
      rw [ofFilterWithin, ofFilter]
      cases collapse? threshold (.or l r) with
      | some => rfl
      | none => simp [hl, hr]

end Sql.Expr

end FilterQuery
