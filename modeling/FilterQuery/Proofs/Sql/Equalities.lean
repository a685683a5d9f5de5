import FilterQuery.Sql.Expr

namespace FilterQuery.Sql

/-- The filter is a disjunction of equalities of the column with these values, left to right. -/
inductive Equalities (column : String) : Filter → List Value → Prop
  | single (v : Value) : Equalities column (.test ⟨column, .eq, .single v⟩) [v]
  | or {l r : Filter} {vs ws : List Value} (hl : Equalities column l vs)
      (hr : Equalities column r ws) : Equalities column (.or l r) (vs ++ ws)

theorem Equalities.ne_nil {column : String} {f : Filter} {vs : List Value}
    (h : Equalities column f vs) : vs ≠ [] := by
  induction h with
  | single v => exact List.cons_ne_nil v []
  | or _ _ ihl _ => exact List.append_ne_nil_of_left_ne_nil ihl _

theorem equalities?_eq_some_iff {f : Filter} {column : String} {vs : List Value} :
    equalities? f = some (column, vs) ↔ Equalities column f vs := by
  constructor
  · intro h
    fun_induction equalities? f generalizing column vs with
    | case1 column' v =>
      cases h
      exact .single v
    | case2 l r ihl ihr =>
      obtain ⟨⟨cl, vl⟩, hl, h⟩ := Option.bind_eq_some_iff.mp h
      obtain ⟨⟨cr, vr⟩, hr, h⟩ := Option.bind_eq_some_iff.mp h
      by_cases hc : cl = cr
      · subst hc
        obtain ⟨rfl, rfl⟩ : cl = column ∧ vl ++ vr = vs := by simpa using h
        exact .or (ihl hl) (ihr hr)
      · simp [hc] at h
    | case3 => cases h
  · intro h
    induction h with
    | single v => rfl
    | or _ _ ihl ihr => simp [equalities?, ihl, ihr]

theorem collapse?_eq_some_iff {threshold : Nat} {f : Filter} {e : Expr} {x : Collapse} :
    collapse? threshold f = some (e, x) ↔ ∃ column vs, Equalities column f vs ∧
      threshold ≤ vs.length ∧ e = .isIn column false vs ∧ x = ⟨column, vs.length⟩ := by
  rw [collapse?]
  constructor
  · intro h
    split at h
    · next column vs hf =>
      split at h
      · next hle =>
        cases h
        exact ⟨column, vs, equalities?_eq_some_iff.mp hf, hle, rfl, rfl⟩
      · cases h
    · cases h
  · rintro ⟨column, vs, hf, hle, rfl, rfl⟩
    simp [equalities?_eq_some_iff.mpr hf, hle]

end FilterQuery.Sql
