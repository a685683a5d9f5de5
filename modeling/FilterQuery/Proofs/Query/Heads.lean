import FilterQuery.Proofs.Query.Parsing

namespace FilterQuery

def Comparison.head {α : Type} (c : Comparison α) : String × Operator := (c.subject, c.operator)

namespace Query

open Grammar

/-- The names that stand right before an operator, each with the operator, from left to right. -/
def heads : List Token.Kind → List (String × Operator)
  | .name field :: .operator op :: ks => (field, op) :: heads ks
  | _ :: ks => heads ks
  | [] => []

theorem heads_eq_nil {ks : List Token.Kind} (h : ∀ op, .operator op ∉ ks) : heads ks = [] := by
  fun_induction heads ks with
  | case1 field op ks => exact absurd (by simp) (h op)
  | case2 k ks _ ih => exact ih fun op hop => h op (List.mem_cons_of_mem _ hop)
  | case3 => rfl

theorem heads_cons {k : Token.Kind} (hk : ∀ field, k ≠ .name field) (ks : List Token.Kind) :
    heads (k :: ks) = heads ks := by
  rw [heads]
  exact fun field _ _ hname _ => hk field hname

theorem heads_append {k : Token.Kind} (hk : ∀ op, k ≠ .operator op) (ks ms : List Token.Kind) :
    heads (ks ++ k :: ms) = heads ks ++ heads (k :: ms) := by
  fun_induction heads ks with
  | case1 field op ks ih => simp only [List.cons_append, heads, ih]
  | case2 k' ks hne ih =>
    rw [List.cons_append, heads, ih]
    -- the operator that makes a head of a name still stands behind it
    intro field op rest hname hrest
    cases ks with
    | nil => exact hk op (List.cons.inj hrest).1
    | cons k'' ks => exact hne field op ks hname (by rw [(List.cons.inj hrest).1])
  | case3 => rfl

theorem operator_not_mem_of_literals {ks : List Token.Kind} {ls : List Literal}
    (h : Literals ks ls) (op : Operator) : .operator op ∉ ks := by
  induction h with
  | one hk => cases hk <;> simp
  | more _ hk ih => cases hk <;> simpa using ih

theorem operator_not_mem_of_operands {op : Operator} {ks : List Token.Kind} {x : Operand Literal}
    (h : Operands op ks x) (op' : Operator) : .operator op' ∉ ks := by
  cases h with
  | single _ hk => cases hk <;> simp
  | list _ hs => simpa using operator_not_mem_of_literals hs op'

/-- Each comparison of a tree has its head where it is spelled. -/
theorem heads_of_derives {level : Level} {n : Nat} {ks : List Token.Kind} {p : Predicate}
    (h : Derives level n ks p) : heads ks = p.comparisons.map Comparison.head := by
  induction h with
  | comparison hx =>
    rw [heads, heads_eq_nil (operator_not_mem_of_operands hx)]
    rfl
  | @group n ks p _ ih =>
    rw [List.cons_append, heads_cons (by simp), heads_append (by simp), heads_cons (by simp), ih]
    exact List.append_nil _
  | conjunction _ ih | expression _ ih => exact ih
  | and _ _ ihp ihq | or _ _ ihp ihq =>
    rw [heads_append (by simp), heads_cons (by simp), ihp, ihq, Criteria.comparisons,
      List.map_append]

theorem heads_of_parse {ts : List Token} {p : Predicate} (h : parse ts = .ok p) :
    heads (ts.map Token.kind) = p.comparisons.map Comparison.head := by
  by_cases hts : ts = []
  · subst hts
    cases h
    rfl
  · obtain ⟨⟨n, -, hd⟩, -⟩ := Parser.within_of_parse hts h
    exact heads_of_derives hd

theorem exists_of_heads {ks : List Token.Kind} {as bs : List (String × Operator)} {field : String}
    {op : Operator} (h : heads ks = as ++ (field, op) :: bs) :
    ∃ us vs, ks = us ++ .name field :: .operator op :: vs ∧ heads us = as := by
  fun_induction heads ks generalizing as with
  | case1 field' op' ks ih =>
    cases as with
    | nil =>
      obtain ⟨hhead, -⟩ := List.cons.inj h
      cases hhead
      exact ⟨[], ks, rfl, rfl⟩
    | cons a as =>
      obtain ⟨rfl, hrest⟩ := List.cons.inj h
      obtain ⟨us, vs, rfl, rfl⟩ := ih hrest
      exact ⟨.name field' :: .operator op' :: us, vs, rfl, rfl⟩
  | case2 k ks hne ih =>
    obtain ⟨us, vs, rfl, rfl⟩ := ih h
    refine ⟨k :: us, vs, rfl, ?_⟩
    rw [heads]
    rintro field' op' rest hname rfl
    exact hne field' op' _ hname rfl
  | case3 => simp at h

end Query

end FilterQuery
