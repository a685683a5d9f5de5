import FilterQuery.Filter.Fields
import FilterQuery.Proofs.Results

namespace FilterQuery

variable {α β ε : Type}

namespace Criteria

/-- The same tree, with related comparisons at its leaves. -/
inductive Related (R : Comparison α → Comparison β → Prop) : Criteria α → Criteria β → Prop
  | everything : Related R .everything .everything
  | test {c : Comparison α} {d : Comparison β} (h : R c d) : Related R (.test c) (.test d)
  | and {l r : Criteria α} {l' r' : Criteria β} (hl : Related R l l') (hr : Related R r r') :
      Related R (.and l r) (.and l' r')
  | or {l r : Criteria α} {l' r' : Criteria β} (hl : Related R l l') (hr : Related R r r') :
      Related R (.or l r) (.or l' r')

theorem traverse_eq_ok_iff {f : Comparison α → Except ε (Comparison β)} {p : Criteria α}
    {q : Criteria β} : p.traverse f = .ok q ↔ Related (fun c d => f c = .ok d) p q := by
  induction p generalizing q with
  | everything =>
    constructor
    · rintro ⟨⟩
      exact .everything
    · rintro ⟨⟩
      rfl
  | test c =>
    rw [traverse, bind_eq_ok_iff]
    constructor
    · rintro ⟨d, hd, hq⟩
      rw [← pure_eq_ok_iff.mp hq]
      exact .test hd
    · intro h
      cases h with
      | test h => exact ⟨_, h, rfl⟩
  | and l r ihl ihr =>
    simp only [traverse, bind_eq_ok_iff, pure_eq_ok_iff, ihl, ihr]
    constructor
    · rintro ⟨l', hl, r', hr, rfl⟩
      exact .and hl hr
    · intro h
      cases h with
      | and hl hr => exact ⟨_, hl, _, hr, rfl⟩
  | or l r ihl ihr =>
    simp only [traverse, bind_eq_ok_iff, pure_eq_ok_iff, ihl, ihr]
    constructor
    · rintro ⟨l', hl, r', hr, rfl⟩
      exact .or hl hr
    · intro h
      cases h with
      | or hl hr => exact ⟨_, hl, _, hr, rfl⟩

theorem map_comparisons_traverse (f : Comparison α → Except ε (Comparison β)) (p : Criteria α) :
    (p.traverse f).map comparisons = p.comparisons.mapM f := by
  induction p with
  | everything => rfl
  | test c =>
    rw [traverse, comparisons, List.mapM_cons, List.mapM_nil]
    cases f c <;> rfl
  | and l r ihl ihr | or l r ihl ihr =>
    rw [traverse, comparisons, List.mapM_append, ← ihl, ← ihr]
    cases l.traverse f with
    | error => rfl
    | ok => cases r.traverse f <;> rfl

theorem traverse_eq_error_iff {f : Comparison α → Except ε (Comparison β)} {p : Criteria α}
    {e : ε} : p.traverse f = .error e ↔ ∃ before c after, p.comparisons = before ++ c :: after ∧
      (∀ b ∈ before, ∃ d, f b = .ok d) ∧ f c = .error e := by
  rw [← mapM_eq_error_iff, ← map_comparisons_traverse]
  cases p.traverse f with
  | error d =>
    constructor <;> · rintro ⟨⟩; rfl
  | ok q => constructor <;> · rintro ⟨⟩

namespace Related

variable {R : Comparison α → Comparison β → Prop} {p : Criteria α} {q : Criteria β}

theorem exists_of_mem (h : Related R p q) {d : Comparison β} (hd : d ∈ q.comparisons) :
    ∃ c ∈ p.comparisons, R c d := by
  induction h with
  | everything => cases hd
  | @test c _ h =>
    rw [List.mem_singleton.mp hd]
    exact ⟨c, List.mem_singleton_self c, h⟩
  | and _ _ ihl ihr | or _ _ ihl ihr =>
    obtain hd | hd := List.mem_append.mp hd
    · obtain ⟨c, hc, h⟩ := ihl hd
      exact ⟨c, List.mem_append_left _ hc, h⟩
    · obtain ⟨c, hc, h⟩ := ihr hd
      exact ⟨c, List.mem_append_right _ hc, h⟩

end Related

end Criteria

theorem Literal.read_eq_ok_iff {field : String} {type : ColumnType} {l : Literal} {v : Value} :
    l.read field type = .ok v ↔ Value.ofText? type l.content = some v := by
  rw [Literal.read]
  cases Value.ofText? type l.content <;> simp

theorem Literal.read_eq_error_iff {field : String} {type : ColumnType} {l : Literal}
    {e : FieldError} : l.read field type = .error e ↔
      Value.ofText? type l.content = none ∧ e = .mistyped field l.content type := by
  rw [Literal.read]
  cases Value.ofText? type l.content <;> simp [eq_comm]

namespace Comparison

/-- `Resolves fields c d`: the comparison `d` of a column asks what `c` asks of the field. -/
inductive Resolves (fields : Fields) : Comparison Literal → Comparison Value → Prop
  | single {field : String} {column : Column} {op : Operator} {l : Literal} {v : Value}
      (hc : fields.get? field = some column) (ho : op.takesList = false)
      (hl : op = .like → column.type = .string) (hv : Value.ofText? column.type l.content = some v) :
      Resolves fields ⟨field, op, .single l⟩ ⟨column.name, op, .single v⟩
  | list {field : String} {column : Column} {op : Operator} {x : Operand Literal} {vs : List Value}
      (hc : fields.get? field = some column) (ho : op.takesList = true)
      (hv : List.Forall₂ (fun l v => Value.ofText? column.type l.content = some v) x.toList vs) :
      Resolves fields ⟨field, op, x⟩ ⟨column.name, op, .list vs⟩

theorem resolve_eq_ok_iff {fields : Fields} {c : Comparison Literal} {d : Comparison Value} :
    c.resolve fields = .ok d ↔ Resolves fields c d := by
  obtain ⟨field, op, x⟩ := c
  rw [resolve]
  constructor
  · intro h
    split at h
    · cases h
    · next column hc =>
      dsimp only at hc h
      split at h
      · cases h
      · next hlike =>
        split at h
        · next ho =>
          obtain ⟨vs, hvs, hd⟩ := bind_eq_ok_iff.mp h
          rw [← pure_eq_ok_iff.mp hd]
          simp only [mapM_eq_ok_iff, Literal.read_eq_ok_iff] at hvs
          exact .list hc ho hvs
        · next ho =>
          cases x with
          | single l =>
            obtain ⟨v, hv, hd⟩ := bind_eq_ok_iff.mp h
            rw [← pure_eq_ok_iff.mp hd]
            have htype : op = .like → column.type = .string := fun hop =>
              Decidable.byContradiction fun ht => hlike ⟨hop, ht⟩
            exact .single hc (Bool.eq_false_iff.mpr ho) htype (Literal.read_eq_ok_iff.mp hv)
          | list ls => cases h
  · intro h
    cases h with
    | @single _ column _ l v hc ho hl hv =>
      have hlike : ¬ (op = .like ∧ column.type ≠ .string) := fun h => h.2 (hl h.1)
      have hread : l.read field column.type = .ok v := Literal.read_eq_ok_iff.mpr hv
      simp only [hc, hlike, ho, ↓reduceIte, Bool.false_eq_true]
      exact bind_eq_ok_iff.mpr ⟨v, hread, rfl⟩
    | @list _ column _ _ vs hc ho hv =>
      have hlike : ¬ (op = .like ∧ column.type ≠ .string) := by
        rintro ⟨rfl, -⟩
        cases ho
      have hread : x.toList.mapM (Literal.read field column.type) = .ok vs := by
        simpa only [mapM_eq_ok_iff, Literal.read_eq_ok_iff] using hv
      simp only [hc, hlike, ho, ↓reduceIte]
      exact bind_eq_ok_iff.mpr ⟨vs, hread, rfl⟩

/-- What is reported of a comparison that asks nothing of a column: a field that there is not, then a
pattern for what is no text, then a list where one literal belongs, then the first literal that is no
value of the column's type. -/
inductive Misfit (fields : Fields) : Comparison Literal → FieldError → Prop
  | unknown {field : String} {op : Operator} {x : Operand Literal}
      (hc : fields.get? field = none) : Misfit fields ⟨field, op, x⟩ (.unknown field)
  | pattern {field : String} {column : Column} {x : Operand Literal}
      (hc : fields.get? field = some column) (ht : column.type ≠ .string) :
      Misfit fields ⟨field, .like, x⟩ (.mistyped field x.render .string)
  | list {field : String} {column : Column} {op : Operator} {ls : List Literal}
      (hc : fields.get? field = some column) (hl : op = .like → column.type = .string)
      (ho : op.takesList = false) :
      Misfit fields ⟨field, op, .list ls⟩
        (.mistyped field (Operand.list ls).render column.type)
  | literal {field : String} {column : Column} {op : Operator} {x : Operand Literal}
      {before after : List Literal} {l : Literal}
      (hc : fields.get? field = some column) (hl : op = .like → column.type = .string)
      (hx : op.takesList = true ∨ ∃ l, x = .single l) (hs : x.toList = before ++ l :: after)
      (hb : ∀ b ∈ before, ∃ v, Value.ofText? column.type b.content = some v)
      (hv : Value.ofText? column.type l.content = none) :
      Misfit fields ⟨field, op, x⟩ (.mistyped field l.content column.type)

theorem mapM_read_eq_error_iff {field : String} {type : ColumnType} {ls : List Literal}
    {e : FieldError} : ls.mapM (Literal.read field type) = .error e ↔
      ∃ before l after, ls = before ++ l :: after ∧
        (∀ b ∈ before, ∃ v, Value.ofText? type b.content = some v) ∧
        Value.ofText? type l.content = none ∧ e = .mistyped field l.content type := by
  simp only [mapM_eq_error_iff, Literal.read_eq_ok_iff, Literal.read_eq_error_iff]

theorem resolve_eq_error_iff {fields : Fields} {c : Comparison Literal} {e : FieldError} :
    c.resolve fields = .error e ↔ Misfit fields c e := by
  obtain ⟨field, op, x⟩ := c
  rw [resolve]
  constructor
  · -- the checks stand inside one another in the order in which they are made
    intro h
    split at h
    · next hc =>
      cases h
      exact .unknown hc
    · next column hc =>
      dsimp only at hc h
      split at h
      · next hlike =>
        obtain ⟨rfl, ht⟩ := hlike
        cases h
        exact .pattern hc ht
      · next hlike =>
        have hl : op = .like → column.type = .string := fun hop =>
          Decidable.byContradiction fun ht => hlike ⟨hop, ht⟩
        split at h
        · next ho =>
          obtain h | ⟨vs, -, hvs⟩ := bind_eq_error_iff.mp h
          · obtain ⟨before, l, after, hs, hb, hv, rfl⟩ := mapM_read_eq_error_iff.mp h
            exact .literal hc hl (.inl ho) hs hb hv
          · cases hvs
        · next ho =>
          cases x with
          | single l =>
            obtain h | ⟨v, -, hv⟩ := bind_eq_error_iff.mp h
            · obtain ⟨hv, rfl⟩ := Literal.read_eq_error_iff.mp h
              exact .literal hc hl (.inr ⟨l, rfl⟩) (List.nil_append [l]).symm
                (List.forall_mem_nil _) hv
            · cases hv
          | list ls =>
            cases h
            exact .list hc hl (Bool.eq_false_iff.mpr ho)
  · intro h
    cases h with
    | unknown hc => simp only [hc]
    | pattern hc ht => simp only [hc, ht, ne_eq, not_false_eq_true, and_self, ↓reduceIte]
    | @list _ column _ ls hc hl ho =>
      have hlike : ¬ (op = .like ∧ column.type ≠ .string) := fun h => h.2 (hl h.1)
      simp only [hc, hlike, ho, ↓reduceIte, Bool.false_eq_true]
    | @literal _ column _ _ before after l hc hl hx hs hb hv =>
      have hlike : ¬ (op = .like ∧ column.type ≠ .string) := fun h => h.2 (hl h.1)
      simp only [hc, hlike, ↓reduceIte]
      have hmapM : x.toList.mapM (Literal.read field column.type) =
          .error (.mistyped field l.content column.type) :=
        mapM_read_eq_error_iff.mpr ⟨before, l, after, hs, hb, hv, rfl⟩
      split
      · exact bind_eq_error_iff.mpr (.inl hmapM)
      · next ho =>
        obtain ⟨k, rfl⟩ := hx.resolve_left ho
        obtain ⟨rfl, hk, rfl⟩ : before = [] ∧ k = l ∧ after = [] := by
          have hs : [k] = before ++ l :: after := hs
          cases before <;> simp_all
        subst hk
        exact bind_eq_error_iff.mpr (.inl (Literal.read_eq_error_iff.mpr ⟨hv, rfl⟩))

theorem field_of_resolve_error {fields : Fields} {c : Comparison Literal} {e : FieldError}
    (h : c.resolve fields = .error e) :
    (fields.get? c.subject = none ∧ e = .unknown c.subject) ∨
      ∃ column value type, fields.get? c.subject = some column ∧
        e = .mistyped c.subject value type := by
  cases resolve_eq_error_iff.mp h with
  | unknown hc => exact .inl ⟨hc, rfl⟩
  | pattern hc | list hc | literal hc => exact .inr ⟨_, _, _, hc, rfl⟩

end Comparison

end FilterQuery
