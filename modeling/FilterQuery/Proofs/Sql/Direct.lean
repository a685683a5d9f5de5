import FilterQuery.Proofs.Filter.Typing
import FilterQuery.Proofs.Sql.Equalities

namespace FilterQuery.Sql

inductive Relates : Operator → Relation → Prop
  | eq : Relates .eq .eq
  | ne : Relates .ne .ne
  | gt : Relates .gt .gt
  | ge : Relates .ge .ge
  | lt : Relates .lt .lt
  | le : Relates .le .le

/-- `Direct f e`: the expression `e` has one test for each comparison of the filter, but for a
disjunction that became a membership test as a whole. Patterns are texts, lists have elements. -/
inductive Direct : Filter → Expr → Prop
  | everything : Direct .everything (.constant true)
  | compare {op : Operator} {relation : Relation} (h : Relates op relation) (column : String)
      (v : Value) : Direct (.test ⟨column, op, .single v⟩) (.compare column relation v)
  | like (column s : String) :
      Direct (.test ⟨column, .like, .single (.text s)⟩) (.like column (likeText s))
  | isIn (column : String) {vs : List Value} (h : vs ≠ []) :
      Direct (.test ⟨column, .isIn, .list vs⟩) (.isIn column false vs)
  | notIn (column : String) {vs : List Value} (h : vs ≠ []) :
      Direct (.test ⟨column, .notIn, .list vs⟩) (.isIn column true vs)
  | and {l r : Filter} {e e' : Expr} (hl : Direct l e) (hr : Direct r e') :
      Direct (.and l r) (.and e e')
  | or {l r : Filter} {e e' : Expr} (hl : Direct l e) (hr : Direct r e') :
      Direct (.or l r) (.or e e')
  | collapsed {l r : Filter} {column : String} {vs : List Value}
      (h : Equalities column (.or l r) vs) (hne : vs ≠ []) :
      Direct (.or l r) (.isIn column false vs)

theorem direct_single {column : Column} {op : Operator} {v : Value}
    (h : Comparison.Typed column ⟨column.name, op, .single v⟩) :
    Direct (.test ⟨column.name, op, .single v⟩)
      (.ofComparison ⟨column.name, op, .single v⟩) := by
  cases op with
  | eq => exact .compare .eq column.name v
  | ne => exact .compare .ne column.name v
  | gt => exact .compare .gt column.name v
  | ge => exact .compare .ge column.name v
  | lt => exact .compare .lt column.name v
  | le => exact .compare .le column.name v
  | like =>
    have hv := h.hasType v (List.mem_singleton_self v)
    rw [h.like rfl] at hv
    cases hv with
    | text s => exact .like column.name s
  | isIn => exact absurd (.inl rfl) (h.single_iff.mp ⟨v, rfl⟩)
  | notIn => exact absurd (.inr rfl) (h.single_iff.mp ⟨v, rfl⟩)

theorem direct_ofComparison {column : Column} {c : Comparison Value} (h : c.Typed column) :
    Direct (.test c) (.ofComparison c) := by
  obtain ⟨subject, op, operand⟩ := c
  have hs : subject = column.name := h.subject_eq
  subst hs
  cases operand with
  | single v => exact direct_single h
  | list vs =>
    have hlist : op = .isIn ∨ op = .notIn := by
      by_contra hop
      obtain ⟨v, hv⟩ := h.single_iff.mpr hop
      cases hv
    obtain ⟨ws, hne, hws⟩ := h.list_iff.mpr hlist
    cases hws
    obtain rfl | rfl := hlist
    · exact .isIn column.name hne
    · exact .notIn column.name hne

theorem direct_ofFilter (threshold : Nat) {f : Filter}
    (h : ∀ c ∈ f.comparisons, ∃ column, c.Typed column) :
    Direct f (Expr.ofFilter threshold f).1 := by
  induction f with
  | everything => exact .everything
  | test c =>
    obtain ⟨column, hc⟩ := h c (List.mem_singleton_self c)
    exact direct_ofComparison hc
  | and l r ihl ihr =>
    have hl := ihl fun c hc => h c (List.mem_append_left _ hc)
    have hr := ihr fun c hc => h c (List.mem_append_right _ hc)
    exact .and hl hr
  | or l r ihl ihr =>
    have hl := ihl fun c hc => h c (List.mem_append_left _ hc)
    have hr := ihr fun c hc => h c (List.mem_append_right _ hc)
    rw [Expr.ofFilter]
    split
    · next hc =>
      obtain ⟨column, vs, hf, -, rfl, -⟩ := collapse?_eq_some_iff.mp hc
      exact .collapsed hf hf.ne_nil
    · exact .or hl hr

end FilterQuery.Sql

namespace FilterQuery

open FilterQuery.Query FilterQuery.Decimal

/-- A filter that comes from a query tests each column with values of the type of a field that is
stored there, in the shape that the operator asks for, and is compiled leaf by leaf. -/
theorem typed_of_compileQuery {query : String} {fields : Fields} {f : Filter}
    (h : compileQuery (some query) fields = .ok f) :
    (f = .everything ∨ f.AllTests) ∧
      (∀ c ∈ f.comparisons, ∃ field column, fields.get? field = some column ∧ c.Typed column) ∧
      ∀ threshold, Sql.Direct f (Sql.Expr.ofFilter threshold f).1 := by
  obtain ⟨p, hp, hf⟩ := compileQuery_eq_ok_iff.mp h
  obtain rfl | ⟨ht, -, hexpressible⟩ := expressible_of_parseQuery hp
  · cases hf
    refine ⟨.inl rfl, ?_, fun _ => .everything⟩
    intro c hc
    cases hc
  · have htyped : ∀ c ∈ f.comparisons,
        ∃ field column, fields.get? field = some column ∧ c.Typed column := by
      intro d hd
      obtain ⟨c, hc, hr⟩ := hf.exists_of_mem hd
      obtain ⟨column, hcolumn, hdt⟩ := Comparison.typed_of_resolves hr (hexpressible c hc).fits
      exact ⟨c.subject, column, hcolumn, hdt⟩
    have hcolumns : ∀ c ∈ f.comparisons, ∃ column, c.Typed column := by
      intro c hc
      obtain ⟨_, column, -, hct⟩ := htyped c hc
      exact ⟨column, hct⟩
    exact ⟨.inr (hf.allTests ht), htyped, fun threshold => Sql.direct_ofFilter threshold hcolumns⟩

theorem typed_of_compileQuery_shared_column :
    let fields : Fields := .ofList [("note", ⟨"v", .string⟩), ("price", ⟨"v", .number⟩)]
    let f : Filter := .and (.test ⟨"v", .like, .single (.text "x*")⟩)
      (.test ⟨"v", .isIn, .list [.integer 1, .decimal (.finite false 5629499534213120 (-51))]⟩)
    compileQuery (some "(note=like=\"x*\" and price=in=(1,2.5))") fields = .ok f ∧
      (f = .everything ∨ f.AllTests) ∧
      (∀ c ∈ f.comparisons, ∃ field column, fields.get? field = some column ∧ c.Typed column) ∧
      ∀ threshold, Sql.Direct f (Sql.Expr.ofFilter threshold f).1 := by
  intro fields f
  let note : Comparison Literal := ⟨"note", .like, .single (.text "x*")⟩
  let price : Comparison Literal := ⟨"price", .isIn, .list [.number "1", .number "2.5"]⟩
  have hnote : note.Expressible :=
    expressible_of_all 'n' ['o', 't', 'e'] rfl (by simp [IsKeyword]) rfl
      (List.forall_mem_singleton.mpr trivial)
  have hone : NumberText ['1'] := numberText_digits (.inl rfl) 1
  have hdecimal : NumberText ['2', '.', '5'] :=
    @NumberText.intro [] ['2'] ['.', '5'] (.inl rfl) rfl (.inr ⟨['5'], rfl, rfl⟩)
  have hprice : price.Expressible :=
    expressible_of_all 'p' ['r', 'i', 'c', 'e'] rfl (by simp [IsKeyword]) ⟨rfl, List.cons_ne_nil _ _⟩
      (List.forall_mem_cons.mpr ⟨hone, List.forall_mem_singleton.mpr hdecimal⟩)
  let p : Predicate := .and (.test note) (.test price)
  have hp : parseQuery p.render = .ok p :=
    parseQuery_render ⟨trivial, trivial⟩ (by decide) (by decide)
      (List.forall_mem_cons.mpr ⟨hnote, List.forall_mem_singleton.mpr hprice⟩)
  have hf : Criteria.Related (Comparison.Resolves fields) p f :=
    .and (.test (@Comparison.Resolves.single _ _ ⟨"v", .string⟩ _ _ _ rfl rfl (fun _ => rfl) rfl))
      (.test (@Comparison.Resolves.list _ _ ⟨"v", .number⟩ _ _ _ rfl rfl
        (.cons rfl (.cons rfl .nil))))
  have h : compileQuery (some p.render) fields = .ok f := compileQuery_eq_ok_iff.mpr ⟨p, hp, hf⟩
  exact ⟨h, typed_of_compileQuery h⟩

end FilterQuery
