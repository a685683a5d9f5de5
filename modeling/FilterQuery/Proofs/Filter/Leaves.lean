import FilterQuery.Proofs.Filter.Resolution
import FilterQuery.Proofs.NameMap

namespace FilterQuery

variable {α β ε : Type}

namespace Criteria

variable {f g : Comparison α → Except ε (Comparison β)} {p : Criteria α}

theorem forall₂_comparisons_of_traverse {q : Criteria β} (h : p.traverse f = .ok q) :
    List.Forall₂ (fun c d => f c = .ok d) p.comparisons q.comparisons := by
  rw [← mapM_eq_ok_iff, ← map_comparisons_traverse, h]
  rfl

theorem exists_traverse_eq_ok_iff :
    (∃ q, p.traverse f = .ok q) ↔ ∀ c ∈ p.comparisons, ∃ d, f c = .ok d := by
  constructor
  · rintro ⟨q, hq⟩
    exact exists_of_forall₂ (forall₂_comparisons_of_traverse hq)
  · intro h
    cases ht : p.traverse f with
    | ok q => exact ⟨q, rfl⟩
    | error e =>
      obtain ⟨before, c, after, hp, -, he⟩ := traverse_eq_error_iff.mp ht
      obtain ⟨d, hd⟩ := h c (by simp [hp])
      rw [hd] at he
      cases he

theorem traverse_congr (h : ∀ c ∈ p.comparisons, f c = g c) : p.traverse f = p.traverse g := by
  induction p with
  | everything => rfl
  | test c => rw [traverse, traverse, h c (List.mem_singleton_self c)]
  | and l r ihl ihr | or l r ihl ihr =>
    have hl := ihl fun c hc => h c (List.mem_append_left _ hc)
    have hr := ihr fun c hc => h c (List.mem_append_right _ hc)
    rw [traverse, traverse, hl, hr]

end Criteria

theorem Comparison.column_of_resolve {fields : Fields} {c : Comparison Literal}
    {d : Comparison Value} (h : c.resolve fields = .ok d) :
    (fields.get? c.subject).map Column.name = some d.subject := by
  cases resolve_eq_ok_iff.mp h with
  | single hc | list hc => rw [hc, Option.map_some]

theorem Comparison.resolve_congr {fields fields' : Fields} {c : Comparison Literal}
    (h : fields.get? c.subject = fields'.get? c.subject) :
    c.resolve fields = c.resolve fields' := by
  rw [resolve, resolve, h]

namespace Criteria

variable {p : Predicate} {fields fields' : Fields}

theorem columns_of_resolve {f : Filter} (h : p.resolve fields = .ok f) :
    p.subjects.mapM (fun field => (fields.get? field).map Column.name) = some f.subjects := by
  rw [mapM_eq_some_iff, subjects, subjects, List.forall₂_map_left_iff, List.forall₂_map_right_iff]
  exact (forall₂_comparisons_of_traverse h).imp fun _ _ => Comparison.column_of_resolve

theorem resolve_congr (h : ∀ field ∈ p.subjects, fields.get? field = fields'.get? field) :
    p.resolve fields = p.resolve fields' := by
  apply traverse_congr
  intro c hc
  exact Comparison.resolve_congr (h c.subject (List.mem_map_of_mem hc))

/-- A predicate is resolved if each of its comparisons is, to the same tree of what they are resolved
to, and else the error is that of the leftmost comparison that is not. Fields that it does not name
may be added, changed or taken away. -/
theorem resolve_leaf_by_leaf (p : Predicate) (fields : Fields) :
    ((∃ f, p.resolve fields = .ok f) ↔ ∀ c ∈ p.comparisons, ∃ d, c.resolve fields = .ok d) ∧
    (∀ f, p.resolve fields = .ok f ↔ Related (fun c d => c.resolve fields = .ok d) p f) ∧
    (∀ f, p.resolve fields = .ok f →
      p.subjects.mapM (fun field => (fields.get? field).map Column.name) = some f.subjects) ∧
    (∀ e, p.resolve fields = .error e ↔ ∃ before c after,
      p.comparisons = before ++ c :: after ∧ (∀ b ∈ before, ∃ d, b.resolve fields = .ok d) ∧
      c.resolve fields = .error e) ∧
    (∀ (c : Comparison Literal) e, c.resolve fields = .error e ↔ c.Misfit fields e) ∧
    (∀ fields' : Fields, (∀ field ∈ p.subjects, fields'.get? field = fields.get? field) →
      p.resolve fields' = p.resolve fields) ∧
    ∀ entries : List (String × Column), (∀ x ∈ entries, x.1 ∉ p.subjects) →
      p.resolve (entries.foldl (fun m x => m.insert x.1 x.2) fields) = p.resolve fields := by
  refine ⟨exists_traverse_eq_ok_iff, fun _ => traverse_eq_ok_iff, fun _ => columns_of_resolve,
    fun _ => traverse_eq_error_iff, fun _ _ => Comparison.resolve_eq_error_iff,
    fun _ => resolve_congr, fun entries hentries => ?_⟩
  apply resolve_congr
  intro field hfield
  apply NameMap.get?_foldl_insert
  rintro x hx rfl
  exact hentries x hx hfield

end Criteria

end FilterQuery
