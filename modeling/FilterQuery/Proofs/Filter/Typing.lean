import FilterQuery.Proofs.Filter.Resolution
import FilterQuery.Proofs.Query.Canonical

namespace FilterQuery

open FilterQuery.Query

namespace Value

inductive HasType : Value → ColumnType → Prop
  | text (s : String) : HasType (.text s) .string
  | integer (n : Int64) : HasType (.integer n) .number
  | decimal {x : Decimal.Binary64} (h : x.isFinite = true) : HasType (.decimal x) .number
  | bool (b : Bool) : HasType (.bool b) .bool
  | date (d : Date) : HasType (.date d) .date

theorem hasType_of_unsignedNumber? {negative : Bool} {cs : List Char} {v : Value}
    (h : unsignedNumber? negative cs = some v) : v.HasType .number := by
  rw [unsignedNumber?] at h
  dsimp only at h
  split at h
  · split at h
    · obtain ⟨n, -, rfl⟩ := Option.map_eq_some_iff.mp h
      exact .integer n
    · cases h
  · split at h
    · split at h
      · next hx =>
        cases h
        exact .decimal hx
      · cases h
    · cases h

theorem hasType_of_ofText? {type : ColumnType} {text : String} {v : Value}
    (h : ofText? type text = some v) : v.HasType type := by
  cases type with
  | string =>
    cases h
    exact .text text
  | number =>
    simp only [ofText?, number?] at h
    split at h <;> exact hasType_of_unsignedNumber? h
  | bool =>
    simp only [ofText?, bool?] at h
    split at h <;> cases h <;> exact .bool _
  | date =>
    obtain ⟨d, -, rfl⟩ := Option.map_eq_some_iff.mp h
    exact .date d

end Value

theorem Operator.takesList_iff {op : Operator} : op.takesList = true ↔ op = .isIn ∨ op = .notIn := by
  cases op <;> simp [takesList]

namespace Comparison

/-- The comparison is one of the column: of its name, with values of its type, a list of them where
the operator is for lists and a single one elsewhere, and with a pattern only where it holds texts. -/
structure Typed (column : Column) (c : Comparison Value) : Prop where
  subject_eq : c.subject = column.name
  hasType : ∀ v ∈ c.operand.toList, v.HasType column.type
  list_iff : (∃ vs, vs ≠ [] ∧ c.operand = .list vs) ↔ c.operator = .isIn ∨ c.operator = .notIn
  single_iff : (∃ v, c.operand = .single v) ↔ ¬ (c.operator = .isIn ∨ c.operator = .notIn)
  like : c.operator = .like → column.type = .string

theorem typed_of_resolves {fields : Fields} {c : Comparison Literal} {d : Comparison Value}
    (h : Resolves fields c d) (hf : c.operand.Fits c.operator) :
    ∃ column, fields.get? c.subject = some column ∧ d.Typed column := by
  cases h with
  | @single _ column op l v hc ho hl hv =>
    have hop : ¬ (op = .isIn ∨ op = .notIn) := by
      rw [← Operator.takesList_iff, ho]
      exact Bool.false_ne_true
    refine ⟨column, hc, rfl, ?_, ?_, ?_, hl⟩
    · intro w hw
      rw [List.mem_singleton.mp hw]
      exact Value.hasType_of_ofText? hv
    · simp [hop]
    · simp [hop]
  | @list _ column op x vs hc ho hv =>
    have hop : op = .isIn ∨ op = .notIn := Operator.takesList_iff.mp ho
    have hne : vs ≠ [] := by
      rintro rfl
      rw [List.forall₂_nil_right_iff] at hv
      cases x with
      | single l => cases hv
      | list ls => exact hf.2 hv
    refine ⟨column, hc, rfl, ?_, ?_, ?_, ?_⟩
    · have hboth := hv.flip.imp fun v l hl => And.intro (Value.hasType_of_ofText? hl) hl
      exact ((List.forall₂_and_left _ _).mp hboth).1
    · simp [hop, hne]
    · simp [hop]
    · rintro rfl
      cases ho

end Comparison

theorem Criteria.Related.allTests {α β : Type} {R : Comparison α → Comparison β → Prop}
    {p : Criteria α} {q : Criteria β} (h : Related R p q) (hp : p.AllTests) : q.AllTests := by
  induction h with
  | everything => exact hp
  | test => trivial
  | and _ _ ihl ihr | or _ _ ihl ihr => exact ⟨ihl hp.1, ihr hp.2⟩

theorem compileQuery_eq_ok_iff {query : String} {fields : Fields} {f : Filter} :
    compileQuery (some query) fields = .ok f ↔ ∃ p, parseQuery query = .ok p ∧
      Criteria.Related (Comparison.Resolves fields) p f := by
  simp only [compileQuery, bind_eq_ok_iff, mapError_eq_ok_iff, Criteria.resolve,
    Criteria.traverse_eq_ok_iff, Comparison.resolve_eq_ok_iff]

end FilterQuery
