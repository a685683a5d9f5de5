import FilterQuery.Proofs.Config.Documents
import FilterQuery.Proofs.Filter.Typing
import FilterQuery.Proofs.Paging.Exact
import FilterQuery.Proofs.Sql.Recovery

namespace FilterQuery

namespace Pagination

theorem toNat_size_request (p : Pagination) (number size : Option UInt64) :
    (p.request number size).size.toNat = min (size.getD p.defaultSize).toNat p.maxSize.toNat :=
  toNat_min _ _

theorem size_request_le (p : Pagination) (number size : Option UInt64) :
    (p.request number size).size ≤ p.maxSize := by
  rw [UInt64.le_iff_toNat_le, toNat_size_request]
  exact Nat.min_le_right _ _

theorem one_le_size_request_iff {p : Pagination} {number size : Option UInt64} :
    1 ≤ (p.request number size).size ↔ 1 ≤ size.getD p.defaultSize ∧ 1 ≤ p.maxSize := by
  simp only [UInt64.le_iff_toNat_le, toNat_size_request, Nat.le_min]

end Pagination

theorem Value.HasType.isFinite {v : Value} {type : ColumnType} (h : v.HasType type) :
    v.isFinite = true := by
  cases h with
  | decimal hx => exact hx
  | text | integer | bool | date => rfl

theorem isFinite_of_compileQuery {query : Option String} {fields : Fields} {f : Filter}
    (h : compileQuery query fields = .ok f) : ∀ v ∈ f.operands, v.isFinite = true := by
  intro v hv
  obtain ⟨p, hf⟩ : ∃ p, Criteria.Related (Comparison.Resolves fields) p f := by
    cases query with
    | none =>
      cases h
      exact ⟨.everything, .everything⟩
    | some q =>
      obtain ⟨p, -, hf⟩ := compileQuery_eq_ok_iff.mp h
      exact ⟨p, hf⟩
  obtain ⟨d, hd, hv⟩ := List.mem_flatMap.mp hv
  obtain ⟨c, -, hr⟩ := hf.exists_of_mem hd
  cases hr with
  | single _ _ _ hw =>
    rw [List.mem_singleton.mp hv]
    exact (Value.hasType_of_ofText? hw).isFinite
  | list _ _ hw =>
    obtain ⟨l, hl⟩ := exists_of_forall₂ hw.flip v hv
    exact (Value.hasType_of_ofText? hl).isFinite

namespace Config

variable {c : Config} {number size : Option UInt64}

theorem exists_read_statements {e : Entity} {query : Option String} {s : Sql.Statements}
    (h : c.statements e query number size = .ok s) (letter : Char → Char) :
    let r := c.pagination.request number size
    ∃ condition, Sql.Statement.read letter s.select =
      some ⟨.records, e.table, condition, some ⟨r.size.toNat, r.offset.toNat⟩⟩ := by
  intro r
  obtain ⟨f, hf, hs⟩ := bind_eq_ok_iff.mp h
  cases hs
  let scope := (Sql.Scope.ofFilter e.table Sql.defaultThreshold f).1
  have hfinite : ∀ x ∈ scope.condition, ∀ v ∈ x.values, v.isFinite = true :=
    Sql.Scope.isFinite_of_mem_ofFilter (isFinite_of_compileQuery hf)
  have hread : Sql.Statement.read letter (scope.select r) = some ⟨.records, scope.table,
      scope.condition.map (Sql.Expr.phrase letter), some ⟨r.size.toNat, r.offset.toNat⟩⟩ :=
    Sql.Statement.read_select hfinite r
  have htable : scope.table = e.table := Sql.Scope.table_ofFilter e.table Sql.defaultThreshold f
  rw [htable] at hread
  exact ⟨_, hread⟩

theorem first_page_ne_nil (hs : 1 ≤ (c.pagination.request (some 0) size).size) {total : UInt64}
    (ht : 1 ≤ total) :
    let bounds := (c.pagination.request (some 0) size).bounds total
    bounds.1 < bounds.2 ∧ ∀ page ∈ c.samplePage (some 0) size total, page.items ≠ [] := by
  rw [UInt64.le_iff_toNat_le, UInt64.toNat_one] at hs ht
  let r := c.pagination.request (some 0) size
  have hnumber : r.number.toNat = 0 := rfl
  have hfirst : 0 ∈ r.rows total := by
    rw [PageRequest.rows, List.mem_filter]
    exact ⟨List.mem_range.mpr ht, by simpa [hnumber] using Nat.succ_le_iff.mp hs⟩
  have hlength := List.length_pos_of_mem hfirst
  rw [r.length_rows] at hlength
  refine ⟨UInt64.lt_iff_toNat_lt.mpr (Nat.lt_of_sub_pos hlength), fun page hpage hnil => ?_⟩
  have hrows : page.items.map UInt64.toNat = r.rows total := items_of_samplePage hpage
  rw [hnil] at hrows
  rw [← hrows] at hfirst
  cases hfirst

/-- A page that is asked for in this way has room for a record, be it in the request, in the
statement for its records or among those that there are. -/
structure MakesRoom (c : Config) (number size : Option UInt64) : Prop where
  one_le_size : 1 ≤ (c.pagination.request number size).size
  size_le : (c.pagination.request number size).size ≤ c.pagination.maxSize
  limit : ∀ name e query s letter, c.entity name = .ok e →
    c.statements e query number size = .ok s →
    ∃ condition window, Sql.Statement.read letter s.select =
      some ⟨.records, e.table, condition, some window⟩ ∧ 1 ≤ window.limit
  rows : ∀ total, 1 ≤ total →
    let bounds := (c.pagination.request (some 0) size).bounds total
    bounds.1 < bounds.2 ∧ ∀ page ∈ c.samplePage (some 0) size total, page.items ≠ []

/-- Every page has room for a record just where both sizes of the policy are positive. -/
theorem makesRoom_iff (c : Config) :
    (∀ number size, (∀ s ∈ size, 1 ≤ s) → c.MakesRoom number size) ↔
      1 ≤ c.pagination.maxSize ∧ 1 ≤ c.pagination.defaultSize := by
  constructor
  · intro h
    have hleft := (h none none (by simp)).one_le_size
    exact (Pagination.one_le_size_request_iff.mp hleft).symm
  · rintro ⟨hm, hd⟩ number size hs
    have hgiven : 1 ≤ size.getD c.pagination.defaultSize := by
      cases size with
      | none => exact hd
      | some s => exact hs s rfl
    have hsize (number : Option UInt64) : 1 ≤ (c.pagination.request number size).size :=
      Pagination.one_le_size_request_iff.mpr ⟨hgiven, hm⟩
    refine ⟨hsize number, c.pagination.size_request_le number size, ?_, ?_⟩
    · intro name e query s letter _ h
      obtain ⟨condition, hread⟩ := exists_read_statements h letter
      exact ⟨condition, _, hread, UInt64.le_iff_toNat_le.mp (hsize number)⟩
    · exact fun total ht => first_page_ne_nil (hsize (some 0)) ht

def idle : Config where
  baseUrl := "http://localhost"
  pagination := ⟨1, 0⟩
  entities := .ofList [("team", ⟨"teams", "/teams", .ofList []⟩)]

/-- The file of such a configuration is read, though its pages have no room. -/
theorem load_idle_makes_no_room :
    load (fun _ => "") "pages.json" (.file idle.toJson.compact.toUTF8) = .ok idle ∧
      idle.pagination.request (some 0) none = ⟨0, 0⟩ ∧
      (idle.statements ⟨"teams", "/teams", .ofList []⟩ none (some 0) none).map (·.select) =
        .ok "SELECT * FROM \"teams\" LIMIT 0 OFFSET 0" ∧
      ¬ ∀ number size, (∀ s ∈ size, 1 ≤ s) → idle.MakesRoom number size := by
  refine ⟨load_of_spells idle.isDocument_toJson (Json.spells_compact idle.plain_toJson) _ _, rfl,
    rfl, fun h => ?_⟩
  have hsize := (h (some 0) none (by simp)).one_le_size
  exact absurd hsize (by decide)

end Config

end FilterQuery
