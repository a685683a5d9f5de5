import FilterQuery.ListEndpoint
import FilterQuery.Proofs.Paging.Page
import Mathlib.Order.Bounds.Defs

namespace FilterQuery

variable {α : Type}

def word? (n : Int) : Option UInt64 :=
  if 0 ≤ n ∧ n < UInt64.size then some (.ofNat n.toNat) else none

def checkedAdd (a b : UInt64) : Option UInt64 := word? (a.toNat + b.toNat)

def checkedSub (a b : UInt64) : Option UInt64 := word? (a.toNat - b.toNat)

def checkedDiv (a b : UInt64) : Option UInt64 :=
  if b = 0 then none else word? (a.toNat / b.toNat)

def checkedMod (a b : UInt64) : Option UInt64 :=
  if b = 0 then none else word? (a.toNat % b.toNat)

def checkedDivCeil (a b : UInt64) : Option UInt64 := do
  let quotient ← checkedDiv a b
  let rest ← checkedMod a b
  if rest = 0 then return quotient else checkedAdd quotient 1

theorem word?_eq_some_iff {n : Int} {w : UInt64} : word? n = some w ↔ n = w.toNat := by
  have hw := w.toNat_lt_size
  rw [word?]
  constructor
  · intro h
    split at h
    · next hn =>
      cases h
      rw [UInt64.toNat_ofNat_of_lt' (by omega)]
      omega
    · cases h
  · intro h
    have hn : n.toNat = w.toNat := by omega
    rw [if_pos (by omega), hn, UInt64.ofNat_toNat]

theorem checkedDiv_eq {a b : UInt64} (h : b ≠ 0) : checkedDiv a b = some (a / b) := by
  rw [checkedDiv, if_neg h, word?_eq_some_iff, UInt64.toNat_div, Int.natCast_ediv]

theorem checkedMod_eq {a b : UInt64} (h : b ≠ 0) : checkedMod a b = some (a % b) := by
  rw [checkedMod, if_neg h, word?_eq_some_iff, UInt64.toNat_mod, Int.natCast_emod]

theorem toNat_pos {w : UInt64} (h : w ≠ 0) : 0 < w.toNat :=
  Nat.pos_of_ne_zero fun hw => h (UInt64.toNat_inj.mp hw)

theorem exists_checkedDivCeil_eq {total size : UInt64} (ht : total ≠ 0) (hs : size ≠ 0) :
    ∃ w, checkedDivCeil total size = some w ∧ w.toNat = lastPage total size + 1 := by
  have hquotient : total.toNat / size.toNat =
      lastPage total size + if size.toNat ∣ total.toNat then 1 else 0 := by
    have hpred : total.toNat - 1 + 1 = total.toNat := Nat.sub_add_cancel (toNat_pos ht)
    have hdiv := @Nat.succ_div (total.toNat - 1) size.toNat
    rwa [hpred] at hdiv
  have hrest : total % size = 0 ↔ size.toNat ∣ total.toNat := by
    rw [← UInt64.toNat_inj, UInt64.toNat_mod, Nat.dvd_iff_mod_eq_zero]
    rfl
  simp only [checkedDivCeil, checkedDiv_eq hs, checkedMod_eq hs, Option.bind_eq_bind,
    Option.bind_some]
  by_cases hd : size.toNat ∣ total.toNat
  · refine ⟨total / size, if_pos (hrest.mpr hd), ?_⟩
    rw [UInt64.toNat_div, hquotient, if_pos hd]
  · have hlt : lastPage total size + 1 < UInt64.size := by
      have hle := Nat.div_le_self (total.toNat - 1) size.toNat
      have hpos := toNat_pos ht
      have hsize := total.toNat_lt_size
      rw [lastPage]
      omega
    refine ⟨.ofNat (lastPage total size + 1), ?_, UInt64.toNat_ofNat_of_lt' hlt⟩
    rw [if_neg (mt hrest.mp hd), checkedAdd, word?_eq_some_iff, UInt64.toNat_ofNat_of_lt' hlt,
      UInt64.toNat_div, hquotient, if_neg hd]
    rfl

namespace Page

def lastNumber? (p : Page α) : Option UInt64 :=
  if p.size = 0 ∨ p.total = 0 then some 0
  else do checkedSub (← checkedDivCeil p.total p.size) 1

def hasNext? (p : Page α) : Option Bool := do
  return p.number < (← p.lastNumber?)

end Page

/-- The links of a page, by checked steps. -/
def PageLinks.ofPage? (p : Page α) (base : Url) : Option PageLinks := do
  let last ← p.lastNumber?
  let next ←
    if ← p.hasNext? then do
      let number ← checkedAdd p.number 1
      pure (some (base.withPage number p.size))
    else pure none
  return { first := base.withPage 0 p.size, next, last := base.withPage last p.size }

namespace Page

theorem lastNumber_eq_zero {p : Page α} (h : p.size = 0 ∨ p.total = 0) : p.lastNumber = 0 :=
  if_pos h

theorem lastNumber?_eq (p : Page α) : p.lastNumber? = some p.lastNumber := by
  by_cases h : p.size = 0 ∨ p.total = 0
  · rw [lastNumber?, if_pos h, lastNumber_eq_zero h]
  · obtain ⟨hs, ht⟩ := not_or.mp h
    obtain ⟨w, hceil, hw⟩ := exists_checkedDivCeil_eq ht hs
    rw [lastNumber?, if_neg h, hceil, Option.bind_eq_bind, Option.bind_some, checkedSub,
      word?_eq_some_iff, hw, toNat_lastNumber, UInt64.toNat_one]
    omega

theorem hasNext?_eq (p : Page α) : p.hasNext? = some p.hasNext := by
  rw [hasNext?, lastNumber?_eq]
  rfl

theorem toNat_number_add_one {p : Page α} (h : p.hasNext = true) :
    (p.number + 1).toNat = p.number.toNat + 1 := by
  have hlt := hasNext_iff.mp h
  have hlast := p.lastNumber.toNat_lt_size
  have hsize : UInt64.size = 2 ^ 64 := rfl
  rw [UInt64.toNat_add, UInt64.toNat_one]
  omega

end Page

theorem PageLinks.ofPage?_eq (p : Page α) (base : Url) :
    ofPage? p base = some (ofPage p base) := by
  rw [ofPage?, ofPage, p.lastNumber?_eq, p.hasNext?_eq]
  by_cases h : p.hasNext = true
  · have hnext : checkedAdd p.number 1 = some (p.number + 1) := by
      rw [checkedAdd, word?_eq_some_iff, Page.toNat_number_add_one h]
      rfl
    simp [h, hnext]
  · simp [h]

theorem le_lastPage_iff {total size : UInt64} (ht : 0 < total.toNat) (hs : 0 < size.toNat)
    (n : Nat) : n ≤ lastPage total size ↔ n * size.toNat < total.toNat := by
  rw [lastPage, Nat.le_div_iff_mul_le hs]
  omega

namespace Page

theorem hasNext_iff_lt {p : Page α} :
    p.hasNext = true ↔
      p.size ≠ 0 ∧ (p.number.toNat + 1) * p.size.toNat < p.total.toNat := by
  rw [hasNext_iff]
  by_cases h : p.size = 0 ∨ p.total = 0
  · rw [lastNumber_eq_zero h]
    obtain h | h := h <;> simp [h]
  · obtain ⟨hs, ht⟩ := not_or.mp h
    rw [toNat_lastNumber, ← Nat.succ_le_iff, le_lastPage_iff (toNat_pos ht) (toNat_pos hs)]
    exact (and_iff_right hs).symm

theorem isGreatest_lastNumber {p : Page α} (hs : p.size ≠ 0) (ht : p.total ≠ 0) :
    IsGreatest {n : Nat | n * p.size.toNat < p.total.toNat} p.lastNumber.toNat := by
  have hiff := le_lastPage_iff (toNat_pos ht) (toNat_pos hs)
  rw [toNat_lastNumber]
  constructor
  · exact (hiff _).mp (Nat.le_refl _)
  · intro n hn
    exact (hiff n).mpr hn

end Page

theorem rowsFrom_eq_none_iff {start stop : UInt64} :
    rowsFrom start stop = none ↔ maxRows < stop.toNat - start.toNat := by
  rw [rowsFrom, ite_eq_right_iff, ← Nat.not_le]
  exact ⟨fun h hle => Option.some_ne_none _ (h hle), fun h hle => absurd hle h⟩

theorem map_rowsFrom {start stop : UInt64} (h : stop.toNat - start.toNat ≤ maxRows) :
    (rowsFrom start stop).map (List.map UInt64.toNat) =
      some (List.range' start.toNat (stop.toNat - start.toNat)) := by
  have hstop := stop.toNat_lt_size
  have hsize : UInt64.size = 2 ^ 64 := rfl
  rw [rowsFrom, if_pos h, Option.map_some, List.map_map, List.range'_eq_map_range]
  refine congrArg some (List.map_congr_left fun k hk => ?_)
  have hlt : k < stop.toNat - start.toNat := List.mem_range.mp hk
  rw [Function.comp_apply, UInt64.toNat_add, UInt64.toNat_ofNat']
  omega

theorem filter_range_eq_range' (low high total : Nat) :
    (List.range total).filter (fun k => low ≤ k ∧ k < high) =
      List.range' low (min high total - low) := by
  induction total with
  | zero => simp
  | succ total ih =>
    rw [List.range_succ, List.filter_append, ih]
    by_cases h : low ≤ total ∧ total < high
    · have hcount : min high (total + 1) - low = min high total - low + 1 := by omega
      have hlast : low + (min high total - low) = total := by omega
      rw [List.filter_cons_of_pos (by simpa using h), List.filter_nil, hcount,
        List.range'_1_concat, hlast]
    · have hcount : min high (total + 1) - low = min high total - low := by omega
      rw [List.filter_cons_of_neg (by simpa using h), List.filter_nil, List.append_nil, hcount]

/-- Where the first row stays at the largest word, no row is left, and where the end of the page
does, all that are left are on it. -/
theorem range'_bounds (total : UInt64) (r : PageRequest) :
    List.range' (r.bounds total).1.toNat ((r.bounds total).2.toNat - (r.bounds total).1.toNat) =
      List.range' (r.number.toNat * r.size.toNat)
        (min ((r.number.toNat + 1) * r.size.toNat) total.toNat -
          r.number.toNat * r.size.toNat) := by
  let start := min r.offset total
  let stop := min total (saturatingAdd start r.size)
  change List.range' start.toNat (stop.toNat - start.toNat) = _
  have hwords := total.toNat_lt_size
  have hstart : start.toNat =
      min (min (r.number.toNat * r.size.toNat) (UInt64.size - 1)) total.toNat := by
    rw [toNat_min, PageRequest.offset, toNat_saturatingMul]
  have hstop : stop.toNat =
      min total.toNat (min (start.toNat + r.size.toNat) (UInt64.size - 1)) := by
    rw [toNat_min, toNat_saturatingAdd]
  rw [Nat.succ_mul]
  by_cases h : r.number.toNat * r.size.toNat < total.toNat
  · have hexact : start.toNat = r.number.toNat * r.size.toNat := by omega
    have hcount : stop.toNat - start.toNat =
        min (r.number.toNat * r.size.toNat + r.size.toNat) total.toNat -
          r.number.toNat * r.size.toNat := by omega
    rw [hcount, hexact]
  · have hcount : stop.toNat - start.toNat = 0 := by omega
    have hnone : min (r.number.toNat * r.size.toNat + r.size.toNat) total.toNat -
        r.number.toNat * r.size.toNat = 0 := by omega
    rw [hcount, hnone]
    rfl

/-- The rows on the page of the request, among the natural numbers below `total`. -/
def PageRequest.rows (r : PageRequest) (total : UInt64) : List Nat :=
  (List.range total.toNat).filter fun k =>
    r.number.toNat * r.size.toNat ≤ k ∧ k < (r.number.toNat + 1) * r.size.toNat

namespace PageRequest

theorem rows_eq (r : PageRequest) (total : UInt64) :
    r.rows total =
      List.range' (r.bounds total).1.toNat
        ((r.bounds total).2.toNat - (r.bounds total).1.toNat) := by
  rw [rows, filter_range_eq_range', range'_bounds]

theorem length_rows (r : PageRequest) (total : UInt64) :
    (r.rows total).length = (r.bounds total).2.toNat - (r.bounds total).1.toNat := by
  rw [rows_eq, List.length_range']

theorem length_rows_le (r : PageRequest) (total : UInt64) :
    (r.rows total).length ≤ r.size.toNat := by
  rw [rows, filter_range_eq_range', List.length_range', Nat.succ_mul]
  omega

end PageRequest

theorem samplePage_eq_none_iff {c : Config} {number size : Option UInt64} {total : UInt64} :
    c.samplePage number size total = none ↔
      maxRows < ((c.pagination.request number size).rows total).length := by
  rw [Config.samplePage, Option.map_eq_none_iff, rowsFrom_eq_none_iff, PageRequest.length_rows]

theorem samplePage_eq (c : Config) (number size : Option UInt64) (total : UInt64) :
    let r := c.pagination.request number size
    (c.samplePage number size total).map (Page.map UInt64.toNat) =
      if (r.rows total).length ≤ maxRows then some (.ofRequest (r.rows total) total r)
      else none := by
  intro r
  split
  · next h =>
    have hmap : (c.samplePage number size total).map (Page.map UInt64.toNat) =
        ((rowsFrom (r.bounds total).1 (r.bounds total).2).map (List.map UInt64.toNat)).map
          fun rows => .ofRequest rows total r := by
      rw [Config.samplePage, Option.map_map, Option.map_map]
      rfl
    rw [hmap, map_rowsFrom (r.length_rows total ▸ h), Option.map_some, r.rows_eq]
  · next h => rw [samplePage_eq_none_iff.mpr (Nat.lt_of_not_le h), Option.map_none]

theorem items_of_samplePage {c : Config} {number size : Option UInt64} {total : UInt64}
    {page : Page UInt64} (h : c.samplePage number size total = some page) :
    page.items.map UInt64.toNat = (c.pagination.request number size).rows total := by
  have hpage := samplePage_eq c number size total
  rw [h, Option.map_some] at hpage
  dsimp only at hpage
  split at hpage
  · exact congrArg Page.items (Option.some.inj hpage)
  · cases hpage

/-- The last page, the next one and the links take no step that leaves the range of a word, and are
what the natural numbers give; a sample page holds its rows, whatever is beyond the largest word.
There is none where the rows are more than a vector can hold. -/
theorem page_arithmetic_exact (p : Page α) (base : Url) (c : Config) (number size total : UInt64) :
    let s := min size c.pagination.maxSize
    let rows := (List.range total.toNat).filter fun k =>
      number.toNat * s.toNat ≤ k ∧ k < (number.toNat + 1) * s.toNat
    (p.lastNumber? = some p.lastNumber ∧ p.hasNext? = some p.hasNext ∧
      PageLinks.ofPage? p base = some (PageLinks.ofPage p base)) ∧
    (p.hasNext = true → (p.number + 1).toNat = p.number.toNat + 1) ∧
    (p.hasNext = true ↔
      p.size ≠ 0 ∧ (p.number.toNat + 1) * p.size.toNat < p.total.toNat) ∧
    (p.size ≠ 0 → p.total ≠ 0 →
      IsGreatest {n : Nat | n * p.size.toNat < p.total.toNat} p.lastNumber.toNat) ∧
    (p.size = 0 ∨ p.total = 0 → p.lastNumber = 0) ∧
    ((c.samplePage (some number) (some size) total).map (Page.map UInt64.toNat) =
      if rows.length ≤ maxRows then some { items := rows, total, size := s, number } else none) ∧
    rows.length ≤ s.toNat := by
  intro s rows
  exact ⟨⟨p.lastNumber?_eq, p.hasNext?_eq, PageLinks.ofPage?_eq p base⟩,
    Page.toNat_number_add_one, Page.hasNext_iff_lt, Page.isGreatest_lastNumber,
    Page.lastNumber_eq_zero, samplePage_eq c (some number) (some size) total,
    (c.pagination.request (some number) (some size)).length_rows_le total⟩

/-- A policy that allows pages of any size, and the page with all the rows that a word can count. -/
theorem samplePage_overflows :
    let c := { Config.default with pagination := ⟨18446744073709551615, 20⟩ }
    let all : UInt64 := 18446744073709551615
    let r := c.pagination.request (some 0) (some all)
    c.samplePage (some 0) (some all) all = none ∧ (r.rows all).length = all.toNat := by
  intro c all r
  have hlength : (r.rows all).length = all.toNat := by
    rw [r.length_rows]
    decide +kernel
  refine ⟨samplePage_eq_none_iff.mpr ?_, hlength⟩
  rw [hlength]
  decide +kernel

end FilterQuery
