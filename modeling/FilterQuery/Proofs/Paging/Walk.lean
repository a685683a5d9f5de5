import FilterQuery.Proofs.Paging.Links
import FilterQuery.Proofs.Paging.Page

namespace FilterQuery

variable {α β : Type}

/-- `Walk p base page r rs`: a client that asks for `r` first and follows the next links asks for
`rs` in turn. What a link states goes through the policy again. -/
inductive Walk (p : Pagination) (base : Url) (page : PageRequest → Page α) :
    PageRequest → List PageRequest → Prop
  | stop {r : PageRequest} (hn : (PageLinks.ofPage (page r) base).next = none) :
      Walk p base page r [r]
  | follow {r q : PageRequest} {next : Url} {rs : List PageRequest}
      (hn : (PageLinks.ofPage (page r) base).next = some next) (hq : next.request? = some q)
      (hw : Walk p base page (p.request (some q.number) (some q.size)) rs) :
      Walk p base page r (r :: rs)

namespace PageRequest

/-- The rows of a page among the first `total`, counted from zero. -/
def window (total : UInt64) (r : PageRequest) : List Nat :=
  (List.range' r.offset.toNat r.size.toNat).filter (· < total.toNat)

/-- What a store with these rows returns for a page. -/
def slice (rows : List β) (r : PageRequest) : List β :=
  (rows.drop r.offset.toNat).take r.size.toNat

end PageRequest

/-- The links of a page name the first page, the one after it and the last one of `visits`. -/
structure PageLinks.Leads (visits : List PageRequest) (r : PageRequest) (links : PageLinks) :
    Prop where
  first : links.first.request? = some ⟨0, r.size⟩
  next : links.next.bind Url.request? = visits[r.number.toNat + 1]?
  last : links.last.request? = visits.getLast?

section
variable {p : Pagination} {base : Url} {page : PageRequest → Page α} {r : PageRequest}

theorem Walk.unique {rs rs' : List PageRequest} (h : Walk p base page r rs)
    (h' : Walk p base page r rs') : rs = rs' := by
  induction h generalizing rs' with
  | stop hn =>
    cases h' with
    | stop => rfl
    | follow hn' => cases hn.symm.trans hn'
  | follow hn hq _ ih =>
    cases h' with
    | stop hn' => cases hn.symm.trans hn'
    | follow hn' hq' hw' =>
      cases hn.symm.trans hn'
      cases hq.symm.trans hq'
      rw [ih hw']

end

theorem next_ofRequest (xs : List α) (total : UInt64) (r : PageRequest) (base : Url) :
    (PageLinks.ofPage (.ofRequest xs total r) base).next =
      if r.number.toNat < lastPage total r.size then
        some (base.withPage (r.number + 1) r.size) else none := by
  let page : Page α := .ofRequest xs total r
  have hlast : page.lastNumber.toNat = lastPage total r.size := page.toNat_lastNumber
  have hnext : page.hasNext = true ↔ r.number.toNat < lastPage total r.size := by
    rw [Page.hasNext_iff, hlast]
    rfl
  by_cases h : r.number.toNat < lastPage total r.size
  · rw [if_pos h]
    exact if_pos (hnext.mpr h)
  · rw [if_neg h]
    exact if_neg (h ∘ hnext.mp)

def pagesFrom (size : UInt64) (n count : Nat) : List PageRequest :=
  (List.range' n count).map fun k => ⟨.ofNat k, size⟩

theorem pagesFrom_succ (size : UInt64) (n count : Nat) :
    pagesFrom size n (count + 1) = ⟨.ofNat n, size⟩ :: pagesFrom size (n + 1) count := by
  rw [pagesFrom, List.range'_succ, List.map_cons, pagesFrom]

section
variable {p : Pagination} {base : Url} {items : PageRequest → List α} {total size : UInt64}

theorem walk_pagesFrom (hp : ∀ n, p.request (some n) (some size) = ⟨n, size⟩) {n d : Nat}
    (h : n + d = lastPage total size) :
    Walk p base (fun r => .ofRequest (items r) total r) ⟨.ofNat n, size⟩
      (pagesFrom size n (d + 1)) := by
  -- on the number of pages that are left
  induction d generalizing n with
  | zero =>
    have hlast := lastPage_lt total size
    have hn : (UInt64.ofNat n).toNat = lastPage total size := by
      rw [UInt64.toNat_ofNat_of_lt' (by omega)]
      exact h
    rw [pagesFrom_succ]
    apply Walk.stop
    rw [next_ofRequest, if_neg (Nat.not_lt.mpr (Nat.le_of_eq hn.symm))]
  | succ d ih =>
    have hlast := lastPage_lt total size
    have hn : (UInt64.ofNat n).toNat < lastPage total size := by
      rw [UInt64.toNat_ofNat_of_lt' (by omega)]
      omega
    rw [pagesFrom_succ]
    apply Walk.follow
    · rw [next_ofRequest, if_pos hn]
    · exact Url.request?_withPage base _ _
    · have hsucc : UInt64.ofNat n + 1 = UInt64.ofNat (n + 1) := (UInt64.ofNat_add n 1).symm
      rw [hp, hsucc]
      exact ih (by omega)

theorem getElem?_pagesFrom (size : UInt64) (n : Nat) {count k : Nat} (h : k < count) :
    (pagesFrom size n count)[k]? = some ⟨.ofNat (n + k), size⟩ := by
  rw [pagesFrom, List.getElem?_map, List.getElem?_range' h, Option.map_some, Nat.one_mul]

theorem getLast?_pagesFrom (size : UInt64) (n count : Nat) :
    (pagesFrom size n (count + 1)).getLast? = some ⟨.ofNat (n + count), size⟩ := by
  rw [pagesFrom, List.range'_1_concat, List.map_append, List.map_singleton,
    List.getLast?_concat]

theorem numbers_pagesFrom {size : UInt64} {count : Nat} (h : count ≤ UInt64.size) :
    (pagesFrom size 0 count).map (·.number.toNat) = List.range count := by
  rw [pagesFrom, ← List.range_eq_range', List.map_map]
  conv => rhs; rw [← List.map_id (List.range count)]
  apply List.map_congr_left
  intro k hk
  exact UInt64.toNat_ofNat_of_lt' (Nat.lt_of_lt_of_le (List.mem_range.mp hk) h)

theorem exists_of_mem_pagesFrom {r : PageRequest} {count : Nat} (h : r ∈ pagesFrom size 0 count) :
    ∃ k < count, r = ⟨.ofNat k, size⟩ := by
  obtain ⟨k, hk, rfl⟩ := List.mem_map.mp h
  rw [← List.range_eq_range'] at hk
  exact ⟨k, List.mem_range.mp hk, rfl⟩

theorem leads_pagesFrom (xs : List α) (total size : UInt64) (base : Url) {k : Nat}
    (hk : k ≤ lastPage total size) :
    (PageLinks.ofPage (.ofRequest xs total ⟨.ofNat k, size⟩) base).Leads
      (pagesFrom size 0 (lastPage total size + 1)) ⟨.ofNat k, size⟩ := by
  have hsmall := lastPage_lt total size
  have hnumber : (UInt64.ofNat k).toNat = k := UInt64.toNat_ofNat_of_lt' (by omega)
  let page : Page α := .ofRequest xs total ⟨.ofNat k, size⟩
  have hlast : page.lastNumber = .ofNat (lastPage total size) := by
    rw [← UInt64.ofNat_toNat (x := page.lastNumber), Page.toNat_lastNumber]
    rfl
  refine ⟨Url.request?_withPage base 0 size, ?_, ?_⟩
  · rw [next_ofRequest, hnumber]
    by_cases h : k < lastPage total size
    · have hsucc : UInt64.ofNat k + 1 = UInt64.ofNat (k + 1) := (UInt64.ofNat_add k 1).symm
      rw [if_pos h, Option.bind_some, Url.request?_withPage, hsucc,
        getElem?_pagesFrom size 0 (Nat.succ_lt_succ h), Nat.zero_add]
    · have hlength : (pagesFrom size 0 (lastPage total size + 1)).length ≤ k + 1 := by
        rw [pagesFrom, List.length_map, List.length_range']
        omega
      rw [if_neg h, List.getElem?_eq_none hlength, Option.bind_none]
  · have hrequest := Url.request?_withPage base page.lastNumber size
    rw [hlast] at hrequest
    rw [getLast?_pagesFrom, Nat.zero_add, ← hrequest, ← hlast]
    rfl

end

theorem offset_page {size : UInt64} {k : Nat} (hs : 0 < size.toNat)
    (h : k * size.toNat < UInt64.size) :
    (⟨.ofNat k, size⟩ : PageRequest).offset.toNat = k * size.toNat := by
  have hk : (UInt64.ofNat k).toNat = k :=
    UInt64.toNat_ofNat_of_lt' (Nat.lt_of_le_of_lt (Nat.le_mul_of_pos_right k hs) h)
  rw [PageRequest.toNat_offset (by rwa [hk]), hk]

theorem flatMap_slice {size : UInt64} (hs : 0 < size.toNat) (rows : List β) {count : Nat}
    (h : ∀ k < count, k * size.toNat < UInt64.size) :
    (pagesFrom size 0 count).flatMap (PageRequest.slice rows) = rows.take (count * size.toNat) := by
  induction count with
  | zero => simp [pagesFrom]
  | succ count ih =>
    -- the last page takes up where the pages before it end
    have hinit := ih fun k hk => h k (by omega)
    have hlast := offset_page hs (h count (by omega))
    rw [pagesFrom] at hinit ⊢
    rw [List.range'_1_concat, List.map_append, List.flatMap_append, hinit, Nat.zero_add,
      Nat.succ_mul, List.take_add]
    simp [PageRequest.slice, hlast]

theorem filter_lt_range' (start count total : Nat) :
    (List.range' start count).filter (· < total) =
      (List.range' start (total - start)).take count := by
  induction count generalizing start with
  | zero => rfl
  | succ count ih =>
    by_cases h : start < total
    · have hleft : total - start = total - (start + 1) + 1 := by omega
      rw [List.range'_succ, List.filter_cons_of_pos (by simpa using h), ih, hleft,
        List.range'_succ, List.take_succ_cons]
    · have hleft : total - start = 0 := by omega
      have hrest : total - (start + 1) = 0 := by omega
      rw [List.range'_succ, List.filter_cons_of_neg (by simpa using h), ih, hleft, hrest]
      exact List.take_nil.trans List.take_nil.symm

theorem window_eq_slice (total : UInt64) (r : PageRequest) :
    r.window total = r.slice (List.range total.toNat) := by
  rw [PageRequest.window, filter_lt_range', PageRequest.slice, List.range_eq_range',
    List.drop_range', Nat.zero_add, Nat.mul_one]

theorem slices_pagesFrom {total size : UInt64} (hs : 0 < size.toNat) {rows : List β}
    (h : rows.length = total.toNat) :
    (pagesFrom size 0 (lastPage total size + 1)).flatMap (PageRequest.slice rows) = rows := by
  have hoffset : ∀ k < lastPage total size + 1, k * size.toNat < UInt64.size := fun k hk =>
    offset_lt_of_le_lastPage (Nat.le_of_lt_succ hk)
  rw [flatMap_slice hs rows hoffset]
  apply List.take_of_length_le
  rw [h]
  exact total_le_of_lastPage total hs

/-- A client that asks for page 0 and follows the next links comes by all pages in order, each once
and all of the size that the policy first allowed; and so by all rows, each once. -/
theorem walk_visits_rows (p : Pagination) (size : Option UInt64) (total : UInt64) (base : Url)
    (items : PageRequest → List α) (h : 1 ≤ (p.request (some 0) size).size) :
    let start := p.request (some 0) size
    let page := fun r => Page.ofRequest (items r) total r
    ∃ visits : List PageRequest,
      (∀ rs, Walk p base page start rs ↔ rs = visits) ∧
      visits.map (·.number.toNat) = List.range ((page start).lastNumber.toNat + 1) ∧
      (∀ r ∈ visits, r.size = start.size ∧ p.request (some r.number) (some r.size) = r ∧
        r.offset.toNat = r.number.toNat * r.size.toNat ∧
        (PageLinks.ofPage (page r) base).Leads visits r) ∧
      visits.flatMap (PageRequest.window total) = List.range total.toNat ∧
      ∀ rows : List β, rows.length = total.toNat →
        visits.flatMap (PageRequest.slice rows) = rows := by
  intro start page
  have hp : ∀ n, p.request (some n) (some start.size) = ⟨n, start.size⟩ := fun n =>
    p.request_size (some n) (some 0) size
  have hs : 0 < start.size.toNat := UInt64.le_iff_toNat_le.mp h
  have hwalk : Walk p base page start (pagesFrom start.size 0 (lastPage total start.size + 1)) :=
    walk_pagesFrom hp (Nat.zero_add _)
  refine ⟨_, fun rs => ⟨fun hw => hw.unique hwalk, ?_⟩, ?_, ?_, ?_, fun rows => slices_pagesFrom hs⟩
  · rintro rfl
    exact hwalk
  · rw [Page.toNat_lastNumber]
    exact numbers_pagesFrom (lastPage_lt total start.size)
  · intro r hr
    obtain ⟨k, hk, rfl⟩ := exists_of_mem_pagesFrom hr
    have hlast : k ≤ lastPage total start.size := Nat.le_of_lt_succ hk
    have hsmall := offset_lt_of_le_lastPage hlast
    have hnumber : (UInt64.ofNat k).toNat = k :=
      UInt64.toNat_ofNat_of_lt' (Nat.lt_of_le_of_lt (Nat.le_mul_of_pos_right k hs) hsmall)
    refine ⟨rfl, hp (.ofNat k), ?_, leads_pagesFrom (items _) total start.size base hlast⟩
    rw [offset_page hs hsmall, hnumber]
  · simp only [funext (window_eq_slice total)]
    exact slices_pagesFrom hs List.length_range

theorem walk_visits_rows_clamped :
    let p : Pagination := ⟨2, 20⟩
    let base : Url := ⟨"http".toList, some (.ofHost (.domain "localhost".toList)), "/rows".toList,
      some "page=7".toList, none⟩
    let page := fun r => Page.ofRequest (r.slice ["a", "b", "c", "d", "e"]) 5 r
    ∃ visits : List PageRequest,
      (∀ rs, Walk p base page (p.request (some 0) (some 4)) rs ↔ rs = visits) ∧
      visits.map (·.number.toNat) = [0, 1, 2] ∧
      visits.flatMap (PageRequest.window 5) = [0, 1, 2, 3, 4] ∧
      visits.flatMap (PageRequest.slice ["a", "b", "c", "d", "e"]) = ["a", "b", "c", "d", "e"] := by
  intro p base page
  obtain ⟨visits, hwalk, hnumbers, -, hwindows, hrows⟩ :=
    walk_visits_rows p (some 4) 5 base (PageRequest.slice ["a", "b", "c", "d", "e"]) (by decide)
  have hlast : (page (p.request (some 0) (some 4))).lastNumber = 2 := by decide
  rw [hlast] at hnumbers
  exact ⟨visits, hwalk, hnumbers, hwindows, hrows ["a", "b", "c", "d", "e"] rfl⟩

end FilterQuery
