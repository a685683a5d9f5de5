import FilterQuery.Proofs.Paging.Exact
import FilterQuery.Proofs.Paging.Links

namespace FilterQuery

variable {α β : Type}

/-- The address is that of the resource at the base, and asks for one page of it and nothing else. -/
structure Url.AsksFor (link base : Url) (number size : UInt64) : Prop where
  scheme : link.scheme = base.scheme
  authority : link.authority = base.authority
  path : link.path = base.path
  query : link.query =
    some ("page=" ++ toString number.toNat ++ "&size=" ++ toString size.toNat).toList
  fragment : link.fragment = none
  request : link.request? = some ⟨number, size⟩

def PageLinks.all (links : PageLinks) : List Url := links.first :: links.next.toList ++ [links.last]

namespace Url

variable {u v : Url}

theorem withPage_congr (hs : u.scheme = v.scheme) (ha : u.authority = v.authority)
    (hp : u.path = v.path) (number size : UInt64) :
    u.withPage number size = v.withPage number size := by
  rw [withPage_eq, withPage_eq, hs, ha, hp]

theorem asksFor_withPage (h : u.isHierarchical = true) (number size : UInt64) :
    (u.withPage number size).AsksFor u number size := by
  have hcleared : trimPath { u with query := none, fragment := none } =
      { u with query := none, fragment := none } := trimPath_of_isHierarchical h
  have hquery : ("page=" ++ toString number.toNat ++ "&size=" ++ toString size.toNat).toList =
      "page".toList ++ '=' :: Decimal.digits number.toNat ++
        '&' :: ("size".toList ++ '=' :: Decimal.digits size.toNat) := by
    simp only [String.toList_append, Decimal.digits_eq_toList]
    simp
  have hrequest := request?_withPage u number size
  rw [withPage_eq, hcleared] at hrequest ⊢
  exact ⟨rfl, rfl, rfl, congrArg some hquery.symm, rfl, hrequest⟩

end Url

namespace PageLinks

variable {base : Url}

theorem ofPage_congr {base' : Url} (hs : base.scheme = base'.scheme)
    (ha : base.authority = base'.authority) (hp : base.path = base'.path) (p : Page α) :
    ofPage p base = ofPage p base' := by
  simp only [ofPage, Url.withPage_congr hs ha hp]

theorem next_ofPage_eq_some_iff {p : Page α} {next : Url} :
    (ofPage p base).next = some next ↔
      p.hasNext = true ∧ base.withPage (p.number + 1) p.size = next := by
  rw [ofPage]
  split
  · next h => simp [h]
  · next h => simp [h]

theorem isSome_next_ofPage (p : Page α) : (ofPage p base).next.isSome = p.hasNext := by
  rw [ofPage]
  cases p.hasNext <;> rfl

theorem exists_asksFor_of_mem_all (h : base.isHierarchical = true) {p : Page α} {link : Url}
    (hl : link ∈ (ofPage p base).all) : ∃ number, link.AsksFor base number p.size := by
  rw [all, List.mem_append, List.mem_cons, Option.mem_toList, List.mem_singleton] at hl
  obtain (rfl | hn) | rfl := hl
  · exact ⟨_, Url.asksFor_withPage h 0 p.size⟩
  · obtain ⟨-, rfl⟩ := next_ofPage_eq_some_iff.mp hn
    exact ⟨_, Url.asksFor_withPage h (p.number + 1) p.size⟩
  · exact ⟨_, Url.asksFor_withPage h p.lastNumber p.size⟩

/-- The links ask for the first page, the last one and, where there is one, the next one of the
resource at the base. What the base asks for makes no difference to them, and neither does whether
they are built on the base or on one of them. -/
theorem ofPage_asksFor (h : base.isHierarchical = true) (p : Page α) :
    let links := ofPage p base
    links.first.AsksFor base 0 p.size ∧
      links.last.AsksFor base p.lastNumber p.size ∧
      links.next.isSome = p.hasNext ∧
      (∀ next, links.next = some next → next.AsksFor base (p.number + 1) p.size ∧
        (p.number + 1).toNat = p.number.toNat + 1) ∧
      (∀ query fragment, ofPage p { base with query := query, fragment := fragment } = links) ∧
      ∀ link ∈ links.all, ofPage p link = links ∧
        ∀ q : Page β, ofPage q link = ofPage q base := by
  intro links
  refine ⟨Url.asksFor_withPage h 0 p.size, Url.asksFor_withPage h p.lastNumber p.size,
    isSome_next_ofPage p, ?_, ?_, ?_⟩
  · intro next hn
    obtain ⟨hnext, rfl⟩ := next_ofPage_eq_some_iff.mp hn
    exact ⟨Url.asksFor_withPage h (p.number + 1) p.size, Page.toNat_number_add_one hnext⟩
  · intro query fragment
    refine ofPage_congr ?_ ?_ ?_ p <;> rfl
  · intro link hl
    obtain ⟨number, ha⟩ := exists_asksFor_of_mem_all h hl
    exact ⟨ofPage_congr ha.scheme ha.authority ha.path p,
      ofPage_congr ha.scheme ha.authority ha.path⟩

theorem ofPage_asksFor_stale :
    let base : Url := ⟨"https".toList, some (.ofHost (.domain "api.gso.org".toList)),
      "/profiles".toList, some "query=age%3E3&page=7&size=9&page=8".toList, some "top".toList⟩
    let p : Page String := ⟨[], 18446744073709551615, 1, 18446744073709551613⟩
    let links := ofPage p base
    base.isHierarchical = true ∧
      ofPage p { base with query := none, fragment := none } = links ∧
      ∃ next, links.next = some next ∧ next.request? = some ⟨18446744073709551614, 1⟩ ∧
        ofPage p next = links := by
  intro base p links
  have h : base.isHierarchical = true := rfl
  obtain ⟨-, -, hsome, hnext, hstale, hagain⟩ := @ofPage_asksFor _ String base h p
  have hone : p.hasNext = true := by decide
  obtain ⟨next, hn⟩ := Option.isSome_iff_exists.mp (hsome.trans hone)
  have hmem : next ∈ links.all := by simp [links, all, hn]
  exact ⟨h, hstale none none, next, hn, (hnext next hn).1.request, (hagain next hmem).1⟩

end PageLinks

end FilterQuery
