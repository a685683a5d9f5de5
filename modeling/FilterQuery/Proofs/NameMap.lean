import FilterQuery.NameMap
import Mathlib.Data.List.Perm.Basic

namespace FilterQuery

variable {α : Type}

theorem lookup_eq_some_iff_mem {entries : List (String × α)} {name : String} {x : α}
    (h : (entries.map Prod.fst).Nodup) : entries.lookup name = some x ↔ (name, x) ∈ entries := by
  induction entries with
  | nil => simp
  | cons e entries ih =>
    obtain ⟨k, y⟩ := e
    obtain ⟨hk, hrest⟩ := List.nodup_cons.mp h
    rw [List.lookup_cons, List.mem_cons]
    by_cases hname : name = k
    · subst hname
      have hother : (name, x) ∉ entries := fun hm => hk (List.mem_map.mpr ⟨(name, x), hm, rfl⟩)
      simp [hother, eq_comm]
    · have htest : (name == k) = false := beq_eq_false_iff_ne.mpr hname
      simp [htest, hname, ih hrest]

theorem lookup_eq_none_iff_not_mem {entries : List (String × α)} {name : String} :
    entries.lookup name = none ↔ name ∉ entries.map Prod.fst := by
  induction entries with
  | nil => simp
  | cons e entries ih =>
    obtain ⟨k, y⟩ := e
    rw [List.lookup_cons, List.map_cons, List.mem_cons, not_or]
    by_cases hname : name = k
    · simp [hname]
    · have htest : (name == k) = false := beq_eq_false_iff_ne.mpr hname
      simp only [htest, ih, hname, not_false_eq_true, true_and]

theorem lookup_of_perm {entries entries' : List (String × α)} (hp : entries.Perm entries')
    (hn : (entries'.map Prod.fst).Nodup) (name : String) :
    entries.lookup name = entries'.lookup name := by
  have hn' : (entries.map Prod.fst).Nodup := (hp.map Prod.fst).nodup_iff.mpr hn
  refine Option.ext fun x => ?_
  rw [lookup_eq_some_iff_mem hn', lookup_eq_some_iff_mem hn, hp.mem_iff]

namespace NameMap

variable {m m' : NameMap α} {name : String} {x : α}

theorem ext (h : m.entries = m'.entries) : m = m' := by
  cases m
  cases m'
  cases h
  rfl

theorem nodup_names (m : NameMap α) : (m.entries.map Prod.fst).Nodup :=
  List.pairwise_map.mpr (m.sorted.imp fun hlt => String.ne_of_lt hlt)

theorem lookup_insertEntry (name : String) (x : α) (entries : List (String × α)) (other : String) :
    (insertEntry name x entries).lookup other =
      if other = name then some x else entries.lookup other := by
  have hcons (k : String) (y : α) (rest : List (String × α)) :
      ((k, y) :: rest).lookup other = if other = k then some y else rest.lookup other := by
    rw [List.lookup_cons]
    by_cases h : other = k
    · simp [h]
    · have htest : (other == k) = false := beq_eq_false_iff_ne.mpr h
      simp only [htest, if_neg h]
  induction entries with
  | nil => rw [insertEntry, hcons]
  | cons e entries ih =>
    obtain ⟨k, y⟩ := e
    rw [insertEntry]
    split
    · rw [hcons]
    · split
      · next hk =>
        rw [hcons, hcons, hk]
        by_cases h : other = k <;> simp [h]
      · next hk =>
        rw [hcons, ih, hcons]
        by_cases h : other = name
        · have hne : other ≠ k := h ▸ hk
          simp [h, hk]
        · simp [h]

theorem get?_insert (m : NameMap α) (name : String) (x : α) (other : String) :
    (m.insert name x).get? other = if other = name then some x else m.get? other :=
  lookup_insertEntry name x m.entries other

theorem get?_foldl_insert (m : NameMap α) {entries : List (String × α)}
    (h : ∀ e ∈ entries, e.1 ≠ name) :
    (entries.foldl (fun m e => m.insert e.1 e.2) m).get? name = m.get? name := by
  induction entries generalizing m with
  | nil => rfl
  | cons e entries ih =>
    obtain ⟨he, h⟩ := List.forall_mem_cons.mp h
    rw [List.foldl_cons, ih _ h, get?_insert, if_neg (Ne.symm he)]

theorem perm_insertEntry {entries : List (String × α)} (h : name ∉ entries.map Prod.fst) (x : α) :
    (insertEntry name x entries).Perm ((name, x) :: entries) := by
  induction entries with
  | nil => exact .refl _
  | cons e entries ih =>
    obtain ⟨k, y⟩ := e
    rw [List.map_cons, List.mem_cons, not_or] at h
    rw [insertEntry]
    split
    · exact .refl _
    · rw [if_neg h.1]
      exact ((ih h.2).cons (k, y)).trans (.swap _ _ _)

theorem perm_foldl_insert {entries : List (String × α)} (m : NameMap α)
    (h : (m.entries.map Prod.fst ++ entries.map Prod.fst).Nodup) :
    (entries.foldl (fun m e => m.insert e.1 e.2) m).entries.Perm (m.entries ++ entries) := by
  induction entries generalizing m with
  | nil => simp
  | cons e entries ih =>
    obtain ⟨k, y⟩ := e
    have hk : k ∉ m.entries.map Prod.fst := fun hm =>
      (List.nodup_append.mp h).2.2 k hm k (by simp) rfl
    have hinsert : (m.insert k y).entries.Perm ((k, y) :: m.entries) := perm_insertEntry hk y
    have hnames : ((m.insert k y).entries.map Prod.fst ++ entries.map Prod.fst).Perm
        (m.entries.map Prod.fst ++ ((k, y) :: entries).map Prod.fst) := by
      refine ((hinsert.map Prod.fst).append_right _).trans ?_
      rw [List.map_cons, List.cons_append]
      exact List.perm_middle.symm
    refine (ih (m.insert k y) (hnames.nodup_iff.mpr h)).trans ?_
    exact (hinsert.append_right entries).trans List.perm_middle.symm

/-- A map is built again from its entries in any order. -/
theorem ofList_of_perm {entries : List (String × α)} (h : entries.Perm m.entries) :
    ofList entries = m := by
  have hnames : (entries.map Prod.fst).Nodup := (h.map Prod.fst).nodup_iff.mpr m.nodup_names
  have hperm : (ofList entries).entries.Perm m.entries := (perm_foldl_insert empty hnames).trans h
  refine ext (hperm.eq_of_pairwise ?_ (ofList entries).sorted m.sorted)
  intro a b _ _ hab hba
  exact absurd hab (String.lt_asymm hba)

end NameMap

end FilterQuery
