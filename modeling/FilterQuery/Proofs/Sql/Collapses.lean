import FilterQuery.Proofs.Results
import FilterQuery.Proofs.Sql.Equalities
import FilterQuery.Sql.Select
import Mathlib.Data.List.Forall2
import Mathlib.Data.List.Pairwise

namespace FilterQuery

inductive Side
  | left
  | right
deriving DecidableEq, Repr

/-- The way from the root of a tree to one of its nodes. -/
abbrev Place := List Side

namespace Place

/-- The ways part at some node, where the first one goes to the left and the second to the right. -/
def LeftOf (p q : Place) : Prop :=
  ∃ root p' q' : Place, p = root ++ .left :: p' ∧ q = root ++ .right :: q'

def join (ls rs : List Place) : List Place :=
  ls.map (Side.left :: ·) ++ rs.map (Side.right :: ·)

theorem left_mem_join {ls rs : List Place} {p : Place} : .left :: p ∈ join ls rs ↔ p ∈ ls := by
  simp [join]

theorem right_mem_join {ls rs : List Place} {p : Place} : .right :: p ∈ join ls rs ↔ p ∈ rs := by
  simp [join]

theorem LeftOf.cons {p q : Place} (h : LeftOf p q) (s : Side) : LeftOf (s :: p) (s :: q) := by
  obtain ⟨root, p', q', rfl, rfl⟩ := h
  exact ⟨s :: root, p', q', rfl, rfl⟩

theorem LeftOf.not_isPrefix {p q : Place} (h : LeftOf p q) : ¬ p <+: q ∧ ¬ q <+: p := by
  obtain ⟨root, p', q', rfl, rfl⟩ := h
  simp [List.prefix_append_right_inj, List.cons_prefix_cons]

theorem pairwise_join {ls rs : List Place} (hl : ls.Pairwise LeftOf) (hr : rs.Pairwise LeftOf) :
    (join ls rs).Pairwise LeftOf := by
  apply List.pairwise_append.mpr
  refine ⟨?_, ?_, ?_⟩
  · exact List.pairwise_map.mpr (hl.imp fun h => h.cons .left)
  · exact List.pairwise_map.mpr (hr.imp fun h => h.cons .right)
  · intro p hp q hq
    obtain ⟨p', -, rfl⟩ := List.mem_map.mp hp
    obtain ⟨q', -, rfl⟩ := List.mem_map.mp hq
    exact ⟨[], p', q', rfl, rfl⟩

theorem eq_of_isPrefix {ps : List Place} (h : ps.Pairwise LeftOf) {p q : Place} (hp : p ∈ ps)
    (hq : q ∈ ps) (hpq : p <+: q) : p = q := by
  have hsymm : Std.Symm fun p q : Place => ¬ p <+: q ∧ ¬ q <+: p := ⟨fun _ _ => And.symm⟩
  have hapart : ps.Pairwise fun p q => ¬ p <+: q ∧ ¬ q <+: p := h.imp LeftOf.not_isPrefix
  by_contra hne
  exact (hapart.forall hp hq hne).1 hpq

end Place

namespace Criteria

variable {α : Type}

def child? : Criteria α → Side → Option (Criteria α)
  | and l _, .left | or l _, .left => some l
  | and _ r, .right | or _ r, .right => some r
  | _, _ => none

def at? : Criteria α → Place → Option (Criteria α)
  | p, [] => some p
  | p, s :: place => (p.child? s).bind fun c => c.at? place

/-- What a disjunction joins, from left to right and however it is nested. Anything else joins only
itself. -/
def disjuncts : Criteria α → List (Criteria α)
  | or l r => l.disjuncts ++ r.disjuncts
  | p => [p]

end Criteria

namespace Sql

/-- A disjunction, of equalities of the column with these values, of which there are enough. -/
structure Collapsible (threshold : Nat) (column : String) (vs : List Value) (f : Filter) :
    Prop where
  isOr : ∃ l r, f = .or l r
  disjuncts_eq : f.disjuncts = vs.map fun v => .test ⟨column, .eq, .single v⟩
  threshold_le : threshold ≤ vs.length

namespace Expr

def child? : Expr → Side → Option Expr
  | and l _, .left | or l _, .left => some l
  | and _ r, .right | or _ r, .right => some r
  | _, _ => none

def at? : Expr → Place → Option Expr
  | e, [] => some e
  | e, s :: place => (e.child? s).bind fun c => c.at? place

def tests : Expr → List Expr
  | and l r | or l r => l.tests ++ r.tests
  | e => [e]

/-- The expression with the membership tests at some places written out as equalities. -/
def writeOut (here : Place → Bool) : Expr → Expr
  | and l r => and (l.writeOut fun p => here (.left :: p)) (r.writeOut fun p => here (.right :: p))
  | or l r => or (l.writeOut fun p => here (.left :: p)) (r.writeOut fun p => here (.right :: p))
  | isIn column false vs =>
    if here [] then anyOf (vs.map (compare column .eq)) else isIn column false vs
  | e => e

/-- The expression for a filter with a part for each part of the filter: none is collapsed. -/
def plain : Filter → Expr
  | .everything => .constant true
  | .test c => .ofComparison c
  | .and l r => .and (plain l) (plain r)
  | .or l r => .or (plain l) (plain r)

end Expr

/-- A node of the filter and the node that stands for it in the plain expression. -/
inductive Mirrors : Filter → Expr → Prop
  | everything : Mirrors .everything (.constant true)
  | test (c : Comparison Value) : Mirrors (.test c) (.ofComparison c)
  | and (l r : Filter) (e e' : Expr) : Mirrors (.and l r) (.and e e')
  | or (l r : Filter) (e e' : Expr) : Mirrors (.or l r) (.or e e')

/-- What is recorded of a place where a disjunction is collapsed. -/
def Records (threshold : Nat) (f : Filter) (e : Expr) (p : Place) (x : Collapse) : Prop :=
  ∃ g vs, f.at? p = some g ∧ Collapsible threshold x.column vs g ∧ x.count = vs.length ∧
    e.at? p = some (.isIn x.column false vs)

/-- The filter becomes the expression, and at these places a disjunction becomes a membership test:
from left to right all that can, but for those below another one. They are what is recorded, all
else is as in the plain expression, and with the tests written out nothing is lost or moved. -/
structure Collapsed (threshold : Nat) (f : Filter) (e : Expr) (xs : List Collapse)
    (places : List Place) : Prop where
  mem_iff : ∀ p, p ∈ places ↔
    (∃ g column vs, f.at? p = some g ∧ Collapsible threshold column vs g) ∧
      ∀ q ∈ places, q <+: p → q = p
  leftToRight : places.Pairwise Place.LeftOf
  records : List.Forall₂ (Records threshold f e) places xs
  others : ∀ p g, f.at? p = some g → (∀ q ∈ places, ¬ q <+: p) →
    ∃ e', e.at? p = some e' ∧ Mirrors g e'
  tests_eq : (e.writeOut places.contains).tests = (Expr.plain f).tests

namespace Equalities

variable {column : String} {f : Filter} {vs : List Value}

theorem disjuncts_eq (h : Equalities column f vs) :
    f.disjuncts = vs.map fun v => .test ⟨column, .eq, .single v⟩ := by
  induction h with
  | single v => rfl
  | or _ _ ihl ihr => rw [Criteria.disjuncts, ihl, ihr, List.map_append]

theorem of_disjuncts (h : f.disjuncts = vs.map fun v => .test ⟨column, .eq, .single v⟩) :
    Equalities column f vs := by
  induction f generalizing vs with
  | or l r ihl ihr =>
    obtain ⟨us, ws, rfl, hl, hr⟩ := List.append_eq_map_iff.mp h
    exact .or (ihl hl.symm) (ihr hr.symm)
  | everything | test | and =>
    obtain ⟨v, rfl, hv⟩ := List.map_eq_singleton_iff.mp h.symm
    cases hv
    try exact .single v

theorem length_eq_size (h : Equalities column f vs) : vs.length = f.size := by
  induction h with
  | single v => rfl
  | or _ _ ihl ihr => rw [List.length_append, Criteria.size, ihl, ihr]

theorem tests_plain (h : Equalities column f vs) :
    (Expr.plain f).tests = vs.map (Expr.compare column .eq) := by
  induction h with
  | single v => rfl
  | or _ _ ihl ihr => rw [Expr.plain, Expr.tests, ihl, ihr, List.map_append]

end Equalities

namespace Expr

theorem tests_foldl_or (e : Expr) (es : List Expr) :
    (es.foldl or e).tests = e.tests ++ es.flatMap tests := by
  induction es generalizing e with
  | nil => simp
  | cons e' es ih => rw [List.foldl_cons, ih, tests, List.flatMap_cons, List.append_assoc]

theorem tests_anyOf {es : List Expr} (h : es ≠ []) : (anyOf es).tests = es.flatMap tests := by
  cases es with
  | nil => exact absurd rfl h
  | cons e es => rw [anyOf, tests_foldl_or, List.flatMap_cons]

theorem tests_equalities (column : String) {vs : List Value} (h : vs ≠ []) :
    (anyOf (vs.map (compare column .eq))).tests = vs.map (compare column .eq) := by
  have hne : vs.map (compare column .eq) ≠ [] := mt List.map_eq_nil_iff.mp h
  have hleaf : tests ∘ compare column .eq = fun v => [compare column .eq v] := rfl
  rw [tests_anyOf hne, List.flatMap_map, ← Function.comp_def, hleaf, List.map_eq_flatMap]

theorem writeOut_nowhere (e : Expr) : e.writeOut (fun _ => false) = e := by
  induction e with
  | and l r ihl ihr | or l r ihl ihr => rw [writeOut, ihl, ihr]
  | isIn column negated vs => cases negated <;> rfl
  | constant | compare | like => rfl

theorem writeOut_join (ls rs : List Place) (l r : Expr) :
    (Expr.and l r).writeOut (Place.join ls rs).contains =
        .and (l.writeOut ls.contains) (r.writeOut rs.contains) ∧
      (Expr.or l r).writeOut (Place.join ls rs).contains =
        .or (l.writeOut ls.contains) (r.writeOut rs.contains) := by
  have hl : (fun p => (Place.join ls rs).contains (.left :: p)) = ls.contains := by
    funext p
    simp [Place.left_mem_join]
  have hr : (fun p => (Place.join ls rs).contains (.right :: p)) = rs.contains := by
    funext p
    simp [Place.right_mem_join]
  rw [writeOut, writeOut, hl, hr]
  exact ⟨rfl, rfl⟩

end Expr

theorem collapse?_or_eq_some_iff {threshold : Nat} {l r : Filter} {e : Expr} {x : Collapse} :
    collapse? threshold (.or l r) = some (e, x) ↔ ∃ column vs,
      Collapsible threshold column vs (.or l r) ∧ e = .isIn column false vs ∧
      x = ⟨column, vs.length⟩ := by
  rw [collapse?_eq_some_iff]
  constructor
  · rintro ⟨column, vs, hf, hle, rfl, rfl⟩
    exact ⟨column, vs, ⟨⟨l, r, rfl⟩, hf.disjuncts_eq, hle⟩, rfl, rfl⟩
  · rintro ⟨column, vs, hf, rfl, rfl⟩
    exact ⟨column, vs, .of_disjuncts hf.disjuncts_eq, hf.threshold_le, rfl, rfl⟩

/-- `Compiles threshold f e collapses places`: the filter `f` becomes the expression `e`, with these
collapses, at these places. -/
inductive Compiles (threshold : Nat) : Filter → Expr → List Collapse → List Place → Prop
  | everything : Compiles threshold .everything (.constant true) [] []
  | test (c : Comparison Value) : Compiles threshold (.test c) (.ofComparison c) [] []
  | and {l r : Filter} {e e' : Expr} {xs ys : List Collapse} {ps qs : List Place}
      (hl : Compiles threshold l e xs ps) (hr : Compiles threshold r e' ys qs) :
      Compiles threshold (.and l r) (.and e e') (xs ++ ys) (Place.join ps qs)
  | or {l r : Filter} {e e' : Expr} {xs ys : List Collapse} {ps qs : List Place}
      (hn : ∀ column vs, ¬ Collapsible threshold column vs (.or l r))
      (hl : Compiles threshold l e xs ps) (hr : Compiles threshold r e' ys qs) :
      Compiles threshold (.or l r) (.or e e') (xs ++ ys) (Place.join ps qs)
  | collapsed {l r : Filter} {column : String} {vs : List Value}
      (h : Collapsible threshold column vs (.or l r)) :
      Compiles threshold (.or l r) (.isIn column false vs) [⟨column, vs.length⟩] [[]]

theorem exists_compiles (threshold : Nat) (f : Filter) :
    ∃ places, Compiles threshold f (Expr.ofFilter threshold f).1 (Expr.ofFilter threshold f).2
      places := by
  induction f with
  | everything => exact ⟨[], .everything⟩
  | test c => exact ⟨[], .test c⟩
  | and l r ihl ihr =>
    obtain ⟨ps, hl⟩ := ihl
    obtain ⟨qs, hr⟩ := ihr
    exact ⟨_, .and hl hr⟩
  | or l r ihl ihr =>
    obtain ⟨ps, hl⟩ := ihl
    obtain ⟨qs, hr⟩ := ihr
    rw [Expr.ofFilter]
    split
    · next hc =>
      obtain ⟨column, vs, hcollapsible, rfl, rfl⟩ := collapse?_or_eq_some_iff.mp hc
      exact ⟨_, .collapsed hcollapsible⟩
    · next hc =>
      refine ⟨_, .or ?_ hl hr⟩
      intro column vs hcollapsible
      have hsome := collapse?_or_eq_some_iff.mpr ⟨column, vs, hcollapsible, rfl, rfl⟩
      rw [hc] at hsome
      cases hsome

namespace Compiles

variable {threshold : Nat} {f : Filter} {e : Expr} {xs : List Collapse} {places : List Place}

theorem pairwise (h : Compiles threshold f e xs places) : places.Pairwise Place.LeftOf := by
  induction h with
  | everything | test => exact .nil
  | and _ _ ihl ihr | or _ _ _ ihl ihr => exact Place.pairwise_join ihl ihr
  | collapsed => exact List.pairwise_singleton _ _

theorem exists_child (h : Compiles threshold f e xs places) {s : Side} {g : Filter}
    (hg : f.child? s = some g) (hroot : [] ∉ places) :
    ∃ e' ys qs, e.child? s = some e' ∧ Compiles threshold g e' ys qs ∧
      ∀ q, s :: q ∈ places ↔ q ∈ qs := by
  cases h with
  | everything | test => cases s <;> cases hg
  | and hl hr | or _ hl hr =>
    cases s with
    | left =>
      cases hg
      exact ⟨_, _, _, rfl, hl, fun q => Place.left_mem_join⟩
    | right =>
      cases hg
      exact ⟨_, _, _, rfl, hr, fun q => Place.right_mem_join⟩
  | collapsed => exact absurd (List.mem_singleton_self _) hroot

theorem root_mem (h : Compiles threshold f e xs places) {column : String} {vs : List Value}
    (hc : Collapsible threshold column vs f) : [] ∈ places := by
  obtain ⟨l, r, rfl⟩ := hc.isOr
  cases h with
  | or hn => exact absurd hc (hn column vs)
  | collapsed => exact List.mem_singleton_self _

theorem mirrors (h : Compiles threshold f e xs places) (hroot : [] ∉ places) : Mirrors f e := by
  cases h with
  | everything => exact .everything
  | test c => exact .test c
  | and => exact .and _ _ _ _
  | or => exact .or _ _ _ _
  | collapsed => exact absurd (List.mem_singleton_self _) hroot

theorem exists_isPrefix (h : Compiles threshold f e xs places) {p : Place} {g : Filter}
    {column : String} {vs : List Value} (hg : f.at? p = some g)
    (hc : Collapsible threshold column vs g) : ∃ q ∈ places, q <+: p := by
  induction p generalizing f e xs places with
  | nil =>
    cases hg
    exact ⟨[], h.root_mem hc, List.nil_prefix⟩
  | cons s p ih =>
    by_cases hroot : [] ∈ places
    · exact ⟨[], hroot, List.nil_prefix⟩
    · obtain ⟨f', hf', hg⟩ := Option.bind_eq_some_iff.mp hg
      obtain ⟨e', ys, qs, -, h', hqs⟩ := h.exists_child hf' hroot
      obtain ⟨q, hq, hqp⟩ := ih h' hg
      exact ⟨s :: q, (hqs q).mpr hq, (List.prefix_cons_inj s).mpr hqp⟩

theorem exists_mirrors (h : Compiles threshold f e xs places) {p : Place} {g : Filter}
    (hg : f.at? p = some g) (hp : ∀ q ∈ places, ¬ q <+: p) :
    ∃ e', e.at? p = some e' ∧ Mirrors g e' := by
  have hroot : [] ∉ places := fun hm => hp [] hm List.nil_prefix
  induction p generalizing f e xs places with
  | nil =>
    cases hg
    exact ⟨e, rfl, h.mirrors hroot⟩
  | cons s p ih =>
    obtain ⟨f', hf', hg⟩ := Option.bind_eq_some_iff.mp hg
    obtain ⟨e', ys, qs, he', h', hqs⟩ := h.exists_child hf' hroot
    have hp' : ∀ q ∈ qs, ¬ q <+: p := by
      intro q hq hqp
      exact hp (s :: q) ((hqs q).mpr hq) ((List.prefix_cons_inj s).mpr hqp)
    obtain ⟨e'', he'', hm⟩ := ih h' hg hp' fun hm => hp' [] hm List.nil_prefix
    refine ⟨e'', ?_, hm⟩
    rw [Expr.at?, he', Option.bind_some, he'']

theorem records (h : Compiles threshold f e xs places) :
    List.Forall₂ (Records threshold f e) places xs := by
  induction h with
  | everything | test => exact .nil
  | and _ _ ihl ihr | or _ _ _ ihl ihr =>
    apply List.rel_append
    · exact List.forall₂_map_left_iff.mpr ihl
    · exact List.forall₂_map_left_iff.mpr ihr
  | collapsed hc => exact .cons ⟨_, _, rfl, hc, rfl, rfl⟩ .nil

theorem tests_writeOut (h : Compiles threshold f e xs places) :
    (e.writeOut places.contains).tests = (Expr.plain f).tests := by
  induction h with
  | everything => rfl
  | test c => exact congrArg Expr.tests (Expr.writeOut_nowhere _)
  | and _ _ ihl ihr =>
    rw [(Expr.writeOut_join _ _ _ _).1, Expr.plain, Expr.tests, Expr.tests, ihl, ihr]
  | or _ _ _ ihl ihr =>
    rw [(Expr.writeOut_join _ _ _ _).2, Expr.plain, Expr.tests, Expr.tests, ihl, ihr]
  | @collapsed _ _ column vs hc =>
    have hf : Equalities column _ vs := .of_disjuncts hc.disjuncts_eq
    rw [hf.tests_plain]
    exact Expr.tests_equalities column hf.ne_nil

theorem mem_iff (h : Compiles threshold f e xs places) (p : Place) : p ∈ places ↔
    (∃ g column vs, f.at? p = some g ∧ Collapsible threshold column vs g) ∧
      ∀ q ∈ places, q <+: p → q = p := by
  constructor
  · intro hp
    obtain ⟨x, g, vs, hg, hc, -, -⟩ := exists_of_forall₂ h.records p hp
    exact ⟨⟨g, x.column, vs, hg, hc⟩, fun q hq hqp => Place.eq_of_isPrefix h.pairwise hq hp hqp⟩
  · rintro ⟨⟨g, column, vs, hg, hc⟩, hp⟩
    obtain ⟨q, hq, hqp⟩ := h.exists_isPrefix hg hc
    rw [← hp q hq hqp]
    exact hq

end Compiles

theorem Collapsed.of_compiles {threshold : Nat} {f : Filter} {e : Expr} {xs : List Collapse}
    {places : List Place} (h : Compiles threshold f e xs places) :
    Collapsed threshold f e xs places where
  mem_iff := h.mem_iff
  leftToRight := h.pairwise
  records := h.records
  others := fun _ _ => h.exists_mirrors
  tests_eq := h.tests_writeOut

theorem ofFilter_of_size_lt {threshold : Nat} {f : Filter} (h : f.size < threshold) :
    Expr.ofFilter threshold f = (Expr.plain f, []) := by
  induction f with
  | everything | test => rfl
  | and l r ihl ihr =>
    rw [Criteria.size] at h
    rw [Expr.ofFilter, ihl (by omega), ihr (by omega)]
    rfl
  | or l r ihl ihr =>
    have hnone : collapse? threshold (.or l r) = none := by
      rw [Option.eq_none_iff_forall_ne_some]
      rintro ⟨e, x⟩ hsome
      obtain ⟨column, vs, hf, hle, -, -⟩ := collapse?_eq_some_iff.mp hsome
      rw [hf.length_eq_size] at hle
      omega
    rw [Criteria.size] at h
    rw [Expr.ofFilter, hnone, ihl (by omega), ihr (by omega)]
    rfl

theorem collapses_ofFilter (table : String) (threshold : Nat) (f : Filter) (page : PageRequest) :
    (Statements.ofFilter table threshold f page).collapses = (Expr.ofFilter threshold f).2 := by
  cases f <;> rfl

/-- Exactly the outermost disjunctions of enough equalities on one column are collapsed, each into
one membership test of all their values, and they are recorded from left to right, for the condition
as for the statements. A threshold out of reach leaves all as it is. -/
theorem ofFilter_collapses_outermost (threshold : Nat) (f : Filter) :
    (∃ places, Collapsed threshold f (Expr.ofFilter threshold f).1 (Expr.ofFilter threshold f).2
      places) ∧
    (∀ unreached, f.size < unreached → Expr.ofFilter unreached f = (Expr.plain f, [])) ∧
    ∀ table page,
      (Statements.ofFilter table threshold f page).collapses = (Expr.ofFilter threshold f).2 := by
  obtain ⟨places, h⟩ := exists_compiles threshold f
  exact ⟨⟨places, .of_compiles h⟩, fun _ => ofFilter_of_size_lt, fun table page =>
    collapses_ofFilter table threshold f page⟩

example :
    let eq (column : String) (n : Int64) : Filter := .test ⟨column, .eq, .single (.integer n)⟩
    Expr.ofFilter 3 (.and (.or (eq "a" 1) (.or (eq "a" 2) (eq "a" 1))) (.or (eq "b" 3) (eq "b" 4))) =
      (.and (.isIn "a" false [.integer 1, .integer 2, .integer 1])
        (.or (.compare "b" .eq (.integer 3)) (.compare "b" .eq (.integer 4))), [⟨"a", 3⟩]) := by
  decide

end Sql

end FilterQuery
