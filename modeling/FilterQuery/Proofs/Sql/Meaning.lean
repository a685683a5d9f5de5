import FilterQuery.Proofs.Sql.Equalities
import FilterQuery.Proofs.Sql.Patterns

namespace FilterQuery.Sql

inductive Truth
  | yes
  | no
  | unknown
deriving DecidableEq, Repr

namespace Truth

def ofBool (b : Bool) : Truth := if b then yes else no

def not : Truth → Truth
  | yes => no
  | no => yes
  | unknown => unknown

def and : Truth → Truth → Truth
  | no, _ | _, no => no
  | yes, yes => yes
  | _, _ => unknown

def or : Truth → Truth → Truth
  | yes, _ | _, yes => yes
  | no, no => no
  | _, _ => unknown

def any (ts : List Truth) : Truth := ts.foldr or no

theorem or_assoc (a b c : Truth) : (a.or b).or c = a.or (b.or c) := by
  cases a <;> cases b <;> cases c <;> rfl

theorem no_or (a : Truth) : no.or a = a := by
  cases a <;> rfl

theorem or_no (a : Truth) : a.or no = a := by
  cases a <;> rfl

theorem any_singleton (a : Truth) : any [a] = a := or_no a

theorem any_append (as bs : List Truth) : any (as ++ bs) = (any as).or (any bs) := by
  induction as with
  | nil => exact (no_or _).symm
  | cons a as ih => simp only [any, List.cons_append, List.foldr_cons, or_assoc] at ih ⊢; rw [ih]

theorem foldl_or (a : Truth) (ts : List Truth) : ts.foldl or a = a.or (any ts) := by
  induction ts generalizing a with
  | nil => exact (or_no a).symm
  | cons t ts ih => rw [List.foldl_cons, ih, or_assoc]; rfl

theorem any_map_unknown {β : Type} {xs : List β} (h : xs ≠ []) :
    any (xs.map fun _ => unknown) = unknown := by
  induction xs with
  | nil => exact absurd rfl h
  | cons x xs ih =>
    cases xs with
    | nil => rfl
    | cons y xs => rw [List.map_cons, any, List.foldr_cons, ← any, ih (by simp)]; rfl

theorem any_map_ofBool {β : Type} (p : β → Bool) (xs : List β) :
    any (xs.map fun x => ofBool (p x)) = ofBool (xs.any p) := by
  induction xs with
  | nil => rfl
  | cons x xs ih =>
    rw [List.map_cons, any, List.foldr_cons, ← any, ih, List.any_cons]
    cases p x <;> cases xs.any p <;> rfl

end Truth

/-- How the store compares what a column holds with a constant, and whether it fits a pattern. -/
structure Comparer (α : Type) where
  holds : Relation → α → Value → Bool
  fits : α → String → Bool

/-- What each column of a row holds, if it holds anything. -/
abbrev Row (α : Type) := String → Option α

variable {α : Type} (s : Comparer α) (row : Row α)

def Row.test (column : String) (p : α → Bool) : Truth :=
  match row column with
  | some x => .ofBool (p x)
  | none => .unknown

/-- A column against one value. To be in a list of one is to be equal to its element. -/
def single (op : Operator) (column : String) (v : Value) : Truth :=
  row.test column fun x =>
    match op with
    | .eq | .isIn => s.holds .eq x v
    | .ne | .notIn => s.holds .ne x v
    | .gt => s.holds .gt x v
    | .ge => s.holds .ge x v
    | .lt => s.holds .lt x v
    | .le => s.holds .le x v
    | .like => s.fits x (likePattern v)

def member (column : String) (vs : List Value) : Truth := .any (vs.map (single s row .eq column))

def comparisonMeaning (c : Comparison Value) : Truth :=
  match c.operator, c.operand with
  | .isIn, x => member s row c.subject x.toList
  | .notIn, x => (member s row c.subject x.toList).not
  | op, .single v => single s row op c.subject v
  | op, .list vs => .any (vs.map (single s row op c.subject))

def filterMeaning : Filter → Truth
  | .everything => .yes
  | .test c => comparisonMeaning s row c
  | .and l r => (filterMeaning l).and (filterMeaning r)
  | .or l r => (filterMeaning l).or (filterMeaning r)

/-- SQL's membership test: of an empty list it is false, of nothing it is unknown. -/
def Expr.inList (column : String) (vs : List Value) : Truth :=
  if vs = [] then .no else row.test column fun x => vs.any (s.holds .eq x)

def Expr.eval : Expr → Truth
  | constant b => .ofBool b
  | compare column relation v => row.test column (s.holds relation · v)
  | like column pattern => row.test column (s.fits · pattern)
  | isIn column negated vs =>
    if negated then (inList s row column vs).not else inList s row column vs
  | and l r => l.eval.and r.eval
  | or l r => l.eval.or r.eval

theorem inList_eq_member (column : String) (vs : List Value) :
    Expr.inList s row column vs = member s row column vs := by
  unfold Expr.inList member single Row.test
  split
  · next h =>
    subst h
    rfl
  · next h =>
    cases row column with
    | none => exact (Truth.any_map_unknown h).symm
    | some x => exact (Truth.any_map_ofBool _ vs).symm

theorem eval_foldl (e : Expr) (es : List Expr) :
    (es.foldl Expr.or e).eval s row = (es.map (Expr.eval s row)).foldl Truth.or (e.eval s row) := by
  induction es generalizing e with
  | nil => rfl
  | cons e' es ih => exact ih (.or e e')

theorem eval_anyOf (es : List Expr) :
    (Expr.anyOf es).eval s row = .any (es.map (Expr.eval s row)) := by
  cases es with
  | nil => rfl
  | cons e es =>
    rw [Expr.anyOf, eval_foldl, Truth.foldl_or]
    rfl

theorem eval_ofValue (op : Operator) (column : String) (v : Value) :
    (Expr.ofValue column op v).eval s row = single s row op column v := by
  cases op <;> rfl

theorem eval_anyOf_ofValue (op : Operator) (column : String) (vs : List Value) :
    (Expr.anyOf (vs.map (Expr.ofValue column op))).eval s row =
      .any (vs.map (single s row op column)) := by
  rw [eval_anyOf, List.map_map]
  congr 2
  funext v
  exact eval_ofValue s row op column v

theorem eval_ofComparison (c : Comparison Value) :
    (Expr.ofComparison c).eval s row = comparisonMeaning s row c := by
  obtain ⟨column, op, operand⟩ := c
  cases op with
  | isIn => exact inList_eq_member s row column operand.toList
  | notIn => exact congrArg Truth.not (inList_eq_member s row column operand.toList)
  | eq | ne | gt | ge | lt | le | like =>
    refine (eval_anyOf_ofValue s row _ column operand.toList).trans ?_
    cases operand with
    | single v => exact Truth.any_singleton _
    | list vs => rfl

/-- The store reads patterns by the rules of `Like`, over the text of what a column holds. -/
def Comparer.ReadsPatterns (text : α → String) : Prop :=
  ∀ x pattern, s.fits x pattern = true ↔ Like pattern.toList (text x).toList

theorem test_eq_ofBool_iff {column : String} {p : α → Bool} {b : Bool} :
    row.test column p = .ofBool b ↔ ∃ x, row column = some x ∧ p x = b := by
  rw [Row.test]
  cases row column with
  | none => cases b <;> simp [Truth.ofBool]
  | some x => cases b <;> cases h : p x <;> simp [Truth.ofBool, h]

theorem single_like_eq_ofBool_iff {text : α → String} (hs : s.ReadsPatterns text)
    {column g : String} {b : Bool} :
    single s row .like column (.text g) = .ofBool b ↔
      ∃ x, row column = some x ∧ (Glob g.toList (text x).toList ↔ b = true) := by
  have hglob (x : α) : s.fits x (likePattern (.text g)) = true ↔ Glob g.toList (text x).toList := by
    rw [hs, toList_likePattern, like_flatMap_iff]
  rw [single, test_eq_ofBool_iff]
  refine exists_congr fun x => and_congr_right fun _ => ?_
  rw [← hglob, Bool.eq_iff_iff]

/-- The condition for a text with stars holds of the rows in which the text matches what the column
holds, and fails of those in which it does not. -/
theorem eval_ofFilter_like_iff {text : α → String} (hs : s.ReadsPatterns text) (threshold : Nat)
    {column g : String} {b : Bool} :
    (Expr.ofFilter threshold (.test ⟨column, .like, .single (.text g)⟩)).1.eval s row = .ofBool b ↔
      ∃ x, row column = some x ∧ (Glob g.toList (text x).toList ↔ b = true) := by
  rw [Expr.ofFilter, eval_ofComparison]
  exact single_like_eq_ofBool_iff s row hs

theorem filterMeaning_of_equalities {f : Filter} {column : String} {vs : List Value}
    (h : Equalities column f vs) : filterMeaning s row f = member s row column vs := by
  induction h with
  | single v => exact (Truth.any_singleton _).symm
  | or _ _ ihl ihr =>
    rw [filterMeaning, ihl, ihr, member, member, member, List.map_append, Truth.any_append]

theorem eval_of_collapse {threshold : Nat} {f : Filter} {e : Expr} {c : Collapse}
    (h : collapse? threshold f = some (e, c)) : e.eval s row = filterMeaning s row f := by
  obtain ⟨column, vs, hf, -, rfl, -⟩ := collapse?_eq_some_iff.mp h
  rw [filterMeaning_of_equalities s row hf]
  exact inList_eq_member s row column vs

/-- The condition for a filter says of each row what the filter says of it, whatever the
threshold. -/
theorem eval_ofFilter (threshold : Nat) (f : Filter) :
    (Expr.ofFilter threshold f).1.eval s row = filterMeaning s row f := by
  induction f with
  | everything => rfl
  | test c => exact eval_ofComparison s row c
  | and l r ihl ihr =>
    simp only [Expr.ofFilter, Expr.eval, filterMeaning, ihl, ihr]
  | or l r ihl ihr =>
    rw [Expr.ofFilter]
    split
    · next hc => exact eval_of_collapse s row hc
    · simp only [Expr.eval, filterMeaning, ihl, ihr]

end FilterQuery.Sql
