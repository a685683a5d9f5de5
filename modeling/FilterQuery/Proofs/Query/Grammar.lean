import FilterQuery.Query.Parser

namespace FilterQuery.Query.Grammar

/-- The literal that a token stands for. A bare name is its own text. -/
inductive Names : Token.Kind → Literal → Prop
  | text (s : String) : Names (.text s) (.text s)
  | name (s : String) : Names (.name s) (.text s)
  | number (s : String) : Names (.number s) (.number s)
  | bool (b : Bool) : Names (.bool b) (.bool b)
  | date (s : String) : Names (.date s) (.date s)

inductive Literals : List Token.Kind → List Literal → Prop
  | one {k : Token.Kind} {l : Literal} (hk : Names k l) : Literals [k] [l]
  | more {ks : List Token.Kind} {ls : List Literal} {k : Token.Kind} {l : Literal}
      (hs : Literals ks ls) (hk : Names k l) : Literals (ks ++ [.comma, k]) (ls ++ [l])

/-- What may stand after an operator. The parentheses of a list are no group. -/
inductive Operands : Operator → List Token.Kind → Operand Literal → Prop
  | single {op : Operator} {k : Token.Kind} {l : Literal}
      (ho : op.takesList = false) (hk : Names k l) : Operands op [k] (.single l)
  | list {op : Operator} {ks : List Token.Kind} {ls : List Literal}
      (ho : op.takesList = true) (hs : Literals ks ls) :
      Operands op (.openParen :: ks ++ [.closeParen]) (.list ls)

inductive Level
  | term
  | conjunction
  | expression

/-- `Derives level n ks p`: the tokens `ks` spell the tree `p` on the given level, and at the
deepest place `n` groups stand inside one another. -/
inductive Derives : Level → Nat → List Token.Kind → Predicate → Prop
  | comparison {field : String} {op : Operator} {ks : List Token.Kind} {x : Operand Literal}
      (h : Operands op ks x) :
      Derives .term 0 (.name field :: .operator op :: ks) (.test ⟨field, op, x⟩)
  | group {n : Nat} {ks : List Token.Kind} {p : Predicate} (h : Derives .expression n ks p) :
      Derives .term (n + 1) (.openParen :: ks ++ [.closeParen]) p
  | conjunction {n : Nat} {ks : List Token.Kind} {p : Predicate} (h : Derives .term n ks p) :
      Derives .conjunction n ks p
  | and {n m : Nat} {ks ms : List Token.Kind} {p q : Predicate}
      (hp : Derives .conjunction n ks p) (hq : Derives .term m ms q) :
      Derives .conjunction (max n m) (ks ++ .and :: ms) (.and p q)
  | expression {n : Nat} {ks : List Token.Kind} {p : Predicate} (h : Derives .conjunction n ks p) :
      Derives .expression n ks p
  | or {n m : Nat} {ks ms : List Token.Kind} {p q : Predicate}
      (hp : Derives .expression n ks p) (hq : Derives .conjunction m ms q) :
      Derives .expression (max n m) (ks ++ .or :: ms) (.or p q)

theorem literal?_eq_some_iff {k : Token.Kind} {l : Literal} :
    k.literal? = some l ↔ Names k l := by
  constructor
  · intro h
    cases k <;> simp only [Token.Kind.literal?, Option.some.injEq, reduceCtorEq] at h <;>
      subst h <;> constructor
  · intro h
    cases h <;> rfl

theorem Literals.ne_nil {ks : List Token.Kind} {ls : List Literal} (h : Literals ks ls) :
    ls ≠ [] := by
  cases h <;> simp

def Within (level : Level) (n : Nat) (ks : List Token.Kind) (p : Predicate) : Prop :=
  ∃ m ≤ n, Derives level m ks p

namespace Within

variable {n : Nat} {ks ms : List Token.Kind} {p q : Predicate}

theorem mono {m : Nat} {level : Level} (h : Within level n ks p) (hnm : n ≤ m) :
    Within level m ks p := by
  obtain ⟨i, hi, hd⟩ := h
  exact ⟨i, Nat.le_trans hi hnm, hd⟩

theorem comparison {field : String} {op : Operator} {x : Operand Literal} (n : Nat)
    (h : Operands op ks x) :
    Within .term n (.name field :: .operator op :: ks) (.test ⟨field, op, x⟩) :=
  ⟨0, n.zero_le, .comparison h⟩

theorem group (h : Within .expression n ks p) :
    Within .term (n + 1) (.openParen :: ks ++ [.closeParen]) p := by
  obtain ⟨m, hm, hd⟩ := h
  exact ⟨m + 1, Nat.succ_le_succ hm, .group hd⟩

theorem conjunction (h : Within .term n ks p) : Within .conjunction n ks p := by
  obtain ⟨m, hm, hd⟩ := h
  exact ⟨m, hm, .conjunction hd⟩

theorem expression (h : Within .conjunction n ks p) : Within .expression n ks p := by
  obtain ⟨m, hm, hd⟩ := h
  exact ⟨m, hm, .expression hd⟩

theorem and (hp : Within .conjunction n ks p) (hq : Within .term n ms q) :
    Within .conjunction n (ks ++ .and :: ms) (.and p q) := by
  obtain ⟨i, hi, hp⟩ := hp
  obtain ⟨j, hj, hq⟩ := hq
  exact ⟨max i j, Nat.max_le.mpr ⟨hi, hj⟩, .and hp hq⟩

theorem or (hp : Within .expression n ks p) (hq : Within .conjunction n ms q) :
    Within .expression n (ks ++ .or :: ms) (.or p q) := by
  obtain ⟨i, hi, hp⟩ := hp
  obtain ⟨j, hj, hq⟩ := hq
  exact ⟨max i j, Nat.max_le.mpr ⟨hi, hj⟩, .or hp hq⟩

end Within

end FilterQuery.Query.Grammar
