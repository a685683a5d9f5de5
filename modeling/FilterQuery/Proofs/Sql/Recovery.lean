import FilterQuery.Proofs.Sql.Equalities
import FilterQuery.Proofs.Sql.Printing

namespace FilterQuery

def Criteria.operands {α : Type} (p : Criteria α) : List α :=
  p.comparisons.flatMap (·.operand.toList)

theorem Criteria.operands_test {α : Type} (c : Comparison α) :
    (test c).operands = c.operand.toList :=
  List.flatMap_singleton _ _

theorem Criteria.operands_and {α : Type} (l r : Criteria α) :
    (and l r).operands = l.operands ++ r.operands :=
  List.flatMap_append

theorem Criteria.operands_or {α : Type} (l r : Criteria α) :
    (or l r).operands = l.operands ++ r.operands :=
  List.flatMap_append

end FilterQuery

namespace FilterQuery.Sql

variable {letter : Char → Char}

namespace Reader

/-- How tight a phrase binds. -/
inductive Level
  | term
  | conjunction
  | condition
deriving DecidableEq, Repr

namespace State

def advance (s : State) (ts : List Token) : Option State := ts.foldlM step s

variable {s s' : State} {t : Token} {ts us : List Token}

theorem advance_cons (h : s.step t = some s') : s.advance (t :: ts) = s'.advance ts := by
  rw [advance, List.foldlM_cons, h]
  rfl

theorem advance_append (h : s.advance ts = some s') : s.advance (ts ++ us) = s'.advance us := by
  rw [advance, List.foldlM_append, ← advance, h]
  rfl

theorem run_of_advance (h : s.advance ts = some s') : s.run (ts ++ us) = s'.run us := by
  induction ts generalizing s with
  | nil =>
    cases h
    rfl
  | cons t ts ih =>
    obtain ⟨s₁, hs, h⟩ := Option.bind_eq_some_iff.mp h
    rw [List.cons_append, run, hs]
    exact ih h

end State

/-- The tokens are read as the phrase wherever one of the level may begin. Where a conjunction or a
condition ends, its last term is still in hand. -/
def Reads : Level → List Token → Phrase → Prop
  | .term, ts, e => ∀ outer p, State.advance ⟨outer, p, .start⟩ ts = some ⟨outer, p, .stop e⟩
  | .conjunction, ts, e => ∀ outer disjuncts, ∃ p q, p.disjuncts = disjuncts ∧ p.conjunction q = e ∧
      State.advance ⟨outer, ⟨disjuncts, none⟩, .start⟩ ts = some ⟨outer, p, .stop q⟩
  | .condition, ts, e => ∀ outer, ∃ p q, p.condition q = e ∧
      State.advance ⟨outer, .empty, .start⟩ ts = some ⟨outer, p, .stop q⟩

namespace Reads

variable {ts us : List Token} {e e' : Phrase}

theorem conjunction (h : Reads .term ts e) : Reads .conjunction ts e :=
  fun outer disjuncts => ⟨⟨disjuncts, none⟩, e, rfl, rfl, h outer _⟩

theorem condition (h : Reads .conjunction ts e) : Reads .condition ts e := by
  intro outer
  obtain ⟨p, q, hd, hc, ha⟩ := h outer none
  exact ⟨p, q, by rw [Pending.condition, hd, hc], ha⟩

theorem toCondition {level : Level} (h : Reads level ts e) : Reads .condition ts e := by
  cases level with
  | term => exact h.conjunction.condition
  | conjunction => exact h.condition
  | condition => exact h

theorem parenthesized (h : Reads .condition ts e) :
    Reads .term (.openParen :: (ts ++ [.closeParen])) e := by
  intro outer p
  obtain ⟨p', q, hq, ha⟩ := h (p :: outer)
  have hopen : State.step ⟨outer, p, .start⟩ .openParen = some ⟨p :: outer, .empty, .start⟩ := rfl
  rw [State.advance_cons hopen, State.advance_append ha, ← hq]
  rfl

theorem and (h : Reads .conjunction ts e) (h' : Reads .term us e') :
    Reads .conjunction (ts ++ .keyword .and :: us) (.and e e') := by
  intro outer disjuncts
  obtain ⟨p, q, hd, hc, ha⟩ := h outer disjuncts
  refine ⟨⟨disjuncts, some e⟩, e', rfl, rfl, ?_⟩
  rw [State.advance_append ha, ← hd, ← hc]
  exact h' outer _

theorem or (h : Reads .condition ts e) (h' : Reads .term us e') :
    Reads .condition (ts ++ .keyword .or :: us) (.or e e') := by
  intro outer
  obtain ⟨p, q, hq, ha⟩ := h outer
  refine ⟨⟨some e, none⟩, e', rfl, ?_⟩
  rw [State.advance_append ha, ← hq]
  exact h' outer _

end Reads

end Reader

namespace Expr

open Reader

/-- The expression as it is read back. An empty membership test is a comparison of numbers. -/
def phrase (letter : Char → Char) : Expr → Phrase
  | .constant b => .truth b
  | .compare column relation v => .compare (.column column) relation (.ofValue letter v)
  | .like column pattern => .like column (reread letter pattern) (reread letter "\\")
  | .isIn _ negated [] =>
    .compare (.constant (.number "1")) .eq (.number (if negated then "1" else "2"))
  | .isIn column negated vs => .isIn column negated (vs.map (.ofValue letter))
  | .and l r => .and (l.phrase letter) (r.phrase letter)
  | .or l r => .or (l.phrase letter) (r.phrase letter)

def level : Expr → Level
  | .and _ _ => .conjunction
  | .or _ _ => .condition
  | _ => .term

variable {ts : List Token} {p : Phrase}

theorem reads_conjuncts {e : Expr} (h : Reads e.level ts p) :
    Reads .conjunction (parenthesizedTokens e.isDisjunction ts) p := by
  cases e with
  | constant | compare | like | isIn => exact h.conjunction
  | and l r => exact h
  | or l r => exact h.parenthesized.conjunction

theorem reads_disjuncts {e : Expr} (h : Reads e.level ts p) :
    Reads .condition (parenthesizedTokens e.isConjunction ts) p := by
  cases e with
  | constant | compare | like | isIn => exact h.conjunction.condition
  | and l r => exact h.condition.parenthesized.conjunction.condition
  | or l r => exact h

theorem reads_operand {e : Expr} (h : Reads e.level ts p) :
    Reads .term (parenthesizedTokens e.isConnective ts) p := by
  cases e with
  | constant | compare | like | isIn => exact h
  | and l r => exact h.condition.parenthesized
  | or l r => exact h.parenthesized

theorem reads_compare (column : String) (r : Relation) (c : Constant) :
    Reads .term [.name column, .relation r, c.token] (.compare (.column column) r c) := by
  intro outer pending
  cases c with
  | text | number => rfl
  | bool b => cases b <;> rfl

variable {outer : List Pending} {pending : Pending} {column : String} {negated : Bool}
  {cs : List Constant}

theorem step_value (c : Constant) :
    State.step ⟨outer, pending, .value column negated cs⟩ c.token =
      some ⟨outer, pending, .valueEnd column negated (cs ++ [c])⟩ := by
  cases c with
  | text | number => rfl
  | bool b => cases b <;> rfl

theorem advance_values {ds : List Constant} (hne : ds ≠ []) :
    State.advance ⟨outer, pending, .value column negated cs⟩
        ((ds.map Constant.token).intersperse .comma) =
      some ⟨outer, pending, .valueEnd column negated (cs ++ ds)⟩ := by
  induction ds generalizing cs with
  | nil => exact absurd rfl hne
  | cons d ds ih =>
    cases ds with
    | nil => exact State.advance_cons (step_value d)
    | cons d' ds =>
      have hcomma : State.step ⟨outer, pending, .valueEnd column negated (cs ++ [d])⟩ .comma =
          some ⟨outer, pending, .value column negated (cs ++ [d])⟩ := rfl
      rw [List.map_cons, List.map_cons, List.intersperse_cons_cons,
        State.advance_cons (step_value d), State.advance_cons hcomma, ← List.map_cons, ih (by simp),
        List.append_assoc, List.singleton_append]

theorem reads_isIn (column : String) (negated : Bool) (vs : List Value) :
    Reads .term ((isIn column negated vs).tokens letter)
      ((isIn column negated vs).phrase letter) := by
  intro outer pending
  cases vs with
  | nil => cases negated <;> rfl
  | cons v vs =>
    let cs := (v :: vs).map (Constant.ofValue letter)
    have hopen : State.step ⟨outer, pending, .membership column negated⟩ .openParen =
        some ⟨outer, pending, .value column negated []⟩ := rfl
    have hvalues : State.advance ⟨outer, pending, .value column negated []⟩
        ((cs.map Constant.token).intersperse .comma) =
          some ⟨outer, pending, .valueEnd column negated cs⟩ := advance_values (by simp [cs])
    have hlist : State.advance ⟨outer, pending, .membership column negated⟩
        (.openParen :: ((cs.map Constant.token).intersperse .comma ++ [.closeParen])) =
          some ⟨outer, pending, .stop (.isIn column negated cs)⟩ := by
      rw [State.advance_cons hopen, State.advance_append hvalues]
      rfl
    rw [List.map_map] at hlist
    cases negated with
    | false => exact hlist
    | true => exact hlist

theorem reads_tokens (letter : Char → Char) (e : Expr) :
    Reads e.level (e.tokens letter) (e.phrase letter) := by
  induction e with
  | constant b => cases b <;> exact fun _ _ => rfl
  | compare column relation v => exact reads_compare column relation _
  | like column pattern => exact fun _ _ => rfl
  | isIn column negated vs => exact reads_isIn column negated vs
  | and l r ihl ihr => exact (reads_conjuncts ihl).and (reads_operand ihr)
  | or l r ihl ihr => exact (reads_disjuncts ihl).or (reads_operand ihr)

theorem run_tokens (letter : Char → Char) (e : Expr) {us : List Token}
    (hu : us.head?.all (· == .keyword .limit) = true) :
    ∃ s, State.initial.run (e.tokens letter ++ us) = (s, us) ∧
      s.finish? = some (e.phrase letter) := by
  obtain ⟨p, q, hq, ha⟩ := (reads_tokens letter e).toCondition []
  refine ⟨⟨[], p, .stop q⟩, ?_, congrArg some hq⟩
  refine (State.run_of_advance ha).trans ?_
  cases us with
  | nil => rfl
  | cons t us =>
    obtain rfl : t = .keyword .limit := by simpa using hu
    rfl

theorem values_foldl (e : Expr) (es : List Expr) :
    (es.foldl .or e).values = e.values ++ es.flatMap values := by
  induction es generalizing e with
  | nil => simp
  | cons e' es ih => rw [List.foldl_cons, ih, List.flatMap_cons, values, List.append_assoc]

theorem mem_of_mem_values_ofValue {column : String} {op : Operator} {v w : Value}
    (h : w ∈ (ofValue column op v).values) : w = v := by
  cases op with
  | like => cases h
  | _ => exact List.mem_singleton.mp h

theorem mem_of_mem_values_anyOf {column : String} {op : Operator} {vs : List Value} {w : Value}
    (h : w ∈ (anyOf (vs.map (ofValue column op))).values) : w ∈ vs := by
  cases vs with
  | nil => cases h
  | cons v vs =>
    rw [List.map_cons, anyOf, values_foldl, List.mem_append, List.mem_flatMap] at h
    obtain h | ⟨e, he, hw⟩ := h
    · rw [mem_of_mem_values_ofValue h]
      exact List.mem_cons_self
    · obtain ⟨x, hx, rfl⟩ := List.mem_map.mp he
      rw [mem_of_mem_values_ofValue hw]
      exact List.mem_cons_of_mem v hx

theorem mem_of_mem_values_ofComparison {c : Comparison Value} {v : Value}
    (h : v ∈ (ofComparison c).values) : v ∈ c.operand.toList := by
  obtain ⟨column, op, operand⟩ := c
  cases op with
  | isIn | notIn => exact h
  | _ => exact mem_of_mem_values_anyOf h

theorem operands_of_equalities {f : Filter} {column : String} {vs : List Value}
    (h : Equalities column f vs) : f.operands = vs := by
  induction h with
  | single v => exact Criteria.operands_test _
  | or _ _ ihl ihr => rw [Criteria.operands_or, ihl, ihr]

theorem mem_operands_of_collapse {threshold : Nat} {f : Filter} {e : Expr} {x : Collapse}
    {v : Value} (hc : collapse? threshold f = some (e, x)) (h : v ∈ e.values) :
    v ∈ f.operands := by
  obtain ⟨column, vs, hf, -, rfl, -⟩ := collapse?_eq_some_iff.mp hc
  rwa [operands_of_equalities hf]

theorem mem_operands_of_mem_values {threshold : Nat} {f : Filter} {v : Value}
    (h : v ∈ (ofFilter threshold f).1.values) : v ∈ f.operands := by
  induction f with
  | everything => cases h
  | test c =>
    rw [Criteria.operands_test]
    exact mem_of_mem_values_ofComparison h
  | and l r ihl ihr =>
    rw [Criteria.operands_and]
    exact List.mem_append.mpr ((List.mem_append.mp h).imp ihl ihr)
  | or l r ihl ihr =>
    rw [ofFilter] at h
    split at h
    · next hc => exact mem_operands_of_collapse hc h
    · rw [Criteria.operands_or]
      exact List.mem_append.mpr ((List.mem_append.mp h).imp ihl ihr)

end Expr

theorem Scope.table_ofFilter (table : String) (threshold : Nat) (f : Filter) :
    (Scope.ofFilter table threshold f).1.table = table := by
  cases f <;> rfl

theorem Scope.isFinite_of_mem_ofFilter {table : String} {threshold : Nat} {f : Filter}
    (h : ∀ v ∈ f.operands, v.isFinite = true) :
    ∀ e ∈ (Scope.ofFilter table threshold f).1.condition, ∀ v ∈ e.values, v.isFinite = true := by
  intro e he v hv
  rw [Scope.ofFilter] at he
  split at he
  · cases he
  · cases he
    exact h v (Expr.mem_operands_of_mem_values hv)

namespace Statement

theorem natural?_toString (n : Nat) : natural? (toString n) = some n := by
  rw [natural?, Decimal.digits_eq_toList, if_pos (Decimal.isDigits_digits n), Decimal.value_digits]

theorem window?_page (page : PageRequest) :
    window? [.keyword .limit, .number (toString page.size.toNat), .keyword .offset,
        .number (toString page.offset.toNat)] =
      some (some ⟨page.size.toNat, page.offset.toNat⟩) := by
  rw [window?, natural?_toString, natural?_toString]
  rfl

theorem ofScope?_conditionTokens (projection : Projection) (table : String)
    (condition : Option Expr) {us : List Token} {window : Option Window}
    (hw : window? us = some window) (hu : us.head?.all (· == .keyword .limit) = true) :
    ofScope? projection table (Scope.conditionTokens letter condition ++ us) =
        some ⟨projection, table, condition.map (Expr.phrase letter), window⟩ := by
  cases condition with
  | none =>
    cases us with
    | nil =>
      cases hw
      rfl
    | cons t us =>
      obtain rfl : t = .keyword .limit := by simpa using hu
      simp [Scope.conditionTokens, ofScope?, hw]
  | some e =>
    obtain ⟨s, hs, he⟩ := e.run_tokens letter hu
    simp [Scope.conditionTokens, ofScope?, hs, he, hw]

theorem read_select {s : Scope} (h : ∀ e ∈ s.condition, ∀ v ∈ e.values, v.isFinite = true)
    (page : PageRequest) :
    read letter (s.select page) = some ⟨.records, s.table, s.condition.map (Expr.phrase letter),
      some ⟨page.size.toNat, page.offset.toNat⟩⟩ := by
  rw [read, (s.lexes_select h page).tokens_eq]
  exact ofScope?_conditionTokens .records s.table s.condition (window?_page page) rfl

theorem read_count {s : Scope} (h : ∀ e ∈ s.condition, ∀ v ∈ e.values, v.isFinite = true) :
    read letter s.count = some ⟨.count, s.table, s.condition.map (Expr.phrase letter), none⟩ := by
  rw [read, (s.lexes_count h).tokens_eq, ← List.append_nil (s.tokens letter)]
  exact ofScope?_conditionTokens .count s.table s.condition rfl rfl

/-- The statements for a filter read back as the table, the page and the condition they were made
of, the condition with all its nesting and all its constants, whatever the letters behind
backslashes stand for. A text comes back as itself where these letters stand for the characters
that it was written with. -/
theorem read_ofFilter (letter : Char → Char) (table : String) (threshold : Nat) (f : Filter)
    (page : PageRequest) (h : ∀ v ∈ f.operands, v.isFinite = true) :
    let statements := Statements.ofFilter table threshold f page
    let condition := if f = .everything then none
      else some ((Expr.ofFilter threshold f).1.phrase letter)
    read letter statements.select =
        some ⟨.records, table, condition, some ⟨page.size.toNat, page.offset.toNat⟩⟩ ∧
      read letter statements.count = some ⟨.count, table, condition, none⟩ ∧
      ∀ s : String, (∀ c ∈ s.toList, ∀ l, escapeLetter? c = some l → letter l = c) →
        reread letter s = s := by
  intro statements condition
  let scope := (Scope.ofFilter table threshold f).1
  have htable : scope.table = table := Scope.table_ofFilter table threshold f
  have hscope : scope.condition =
      if f = .everything then none else some (Expr.ofFilter threshold f).1 := by
    cases f <;> rfl
  have hcondition : scope.condition.map (Expr.phrase letter) = condition := by
    rw [hscope, apply_ite (Option.map _)]
    rfl
  have hfinite : ∀ e ∈ scope.condition, ∀ v ∈ e.values, v.isFinite = true :=
    Scope.isFinite_of_mem_ofFilter h
  refine ⟨?_, ?_, fun s hs => reread_eq_self hs⟩
  · rw [← hcondition, ← htable]
    exact read_select hfinite page
  · rw [← hcondition, ← htable]
    exact read_count hfinite

theorem read_ofFilter_quotes :
    (∀ v ∈ Criteria.operands
        (.or (.test ⟨"c", .like, .single (.text "it's \\ 5%*")⟩)
          (.and (.test ⟨"d", .gt, .single (.decimal (.finite true 5 (-1)))⟩)
            (.test ⟨"e", .notIn, .list []⟩))), Value.isFinite v = true) ∧
      read id (Statements.ofFilter "a\"b" 5
          (.or (.test ⟨"c", .like, .single (.text "it's \\ 5%*")⟩)
            (.and (.test ⟨"d", .gt, .single (.decimal (.finite true 5 (-1)))⟩)
              (.test ⟨"e", .notIn, .list []⟩)))
          ⟨2, 7⟩).select =
        some ⟨.records, "a\"b",
          some (.or (.like "c" "it's \\\\ 5\\%%" "\\")
            (.and (.compare (.column "d") .gt (.number "-2.5"))
              (.compare (.constant (.number "1")) .eq (.number "1")))),
          some ⟨7, 14⟩⟩ := by
  refine ⟨by decide, (read_ofFilter id "a\"b" 5 _ ⟨2, 7⟩ (by decide)).1.trans ?_⟩
  decide +kernel

end Statement

end FilterQuery.Sql
