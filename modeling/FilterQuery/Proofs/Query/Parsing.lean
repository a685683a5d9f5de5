import FilterQuery.Proofs.Query.Moves

namespace FilterQuery.Query.Parser

open Grammar

theorem advance_literals {outer : List Pending} {e : Pending} {n : Nat} {field : String}
    {op : Operator} {ks : List Token.Kind} {ls : List Literal} (h : Literals ks ls) :
    State.advance ⟨outer, e, n, .listLiteral field op []⟩ ks =
      .ok ⟨outer, e, n, .listContinuation field op ls⟩ := by
  induction h with
  | one hk => exact State.advance_single (.listLiteral field op [] hk)
  | @more ks ls k l _ hk ih =>
    rw [State.advance_append ih, State.advance_cons (.comma field op ls),
      State.advance_single (.listLiteral field op ls hk)]

theorem advance_operands {outer : List Pending} {e : Pending} {n : Nat} {field : String}
    {op : Operator} {ks : List Token.Kind} {x : Operand Literal} (h : Operands op ks x) :
    State.advance ⟨outer, e, n, .operator field⟩ (.operator op :: ks) =
      .ok ⟨outer, e, n, .termEnd (.test ⟨field, op, x⟩)⟩ := by
  cases h with
  | single ho hk =>
    rw [State.advance_cons (.operator field ho), State.advance_single (.literal field op hk)]
  | @list ks ls ho hl =>
    rw [State.advance_cons (.listOperator field ho), List.cons_append,
      State.advance_cons (.listOpening field op), State.advance_append (advance_literals hl),
      State.advance_single (.listClosing field op ls)]

/-- What must be pending where a tree of the level begins. -/
def Ready : Level → Pending → Prop
  | .term, _ => True
  | .conjunction, e => e.conjuncts = none
  | .expression, e => e = .empty

/-- What is pending where the tree `p` of the level, begun after `e`, ends with the term `q`. -/
def Ends : Level → Pending → Predicate → Pending → Predicate → Prop
  | .term, e, p, e', q => e' = e ∧ q = p
  | .conjunction, e, p, e', q => e'.disjuncts = e.disjuncts ∧ e'.conjunction q = p
  | .expression, _, p, e', q => e'.expression q = p

theorem advance_of_derives {level : Level} {n : Nat} {ks : List Token.Kind} {p : Predicate}
    (h : Derives level n ks p) (outer : List Pending) (e : Pending) (count : Nat)
    (he : Ready level e) (hn : outer.length + n ≤ maxNesting)
    (hc : count + p.size ≤ maxComparisons) :
    ∃ e' q, Ends level e p e' q ∧
      State.advance ⟨outer, e, count, .term⟩ ks = .ok ⟨outer, e', count + p.size, .termEnd q⟩ := by
  -- what is open, pending and counted before the text differs from one part of it to the next
  induction h generalizing outer e count with
  | @comparison field op ks x hx =>
    have hlt : count < maxComparisons := hc
    refine ⟨e, _, ⟨rfl, rfl⟩, ?_⟩
    rw [State.advance_cons (.field field hlt), advance_operands hx]
    rfl
  | @group n ks p _ ih =>
    have hlt : outer.length < maxNesting := by omega
    obtain ⟨e', q, hq, ha⟩ := ih (e :: outer) .empty count rfl
      (by simp only [List.length_cons]; omega) hc
    have hp : e'.expression q = p := hq
    refine ⟨e, p, ⟨rfl, rfl⟩, ?_⟩
    rw [List.cons_append, State.advance_cons (.opening hlt), State.advance_append ha,
      State.advance_single (.closing q), hp]
  | conjunction _ ih =>
    obtain ⟨e', q, ⟨rfl, rfl⟩, ha⟩ := ih outer e count trivial hn hc
    have hnone : e'.conjuncts = none := he
    exact ⟨e', q, ⟨rfl, by simp [Pending.conjunction, hnone]⟩, ha⟩
  | @and n m ks ms p q _ _ ihp ihq =>
    have hsize : (Criteria.and p q).size = p.size + q.size := rfl
    rw [hsize] at hc ⊢
    obtain ⟨e₁, q₁, ⟨hd, hp⟩, ha₁⟩ := ihp outer e count he (by omega) (by omega)
    obtain ⟨e₂, q₂, ⟨rfl, rfl⟩, ha₂⟩ := ihq outer ⟨e₁.disjuncts, some p⟩ (count + p.size) trivial
      (by omega) (by omega)
    refine ⟨⟨e₁.disjuncts, some p⟩, q₂, ⟨hd, rfl⟩, ?_⟩
    rw [State.advance_append ha₁, State.advance_cons (.and q₁), hp, ha₂, Nat.add_assoc]
  | expression _ ih =>
    subst he
    obtain ⟨e', q, ⟨hd, hp⟩, ha⟩ := ih outer .empty count rfl hn hc
    refine ⟨e', q, ?_, ha⟩
    simp [Ends, Pending.expression, hd, Pending.empty, hp]
  | @or n m ks ms p q _ _ ihp ihq =>
    have hsize : (Criteria.or p q).size = p.size + q.size := rfl
    rw [hsize] at hc ⊢
    obtain ⟨e₁, q₁, hp, ha₁⟩ := ihp outer e count he (by omega) (by omega)
    have hp : e₁.expression q₁ = p := hp
    obtain ⟨e₂, q₂, ⟨hd, hq⟩, ha₂⟩ := ihq outer ⟨some p, none⟩ (count + p.size) rfl
      (by omega) (by omega)
    refine ⟨e₂, q₂, by simp [Ends, Pending.expression, hd, hq], ?_⟩
    rw [State.advance_append ha₁, State.advance_cons (.or q₁), hp, ha₂, Nat.add_assoc]

/-- The tokens `ks` spell the part of a tree that stands before a connective, with the connective;
or there is no such part. -/
def Leads (level : Level) (n : Nat) (connective : Token.Kind) (ks : List Token.Kind) :
    Option Predicate → Prop
  | none => ks = []
  | some p => ∃ ms, ks = ms ++ [connective] ∧ Within level n ms p

/-- The tokens `ks` spell what is pending: its disjuncts and then its conjuncts. -/
def Pends (n : Nat) (ks : List Token.Kind) (e : Pending) : Prop :=
  ∃ ds cs, ks = ds ++ cs ∧ Leads .expression n .or ds e.disjuncts ∧
    Leads .conjunction n .and cs e.conjuncts

variable {n : Nat} {ks ms : List Token.Kind} {e : Pending} {p : Predicate}

theorem pends_empty (n : Nat) : Pends n [] .empty := ⟨[], [], rfl, rfl, rfl⟩

theorem Leads.conjunction (hk : Leads .conjunction n .and ks e.conjuncts)
    (hm : Within .term n ms p) : Within .conjunction n (ks ++ ms) (e.conjunction p) := by
  rw [Pending.conjunction]
  cases he : e.conjuncts with
  | none =>
    rw [he] at hk
    rw [show ks = [] from hk]
    exact hm.conjunction
  | some l =>
    rw [he] at hk
    obtain ⟨ls, rfl, hl⟩ := hk
    simpa using hl.and hm

theorem Pends.expression (hk : Pends n ks e) (hm : Within .term n ms p) :
    Within .expression n (ks ++ ms) (e.expression p) := by
  obtain ⟨ds, cs, rfl, hd, hc⟩ := hk
  have hj := hc.conjunction hm
  rw [Pending.expression]
  cases he : e.disjuncts with
  | none =>
    rw [he] at hd
    rw [show ds = [] from hd]
    exact hj.expression
  | some l =>
    rw [he] at hd
    obtain ⟨ls, rfl, hl⟩ := hd
    simpa using hl.or hj

theorem Pends.and (hk : Pends n ks e) (hm : Within .term n ms p) :
    Pends n (ks ++ ms ++ [.and]) ⟨e.disjuncts, some (e.conjunction p)⟩ := by
  obtain ⟨ds, cs, rfl, hd, hc⟩ := hk
  exact ⟨ds, cs ++ ms ++ [.and], by simp, hd, cs ++ ms, rfl, hc.conjunction hm⟩

theorem Pends.or (hk : Pends n ks e) (hm : Within .term n ms p) :
    Pends n (ks ++ ms ++ [.or]) ⟨some (e.expression p), none⟩ :=
  ⟨ks ++ ms ++ [.or], [], by simp, ⟨ks ++ ms, rfl, hk.expression hm⟩, rfl⟩

/-- The tokens `ks` spell what stands around the open groups, each up to its parenthesis. -/
inductive Opened : List Pending → List Token.Kind → Prop
  | nil : Opened [] []
  | cons {outer : List Pending} {e : Pending} {ks ms : List Token.Kind} (ho : Opened outer ks)
      (hd : outer.length < maxNesting) (he : Pends (maxNesting - outer.length) ms e) :
      Opened (e :: outer) (ks ++ ms ++ [.openParen])

/-- The tokens `ks` begin the term in hand and lead to the phase. -/
inductive Begins (n : Nat) : List Token.Kind → Phase → Prop
  | term : Begins n [] .term
  | operator (f : String) : Begins n [.name f] (.operator f)
  | literal (f : String) {op : Operator} (ho : op.takesList = false) :
      Begins n [.name f, .operator op] (.literal f op)
  | listOpening (f : String) {op : Operator} (ho : op.takesList = true) :
      Begins n [.name f, .operator op] (.listOpening f op)
  | listStart (f : String) {op : Operator} (ho : op.takesList = true) :
      Begins n [.name f, .operator op, .openParen] (.listLiteral f op [])
  | listComma (f : String) {op : Operator} {ks : List Token.Kind} {ls : List Literal}
      (ho : op.takesList = true) (hs : Literals ks ls) :
      Begins n (.name f :: .operator op :: .openParen :: (ks ++ [.comma])) (.listLiteral f op ls)
  | listContinuation (f : String) {op : Operator} {ks : List Token.Kind} {ls : List Literal}
      (ho : op.takesList = true) (hs : Literals ks ls) :
      Begins n (.name f :: .operator op :: .openParen :: ks) (.listContinuation f op ls)
  | termEnd {ks : List Token.Kind} {p : Predicate} (h : Within .term n ks p) :
      Begins n ks (.termEnd p)

/-- The tokens `ks` spell all that the state holds. -/
inductive Spells (ks : List Token.Kind) : State → Prop
  | intro {outer : List Pending} {e : Pending} {count : Nat} {phase : Phase}
      {as bs cs : List Token.Kind} (hks : ks = as ++ bs ++ cs) (ho : Opened outer as)
      (he : Pends (maxNesting - outer.length) bs e)
      (hp : Begins (maxNesting - outer.length) cs phase) : Spells ks ⟨outer, e, count, phase⟩

theorem spells_initial : Spells [] State.initial :=
  .intro rfl .nil (pends_empty _) .term

theorem Spells.snoc {outer : List Pending} {count : Nat} {phase : Phase} {k : Token.Kind}
    {as bs cs cs' : List Token.Kind} (hks : ks = as ++ bs ++ cs) (ho : Opened outer as)
    (he : Pends (maxNesting - outer.length) bs e)
    (hp : Begins (maxNesting - outer.length) cs' phase) (hcs : cs' = cs ++ [k]) :
    Spells (ks ++ [k]) ⟨outer, e, count, phase⟩ := by
  refine .intro ?_ ho he hp
  rw [hks, hcs, List.append_assoc]

theorem Spells.closing {outer : List Pending} {outside : Pending} {count count' : Nat}
    (h : Spells ks ⟨outside :: outer, e, count, .termEnd p⟩) :
    Spells (ks ++ [.closeParen]) ⟨outer, outside, count', .termEnd (e.expression p)⟩ := by
  cases h with
  | intro hks ho he hp =>
    cases hp with
    | @termEnd cs _ hw =>
      cases ho with
      | @cons _ _ as bs ho hd hb =>
        have hg := (he.expression hw).group
        have hn : maxNesting - (outside :: outer).length + 1 = maxNesting - outer.length := by
          simp only [List.length_cons]
          omega
        rw [hn] at hg
        refine .intro ?_ ho hb (.termEnd hg)
        simp [hks]

theorem Spells.moves {s t : State} {k : Token.Kind} (h : Spells ks s) (hm : Moves s k t) :
    Spells (ks ++ [k]) t := by
  -- the phase before the token tells which tokens of the term stand there already
  cases hm with
  | closing p => exact h.closing
  | opening hd =>
    obtain ⟨hks, ho, he, hp⟩ := h
    cases hp
    exact .intro (by simp [hks]) (.cons ho hd he) (pends_empty _) .term
  | field f _ =>
    obtain ⟨hks, ho, he, hp⟩ := h
    cases hp
    exact .snoc hks ho he (.operator f) rfl
  | operator f hop =>
    obtain ⟨hks, ho, he, hp⟩ := h
    cases hp
    exact .snoc hks ho he (.literal f hop) rfl
  | listOperator f hop =>
    obtain ⟨hks, ho, he, hp⟩ := h
    cases hp
    exact .snoc hks ho he (.listOpening f hop) rfl
  | literal f op hl =>
    obtain ⟨hks, ho, he, hp⟩ := h
    cases hp with
    | literal _ hop => exact .snoc hks ho he (.termEnd (.comparison _ (.single hop hl))) rfl
  | listOpening f op =>
    obtain ⟨hks, ho, he, hp⟩ := h
    cases hp with
    | listOpening _ hop => exact .snoc hks ho he (.listStart f hop) rfl
  | listLiteral f op ls hl =>
    obtain ⟨hks, ho, he, hp⟩ := h
    cases hp with
    | listStart _ hop => exact .snoc hks ho he (.listContinuation f hop (.one hl)) rfl
    | listComma _ hop hs =>
      exact .snoc hks ho he (.listContinuation f hop (.more hs hl)) (by simp)
  | comma f op ls =>
    obtain ⟨hks, ho, he, hp⟩ := h
    cases hp with
    | listContinuation _ hop hs => exact .snoc hks ho he (.listComma f hop hs) rfl
  | listClosing f op ls =>
    obtain ⟨hks, ho, he, hp⟩ := h
    cases hp with
    | listContinuation _ hop hs =>
      exact .snoc hks ho he (.termEnd (.comparison _ (.list hop hs))) rfl
  | and p =>
    obtain ⟨hks, ho, he, hp⟩ := h
    cases hp with
    | termEnd hw => exact .intro (by simp [hks]) ho (he.and hw) .term
  | or p =>
    obtain ⟨hks, ho, he, hp⟩ := h
    cases hp with
    | termEnd hw => exact .intro (by simp [hks]) ho (he.or hw) .term

def Pending.size (e : Pending) : Nat :=
  e.disjuncts.elim 0 Criteria.size + e.conjuncts.elim 0 Criteria.size

def Phase.size : Phase → Nat
  | .term => 0
  | .termEnd p => p.size
  | _ => 1

theorem size_conjunction (e : Pending) (p : Predicate) :
    (e.conjunction p).size = e.conjuncts.elim 0 Criteria.size + p.size := by
  rw [Pending.conjunction]
  cases e.conjuncts <;> simp [Criteria.size]

theorem size_expression (e : Pending) (p : Predicate) :
    (e.expression p).size = e.size + p.size := by
  unfold Pending.expression Pending.size
  cases e.disjuncts <;> simp [Criteria.size, size_conjunction, Nat.add_assoc]

def sizeOfGroups : List Pending → Nat
  | [] => 0
  | e :: outer => e.size + sizeOfGroups outer

structure Counts (s : State) : Prop where
  comparisons_eq : s.comparisons = sizeOfGroups s.outer + s.current.size + s.phase.size
  comparisons_le : s.comparisons ≤ maxComparisons

theorem counts_initial : Counts State.initial := ⟨rfl, Nat.zero_le _⟩

theorem Counts.moves {s t : State} {k : Token.Kind} (h : Counts s) (hm : Moves s k t) :
    Counts t := by
  obtain ⟨he, hl⟩ := h
  cases hm with
  | field f hc => exact ⟨congrArg (· + 1) he, hc⟩
  | opening =>
    refine ⟨?_, hl⟩
    simp only [sizeOfGroups, Phase.size] at he ⊢
    rw [he, Nat.add_comm (sizeOfGroups _)]
    rfl
  | closing p =>
    refine ⟨?_, hl⟩
    simp only [sizeOfGroups, Phase.size, size_expression] at he ⊢
    omega
  | and p =>
    refine ⟨?_, hl⟩
    simp only [Phase.size, Pending.size, Option.elim, size_conjunction] at he ⊢
    omega
  | or p =>
    refine ⟨?_, hl⟩
    simp only [Phase.size, Pending.size, Option.elim, size_expression] at he ⊢
    omega
  | operator | listOperator | literal | listOpening | listLiteral | comma | listClosing =>
    exact ⟨he, hl⟩

/-- The tokens spell the tree within the limits; no tokens ask for everything. -/
def Accepted (ks : List Token.Kind) (p : Predicate) : Prop :=
  ks = [] ∧ p = .everything ∨ ∃ depth ≤ 32, Derives .expression depth ks p ∧ p.size ≤ 256

theorem derives_ne_nil {level : Level} {n : Nat} {ks : List Token.Kind} {p : Predicate}
    (h : Derives level n ks p) : ks ≠ [] := by
  induction h with
  | comparison | group => simp
  | conjunction _ ih | expression _ ih => exact ih
  | and | or => simp

theorem parse_of_derives {ts : List Token} {depth : Nat} {p : Predicate} (hd : depth ≤ maxNesting)
    (h : Derives .expression depth (ts.map Token.kind) p) (hc : p.size ≤ maxComparisons) :
    parse ts = .ok p := by
  have hts : ts ≠ [] := fun hts => derives_ne_nil h (by rw [hts, List.map_nil])
  obtain ⟨e, q, hq, ha⟩ := advance_of_derives h [] .empty 0 rfl (by simpa using hd)
    (by simpa using hc)
  exact (parse_eq_ok_iff_advance hts).mpr ⟨_, ha, finish_eq_ok_iff.mpr ⟨rfl, q, rfl, hq⟩⟩

theorem spells_of_advance {ks : List Token.Kind} {s : State}
    (h : State.initial.advance ks = .ok s) : Spells ks s :=
  State.invariant_of_advance (fun s ks => Spells ks s) (fun _ _ _ _ hs hm => hs.moves hm)
    [] spells_initial h

theorem counts_of_advance {ks : List Token.Kind} {s : State}
    (h : State.initial.advance ks = .ok s) : Counts s :=
  State.invariant_of_advance (fun s _ => Counts s) (fun _ _ _ _ hs hm => hs.moves hm)
    [] counts_initial h

theorem within_of_parse {ts : List Token} {p : Predicate} (hts : ts ≠ [])
    (h : parse ts = .ok p) :
    Within .expression maxNesting (ts.map Token.kind) p ∧ p.size ≤ maxComparisons := by
  obtain ⟨⟨outer, e, n, phase⟩, ha, hf⟩ := (parse_eq_ok_iff_advance hts).mp h
  obtain ⟨ho, q, hq, hp⟩ := finish_eq_ok_iff.mp hf
  have hs := spells_of_advance ha
  have hc := counts_of_advance ha
  cases ho
  cases hq
  cases hp
  constructor
  · obtain ⟨hks, ho, he, hb⟩ := hs
    cases ho
    cases hb with
    | termEnd hw => simpa [hks] using he.expression hw
  · have := hc.comparisons_eq
    have := hc.comparisons_le
    simp only [sizeOfGroups, Phase.size] at *
    rw [size_expression]
    omega

/-- The parser accepts a list of tokens exactly where it spells a tree within the limits, and
answers with that tree; there is no other. -/
theorem parse_eq_ok_iff_accepted (ts : List Token) :
    (∀ p, parse ts = .ok p ↔ Accepted (ts.map Token.kind) p) ∧
      ∀ p q, Accepted (ts.map Token.kind) p → Accepted (ts.map Token.kind) q → p = q := by
  have hiff (p : Predicate) : parse ts = .ok p ↔ Accepted (ts.map Token.kind) p := by
    constructor
    · intro h
      by_cases hts : ts = []
      · subst hts
        cases h
        exact .inl ⟨rfl, rfl⟩
      · obtain ⟨⟨depth, hd, hp⟩, hc⟩ := within_of_parse hts h
        exact .inr ⟨depth, hd, hp, hc⟩
    · rintro (⟨hks, rfl⟩ | ⟨depth, hd, hp, hc⟩)
      · rw [List.map_eq_nil_iff.mp hks]
        rfl
      · exact parse_of_derives hd hp hc
  refine ⟨hiff, fun p q hp hq => ?_⟩
  have h := ((hiff p).mpr hp).symm.trans ((hiff q).mpr hq)
  exact Except.ok.inj h

end FilterQuery.Query.Parser
