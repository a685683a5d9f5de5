import FilterQuery.Proofs.Query.Grammar
import FilterQuery.Proofs.Results

namespace FilterQuery.Query

namespace Parser

open Grammar

/-- `Moves s k t`: in the state `s` the token `k` may come next and leads to `t`. -/
inductive Moves : State → Token.Kind → State → Prop
  | opening {outer : List Pending} {e : Pending} {n : Nat} (h : outer.length < maxNesting) :
      Moves ⟨outer, e, n, .term⟩ .openParen ⟨e :: outer, .empty, n, .term⟩
  | field {outer : List Pending} {e : Pending} {n : Nat} (f : String) (h : n < maxComparisons) :
      Moves ⟨outer, e, n, .term⟩ (.name f) ⟨outer, e, n + 1, .operator f⟩
  | operator {outer : List Pending} {e : Pending} {n : Nat} (f : String) {op : Operator}
      (h : op.takesList = false) :
      Moves ⟨outer, e, n, .operator f⟩ (.operator op) ⟨outer, e, n, .literal f op⟩
  | listOperator {outer : List Pending} {e : Pending} {n : Nat} (f : String) {op : Operator}
      (h : op.takesList = true) :
      Moves ⟨outer, e, n, .operator f⟩ (.operator op) ⟨outer, e, n, .listOpening f op⟩
  | literal {outer : List Pending} {e : Pending} {n : Nat} (f : String) (op : Operator)
      {k : Token.Kind} {l : Literal} (h : Names k l) :
      Moves ⟨outer, e, n, .literal f op⟩ k ⟨outer, e, n, .termEnd (.test ⟨f, op, .single l⟩)⟩
  | listOpening {outer : List Pending} {e : Pending} {n : Nat} (f : String) (op : Operator) :
      Moves ⟨outer, e, n, .listOpening f op⟩ .openParen ⟨outer, e, n, .listLiteral f op []⟩
  | listLiteral {outer : List Pending} {e : Pending} {n : Nat} (f : String) (op : Operator)
      (ls : List Literal) {k : Token.Kind} {l : Literal} (h : Names k l) :
      Moves ⟨outer, e, n, .listLiteral f op ls⟩ k ⟨outer, e, n, .listContinuation f op (ls ++ [l])⟩
  | comma {outer : List Pending} {e : Pending} {n : Nat} (f : String) (op : Operator)
      (ls : List Literal) :
      Moves ⟨outer, e, n, .listContinuation f op ls⟩ .comma ⟨outer, e, n, .listLiteral f op ls⟩
  | listClosing {outer : List Pending} {e : Pending} {n : Nat} (f : String) (op : Operator)
      (ls : List Literal) :
      Moves ⟨outer, e, n, .listContinuation f op ls⟩ .closeParen
        ⟨outer, e, n, .termEnd (.test ⟨f, op, .list ls⟩)⟩
  | and {outer : List Pending} {e : Pending} {n : Nat} (p : Predicate) :
      Moves ⟨outer, e, n, .termEnd p⟩ .and
        ⟨outer, ⟨e.disjuncts, some (e.conjunction p)⟩, n, .term⟩
  | or {outer : List Pending} {e : Pending} {n : Nat} (p : Predicate) :
      Moves ⟨outer, e, n, .termEnd p⟩ .or ⟨outer, ⟨some (e.expression p), none⟩, n, .term⟩
  | closing {outer : List Pending} {e outside : Pending} {n : Nat} (p : Predicate) :
      Moves ⟨outside :: outer, e, n, .termEnd p⟩ .closeParen
        ⟨outer, outside, n, .termEnd (e.expression p)⟩

theorem step_of_moves {s t : State} {k : Token.Kind} (h : Moves s k t) : s.step k = .ok t := by
  cases h with
  | opening h => exact if_pos h
  | field f h => exact if_pos h
  | operator f h | listOperator f h => simp [State.step, State.goto, h]
  | literal f op h => simp [State.step, State.complete, State.goto, literal?_eq_some_iff.mpr h]
  | listLiteral f op ls h => simp [State.step, State.goto, literal?_eq_some_iff.mpr h]
  | listOpening | comma | listClosing | and | or | closing => rfl

theorem moves_of_startTerm {outer : List Pending} {e : Pending} {n : Nat} {k : Token.Kind}
    {t : State} (h : State.startTerm ⟨outer, e, n, .term⟩ k = .ok t) :
    Moves ⟨outer, e, n, .term⟩ k t := by
  unfold State.startTerm at h
  split at h
  · split at h
    · next hd =>
      cases h
      exact .opening hd
    · cases h
  · split at h
    · next hc =>
      cases h
      exact .field _ hc
    · cases h
  · cases h

theorem moves_of_endTerm {outer : List Pending} {e : Pending} {n : Nat} {p : Predicate}
    {k : Token.Kind} {t : State} (h : State.endTerm ⟨outer, e, n, .termEnd p⟩ p k = .ok t) :
    Moves ⟨outer, e, n, .termEnd p⟩ k t := by
  unfold State.endTerm at h
  split at h
  · cases h
    exact .and p
  · cases h
    exact .or p
  · split at h
    · cases h
    · next ho _ _ =>
      cases ho
      cases h
      exact .closing p
    · cases h

theorem moves_of_step {s t : State} {k : Token.Kind} (h : s.step k = .ok t) : Moves s k t := by
  obtain ⟨outer, e, n, phase⟩ := s
  cases phase with
  | term => exact moves_of_startTerm h
  | operator f =>
    cases k with
    | operator op =>
      cases ho : op.takesList <;> simp only [State.step, ho, State.goto] at h <;> cases h
      · exact .operator f ho
      · exact .listOperator f ho
    | _ => cases h
  | literal f op =>
    simp only [State.step] at h
    split at h
    · next hl =>
      cases h
      exact .literal f op (literal?_eq_some_iff.mp hl)
    · cases h
  | listOpening f op =>
    simp only [State.step] at h
    split at h
    · next hk =>
      subst hk
      cases h
      exact .listOpening f op
    · cases h
  | listLiteral f op ls =>
    simp only [State.step] at h
    split at h
    · next hl =>
      cases h
      exact .listLiteral f op ls (literal?_eq_some_iff.mp hl)
    · cases h
  | listContinuation f op ls =>
    cases k with
    | comma =>
      cases h
      exact .comma f op ls
    | closeParen =>
      cases h
      exact .listClosing f op ls
    | _ => cases h
  | termEnd p => exact moves_of_endTerm h

theorem step_eq_ok_iff {s t : State} {k : Token.Kind} : s.step k = .ok t ↔ Moves s k t :=
  ⟨moves_of_step, step_of_moves⟩

namespace State

def advance (s : State) : List Token.Kind → Except Expected State
  | [] => .ok s
  | k :: ks =>
    match s.step k with
    | .ok s' => s'.advance ks
    | .error e => .error e

theorem advance_cons {s s' : State} {k : Token.Kind} (h : Moves s k s') (ks : List Token.Kind) :
    s.advance (k :: ks) = s'.advance ks := by
  simp only [advance, step_of_moves h]

theorem advance_single {s s' : State} {k : Token.Kind} (h : Moves s k s') :
    s.advance [k] = .ok s' :=
  advance_cons h []

theorem advance_append {s s' : State} {ks : List Token.Kind} (h : s.advance ks = .ok s')
    (ms : List Token.Kind) : s.advance (ks ++ ms) = s'.advance ms := by
  induction ks generalizing s with
  | nil =>
    cases h
    rfl
  | cons k ks ih =>
    simp only [List.cons_append, advance] at h ⊢
    split at h
    · exact ih h
    · cases h

theorem advance_append_error {s : State} {ks : List Token.Kind} {x : Expected}
    (h : s.advance ks = .error x) (ms : List Token.Kind) : s.advance (ks ++ ms) = .error x := by
  induction ks generalizing s with
  | nil => cases h
  | cons k ks ih =>
    simp only [List.cons_append, advance] at h ⊢
    split at h
    · exact ih h
    · exact h

theorem advance_append_eq_ok_iff {s t : State} {ks ms : List Token.Kind} :
    s.advance (ks ++ ms) = .ok t ↔ ∃ s', s.advance ks = .ok s' ∧ s'.advance ms = .ok t := by
  cases h : s.advance ks with
  | ok s' => simp [advance_append h]
  | error x => simp [advance_append_error h]

theorem advance_cons_eq_ok_iff {s t : State} {k : Token.Kind} {ks : List Token.Kind} :
    s.advance (k :: ks) = .ok t ↔ ∃ s', Moves s k s' ∧ s'.advance ks = .ok t := by
  simp only [← step_eq_ok_iff, advance]
  cases s.step k <;> simp

theorem invariant_of_advance (inv : State → List Token.Kind → Prop)
    (hstep : ∀ s ks k t, inv s ks → Moves s k t → inv t (ks ++ [k]))
    {s t : State} (before : List Token.Kind) {ks : List Token.Kind} (hs : inv s before)
    (h : s.advance ks = .ok t) : inv t (before ++ ks) := by
  induction ks generalizing s before with
  | nil =>
    cases h
    simpa using hs
  | cons k ks ih =>
    obtain ⟨s', hm, hr⟩ := advance_cons_eq_ok_iff.mp h
    simpa using ih (before ++ [k]) (hstep s before k s' hs hm) hr

theorem run_eq_ok_iff (s : State) (stop : Nat) (ts : List Token) (p : Predicate) :
    s.run stop ts = .ok p ↔ ∃ t, s.advance (ts.map Token.kind) = .ok t ∧ t.finish = .ok p := by
  induction ts generalizing s stop with
  | nil => simp only [run, mapError_eq_ok_iff, List.map_nil, advance, Except.ok.injEq,
      exists_eq_left']
  | cons t ts ih =>
    cases hs : s.step t.kind with
    | ok s' => simp only [List.map_cons, run, advance, hs, ih]
    | error e => simp [run, advance, hs]

end State

theorem finish_eq_ok_iff {s : State} {p : Predicate} :
    s.finish = .ok p ↔ s.outer = [] ∧ ∃ q, s.phase = .termEnd q ∧ s.current.expression q = p := by
  obtain ⟨outer, e, n, phase⟩ := s
  cases phase with
  | termEnd q => cases outer <;> simp [State.finish]
  | _ => simp [State.finish]

theorem parse_eq_ok_iff_advance {ts : List Token} (hts : ts ≠ []) {p : Predicate} :
    parse ts = .ok p ↔
      ∃ t, State.initial.advance (ts.map Token.kind) = .ok t ∧ t.finish = .ok p := by
  cases ts with
  | nil => exact absurd rfl hts
  | cons t ts => exact State.run_eq_ok_iff _ _ _ _

end Parser

end FilterQuery.Query
