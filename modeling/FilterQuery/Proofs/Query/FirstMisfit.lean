import FilterQuery.Proofs.Query.Parsing

namespace FilterQuery.Query.Parser

open Grammar

/-- The tokens begin a text of the grammar in which groups stand at most 32 deep. -/
def Viable (ks : List Token.Kind) : Prop :=
  ∃ ms p, ∃ depth ≤ 32, Derives .expression depth (ks ++ ms) p

theorem Begins.completed {n : Nat} {ks : List Token.Kind} {phase : Phase}
    (h : Begins n ks phase) : ∃ ms p, Within .term n (ks ++ ms) p := by
  have one : Literals [.bool true] [.bool true] := .one (.bool true)
  cases h with
  | term =>
    exact ⟨[.name "", .operator .eq, .bool true], _, .comparison n (.single rfl (.bool true))⟩
  | operator f =>
    exact ⟨[.operator .eq, .bool true], _, .comparison n (.single rfl (.bool true))⟩
  | literal f ho => exact ⟨[.bool true], _, .comparison n (.single ho (.bool true))⟩
  | listOpening f ho =>
    exact ⟨[.openParen, .bool true, .closeParen], _, .comparison n (.list ho one)⟩
  | listStart f ho => exact ⟨[.bool true, .closeParen], _, .comparison n (.list ho one)⟩
  | listComma f ho hs =>
    have hx := Operands.list ho (hs.more (.bool true))
    have hw : Within .term n (.name f :: _) _ := .comparison n hx
    exact ⟨[.bool true, .closeParen], _, by simpa using hw⟩
  | listContinuation f ho hs =>
    exact ⟨[.closeParen], _, Within.comparison n (.list ho hs)⟩
  | termEnd hw => exact ⟨[], _, by simpa using hw⟩

theorem Opened.completed {outer : List Pending} {ks ms : List Token.Kind} {p : Predicate}
    (h : Opened outer ks) (hw : Within .expression (maxNesting - outer.length) ms p) :
    ∃ ns q, Within .expression maxNesting (ks ++ ms ++ ns) q := by
  induction h generalizing ms p with
  | nil => exact ⟨[], p, by simpa using hw⟩
  | @cons outer e ks bs _ hd he ih =>
    have hn : maxNesting - (e :: outer).length + 1 = maxNesting - outer.length := by
      simp only [List.length_cons]
      omega
    have hg := hw.group
    rw [hn] at hg
    obtain ⟨ns, q, hq⟩ := ih (he.expression hg)
    exact ⟨.closeParen :: ns, q, by simpa using hq⟩

theorem Spells.viable {ks : List Token.Kind} {s : State} (h : Spells ks s) : Viable ks := by
  obtain ⟨rfl, ho, he, hb⟩ := h
  obtain ⟨ms, p, hp⟩ := hb.completed
  obtain ⟨ns, q, depth, hd, hq⟩ := ho.completed (he.expression hp)
  exact ⟨ms ++ ns, q, depth, hd, by simpa using hq⟩

def lastStop (stop : Nat) : List Token → Nat
  | [] => stop
  | t :: ts => lastStop t.span.stop ts

theorem lastStop_concat (stop : Nat) (ts : List Token) (t : Token) :
    lastStop stop (ts ++ [t]) = t.span.stop := by
  induction ts generalizing stop with
  | nil => rfl
  | cons u ts ih => exact ih u.span.stop

namespace State

theorem run_append {s s' : State} {before : List Token}
    (h : s.advance (before.map Token.kind) = .ok s') (stop : Nat) (ts : List Token) :
    s.run stop (before ++ ts) = s'.run (lastStop stop before) ts := by
  induction before generalizing s stop with
  | nil =>
    cases h
    rfl
  | cons t before ih =>
    obtain ⟨s₁, hm, hs⟩ := advance_cons_eq_ok_iff.mp h
    rw [List.cons_append, run, step_of_moves hm]
    exact ih hs t.span.stop

/-- A run fails at a token that it cannot go on with, or at the end of the tokens. -/
inductive Fails (s : State) (stop : Nat) : List Token → ParseError → Prop
  | token {s' : State} {expected : Expected} (before : List Token) {t : Token}
      (ha : s.advance (before.map Token.kind) = .ok s') (hx : s'.step t.kind = .error expected)
      (after : List Token) :
      Fails s stop (before ++ t :: after) ⟨t.span.start, expected, some t.kind⟩
  | atEnd {s' : State} {expected : Expected} {ts : List Token}
      (ha : s.advance (ts.map Token.kind) = .ok s') (hx : s'.finish = .error expected) :
      Fails s stop ts ⟨lastStop stop ts, expected, none⟩

theorem Fails.cons {s s' : State} {t : Token} (hm : Moves s t.kind s') {stop : Nat}
    {ts : List Token} {e : ParseError} (h : Fails s' t.span.stop ts e) :
    Fails s stop (t :: ts) e := by
  cases h with
  | token before ha hx after =>
    have ha' := (advance_cons hm (before.map Token.kind)).trans ha
    exact .token (t :: before) ha' hx after
  | atEnd ha hx =>
    have ha' := (advance_cons hm (ts.map Token.kind)).trans ha
    exact .atEnd ha' hx

theorem run_eq_error_iff {s : State} {stop : Nat} {ts : List Token} {e : ParseError} :
    s.run stop ts = .error e ↔ Fails s stop ts e := by
  constructor
  · intro h
    induction ts generalizing s stop with
    | nil =>
      rw [run] at h
      cases hf : s.finish with
      | ok p =>
        rw [hf] at h
        cases h
      | error expected =>
        rw [hf] at h
        cases h
        exact .atEnd rfl hf
    | cons t ts ih =>
      rw [run] at h
      cases hs : s.step t.kind with
      | ok s' =>
        rw [hs] at h
        exact .cons (moves_of_step hs) (ih h)
      | error expected =>
        rw [hs] at h
        cases h
        exact .token [] rfl hs ts
  · rintro (⟨before, ha, hx, after⟩ | ⟨ha, hx⟩)
    · rw [run_append ha, run, hx]
    · have hrun := run_append ha stop []
      rw [List.append_nil] at hrun
      rw [hrun, run, hx]
      rfl

end State

theorem parse_eq_error_iff {ts : List Token} {e : ParseError} :
    parse ts = .error e ↔ ts ≠ [] ∧ State.Fails .initial 0 ts e := by
  cases ts with
  | nil => simp [parse]
  | cons t ts =>
    rw [parse, State.run_eq_error_iff]
    · simp
    · exact List.cons_ne_nil t ts

/-- `BeforeTerm n count ks`: a term may stand behind the tokens `ks`, inside `n` open groups and
after `count` comparisons. Within the tokens both limits are kept. -/
inductive BeforeTerm : Nat → Nat → List Token.Kind → Prop
  | start : BeforeTerm 0 0 []
  | opening {n count : Nat} {ks : List Token.Kind} (h : BeforeTerm n count ks) (hn : n < 32) :
      BeforeTerm (n + 1) count (ks ++ [.openParen])
  | connective {n count depth : Nat} {ks ms : List Token.Kind} {p : Predicate} {k : Token.Kind}
      (h : BeforeTerm n count ks) (hp : Derives .term depth ms p) (hd : n + depth ≤ 32)
      (hc : count + p.size ≤ 256) (hk : k = .and ∨ k = .or) :
      BeforeTerm n (count + p.size) (ks ++ ms ++ [k])

theorem BeforeTerm.derives {level : Level} {depth : Nat} {ms : List Token.Kind} {p : Predicate}
    (hp : Derives level depth ms p) {n count : Nat} {ks : List Token.Kind} {k : Token.Kind}
    (h : BeforeTerm n count ks) (hd : n + depth ≤ 32) (hc : count + p.size ≤ 256)
    (hk : k = .and ∨ k = .or) : BeforeTerm n (count + p.size) (ks ++ ms ++ [k]) := by
  induction hp generalizing count ks k with
  | comparison hx => exact h.connective (.comparison hx) hd hc hk
  | group hp => exact h.connective (.group hp) hd hc hk
  | conjunction _ ih | expression _ ih => exact ih h hd hc hk
  | @and _ _ _ _ p q _ _ ihp ihq =>
    have hsize : (Criteria.and p q).size = p.size + q.size := rfl
    rw [hsize, ← Nat.add_assoc] at hc ⊢
    have hl := ihp h (by omega) (by omega) (.inl rfl)
    simpa using ihq hl (by omega) hc hk
  | @or _ _ _ _ p q _ _ ihp ihq =>
    have hsize : (Criteria.or p q).size = p.size + q.size := rfl
    rw [hsize, ← Nat.add_assoc] at hc ⊢
    have hl := ihp h (by omega) (by omega) (.inr rfl)
    simpa using ihq hl (by omega) hc hk

theorem BeforeTerm.leads {level : Level} {n count : Nat} {ks ms : List Token.Kind}
    {k : Token.Kind} {p : Option Predicate} (h : BeforeTerm n count ks)
    (hm : Leads level (maxNesting - n) k ms p) (hn : n ≤ maxNesting)
    (hc : count + p.elim 0 Criteria.size ≤ maxComparisons) (hk : k = .and ∨ k = .or) :
    BeforeTerm n (count + p.elim 0 Criteria.size) (ks ++ ms) := by
  cases p with
  | none =>
    rw [show ms = [] from hm]
    simpa using h
  | some p =>
    obtain ⟨ls, rfl, depth, hd, hp⟩ := hm
    have hd : n + depth ≤ maxNesting := by omega
    simpa using h.derives hp hd hc hk

theorem BeforeTerm.pends {n count : Nat} {ks ms : List Token.Kind} {e : Pending}
    (h : BeforeTerm n count ks) (hm : Pends (maxNesting - n) ms e) (hn : n ≤ maxNesting)
    (hc : count + e.size ≤ maxComparisons) : BeforeTerm n (count + e.size) (ks ++ ms) := by
  obtain ⟨ds, cs, rfl, hd, hcs⟩ := hm
  unfold Pending.size at hc ⊢
  rw [← Nat.add_assoc] at hc ⊢
  have hds := h.leads hd hn (by omega) (.inr rfl)
  simpa using hds.leads hcs hn hc (.inl rfl)

theorem beforeTerm_of_opened {outer : List Pending} {ks : List Token.Kind} (h : Opened outer ks)
    (hc : sizeOfGroups outer ≤ maxComparisons) :
    outer.length ≤ maxNesting ∧ BeforeTerm outer.length (sizeOfGroups outer) ks := by
  induction h with
  | nil => exact ⟨Nat.zero_le _, .start⟩
  | @cons outer e _ _ _ hd he ih =>
    simp only [sizeOfGroups] at hc ⊢
    obtain ⟨hn, hb⟩ := ih (by omega)
    have hp := hb.pends he hn (by omega)
    rw [Nat.add_comm e.size]
    exact ⟨hd, hp.opening hd⟩

/-- The parser waits for a term exactly where one may stand, and knows how many groups are open and
how many comparisons were read. -/
theorem advance_term_iff {n count : Nat} {ks : List Token.Kind} :
    (∃ outer e, outer.length = n ∧ State.initial.advance ks = .ok ⟨outer, e, count, .term⟩) ↔
      BeforeTerm n count ks := by
  constructor
  · rintro ⟨outer, e, rfl, ha⟩
    obtain ⟨hcount, hle⟩ := counts_of_advance ha
    have hsize : count = sizeOfGroups outer + e.size := hcount
    subst hsize
    obtain ⟨rfl, ho, he, hb⟩ := spells_of_advance ha
    cases hb
    have hle : sizeOfGroups outer + e.size ≤ maxComparisons := hle
    obtain ⟨hn, hopened⟩ := beforeTerm_of_opened ho (by omega)
    simpa using hopened.pends he hn hle
  · intro h
    induction h with
    | start => exact ⟨[], .empty, rfl, rfl⟩
    | @opening n count ks _ hn ih =>
      obtain ⟨outer, e, rfl, ha⟩ := ih
      refine ⟨e :: outer, .empty, rfl, ?_⟩
      rw [State.advance_append ha, State.advance_single (.opening hn)]
    | @connective n count depth ks ms p k _ hp hd hc hk ih =>
      obtain ⟨outer, e, rfl, ha⟩ := ih
      obtain ⟨e', q, ⟨he, hq⟩, hm⟩ := advance_of_derives hp outer e count trivial hd hc
      have hall : State.initial.advance (ks ++ ms ++ [k]) =
          State.advance ⟨outer, e', count + p.size, .termEnd q⟩ [k] := by
        rw [List.append_assoc, State.advance_append ha, State.advance_append hm]
      obtain rfl | rfl := hk
      · exact ⟨outer, _, rfl, hall.trans (State.advance_single (.and q))⟩
      · exact ⟨outer, _, rfl, hall.trans (State.advance_single (.or q))⟩

theorem BeforeTerm.within_limits {n count : Nat} {ks : List Token.Kind}
    (h : BeforeTerm n count ks) : n ≤ maxNesting ∧ count ≤ maxComparisons := by
  induction h with
  | start => exact ⟨Nat.zero_le _, Nat.zero_le _⟩
  | opening _ hn ih => exact ⟨hn, ih.2⟩
  | connective _ _ _ hc _ ih => exact ⟨ih.1, hc⟩

theorem term_of_step_eq_limit {s : State} {k : Token.Kind} {x : Expected}
    (hx : x = .shallowerNesting ∨ x = .fewerComparisons) (h : s.step k = .error x) :
    s.phase = .term ∧ s.startTerm k = .error x := by
  obtain ⟨outer, e, n, phase⟩ := s
  cases phase with
  | term => exact ⟨rfl, h⟩
  | operator f => cases k <;> cases h <;> simp at hx
  | listContinuation f op ls => cases k <;> cases h <;> simp at hx
  | literal f op =>
    simp only [State.step] at h
    split at h
    · cases h
    · cases h
      split at hx <;> simp at hx
  | listOpening f op =>
    simp only [State.step] at h
    split at h <;> cases h
    simp at hx
  | listLiteral f op ls =>
    simp only [State.step] at h
    split at h <;> cases h
    simp at hx
  | termEnd p =>
    simp only [State.step, State.endTerm] at h
    split at h
    · cases h
    · cases h
    · split at h <;> cases h <;> simp at hx

theorem startTerm_eq_shallowerNesting_iff {s : State} {k : Token.Kind} :
    s.startTerm k = .error .shallowerNesting ↔ k = .openParen ∧ maxNesting ≤ s.outer.length := by
  rw [← Nat.not_lt]
  cases k with
  | openParen =>
    by_cases hd : s.outer.length < maxNesting <;> simp [State.startTerm, State.depth, hd]
  | name field =>
    by_cases hc : s.comparisons < maxComparisons <;> simp [State.startTerm, hc]
  | _ => simp [State.startTerm]

theorem startTerm_eq_fewerComparisons_iff {s : State} {k : Token.Kind} :
    s.startTerm k = .error .fewerComparisons ↔
      (∃ field, k = .name field) ∧ maxComparisons ≤ s.comparisons := by
  rw [← Nat.not_lt]
  cases k with
  | openParen =>
    by_cases hd : s.outer.length < maxNesting <;> simp [State.startTerm, State.depth, hd]
  | name field =>
    by_cases hc : s.comparisons < maxComparisons <;> simp [State.startTerm, hc]
  | _ => simp [State.startTerm]

theorem not_limit_of_finish {s : State} {x : Expected} (h : s.finish = .error x) :
    ¬ (x = .shallowerNesting ∨ x = .fewerComparisons) := by
  obtain ⟨outer, e, n, phase⟩ := s
  intro hx
  cases phase with
  | termEnd p =>
    cases outer with
    | nil => cases h
    | cons =>
      cases h
      simp at hx
  | _ =>
    cases h
    simp at hx

/-- A limit is exceeded by the start of a term, whatever follows it. -/
theorem parse_eq_limit_iff {ts : List Token} {position : Nat} {x : Expected}
    {found : Option Token.Kind} (hx : x = .shallowerNesting ∨ x = .fewerComparisons) :
    parse ts = .error ⟨position, x, found⟩ ↔
      ∃ before t after outer e count, ts = before ++ t :: after ∧
        State.initial.advance (before.map Token.kind) = .ok ⟨outer, e, count, .term⟩ ∧
        State.startTerm ⟨outer, e, count, .term⟩ t.kind = .error x ∧
        position = t.span.start ∧ found = some t.kind := by
  constructor
  · intro h
    obtain ⟨-, hf⟩ := parse_eq_error_iff.mp h
    generalize he : (⟨position, x, found⟩ : ParseError) = error at hf
    cases hf with
    | @token s _ before t ha hs after =>
      cases he
      obtain ⟨outer, e, count, phase⟩ := s
      obtain ⟨hp, hs⟩ := term_of_step_eq_limit hx hs
      have hp : phase = .term := hp
      subst hp
      exact ⟨before, t, after, outer, e, count, rfl, ha, hs, rfl, rfl⟩
    | atEnd ha hs =>
      cases he
      exact absurd hx (not_limit_of_finish hs)
  · rintro ⟨before, t, after, outer, e, count, rfl, ha, hs, rfl, rfl⟩
    exact parse_eq_error_iff.mpr ⟨by simp, .token before ha hs after⟩

theorem parse_eq_shallowerNesting_iff {ts : List Token} {position : Nat}
    {found : Option Token.Kind} :
    parse ts = .error ⟨position, .shallowerNesting, found⟩ ↔
      ∃ count before t after, ts = before ++ t :: after ∧
        BeforeTerm 32 count (before.map Token.kind) ∧ t.kind = .openParen ∧
        position = t.span.start ∧ found = some t.kind := by
  rw [parse_eq_limit_iff (.inl rfl)]
  constructor
  · rintro ⟨before, t, after, outer, e, count, rfl, ha, hs, hp, hf⟩
    obtain ⟨hk, hle⟩ := startTerm_eq_shallowerNesting_iff.mp hs
    have hb := advance_term_iff.mp ⟨outer, e, rfl, ha⟩
    have hn : outer.length = 32 := Nat.le_antisymm hb.within_limits.1 hle
    rw [hn] at hb
    exact ⟨count, before, t, after, rfl, hb, hk, hp, hf⟩
  · rintro ⟨count, before, t, after, rfl, hb, hk, hp, hf⟩
    obtain ⟨outer, e, hn, ha⟩ := advance_term_iff.mpr hb
    exact ⟨before, t, after, outer, e, count, rfl, ha,
      startTerm_eq_shallowerNesting_iff.mpr ⟨hk, Nat.le_of_eq hn.symm⟩, hp, hf⟩

theorem parse_eq_fewerComparisons_iff {ts : List Token} {position : Nat}
    {found : Option Token.Kind} :
    parse ts = .error ⟨position, .fewerComparisons, found⟩ ↔
      ∃ n field before t after, ts = before ++ t :: after ∧
        BeforeTerm n 256 (before.map Token.kind) ∧ t.kind = .name field ∧
        position = t.span.start ∧ found = some t.kind := by
  rw [parse_eq_limit_iff (.inr rfl)]
  constructor
  · rintro ⟨before, t, after, outer, e, count, rfl, ha, hs, hp, hf⟩
    obtain ⟨⟨field, hk⟩, hle⟩ := startTerm_eq_fewerComparisons_iff.mp hs
    have hb := advance_term_iff.mp ⟨outer, e, rfl, ha⟩
    have hn : count = 256 := Nat.le_antisymm hb.within_limits.2 hle
    rw [hn] at hb
    exact ⟨outer.length, field, before, t, after, rfl, hb, hk, hp, hf⟩
  · rintro ⟨n, field, before, t, after, rfl, hb, hk, hp, hf⟩
    obtain ⟨outer, e, -, ha⟩ := advance_term_iff.mpr hb
    exact ⟨before, t, after, outer, e, 256, rfl, ha,
      startTerm_eq_fewerComparisons_iff.mpr ⟨⟨field, hk⟩, Nat.le_refl _⟩, hp, hf⟩

theorem parse_append_ne_ok {s : State} {before : List Token} {t : Token} {x : Expected}
    (ha : State.initial.advance (before.map Token.kind) = .ok s)
    (hx : s.step t.kind = .error x) (us : List Token) (p : Predicate) :
    parse (before ++ t :: us) ≠ .ok p := by
  intro h
  obtain ⟨s', hs, -⟩ := (parse_eq_ok_iff_advance (by simp)).mp h
  rw [List.map_append, List.map_cons, State.advance_append ha] at hs
  obtain ⟨s₁, hm, -⟩ := State.advance_cons_eq_ok_iff.mp hs
  have hcontra := hx.symm.trans (step_of_moves hm)
  cases hcontra

/-- The error reports the first token that cannot be right: what stands before it begins a text of
the grammar, and no accepted text begins with it too. Where there is no such token the text is cut
short, and the error reports its end. -/
inductive ReportsFirst : List Token → ParseError → Prop
  | misfit {before : List Token} {t : Token} {e : ParseError} (after : List Token)
      (hv : Viable (before.map Token.kind)) (hn : ∀ us p, parse (before ++ t :: us) ≠ .ok p)
      (hp : e.position = t.span.start) (hf : e.foundText = t.kind.describe) :
      ReportsFirst (before ++ t :: after) e
  | cutShort {before : List Token} {t : Token} {e : ParseError}
      (hv : Viable ((before ++ [t]).map Token.kind)) (hp : e.position = t.span.stop)
      (hf : e.foundText = "end of input") : ReportsFirst (before ++ [t]) e

/-- A fault is reported at the first token that cannot be right. The limits are exceeded by the
group inside 32 others and by the field after 256 comparisons, be there further faults behind them
or not. -/
theorem parse_reports_first_misfit :
    (∀ ts e, parse ts = .error e → ReportsFirst ts e) ∧
    (∀ ts position found, parse ts = .error ⟨position, .shallowerNesting, found⟩ ↔
      ∃ count before t after, ts = before ++ t :: after ∧
        BeforeTerm 32 count (before.map Token.kind) ∧ t.kind = .openParen ∧
        position = t.span.start ∧ found = some t.kind) ∧
    (∀ ts position found, parse ts = .error ⟨position, .fewerComparisons, found⟩ ↔
      ∃ n field before t after, ts = before ++ t :: after ∧
        BeforeTerm n 256 (before.map Token.kind) ∧ t.kind = .name field ∧
        position = t.span.start ∧ found = some t.kind) := by
  refine ⟨fun ts e h => ?_, fun _ _ _ => parse_eq_shallowerNesting_iff,
    fun _ _ _ => parse_eq_fewerComparisons_iff⟩
  obtain ⟨hts, hf⟩ := parse_eq_error_iff.mp h
  cases hf with
  | token before ha hx after =>
    have hviable := (spells_of_advance ha).viable
    exact .misfit after hviable (parse_append_ne_ok ha hx) rfl rfl
  | atEnd ha hx =>
    have hviable := (spells_of_advance ha).viable
    have hlast : ts.dropLast ++ [ts.getLast hts] = ts := List.dropLast_concat_getLast hts
    rw [← hlast] at hviable ⊢
    exact .cutShort hviable (lastStop_concat 0 _ _) rfl

theorem parse_reports_first_misfit_nested :
    let ts : List Token :=
      (List.range 33).map (fun i => ⟨.openParen, ⟨i, i + 1⟩⟩) ++ [⟨.comma, ⟨33, 34⟩⟩]
    let e : ParseError := ⟨32, .shallowerNesting, some .openParen⟩
    parse ts = .error e ∧ ReportsFirst ts e :=
  ⟨rfl, parse_reports_first_misfit.1 _ _ rfl⟩

end FilterQuery.Query.Parser
