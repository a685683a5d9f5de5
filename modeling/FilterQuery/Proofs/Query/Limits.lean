import FilterQuery.Proofs.Query.Descent
import FilterQuery.Proofs.Query.Stack

namespace FilterQuery.Query

namespace Descent

open Grammar Reading FilterQuery.Query.Parser

variable {ts : List Token} {i : Nat} {k : Token.Kind} {s s' : State}
  {t t' t'' : Tape Counters} {s'' : State} {m m' n n' : Nat}

variable {outer : List Pending} {e : Pending} {c : Nat} {f : String} {op : Operator}

theorem meets_moreLiterals {t₀ : Tape Counters} {s₀ : State} {ls : List Literal}
    (h : Reaches ts t₀ s₀ m n t ⟨outer, e, c, .listContinuation f op ls⟩) :
    Meets (moreLiterals ls) ts t
      (fun ls' t' => Reaches ts t₀ s₀ m n t' ⟨outer, e, c, .listContinuation f op ls'⟩ ∧
        kindAt ts t'.now.position ≠ some .comma)
      (Fails ts t₀ s₀) := by
  refine meets_loop
    (fun ls t => Reaches ts t₀ s₀ m n t ⟨outer, e, c, .listContinuation f op ls⟩) ?_ h
  intro ls t h
  apply meets_bind_next
  split
  · next hk =>
    apply meets_bind_advance hk
    have h := h.trans (.advance hk (.comma f op ls))
    refine meets_bind_literal (fun k l hk' hn => ?_) fun hl => ?_
    · have h' := h.trans (.advance hk' (.listLiteral f op ls hn))
      have hlt := lt_length_of_kindAt hk'
      refine meets_pure ⟨h'.mono (by omega), ?_⟩
      simp only [Tape.now_move, Counters.advance] at hlt ⊢
      omega
    · refine h.stop (fun k hk => ?_) rfl
      simp [State.step, hl k hk]
  · next hk => exact meets_pure ⟨h, hk⟩

theorem meets_operand {t₀ : Tape Counters} {s₀ : State}
    (h : Reaches ts t₀ s₀ m n t
      ⟨outer, e, c, if op.takesList then .listOpening f op else .literal f op⟩) :
    Meets (operand op) ts t
      (fun x t' => Reaches ts t₀ s₀ m n t' ⟨outer, e, c, .termEnd (.test ⟨f, op, x⟩)⟩)
      (Fails ts t₀ s₀) := by
  rw [operand]
  split
  · next ho =>
    rw [if_pos ho] at h
    refine meets_bind_expect (fun hk => ?_) fun hk => ?_
    · have h := h.trans (.advance hk (.listOpening f op))
      refine meets_bind_literal (fun k l hk hn => ?_) fun hl => ?_
      · have h := h.trans (.advance hk (.listLiteral f op [] hn))
        rw [List.nil_append] at h
        refine (meets_moreLiterals h).bind ?_
        rintro ls t' ⟨h, hcomma⟩
        refine meets_bind_expect (fun hk => ?_) fun hclose => ?_
        · have h := h.trans (.advance hk (.listClosing f op ls))
          exact meets_pure (h.mono (by omega))
        · -- behind a literal of a list only a comma goes on with it and only a parenthesis ends it
          refine h.stop (fun k hk => ?_) rfl
          rw [Option.mem_def.mp hk] at hcomma hclose
          cases k <;> first | rfl | contradiction
      · refine h.stop (fun k hk => ?_) rfl
        simp [State.step, hl k hk]
    · refine h.stop (fun k hk' => ?_) rfl
      rw [hk', Ne, Option.some.injEq] at hk
      exact if_neg hk
  · next ho =>
    rw [if_neg ho] at h
    apply meets_bind_next
    split
    · next hk =>
      refine meets_fail (h.fails (fails_of_refuses ?_))
      rw [hk]
      rfl
    · next hopen =>
      refine meets_bind_literal (fun k l hk hn => ?_) fun hl => ?_
      · have h := h.trans (.advance hk (.literal f op hn))
        exact meets_pure (h.mono (by omega))
      · refine h.stop (fun k hk => ?_) rfl
        rw [hk, Option.some.injEq] at hopen
        simp [State.step, hl k hk, hopen]

/-- What may stand behind a text of the level. -/
def Follows : Level → Option Token.Kind → Prop
  | .term, _ => True
  | .conjunction, next => next ≠ some .and
  | .expression, next => next ≠ some .and ∧ next ≠ some .or

theorem step_inside {outside : Pending} {p : Predicate} (hf : Follows .expression (some k))
    (hk : k ≠ .closeParen) :
    State.step ⟨outside :: outer, e, n, .termEnd p⟩ k = .error .groupClosing := by
  cases k <;> first | rfl | exact absurd rfl hf.1 | exact absurd rfl hf.2 | exact absurd rfl hk

theorem step_outside {p : Predicate} (hf : Follows .expression (some k)) :
    State.step ⟨[], e, n, .termEnd p⟩ k = .error .connectiveOrEnd := by
  cases k <;> first | rfl | exact absurd rfl hf.1 | exact absurd rfl hf.2

/-- The reader does as the parser does with a text of the level, wherever it begins. -/
def Sound (level : Level) (f : Reader Predicate) (ts : List Token) (t : Tape Counters) : Prop :=
  ∀ outer e, outer.length = t.now.depth → Ready level e →
    Meets f ts t
      (fun p t' => Reaches ts t ⟨outer, e, t.now.comparisons, .term⟩ 1 p.size t'
        ⟨outer, e, t'.now.comparisons, .termEnd p⟩ ∧ Follows level (kindAt ts t'.now.position))
      (Fails ts t ⟨outer, e, t.now.comparisons, .term⟩)

theorem sound_comparison (hopen : kindAt ts t.now.position ≠ some .openParen) :
    Sound .term comparison ts t := by
  rintro outer e - -
  have h : Reaches ts t ⟨outer, e, t.now.comparisons, .term⟩ 0 0 t _ := .refl
  rw [comparison]
  apply meets_bind_next
  split
  · next f hk =>
    apply meets_bind_state
    split
    · next hc =>
      have hk' : kindAt ts (t.move .count).now.position = some (.name f) := hk
      have h := (h.trans (.count hc)).trans (.advance hk' (.field f hc))
      apply meets_bind_move
      apply meets_bind_advance hk'
      refine meets_bind_operator (fun op ho => ?_) fun ho => ?_
      · have h := h.trans (.advance ho (moves_of_step rfl))
        refine (meets_operand h).bind fun x t' h => meets_pure ⟨?_, trivial⟩
        rw [h.comparisons_eq]
        exact h.mono (by omega)
      · refine h.stop (fun k hk => ?_) rfl
        rw [Option.mem_def.mp hk] at ho
        cases k <;> first | rfl | exact absurd rfl (ho _)
    · next hc =>
      refine meets_fail (h.fails (fails_of_refuses ?_))
      rw [hk]
      exact if_neg hc
  · next hname =>
    refine meets_fail (h.stop (fun k hk => ?_) rfl)
    rw [Option.mem_def.mp hk] at hopen hname
    cases k <;> first | rfl | exact absurd rfl hopen | exact absurd rfl (hname _)

namespace Connective

def level : Connective → Level
  | and => .conjunction
  | or => .expression

def partLevel : Connective → Level
  | and => .term
  | or => .conjunction

/-- What is pending behind the connective, where `l` stands before it. -/
def beside : Connective → Pending → Predicate → Pending
  | and, e, l => ⟨e.disjuncts, some l⟩
  | or, _, l => ⟨some l, none⟩

variable {c : Connective} {e : Pending} {l q : Predicate}

theorem ready_part (h : Ready c.level e) : Ready c.partLevel e := by
  cases c with
  | and => trivial
  | or =>
    cases h
    rfl

theorem ready_beside : Ready c.partLevel (c.beside e l) := by
  cases c with
  | and => trivial
  | or => rfl

theorem follows_level {next : Option Token.Kind} (h : Follows c.partLevel next)
    (hk : next ≠ some c.kind) : Follows c.level next := by
  cases c with
  | and => exact hk
  | or => exact ⟨h, hk⟩

theorem moves_kind (h : Ready c.level e) {outer : List Pending} :
    Moves ⟨outer, e, n, .termEnd l⟩ c.kind ⟨outer, c.beside e l, n, .term⟩ := by
  obtain ⟨d, j⟩ := e
  cases c <;> cases h
  · exact .and l
  · exact .or l

theorem size_join : (c.join l q).size = l.size + q.size := by
  cases c <;> rfl

theorem resume_beside (h : Ready c.level e) (hf : Follows c.partLevel (kindAt ts i))
    (outer : List Pending) (n : Nat) :
    resume ⟨outer, c.beside e l, n, .termEnd q⟩ ts i =
      resume ⟨outer, e, n, .termEnd (c.join l q)⟩ ts i := by
  obtain ⟨d, j⟩ := e
  refine resume_congr (fun k hk => ?_) ?_
  · rw [Option.mem_def.mp hk] at hf
    cases c <;> cases h <;> cases k <;> first | rfl | exact absurd rfl hf
  · cases c <;> cases h <;> rfl

end Connective

theorem meets_moreParts {t₀ : Tape Counters} {s₀ : State} {left : Predicate} {c : Connective}
    {part : Reader Predicate} (he : Ready c.level e) (ho : outer.length = t.now.depth)
    (hpart : ∀ t' : Tape Counters, t'.now.depth = t.now.depth → Sound c.partLevel part ts t')
    (h : Reaches ts t₀ s₀ m left.size t ⟨outer, e, t.now.comparisons, .termEnd left⟩)
    (hf : Follows c.partLevel (kindAt ts t.now.position)) :
    Meets (moreParts c part left) ts t
      (fun p t' => Reaches ts t₀ s₀ m p.size t' ⟨outer, e, t'.now.comparisons, .termEnd p⟩ ∧
        Follows c.level (kindAt ts t'.now.position))
      (Fails ts t₀ s₀) := by
  refine meets_loop
    (fun left t' => t'.now.depth = t.now.depth ∧
      Reaches ts t₀ s₀ m left.size t' ⟨outer, e, t'.now.comparisons, .termEnd left⟩ ∧
      Follows c.partLevel (kindAt ts t'.now.position)) ?_ ⟨rfl, h, hf⟩
  rintro left t₁ ⟨hd, h, hf⟩
  apply meets_bind_next
  split
  · next hk =>
    apply meets_bind_advance hk
    have h := h.trans (.advance hk (Connective.moves_kind he))
    have hsound := hpart (t₁.move .advance) hd outer (c.beside e left) (ho.trans hd.symm)
      Connective.ready_beside
    refine (hsound.mono_rejects fun e t' h' => h.fails h').bind ?_
    rintro p t' ⟨hp, hf⟩
    have h := h.trans hp
    have hlt := lt_length_of_kindAt hk
    have hle : t₁.now.position + 1 + 1 ≤ t'.now.position := hp.position_le
    refine meets_pure ⟨⟨hp.depth_eq.trans hd, ?_, hf⟩, by omega⟩
    rw [Connective.size_join]
    exact { h.mono (by omega) with
      resume_eq := h.resume_eq.trans (Connective.resume_beside he hf outer _) }
  · next hk => exact meets_pure ⟨h, Connective.follows_level hf hk⟩

theorem sound_connected {c : Connective} {part : Reader Predicate}
    (hpart : ∀ t' : Tape Counters, t'.now.depth = t.now.depth → Sound c.partLevel part ts t') :
    Sound c.level (connected c part) ts t := by
  intro outer e ho he
  rw [connected]
  refine (hpart t rfl outer e ho (Connective.ready_part he)).bind ?_
  rintro p t' ⟨hp, hf⟩
  refine meets_moreParts he (ho.trans hp.depth_eq.symm) (fun t'' ht => ?_) hp hf
  exact hpart t'' (ht.trans hp.depth_eq)

theorem meets_bind_expression {α : Type} {g : Predicate → Reader α}
    {P : Predicate → Tape Counters → Prop} {Q : α → Tape Counters → Prop}
    {E : ParseError → Tape Counters → Prop}
    (h : Meets (disjunction (expression n)) ts (t.move .enter) P E)
    (hg : ∀ p t', P p t' → Meets (g p) ts (t'.move .leave) Q E) :
    Meets (expression (n + 1) >>= g) ts t Q E := by
  have hx : Meets (expression (n + 1)) ts t (fun p t' => ∃ t'', P p t'' ∧ t' = t''.move .leave)
      E := by
    rw [expression]
    apply meets_bind_move
    exact h.bind fun p t' hp => meets_bind_move (meets_pure ⟨t', hp, rfl⟩)
  refine hx.bind ?_
  rintro p _ ⟨t', hp, rfl⟩
  exact hg p t' hp

theorem sound_term (hroom : t.now.depth < maxNesting → ∃ m, n = m + 1 ∧ ∀ t' : Tape Counters,
      t'.now.depth = t.now.depth + 1 → Sound .expression (disjunction (expression m)) ts t') :
    Sound .term (term (expression n)) ts t := by
  intro outer e ho he
  rw [term]
  apply meets_bind_next
  split
  · next hk =>
    apply meets_bind_state
    split
    · next hd =>
      obtain ⟨m, rfl, hin⟩ := hroom hd
      have hin := hin (((t.move .advance).move .descend).move .enter) rfl (e :: outer) .empty
        (congrArg (· + 1) ho) rfl
      have hopen : Reaches ts t ⟨outer, e, t.now.comparisons, .term⟩ 1 0 (t.move .advance) _ :=
        .advance hk (.opening (by rwa [ho]))
      apply meets_bind_advance hk
      apply meets_bind_move
      refine meets_bind_expression (hin.mono_rejects fun _ _ h => ?_) ?_
      · exact hopen.fails ⟨h.safe ∘ Safe.group hd, h.resume_eq⟩
      · rintro p t' ⟨h, hf⟩
        have h := hopen.trans (h.group hd)
        apply meets_bind_move
        refine meets_bind_expect (fun hk => meets_pure ⟨?_, trivial⟩) fun hk => ?_
        · have h := h.trans (.advance hk (.closing p))
          simpa using! h.mono (Nat.le_add_left 1 _)
        · refine h.stop (fun k hk' => ?_) rfl
          have hk' : kindAt ts t'.now.position = some k := hk'
          rw [hk'] at hf
          exact step_inside hf fun hclose => hk (hclose ▸ hk')
    · next hd =>
      refine meets_fail (fails_of_refuses ?_)
      rw [hk]
      rw [← ho] at hd
      exact if_neg hd
  · next hk => exact sound_comparison hk outer e ho he

/-- There is room for all further groups. -/
theorem sound (ts : List Token) (n : Nat) : ∀ t, maxNesting ≤ t.now.depth + n →
    Sound .term (term (expression n)) ts t ∧
    Sound .conjunction (conjunction (expression n)) ts t ∧
    Sound .expression (disjunction (expression n)) ts t := by
  -- on the room: the expression in a group is read with less of it
  induction n using Nat.strongRecOn with
  | ind n ih =>
    have hterm (t : Tape Counters) (h : maxNesting ≤ t.now.depth + n) :
        Sound .term (term (expression n)) ts t := by
      refine sound_term fun hd => ?_
      obtain ⟨m, rfl⟩ := Nat.exists_eq_succ_of_ne_zero (by omega : n ≠ 0)
      exact ⟨m, rfl, fun t' ht => (ih m (Nat.lt_succ_self m) t' (by omega)).2.2⟩
    have hand (t : Tape Counters) (h : maxNesting ≤ t.now.depth + n) :
        Sound .conjunction (conjunction (expression n)) ts t :=
      sound_connected (c := .and) fun t' ht => hterm t' (ht ▸ h)
    refine fun t h => ⟨hterm t h, hand t h, ?_⟩
    exact sound_connected (c := .or) fun t' ht => hand t' (ht ▸ h)

theorem resume_of_finish {p : Predicate} (hk : kindAt ts i = none) (h : s.finish = .ok p) :
    resume s ts i = .ok p := by
  have hi : ts.length ≤ i := by simpa [kindAt] using hk
  rw [resume, List.drop_eq_nil_of_le hi, State.run, h]
  rfl

theorem meets_predicate (ts : List Token) :
    Meets predicate ts (.start .initial) (fun p t => parse ts = .ok p ∧ Safe ts t)
      (fun e t => parse ts = .error e ∧ Safe ts t) := by
  rw [predicate]
  apply meets_bind_read
  split
  · next hts =>
    rw [List.isEmpty_iff] at hts
    subst hts
    exact meets_pure ⟨rfl, safe_start⟩
  · next hts =>
    have hparse : parse ts = resume .initial ts 0 := by
      cases ts with
      | nil => exact absurd rfl hts
      | cons => rfl
    have henter : Safe ts (Tape.start Counters.initial |>.move .enter) :=
      safe_start.move fun hw => { hw with active_le := Nat.le_refl _ }
    have hin := (sound ts 32 (Tape.start Counters.initial |>.move .enter) (Nat.le_refl _)).2.2
      [] .empty rfl rfl
    refine meets_bind_expression (hin.mono_rejects fun e t h => ?_) ?_
    · exact ⟨hparse.trans h.resume_eq, h.safe henter⟩
    · rintro p t ⟨h, hf⟩
      have hleave := (h.safe henter).leave
      apply meets_bind_next
      split
      · next hk =>
        obtain ⟨k, hk⟩ := Option.isSome_iff_exists.mp hk
        have hk : kindAt ts t.now.position = some k := hk
        refine meets_fail ⟨hparse.trans (h.resume_eq.trans (resume_of_refuses ?_)), hleave⟩
        rw [hk] at hf ⊢
        exact step_outside hf
      · next hk =>
        have hk : kindAt ts t.now.position = none := by simpa using! hk
        exact meets_pure ⟨hparse.trans (h.resume_eq.trans (resume_of_finish hk rfl)), hleave⟩

theorem exists_predicate_eq (ts : List Token) :
    ∃ t, predicate ts (.start .initial) = some (parse ts, t) ∧ Safe ts t := by
  cases meets_predicate ts with
  | returned h hp => exact ⟨_, hp.1 ▸ h, hp.2⟩
  | rejected h he => exact ⟨_, he.1 ▸ h, he.2⟩

theorem Safe.limits (h : Safe ts t) : ∀ c ∈ t.points,
    c.position ≤ ts.length ∧ c.depth ≤ 32 ∧ c.comparisons ≤ 256 ∧ c.active ≤ 33 := by
  intro c hc
  obtain ⟨hp, hd, hn, ha⟩ := h c hc
  exact ⟨hp, hd, hn, Nat.le_trans ha (Nat.succ_le_succ hd)⟩

theorem Sound.counts {level : Level} {f : Reader Predicate} (h : Sound level f ts t) :
    Meets f ts t (fun p t' => Passed ts 1 p.size t t') fun _ _ => True := by
  have hready : Ready level .empty := by cases level <;> trivial
  have h := h (List.replicate t.now.depth .empty) .empty List.length_replicate hready
  exact h.mono (fun _ _ h => h.1.toPassed) fun _ _ _ => trivial

theorem exists_answer_of_counts {f : Reader Predicate}
    (h : Meets f ts t (fun p t' => Passed ts 1 p.size t t') fun _ _ => True) :
    ∃ answer t', f ts t = some (answer, t') ∧ ∀ p, answer = .ok p →
      t.now.position < t'.now.position ∧ t'.now.position ≤ ts.length ∧
      t'.now.depth = t.now.depth ∧ t'.now.comparisons = t.now.comparisons + p.size := by
  cases h with
  | @returned p t' h hp =>
    refine ⟨_, t', h, ?_⟩
    rintro _ ⟨rfl⟩
    have hlt := hp.position_le
    have hle := hp.position_le_max
    exact ⟨by omega, by omega, hp.depth_eq, hp.comparisons_eq⟩
  | @rejected e t' h _ =>
    refine ⟨_, t', h, ?_⟩
    rintro _ ⟨⟩

theorem counts_comparison :
    Meets comparison ts t (fun p t' => Passed ts 1 p.size t t') fun _ _ => True := by
  by_cases hopen : kindAt ts t.now.position = some .openParen
  · rw [comparison]
    apply meets_bind_next
    rw [hopen]
    exact meets_fail trivial
  · exact (sound_comparison hopen).counts

theorem counts_expression (h : maxNesting ≤ n) :
    Meets (expression (n + 1)) ts t (fun p t' => Passed ts 1 p.size t t') fun _ _ => True := by
  rw [expression]
  apply meets_bind_move
  refine (sound ts n (t.move .enter) (Nat.le_add_left_of_le h)).2.2.counts.bind fun p t' h => ?_
  exact meets_bind_move (meets_pure h.expression)

section

variable {inner inner' part part' : Reader Predicate}

theorem approximates_connected (k : Connective) (h : Approximates part part') :
    Approximates (connected k part) (connected k part') := by
  refine h.bind fun p => .bind .refl fun ts => .rounds (fun left => ?_) _ _
  refine .bind .refl fun next => ?_
  split
  · exact .bind .refl fun _ => h.bind fun _ => .refl
  · exact .refl

theorem approximates_term (h : Approximates inner inner') :
    Approximates (term inner) (term inner') := by
  refine .bind .refl fun next => ?_
  split
  · refine .bind .refl fun c => ?_
    split
    · exact .bind .refl fun _ => .bind .refl fun _ => h.bind fun _ => .refl
    · exact .refl
  · exact .refl

theorem approximates_conjunction (h : Approximates inner inner') :
    Approximates (conjunction inner) (conjunction inner') :=
  approximates_connected .and (approximates_term h)

theorem approximates_expression (h : n ≤ m) : Approximates (expression n) (expression m) := by
  induction n generalizing m with
  | zero => exact .abort
  | succ n ih =>
    obtain ⟨m, rfl⟩ := Nat.exists_eq_succ_of_ne_zero (by omega : m ≠ 0)
    have hinner := approximates_conjunction (ih (Nat.le_of_succ_le_succ h))
    exact .bind .refl fun _ => (approximates_connected .or hinner).bind fun _ => .refl

end

theorem allTests_of_derives {level : Level} {ks : List Token.Kind} {p : Predicate}
    (h : Derives level n ks p) : p.AllTests := by
  induction h with
  | comparison => trivial
  | group _ ih | conjunction _ ih | expression _ ih => exact ih
  | and _ _ ihp ihq | or _ _ ihp ihq => exact ⟨ihp, ihq⟩

theorem depth_le_of_parse {p : Predicate} (h : parse ts = .ok p) :
    p.size ≤ 256 ∧ p.depth ≤ 255 := by
  by_cases hts : ts = []
  · subst hts
    cases h
    exact ⟨Nat.zero_le _, Nat.zero_le _⟩
  · obtain ⟨⟨n, -, hd⟩, hs⟩ := within_of_parse hts h
    have hlt := Criteria.depth_lt_size (allTests_of_derives hd)
    have hs : p.size ≤ 256 := hs
    exact ⟨hs, by omega⟩

/-- The readers of the rules come to an end with any tokens and from any counters, and to the same
end however much room there is beyond 32 groups. One that returns a tree has read on, has closed the
groups that it opened, and has counted the comparisons of the tree. In a whole text the limits hold
all the way, be it accepted or not, and so the passes over an accepted tree have enough room with
256 calls inside one another. -/
theorem descent_within_limits :
    (∀ rule ∈ [fun n => expression (n + 1), fun n => conjunction (expression n),
      fun n => term (expression n), fun _ => comparison], ∀ ts t, ∃ answer t',
        (∀ n, 32 ≤ n → rule n ts t = some (answer, t')) ∧ ∀ p, answer = .ok p →
          t.now.position < t'.now.position ∧ t'.now.position ≤ ts.length ∧
          t'.now.depth = t.now.depth ∧ t'.now.comparisons = t.now.comparisons + p.size) ∧
    (∀ ts, ∃ t, predicate ts (.start .initial) = some (parse ts, t) ∧
      ∀ c ∈ t.points, c.position ≤ ts.length ∧ c.depth ≤ 32 ∧ c.comparisons ≤ 256 ∧
        c.active ≤ 33) ∧
    (∀ ts p, parse ts = .ok p → p.size ≤ 256 ∧ p.depth ≤ 255 ∧
      p.renderWithin 256 = some p.render ∧
      ∀ fields, (p.traverseWithin (Comparison.resolve fields) 256).run = some (p.resolve fields) ∧
        ∀ f, p.resolve fields = .ok f → f.depth ≤ 255 ∧
          ∀ threshold, Sql.Expr.ofFilterWithin threshold 256 f =
            some (Sql.Expr.ofFilter threshold f)) := by
  refine ⟨fun rule hrule ts t => ?_, fun ts => ?_, fun ts p h => ?_⟩
  · have hrule : Meets (rule 32) ts t (fun p t' => Passed ts 1 p.size t t') (fun _ _ => True) ∧
        ∀ n, 32 ≤ n → Approximates (rule 32) (rule n) := by
      obtain ⟨hterm, hand, -⟩ := sound ts 32 t (Nat.le_add_left _ _)
      simp only [List.mem_cons, List.not_mem_nil, or_false] at hrule
      obtain rfl | rfl | rfl | rfl := hrule
      · exact ⟨counts_expression (Nat.le_refl _), fun n hn =>
          approximates_expression (Nat.succ_le_succ hn)⟩
      · exact ⟨hand.counts, fun n hn => approximates_conjunction (approximates_expression hn)⟩
      · exact ⟨hterm.counts, fun n hn => approximates_term (approximates_expression hn)⟩
      · exact ⟨counts_comparison, fun _ _ => .refl⟩
    obtain ⟨hcounts, hroom⟩ := hrule
    obtain ⟨answer, t', h, hp⟩ := exists_answer_of_counts hcounts
    exact ⟨answer, t', fun n hn => hroom n hn ts t _ h, hp⟩
  · obtain ⟨t, ht, h⟩ := exists_predicate_eq ts
    exact ⟨t, ht, h.limits⟩
  · obtain ⟨hs, hd⟩ := depth_le_of_parse h
    have hlt : p.depth < 256 := Nat.lt_succ_of_le hd
    refine ⟨hs, hd, Criteria.renderWithin_of_depth_lt hlt, fun fields => ?_⟩
    refine ⟨Criteria.traverseWithin_of_depth_lt _ hlt, fun f hf => ?_⟩
    -- what a tree is resolved to is as deep as the tree
    have hdepth := (Criteria.traverse_eq_ok_iff.mp hf).depth_eq
    rw [← hdepth] at hd hlt
    exact ⟨hd, fun threshold => Sql.Expr.ofFilterWithin_of_depth_lt threshold hlt⟩

theorem descent_within_limits_innermost :
    let kinds : List Token.Kind := List.replicate 32 .openParen ++
      [.name "a", .operator .eq, .bool true] ++ List.replicate 32 .closeParen
    let ts : List Token := kinds.map fun k => ⟨k, ⟨0, 0⟩⟩
    let p : Predicate := .test ⟨"a", .eq, .single (.bool true)⟩
    parse ts = .ok p ∧ p.renderWithin 256 = some p.render ∧
      (∃ t, expression 33 ts (.start .initial) = some (.ok p, t) ∧
        t.now.depth = 0 ∧ t.now.comparisons = 1) ∧
      ∃ t, predicate ts (.start .initial) = some (.ok p, t) ∧ ∀ c ∈ t.points,
        c.position ≤ ts.length ∧ c.depth ≤ 32 ∧ c.comparisons ≤ 256 ∧ c.active ≤ 33 := by
  intro kinds ts p
  have h : parse ts = .ok p := rfl
  obtain ⟨rules, runs, trees⟩ := descent_within_limits
  obtain ⟨t, ht, hc⟩ := runs ts
  rw [h] at ht
  obtain ⟨answer, t', hall, hp⟩ := rules _ List.mem_cons_self ts (.start .initial)
  have hx : expression 33 ts (.start .initial) = some (answer, t') := hall 32 (Nat.le_refl _)
  have hanswer : (expression 33 ts (.start .initial)).map Prod.fst = some (.ok p) := by
    decide +kernel
  rw [hx, Option.map_some, Option.some.injEq] at hanswer
  obtain ⟨-, -, hdepth, hcount⟩ := hp p hanswer
  exact ⟨h, (trees ts p h).2.2.1, ⟨t', by rw [hx, ← hanswer], hdepth, hcount⟩, t, ht, hc⟩

end Descent

end FilterQuery.Query
