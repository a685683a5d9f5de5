import FilterQuery.Proofs.Query.FirstMisfit
import FilterQuery.Proofs.Query.RoundTrip

namespace FilterQuery

open FilterQuery.Text FilterQuery.Decimal FilterQuery.Query

namespace Query

open Query.Grammar Query.Parser

theorem exists_parse_error {ts : List Token} {x : Expected}
    (h : State.initial.advance (ts.map Token.kind) = .error x) :
    ∃ position found, parse ts = .error ⟨position, x, found⟩ := by
  cases hp : parse ts with
  | ok p =>
    have hts : ts ≠ [] := by
      rintro rfl
      cases h
    obtain ⟨s, hs, -⟩ := (parse_eq_ok_iff_advance hts).mp hp
    cases h.symm.trans hs
  | error e =>
    obtain ⟨-, hf⟩ := parse_eq_error_iff.mp hp
    cases hf with
    | token before ha hx after =>
      rw [List.map_append, List.map_cons, State.advance_append ha, State.advance, hx] at h
      cases h
      exact ⟨_, _, rfl⟩
    | atEnd ha hx => cases h.symm.trans ha

theorem advance_connected {l r : Predicate} {k : Token.Kind} (hk : k = .and ∨ k = .or)
    {outer : List Pending} {e : Pending} {n : Nat}
    (hl : State.advance ⟨outer, e, n, .term⟩ l.tokens = .ok ⟨outer, e, n + l.size, .termEnd l⟩) :
    ∃ e', State.advance ⟨outer, e, n, .term⟩ (l.tokens ++ k :: r.tokens) =
      State.advance ⟨outer, e', n + l.size, .term⟩ r.tokens := by
  rw [State.advance_append hl]
  obtain rfl | rfl := hk
  · exact ⟨_, State.advance_cons (.and l) r.tokens⟩
  · exact ⟨_, State.advance_cons (.or l) r.tokens⟩

theorem advance_tokens {p : Predicate} (ht : p.AllTests)
    (hf : ∀ c ∈ p.comparisons, c.operand.Fits c.operator) {outer : List Pending} (e : Pending)
    {n : Nat} (hd : outer.length + p.depth ≤ maxNesting) (hn : n + p.size ≤ maxComparisons) :
    State.advance ⟨outer, e, n, .term⟩ p.tokens = .ok ⟨outer, e, n + p.size, .termEnd p⟩ := by
  obtain ⟨e', q, ⟨rfl, rfl⟩, ha⟩ := advance_of_derives (derives_tokens ht hf) outer e n trivial hd hn
  exact ha

theorem advance_group_error {l r : Predicate} {k : Token.Kind} (hk : k = .and ∨ k = .or)
    (hlt : l.AllTests) (hlf : ∀ c ∈ l.comparisons, c.operand.Fits c.operator)
    {outer : List Pending} {e : Pending} {n : Nat} (hn : n + l.size ≤ maxComparisons)
    (hl : outer.length < maxNesting → maxNesting < outer.length + 1 + l.depth →
      State.advance ⟨e :: outer, .empty, n, .term⟩ l.tokens = .error .shallowerNesting)
    (hr : outer.length + 1 + l.depth ≤ maxNesting → ∀ e',
      State.advance ⟨e :: outer, e', n + l.size, .term⟩ r.tokens = .error .shallowerNesting) :
    State.advance ⟨outer, e, n, .term⟩
        (.openParen :: (l.tokens ++ k :: r.tokens) ++ [.closeParen]) =
      .error .shallowerNesting := by
  apply State.advance_append_error
  by_cases ho : outer.length < maxNesting
  · rw [State.advance_cons (.opening ho)]
    by_cases hd : maxNesting < outer.length + 1 + l.depth
    · exact State.advance_append_error (hl ho hd) _
    · have hd : outer.length + 1 + l.depth ≤ maxNesting := Nat.le_of_not_lt hd
      have hleft := @advance_tokens l hlt hlf (e :: outer) .empty n hd hn
      obtain ⟨e', hconnected⟩ := @advance_connected l r k hk (e :: outer) .empty n hleft
      rw [hconnected]
      exact hr hd e'
  · have hstep : State.step ⟨outer, e, n, .term⟩ .openParen = .error .shallowerNesting := if_neg ho
    rw [State.advance, hstep]

theorem advance_tokens_error {p : Predicate} (ht : p.AllTests)
    (hf : ∀ c ∈ p.comparisons, c.operand.Fits c.operator) {outer : List Pending} {e : Pending}
    {n : Nat} (ho : outer.length ≤ maxNesting) (hn : n + p.size ≤ maxComparisons)
    (hd : maxNesting < outer.length + p.depth) :
    State.advance ⟨outer, e, n, .term⟩ p.tokens = .error .shallowerNesting := by
  induction p generalizing outer e n with
  | everything => exact ht.elim
  | test c => exact absurd ho (Nat.not_le.mpr hd)
  | and l r ihl ihr | or l r ihl ihr =>
    have hlf : ∀ c ∈ l.comparisons, c.operand.Fits c.operator := fun c hc =>
      hf c (by simp [Criteria.comparisons, hc])
    have hrf : ∀ c ∈ r.comparisons, c.operand.Fits c.operator := fun c hc =>
      hf c (by simp [Criteria.comparisons, hc])
    simp only [Criteria.size, Criteria.depth] at hn hd
    refine advance_group_error (by simp) ht.1 hlf (by omega) ?_ ?_
    · intro hlt hdeep
      exact ihl ht.1 hlf hlt (by omega) hdeep
    · intro hdl e'
      have hlt : outer.length + 1 ≤ maxNesting := by omega
      exact ihr ht.2 hrf hlt (by omega) (by simp only [List.length_cons]; omega)

end Query

open Query.Grammar Query.Parser

theorem expressible_of_parseQuery {query : String} {p : Predicate} (h : parseQuery query = .ok p) :
    p = .everything ∨
      p.AllTests ∧ p.size ≤ maxComparisons ∧ ∀ c ∈ p.comparisons, c.Expressible := by
  obtain hp | ⟨ts, hts, ⟨n, -, hd⟩, hs⟩ := within_of_parseQuery h
  · exact .inl hp
  · obtain ⟨ht, hc⟩ := expressible_of_derives hd (spelled_of_tokenize hts)
    exact .inr ⟨ht, hs, hc⟩

theorem parseQuery_empty : parseQuery "" = .ok .everything := by
  have hempty : Reads "".toList [] := reads_nil
  obtain ⟨ts, hts, hks⟩ := tokenize_of_reads hempty
  rw [List.map_eq_nil_iff.mp hks] at hts
  exact parseQuery_eq_ok_iff.mpr ⟨[], hts, rfl⟩

theorem parseQuery_render_of_deep {p : Predicate} (ht : p.AllTests) (hd : maxNesting < p.depth)
    (hs : p.size ≤ maxComparisons) (hc : ∀ c ∈ p.comparisons, c.Expressible) :
    ∃ position, parseQuery p.render =
      .error (.parse ⟨position, .shallowerNesting, some .openParen⟩) := by
  obtain ⟨ts, hts, hks⟩ := tokenize_render ht hc
  have hrun : State.advance ⟨[], .empty, 0, .term⟩ p.tokens = .error .shallowerNesting :=
    advance_tokens_error ht (fun c hm => (hc c hm).fits) (Nat.zero_le _) (by omega) (by simpa)
  rw [← hks] at hrun
  obtain ⟨position, found, hp⟩ := exists_parse_error hrun
  obtain ⟨_, _, t, _, -, -, hk, -, rfl⟩ := parse_eq_shallowerNesting_iff.mp hp
  rw [hk] at hp
  refine ⟨position, ?_⟩
  rw [parseQuery, hts]
  exact congrArg (Except.mapError QueryError.parse) hp

/-- The canonical text of what a query states is a query for it where no more than 32 connectives
stand inside one another. Elsewhere the text is refused for its nesting, whatever it says. -/
theorem parseQuery_render_of_parseQuery {query : String} {p : Predicate}
    (h : parseQuery query = .ok p) :
    (p.depth ≤ 32 → parseQuery p.render = .ok p) ∧
      (32 < p.depth → ∃ position, parseQuery p.render =
        .error (.parse ⟨position, .shallowerNesting, some .openParen⟩)) := by
  obtain rfl | ⟨ht, hs, hc⟩ := expressible_of_parseQuery h
  · exact ⟨fun _ => parseQuery_empty, fun hd => absurd hd (Nat.not_lt_zero 32)⟩
  · exact ⟨fun hd => parseQuery_render ht hd hs hc, fun hd => parseQuery_render_of_deep ht hd hs hc⟩

namespace Query

/-- The comparisons joined by `or`, the first ones innermost. -/
def disjunction (c : Comparison Literal) (cs : List (Comparison Literal)) : Predicate :=
  cs.foldl (fun p d => .or p (.test d)) (.test c)

def disjunctionText (c : Comparison Literal) (cs : List (Comparison Literal)) : String :=
  " or ".intercalate ((c :: cs).map fun d => (Criteria.test d).render)

theorem depth_foldl_or (p : Predicate) (cs : List (Comparison Literal)) :
    (cs.foldl (fun p d => .or p (.test d)) p).depth = p.depth + cs.length := by
  induction cs generalizing p with
  | nil => rfl
  | cons c cs ih =>
    rw [List.foldl_cons, ih, List.length_cons]
    simp only [Criteria.depth, Nat.max_zero]
    omega

theorem size_foldl_or (p : Predicate) (cs : List (Comparison Literal)) :
    (cs.foldl (fun p d => .or p (.test d)) p).size = p.size + cs.length := by
  induction cs generalizing p with
  | nil => rfl
  | cons c cs ih =>
    rw [List.foldl_cons, ih, List.length_cons]
    simp only [Criteria.size]
    omega

theorem within_foldl_or {ks : List Token.Kind} {p : Predicate} (hp : Within .expression 0 ks p)
    {cs : List (Comparison Literal)} (hc : ∀ c ∈ cs, c.operand.Fits c.operator) :
    Within .expression 0 (ks ++ cs.flatMap fun c => .or :: (Criteria.test c).tokens)
      (cs.foldl (fun p d => .or p (.test d)) p) := by
  induction cs generalizing ks p with
  | nil => simpa using hp
  | cons c cs ih =>
    have hterm : Within .term 0 (Criteria.test c).tokens (.test c) :=
      .comparison 0 (operands_tokens (hc c (by simp)))
    simpa using ih (hp.or hterm.conjunction) fun d hd => hc d (by simp [hd])

variable {cs : List (Comparison Literal)}

theorem closes_flatMap_or (cs : List (Comparison Literal)) :
    Closes (cs.flatMap fun c => " or ".toList ++ (Criteria.test c).render.toList) := by
  cases cs with
  | nil => rintro c ⟨⟩
  | cons c cs => exact closes_cons (.inr (.inr rfl)) _

theorem reads_flatMap_or (hc : ∀ c ∈ cs, c.Expressible) :
    Reads (cs.flatMap fun c => " or ".toList ++ (Criteria.test c).render.toList)
      (cs.flatMap fun c => .or :: (Criteria.test c).tokens) := by
  induction cs with
  | nil => exact reads_nil
  | cons c cs ih =>
    have hrest := ih fun d hd => hc d (by simp [hd])
    have hblank := (hrest.comparison (hc c (by simp)) (closes_flatMap_or cs)).blank (c := ' ')
      (by decide)
    have hor := hblank.spelling spelling_or (stops_cons (by decide) _)
    simpa using hor.blank (c := ' ') (by decide)

theorem toList_disjunctionText (c : Comparison Literal) (cs : List (Comparison Literal)) :
    (disjunctionText c cs).toList = (Criteria.test c).render.toList ++
      cs.flatMap fun c => " or ".toList ++ (Criteria.test c).render.toList := by
  rw [disjunctionText, String.toList_intercalate]
  induction cs generalizing c with
  | nil => simp
  | cons d cs ih => simpa [List.intercalate] using ih d

end Query

theorem parseQuery_disjunctionText {c : Comparison Literal} {cs : List (Comparison Literal)}
    (hc : ∀ d ∈ c :: cs, d.Expressible) (hn : cs.length < maxComparisons) :
    parseQuery (disjunctionText c cs) = .ok (disjunction c cs) := by
  obtain ⟨hc, hcs⟩ := List.forall_mem_cons.mp hc
  have hr := (reads_flatMap_or hcs).comparison hc (closes_flatMap_or cs)
  rw [← toList_disjunctionText] at hr
  have hterm : Within .term 0 (Criteria.test c).tokens (.test c) :=
    .comparison 0 (operands_tokens hc.fits)
  have hw := within_foldl_or hterm.conjunction.expression fun d hd => (hcs d hd).fits
  have hsize : (disjunction c cs).size ≤ maxComparisons := by
    rw [disjunction, size_foldl_or, Criteria.size]
    omega
  exact parseQuery_of_reads hr (hw.mono (Nat.zero_le maxNesting)) hsize

/-- The canonical text of such a disjunction is no query from 34 comparisons on. -/
theorem parseQuery_render_disjunction {c : Comparison Literal} {cs : List (Comparison Literal)}
    (hc : ∀ d ∈ c :: cs, d.Expressible) (hn : cs.length < maxComparisons)
    (hlong : maxNesting < cs.length) :
    ∃ position, parseQuery (disjunction c cs).render =
      .error (.parse ⟨position, .shallowerNesting, some .openParen⟩) := by
  have hdepth : maxNesting < (disjunction c cs).depth := by
    rw [disjunction, depth_foldl_or]
    omega
  obtain heverything | ⟨ht, hs, hc⟩ := expressible_of_parseQuery (parseQuery_disjunctionText hc hn)
  · rw [heverything] at hdepth
    exact absurd hdepth (Nat.not_lt_zero _)
  · exact parseQuery_render_of_deep ht hdepth hs hc

theorem expressible_replicate {c : Comparison Literal} (hc : c.Expressible) (n : Nat) :
    ∀ d ∈ c :: List.replicate n c, d.Expressible := by
  intro d hd
  rwa [List.eq_of_mem_replicate (n := n + 1) hd]

theorem parseQuery_repeated {c : Comparison Literal} (hc : c.Expressible) {n : Nat}
    (hn : n < maxComparisons) :
    parseQuery (" or ".intercalate (List.replicate (n + 1) (Criteria.test c).render)) =
      .ok (disjunction c (List.replicate n c)) := by
  have h := parseQuery_disjunctionText (expressible_replicate hc n) (by simpa using hn)
  rwa [disjunctionText, List.map_cons, List.map_replicate] at h

theorem expressible_of_all (c : Char) (cs : List Char) {op : Operator} {x : Operand Literal}
    (hw : (c :: cs).all isAlphabetic = true) (hk : ¬ IsKeyword (c :: cs)) (hf : x.Fits op)
    (hx : ∀ l ∈ x.toList, l.Expressible) :
    Comparison.Expressible ⟨String.ofList (c :: cs), op, x⟩ where
  word := by simpa using wordText_of_all hw
  not_keyword := by simpa using hk
  fits := hf
  literals := hx

theorem expressible_a_eq_one : Comparison.Expressible ⟨"a", .eq, .single (.number "1")⟩ :=
  expressible_of_all 'a' [] rfl (by simp [IsKeyword]) rfl
    (List.forall_mem_singleton.mpr (numberText_digits (.inl rfl) 1))

theorem parseQuery_render_of_parseQuery_limit :
    ∃ p, parseQuery (" or ".intercalate (List.replicate 33 "a==1")) = .ok p ∧ p.depth = 32 ∧
      parseQuery p.render = .ok p := by
  have h := parseQuery_repeated expressible_a_eq_one (n := 32) (by decide)
  exact ⟨_, h, rfl, (parseQuery_render_of_parseQuery h).1 (by decide)⟩

/-- Of 34 comparisons in a row the canonical text is no query any more. -/
theorem parseQuery_render_ne_of_long_disjunction :
    ∃ p, parseQuery (" or ".intercalate (List.replicate 34 "a==1")) = .ok p ∧
      parseQuery p.render ≠ .ok p := by
  have h := parseQuery_repeated expressible_a_eq_one (n := 33) (by decide)
  obtain ⟨position, he⟩ := parseQuery_render_disjunction
    (expressible_replicate expressible_a_eq_one 33) (by decide) (by decide)
  refine ⟨_, h, fun hr => ?_⟩
  cases hr.symm.trans he

end FilterQuery
