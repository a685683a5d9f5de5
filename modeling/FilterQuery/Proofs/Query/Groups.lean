import FilterQuery.Proofs.Query.Composition
import FilterQuery.Proofs.Query.RoundTrip

namespace FilterQuery

open FilterQuery.Text

namespace Query

open Grammar

/-- The most groups that stand inside one another, from inside `d` of them on. The parenthesis behind
an operator opens a list: that is no group, though it is closed as one. -/
def nestingFrom : Nat → List Token.Kind → Nat
  | _, [] => 0
  | d, .operator _ :: .openParen :: ks => nestingFrom (d + 1) ks
  | d, .openParen :: ks => max (d + 1) (nestingFrom (d + 1) ks)
  | d, .closeParen :: ks => nestingFrom (d - 1) ks
  | d, _ :: ks => nestingFrom d ks

def nesting (query : String) : Nat :=
  match tokenize query with
  | .ok ts => nestingFrom 0 (ts.map Token.kind)
  | .error _ => 0

theorem nesting_of_tokenize {query : String} {ts : List Token} (h : tokenize query = .ok ts) :
    nesting query = nestingFrom 0 (ts.map Token.kind) := by
  rw [nesting, h]

theorem nestingFrom_literals {ks : List Token.Kind} {ls : List Literal} (h : Literals ks ls)
    (d : Nat) (rest : List Token.Kind) : nestingFrom d (ks ++ rest) = nestingFrom d rest := by
  induction h generalizing rest with
  | one hk => cases hk <;> rfl
  | more _ hk ih =>
    rw [List.append_assoc, ih]
    cases hk <;> rfl

theorem nestingFrom_operands {op : Operator} {ks : List Token.Kind} {x : Operand Literal}
    (h : Operands op ks x) (d : Nat) (rest : List Token.Kind) :
    nestingFrom d (.operator op :: (ks ++ rest)) = nestingFrom d rest := by
  cases h with
  | single _ hk => cases hk <;> rfl
  | @list ks ls _ hs =>
    have hls := nestingFrom_literals hs (d + 1) (.closeParen :: rest)
    simpa [nestingFrom] using hls

theorem nestingFrom_le_iff {level : Level} {n : Nat} {ks : List Token.Kind} {p : Predicate}
    (h : Derives level n ks p) {d N : Nat} (hd : d ≤ N) (rest : List Token.Kind) :
    nestingFrom d (ks ++ rest) ≤ N ↔ d + n ≤ N ∧ nestingFrom d rest ≤ N := by
  induction h generalizing d rest with
  | comparison hx =>
    have hoperands := nestingFrom_operands hx d rest
    simp [nestingFrom, hoperands, hd]
  | @group n ks p _ ih =>
    have hgroup : nestingFrom d (.openParen :: ks ++ [.closeParen] ++ rest) =
        max (d + 1) (nestingFrom (d + 1) (ks ++ .closeParen :: rest)) := by
      simp [nestingFrom]
    have hclose : nestingFrom (d + 1) (.closeParen :: rest) = nestingFrom d rest := rfl
    rw [hgroup, Nat.max_le]
    -- the bound must hold inside the group before the groups in it can be judged
    by_cases hlt : d + 1 ≤ N
    · rw [ih hlt, hclose]
      omega
    · omega
  | conjunction _ ih | expression _ ih => exact ih hd rest
  | @and n m ks ms p q _ _ ihp ihq | @or n m ks ms p q _ _ ihp ihq =>
    rw [List.append_assoc, ihp hd, List.cons_append]
    simp only [nestingFrom]
    rw [ihq hd]
    omega

theorem nestingFrom_eq_of_derives {level : Level} {n : Nat} {ks : List Token.Kind} {p : Predicate}
    (h : Derives level n ks p) : nestingFrom 0 ks = n := by
  have hle (N : Nat) : nestingFrom 0 ks ≤ N ↔ n ≤ N := by
    have hiff := nestingFrom_le_iff h N.zero_le []
    simpa [nestingFrom] using hiff
  exact Nat.le_antisymm ((hle n).mpr (Nat.le_refl n)) ((hle _).mp (Nat.le_refl _))

theorem within_nesting_of_parseQuery {query : String} {p : Predicate}
    (h : parseQuery query = .ok p) (hp : p ≠ .everything) :
    ∃ ts, tokenize query = .ok ts ∧ Within .expression (nesting query) (ts.map Token.kind) p := by
  obtain ⟨ts, hts, ⟨n, -, hd⟩, -⟩ := (within_of_parseQuery h).resolve_left hp
  have hn : nesting query = n :=
    (nesting_of_tokenize hts).trans (nestingFrom_eq_of_derives hd)
  exact ⟨ts, hts, n, Nat.le_of_eq hn.symm, hd⟩

variable {q₁ q₂ : String} {ts ts₁ ts₂ : List Token}

def grouped (ts : List Token) : List Token.Kind :=
  .openParen :: ts.map Token.kind ++ [.closeParen]

theorem Reads.group {query : String} {rest : List Char} {ks : List Token.Kind}
    (h : tokenize query = .ok ts) (hr : Reads rest ks) :
    Reads ('(' :: (query.toList ++ ')' :: rest)) (grouped ts ++ ks) := by
  have hclose := hr.punctuation .closeParen trivial
  have hbody := hclose.tokens h (stops_cons (by decide) _)
  simpa [grouped] using hbody.punctuation .openParen trivial

theorem Reads.groups {k : Token.Kind} {cs : List Char} (hk : Spelling k cs)
    (ha : ∀ rest, Apart k (' ' :: rest)) (h₁ : tokenize q₁ = .ok ts₁)
    (h₂ : tokenize q₂ = .ok ts₂) :
    Reads ('(' :: (q₁.toList ++ ')' :: ' ' :: (cs ++ ' ' :: '(' :: (q₂.toList ++ [')']))))
      (grouped ts₁ ++ k :: grouped ts₂) := by
  have hsecond : Reads (' ' :: '(' :: (q₂.toList ++ [')'])) (grouped ts₂) := by
    simpa using (reads_nil.group h₂).blank (c := ' ') (by decide)
  exact ((hsecond.spelling hk (ha _)).blank (by decide)).group h₁

end Query

open Query Query.Grammar

/-- Two queries in parentheses with a connective between them are a query for both: each stands for
what it stands for on its own. -/
theorem parseQuery_groups {q₁ q₂ : String} {p₁ p₂ : Predicate} (h₁ : parseQuery q₁ = .ok p₁)
    (h₂ : parseQuery q₂ = .ok p₂) (hp₁ : p₁ ≠ .everything) (hp₂ : p₂ ≠ .everything)
    (hn₁ : nesting q₁ ≤ 31) (hn₂ : nesting q₂ ≤ 31) (hs : p₁.size + p₂.size ≤ 256) :
    parseQuery ("(" ++ q₁ ++ ") and (" ++ q₂ ++ ")") = .ok (.and p₁ p₂) ∧
      parseQuery ("(" ++ q₁ ++ ") or (" ++ q₂ ++ ")") = .ok (.or p₁ p₂) := by
  obtain ⟨ts₁, ht₁, hw₁⟩ := within_nesting_of_parseQuery h₁ hp₁
  obtain ⟨ts₂, ht₂, hw₂⟩ := within_nesting_of_parseQuery h₂ hp₂
  have hg₁ : Within .term maxNesting (grouped ts₁) p₁ := (hw₁.mono hn₁).group
  have hg₂ : Within .term maxNesting (grouped ts₂) p₂ := (hw₂.mono hn₂).group
  constructor
  · have hr : Reads ("(" ++ q₁ ++ ") and (" ++ q₂ ++ ")").toList
        (grouped ts₁ ++ .and :: grouped ts₂) := by
      simpa using Reads.groups spelling_and (fun rest => stops_cons (by decide) rest) ht₁ ht₂
    exact parseQuery_of_reads hr (hg₁.conjunction.and hg₂).expression hs
  · have hr : Reads ("(" ++ q₁ ++ ") or (" ++ q₂ ++ ")").toList
        (grouped ts₁ ++ .or :: grouped ts₂) := by
      simpa using Reads.groups spelling_or (fun rest => stops_cons (by decide) rest) ht₁ ht₂
    exact parseQuery_of_reads hr (hg₁.conjunction.expression.or hg₂.conjunction) hs

theorem parseQuery_groups_quoted :
    let q₁ := "a==1 or b==')'"
    let q₂ := "c=in=(1,2) and (d<2024-01-01)"
    let p₁ : Predicate := .or (.test ⟨"a", .eq, .single (.number "1")⟩)
      (.test ⟨"b", .eq, .single (.text ")")⟩)
    let p₂ : Predicate := .and (.test ⟨"c", .isIn, .list [.number "1", .number "2"]⟩)
      (.test ⟨"d", .lt, .single (.date "2024-01-01")⟩)
    (parseQuery q₁ = .ok p₁ ∧ parseQuery q₂ = .ok p₂ ∧ p₁ ≠ .everything ∧ p₂ ≠ .everything ∧
      nesting q₁ ≤ 31 ∧ nesting q₂ ≤ 31 ∧ p₁.size + p₂.size ≤ 256) ∧
      parseQuery ("(" ++ q₁ ++ ") and (" ++ q₂ ++ ")") = .ok (.and p₁ p₂) ∧
        parseQuery ("(" ++ q₁ ++ ") or (" ++ q₂ ++ ")") = .ok (.or p₁ p₂) := by
  intro q₁ q₂ p₁ p₂
  have h₁ : parseQuery q₁ = .ok p₁ := by decide +kernel
  have h₂ : parseQuery q₂ = .ok p₂ := by decide +kernel
  have hp₁ : p₁ ≠ .everything := by simp [p₁]
  have hp₂ : p₂ ≠ .everything := by simp [p₂]
  have hn₁ : nesting q₁ ≤ 31 := by decide +kernel
  have hn₂ : nesting q₂ ≤ 31 := by decide +kernel
  have hs : p₁.size + p₂.size ≤ 256 := by decide
  exact ⟨⟨h₁, h₂, hp₁, hp₂, hn₁, hn₂, hs⟩, parseQuery_groups h₁ h₂ hp₁ hp₂ hn₁ hn₂ hs⟩

end FilterQuery
