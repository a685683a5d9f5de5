import FilterQuery.Proofs.Query.Forms
import FilterQuery.Proofs.Query.Layout
import FilterQuery.Proofs.Query.Parsing
import FilterQuery.Query.Compile

namespace FilterQuery

open FilterQuery.Text FilterQuery.Decimal FilterQuery.Query

namespace Criteria

variable {α : Type}

def AllTests : Criteria α → Prop
  | everything => False
  | test _ => True
  | and l r | or l r => l.AllTests ∧ r.AllTests

def depth : Criteria α → Nat
  | everything | test _ => 0
  | and l r | or l r => max l.depth r.depth + 1

end Criteria

def Literal.Expressible : Literal → Prop
  | .text _ | .bool _ => True
  | .number s => NumberText s.toList
  | .date s => DateText s.toList

/-- Lists stand under the operators that take one, single literals under the others. -/
def Operand.Fits (op : Operator) : Operand Literal → Prop
  | .single _ => op.takesList = false
  | .list ls => op.takesList = true ∧ ls ≠ []

structure Comparison.Expressible (c : Comparison Literal) : Prop where
  word : WordText c.subject.toList
  not_keyword : ¬ IsKeyword c.subject.toList
  fits : c.operand.Fits c.operator
  literals : ∀ l ∈ c.operand.toList, l.Expressible

def Literal.token : Literal → Token.Kind
  | .text s => .text s
  | .number s => .number s
  | .bool b => .bool b
  | .date s => .date s

def Operand.tokens : Operand Literal → List Token.Kind
  | .single l => [l.token]
  | .list ls => .openParen :: (ls.map Literal.token).intersperse .comma ++ [.closeParen]

def Criteria.tokens : Predicate → List Token.Kind
  | .everything => []
  | .test c => .name c.subject :: .operator c.operator :: c.operand.tokens
  | .and l r => .openParen :: (l.tokens ++ .and :: r.tokens) ++ [.closeParen]
  | .or l r => .openParen :: (l.tokens ++ .or :: r.tokens) ++ [.closeParen]

namespace Query

def Closes (rest : List Char) : Prop := ∀ c ∈ rest.head?, c = ')' ∨ c = ',' ∨ c = ' '

theorem closes_cons {c : Char} (h : c = ')' ∨ c = ',' ∨ c = ' ') (rest : List Char) :
    Closes (c :: rest) := by
  rintro d ⟨rfl⟩
  exact h

theorem Closes.apart {rest : List Char} (h : Closes rest) (l : Literal) : Apart l.token rest := by
  have hs : Stops touchesNumber rest := by
    intro c hc
    obtain rfl | rfl | rfl := h c hc <;> decide
  cases l with
  | text s => trivial
  | number s => exact hs
  | bool b => exact hs.mono fun c hc => by simp [touchesNumber, hc]
  | date s => exact hs

theorem unescapes_quoted (cs : List Char) :
    Unescapes '"' (cs.flatMap fun c => if c = '"' ∨ c = '\\' then ['\\', c] else [c]) cs := by
  induction cs with
  | nil => exact .nil
  | cons c cs ih =>
    rw [List.flatMap_cons]
    split
    · next hc => exact .escaped (hc.imp id .inr) ih
    · next hc =>
      rw [not_or] at hc
      exact .plain hc.1 hc.2 ih

theorem spelling_literal {l : Literal} (h : l.Expressible) :
    Spelling l.token l.render.toList := by
  cases l with
  | text s =>
    have hs := Spelling.text (.inl rfl) (unescapes_quoted s.toList)
    rw [String.ofList_toList] at hs
    simpa [Literal.render, quoted, Literal.token] using hs
  | number s => simpa [Literal.token] using! Spelling.number h
  | date s => simpa [Literal.token] using! Spelling.date h
  | bool b => cases b <;> exact spelling_bool _

theorem spelling_and : Spelling .and ['a', 'n', 'd'] := spelling_iff.mpr rfl

theorem spelling_or : Spelling .or ['o', 'r'] := spelling_iff.mpr rfl

theorem spelling_name {s : String} (hw : WordText s.toList) (hk : ¬ IsKeyword s.toList) :
    Spelling (.name s) s.toList :=
  spelling_iff.mpr ⟨rfl, hw, hk⟩

theorem spelling_operator (op : Operator) : Spelling (.operator op) op.symbol.toList := by
  apply spelling_iff.mpr
  cases op with
  | eq | ne | isIn | notIn | like => rfl
  | gt | ge | lt | le => exact .inl rfl

theorem Spelling.head_ne_equals {k : Token.Kind} {cs : List Char} (h : Spelling k cs)
    (hk : ∀ op, k ≠ .operator op) (rest : List Char) : Stops (· == '=') (cs ++ rest) := by
  rintro c hc
  rw [beq_eq_false_iff_ne]
  rintro rfl
  cases h with
  | openParen | closeParen | comma => cases hc
  | eq | ne | lt | le | gt | ge | named => exact hk _ rfl
  | text hq =>
    cases hc
    exact absurd hq (by decide)
  | number h =>
    obtain ⟨hs, hw, ht⟩ := h
    obtain ⟨hne, hd⟩ := isDigits_iff.mp hw
    obtain rfl | rfl := hs
    · obtain ⟨d, ds, rfl⟩ := List.exists_cons_of_ne_nil hne
      cases hc
      exact absurd (hd '=' (by simp)) (by decide)
    · cases hc
  | date h =>
    obtain ⟨hy, -, -, hd⟩ := h
    obtain ⟨y, ys, rfl⟩ := List.exists_cons_of_length_eq_add_one hy
    cases hc
    exact absurd (hd '=' (by simp)) (by decide)
  | word h =>
    obtain ⟨hw, -⟩ := h
    cases hc
    exact absurd hw (by decide)

theorem apart_operator {op : Operator} {rest : List Char} (h : Stops (· == '=') rest) :
    Apart (.operator op) rest := by
  cases op with
  | lt | gt => exact h
  | eq | ne | ge | le | isIn | notIn | like => trivial

theorem apart_name (s : String) (op : Operator) (rest : List Char) :
    Apart (.name s) (op.symbol.toList ++ rest) := by
  cases op <;> · rintro c ⟨rfl⟩; decide

variable {rest : List Char} {ks : List Token.Kind}

theorem Reads.punctuation {k : Token.Kind} {c : Char} (hk : Spelling k [c])
    (hr : Apart k rest) (h : Reads rest ks) : Reads (c :: rest) (k :: ks) :=
  h.spelling hk hr

theorem Reads.literal {l : Literal} (hl : l.Expressible) (hr : Closes rest) (h : Reads rest ks) :
    Reads (l.render.toList ++ rest) (l.token :: ks) :=
  h.spelling (spelling_literal hl) (hr.apart l)

theorem Reads.literals {ls : List Literal} (hne : ls ≠ []) (hl : ∀ l ∈ ls, l.Expressible)
    (hr : Closes rest) (h : Reads rest ks) :
    Reads ([','].intercalate (ls.map fun l => l.render.toList) ++ rest)
      ((ls.map Literal.token).intersperse .comma ++ ks) := by
  induction ls with
  | nil => exact absurd rfl hne
  | cons l ls ih =>
    cases ls with
    | nil => simpa using h.literal (hl l (by simp)) hr
    | cons m ls =>
      have hm := ih (by simp) fun l' hl' => hl l' (by simp [hl'])
      have hc := (hm.punctuation .comma trivial).literal (hl l (by simp)) (closes_cons (by simp) _)
      simpa [List.intercalate] using hc

theorem Reads.operand {op : Operator} {x : Operand Literal} (hx : x.Fits op)
    (hl : ∀ l ∈ x.toList, l.Expressible) (hr : Closes rest) (h : Reads rest ks) :
    Reads (op.symbol.toList ++ (x.render.toList ++ rest)) (.operator op :: (x.tokens ++ ks)) := by
  cases x with
  | single l =>
    have hl : l.Expressible := hl l (by simp [Operand.toList])
    refine (h.literal hl hr).spelling (spelling_operator op) (apart_operator ?_)
    apply (spelling_literal hl).head_ne_equals
    intro op
    cases l <;> exact Token.Kind.noConfusion
  | list ls =>
    have hc := (h.punctuation .closeParen trivial).literals hx.2 hl (closes_cons (by simp) rest)
    have ho := (hc.punctuation .openParen trivial).spelling (spelling_operator op)
      (apart_operator (stops_cons (by decide) _))
    simpa [Operand.render, Operand.tokens, String.toList_intercalate, Function.comp_def] using ho

theorem Reads.comparison {c : Comparison Literal} (hc : c.Expressible) (hr : Closes rest)
    (h : Reads rest ks) :
    Reads ((Criteria.test c).render.toList ++ rest) ((Criteria.test c).tokens ++ ks) := by
  have ho := h.operand hc.fits hc.literals hr
  have hn := ho.spelling (spelling_name hc.word hc.not_keyword) (apart_name _ _ _)
  simpa [Criteria.render, Criteria.tokens] using hn

theorem Reads.connected {k : Token.Kind} {cs left right : List Char} {ls rs : List Token.Kind}
    (hk : Spelling k cs) (ha : ∀ rest, Apart k (' ' :: rest))
    (hl : ∀ {rest ks}, Closes rest → Reads rest ks → Reads (left ++ rest) (ls ++ ks))
    (hr : ∀ {rest ks}, Closes rest → Reads rest ks → Reads (right ++ rest) (rs ++ ks))
    (h : Reads rest ks) :
    Reads ('(' :: (left ++ ' ' :: (cs ++ ' ' :: (right ++ ')' :: rest))))
      (.openParen :: (ls ++ k :: (rs ++ .closeParen :: ks))) := by
  have hright := hr (closes_cons (by simp) _) (h.punctuation .closeParen trivial)
  have hconnective := ((hright.blank (c := ' ') (by decide)).spelling hk (ha _)).blank (c := ' ')
    (by decide)
  exact (hl (closes_cons (by simp) _) hconnective).punctuation .openParen trivial

theorem Reads.render {p : Predicate} (ht : p.AllTests)
    (hc : ∀ c ∈ p.comparisons, c.Expressible) (hr : Closes rest) (h : Reads rest ks) :
    Reads (p.render.toList ++ rest) (p.tokens ++ ks) := by
  induction p generalizing rest ks with
  | everything => exact ht.elim
  | test c => exact h.comparison (hc c (by simp [Criteria.comparisons])) hr
  | and l r ihl ihr =>
    have hl {rest ks} := @ihl rest ks ht.1 fun c hm => hc c (List.mem_append_left _ hm)
    have hr {rest ks} := @ihr rest ks ht.2 fun c hm => hc c (List.mem_append_right _ hm)
    have ha (rest : List Char) : Apart .and (' ' :: rest) := stops_cons (by decide) _
    simpa [Criteria.render, Criteria.tokens] using h.connected spelling_and ha hl hr
  | or l r ihl ihr =>
    have hl {rest ks} := @ihl rest ks ht.1 fun c hm => hc c (List.mem_append_left _ hm)
    have hr {rest ks} := @ihr rest ks ht.2 fun c hm => hc c (List.mem_append_right _ hm)
    have ha (rest : List Char) : Apart .or (' ' :: rest) := stops_cons (by decide) _
    simpa [Criteria.render, Criteria.tokens] using h.connected spelling_or ha hl hr

open Grammar FilterQuery.Query.Parser

theorem names_token (l : Literal) : Names l.token l := by
  cases l <;> constructor

theorem Grammar.Literals.cons {k : Token.Kind} {l : Literal} {ls : List Literal}
    (hk : Names k l) (h : Literals ks ls) : Literals (k :: .comma :: ks) (l :: ls) := by
  induction h with
  | one hm => exact .more (.one hk) hm
  | more _ hm ih => exact .more ih hm

theorem literals_tokens {ls : List Literal} (h : ls ≠ []) :
    Literals ((ls.map Literal.token).intersperse .comma) ls := by
  induction ls with
  | nil => exact absurd rfl h
  | cons l ls ih =>
    cases ls with
    | nil => exact .one (names_token l)
    | cons m ls => exact (ih (by simp)).cons (names_token l)

theorem operands_tokens {op : Operator} {x : Operand Literal} (h : x.Fits op) :
    Operands op x.tokens x := by
  cases x with
  | single l => exact .single h (names_token l)
  | list ls => exact .list h.1 (literals_tokens h.2)

theorem derives_tokens {p : Predicate} (ht : p.AllTests)
    (hf : ∀ c ∈ p.comparisons, c.operand.Fits c.operator) : Derives .term p.depth p.tokens p := by
  induction p with
  | everything => exact ht.elim
  | test c => exact .comparison (operands_tokens (hf c (by simp [Criteria.comparisons])))
  | and l r ihl ihr =>
    have hl := ihl ht.1 fun c hc => hf c (by simp [Criteria.comparisons, hc])
    have hr := ihr ht.2 fun c hc => hf c (by simp [Criteria.comparisons, hc])
    exact .group (.expression (.and (.conjunction hl) hr))
  | or l r ihl ihr =>
    have hl := ihl ht.1 fun c hc => hf c (by simp [Criteria.comparisons, hc])
    have hr := ihr ht.2 fun c hc => hf c (by simp [Criteria.comparisons, hc])
    exact .group (.or (.expression (.conjunction hl)) (.conjunction hr))

theorem group_of_advance {outer : List Pending} {e : Pending} {n : Nat} {t : State}
    (h : State.advance ⟨outer, e, n, .term⟩ (.openParen :: ks ++ [.closeParen]) = .ok t) :
    (e :: outer).length ≤ maxNesting ∧
      ∃ s, State.advance ⟨e :: outer, .empty, n, .term⟩ ks = .ok s ∧ Moves s .closeParen t := by
  obtain ⟨s, hm, hs⟩ := State.advance_cons_eq_ok_iff.mp h
  obtain ⟨s', hks, hs'⟩ := State.advance_append_eq_ok_iff.mp hs
  obtain ⟨t', ht, hnil⟩ := State.advance_cons_eq_ok_iff.mp hs'
  cases hnil
  cases hm with
  | opening hlt => exact ⟨hlt, s', hks, ht⟩

/-- A run over the canonical tokens goes as deep as the connectives do. -/
theorem depth_of_advance {p : Predicate} (ht : p.AllTests)
    (hf : ∀ c ∈ p.comparisons, c.operand.Fits c.operator) {outer : List Pending} {e : Pending}
    {n : Nat} {t : State} (ho : outer.length ≤ maxNesting)
    (h : State.advance ⟨outer, e, n, .term⟩ p.tokens = .ok t) :
    outer.length + p.depth ≤ maxNesting ∧ t = ⟨outer, e, n + p.size, .termEnd p⟩ := by
  induction p generalizing outer e n t with
  | everything => exact ht.elim
  | test c =>
    obtain ⟨s, hm, hr⟩ := State.advance_cons_eq_ok_iff.mp h
    cases hm
    rw [advance_operands (operands_tokens (hf c (by simp [Criteria.comparisons])))] at hr
    cases hr
    exact ⟨ho, rfl⟩
  | and l r ihl ihr =>
    obtain ⟨hlt, s, hs, hclose⟩ := group_of_advance h
    obtain ⟨sl, hl, hr⟩ := State.advance_append_eq_ok_iff.mp hs
    obtain ⟨hdl, rfl⟩ := ihl ht.1 (fun c hc => hf c (by simp [Criteria.comparisons, hc])) hlt hl
    rw [State.advance_cons (.and l)] at hr
    obtain ⟨hdr, rfl⟩ := ihr ht.2 (fun c hc => hf c (by simp [Criteria.comparisons, hc])) hlt hr
    cases hclose
    refine ⟨?_, by rw [Nat.add_assoc]; rfl⟩
    simp only [List.length_cons, Criteria.depth] at hdl hdr ⊢
    omega
  | or l r ihl ihr =>
    obtain ⟨hlt, s, hs, hclose⟩ := group_of_advance h
    obtain ⟨sl, hl, hr⟩ := State.advance_append_eq_ok_iff.mp hs
    obtain ⟨hdl, rfl⟩ := ihl ht.1 (fun c hc => hf c (by simp [Criteria.comparisons, hc])) hlt hl
    rw [State.advance_cons (.or l)] at hr
    obtain ⟨hdr, rfl⟩ := ihr ht.2 (fun c hc => hf c (by simp [Criteria.comparisons, hc])) hlt hr
    cases hclose
    refine ⟨?_, by rw [Nat.add_assoc]; rfl⟩
    simp only [List.length_cons, Criteria.depth] at hdl hdr ⊢
    omega

theorem expressible_of_names {k : Token.Kind} {l : Literal} (h : Names k l)
    (hk : ∃ cs, Spelling k cs) : l.Expressible := by
  obtain ⟨cs, hk⟩ := hk
  cases h with
  | text | name | bool => trivial
  | number =>
    obtain ⟨rfl, hn⟩ := spelling_iff.mp hk
    exact hn
  | date =>
    obtain ⟨rfl, hd⟩ := spelling_iff.mp hk
    exact hd

theorem expressible_of_literals {ls : List Literal} (h : Literals ks ls)
    (hk : ∀ k ∈ ks, ∃ cs, Spelling k cs) : ∀ l ∈ ls, l.Expressible := by
  induction h with
  | one hn => simpa using expressible_of_names hn (hk _ (by simp))
  | more _ hn ih =>
    intro l hl
    obtain hl | hl := List.mem_append.mp hl
    · exact ih (fun k hm => hk k (by simp [hm])) l hl
    · rw [List.mem_singleton.mp hl]
      exact expressible_of_names hn (hk _ (by simp))

theorem expressible_of_operands {f : String} {op : Operator} {x : Operand Literal}
    (h : Operands op ks x) (hf : ∃ cs, Spelling (.name f) cs)
    (hk : ∀ k ∈ ks, ∃ cs, Spelling k cs) : Comparison.Expressible ⟨f, op, x⟩ := by
  obtain ⟨cs, hf⟩ := hf
  obtain ⟨rfl, hword, hkeyword⟩ := spelling_iff.mp hf
  refine ⟨hword, hkeyword, ?_, ?_⟩
  · cases h with
    | single ho _ => exact ho
    | list ho hs => exact ⟨ho, hs.ne_nil⟩
  · cases h with
    | single _ hn => simpa [Operand.toList] using expressible_of_names hn (hk _ (by simp))
    | list _ hs => exact expressible_of_literals hs fun k hm => hk k (by simp [hm])

theorem expressible_of_derives {level : Level} {n : Nat} {p : Predicate}
    (h : Derives level n ks p) (hk : ∀ k ∈ ks, ∃ cs, Spelling k cs) :
    p.AllTests ∧ ∀ c ∈ p.comparisons, c.Expressible := by
  induction h with
  | comparison hx =>
    refine ⟨trivial, fun c hc => ?_⟩
    rw [List.mem_singleton.mp hc]
    exact expressible_of_operands hx (hk _ (by simp)) fun k hm => hk k (by simp [hm])
  | group _ ih => exact ih fun k hm => hk k (by simp [hm])
  | conjunction _ ih | expression _ ih => exact ih hk
  | and _ _ ihp ihq | or _ _ ihp ihq =>
    obtain ⟨htp, hcp⟩ := ihp fun k hm => hk k (by simp [hm])
    obtain ⟨htq, hcq⟩ := ihq fun k hm => hk k (by simp [hm])
    refine ⟨⟨htp, htq⟩, fun c hc => ?_⟩
    exact (List.mem_append.mp hc).elim (hcp c) (hcq c)

end Query

theorem parseQuery_eq_ok_iff {query : String} {p : Predicate} :
    parseQuery query = .ok p ↔ ∃ ts, tokenize query = .ok ts ∧ parse ts = .ok p := by
  rw [parseQuery]
  cases tokenize query with
  | ok ts => simpa using! mapError_eq_ok_iff
  | error e =>
    constructor
    · rintro ⟨⟩
    · rintro ⟨ts, hts, -⟩
      cases hts

theorem parseQuery_of_reads {query : String} {ks : List Token.Kind} {p : Predicate}
    (hr : Reads query.toList ks) (hp : Grammar.Within .expression Query.maxNesting ks p)
    (hs : p.size ≤ Query.maxComparisons) : parseQuery query = .ok p := by
  obtain ⟨ts, hts, rfl⟩ := tokenize_of_reads hr
  obtain ⟨n, hn, hd⟩ := hp
  exact parseQuery_eq_ok_iff.mpr ⟨ts, hts, Parser.parse_of_derives hn hd hs⟩

theorem within_of_parseQuery {query : String} {p : Predicate} (h : parseQuery query = .ok p) :
    p = .everything ∨ ∃ ts, tokenize query = .ok ts ∧
      Grammar.Within .expression Query.maxNesting (ts.map Token.kind) p ∧
        p.size ≤ Query.maxComparisons := by
  obtain ⟨ts, hts, hp⟩ := parseQuery_eq_ok_iff.mp h
  by_cases hnil : ts = []
  · subst hnil
    cases hp
    exact .inl rfl
  · obtain ⟨hw, hs⟩ := Parser.within_of_parse hnil hp
    exact .inr ⟨ts, hts, hw, hs⟩

theorem reads_render {p : Predicate} (ht : p.AllTests) (hc : ∀ c ∈ p.comparisons, c.Expressible) :
    Reads p.render.toList p.tokens := by
  have hclose : Closes [] := by rintro c ⟨⟩
  simpa using reads_nil.render ht hc hclose

theorem tokenize_render {p : Predicate} (ht : p.AllTests)
    (hc : ∀ c ∈ p.comparisons, c.Expressible) :
    ∃ ts, tokenize p.render = .ok ts ∧ ts.map Token.kind = p.tokens :=
  tokenize_of_reads (reads_render ht hc)

theorem parseQuery_render {p : Predicate} (ht : p.AllTests) (hd : p.depth ≤ Query.maxNesting)
    (hs : p.size ≤ Query.maxComparisons) (hc : ∀ c ∈ p.comparisons, c.Expressible) :
    parseQuery p.render = .ok p := by
  have hterm := derives_tokens ht fun c hm => (hc c hm).fits
  exact parseQuery_of_reads (reads_render ht hc) ⟨_, hd, .expression (.conjunction hterm)⟩ hs

/-- The canonical text of a predicate is a query for that predicate exactly where the predicate asks
for everything, or where a query can express each of its comparisons and the limits hold. -/
theorem parseQuery_render_eq_ok_iff (p : Predicate) :
    parseQuery p.render = .ok p ↔
      p = .everything ∨ p.AllTests ∧ p.depth ≤ 32 ∧ p.size ≤ 256 ∧
        ∀ c ∈ p.comparisons, c.Expressible := by
  constructor
  · intro h
    obtain ⟨ts, hts, hp⟩ := parseQuery_eq_ok_iff.mp h
    by_cases hnil : ts = []
    · subst hnil
      cases hp
      exact .inl rfl
    · obtain ⟨⟨n, -, hd⟩, hs⟩ := Parser.within_of_parse hnil hp
      obtain ⟨ht, hc⟩ := expressible_of_derives hd (spelled_of_tokenize hts)
      refine .inr ⟨ht, ?_, hs, hc⟩
      -- the text is read as the canonical tokens, so the run of the parser went through them
      have hclose : Closes [] := by rintro c ⟨⟩
      obtain ⟨ts', hts', hks⟩ := tokenize_of_reads
        (by simpa using reads_nil.render ht hc hclose : Reads p.render.toList p.tokens)
      obtain rfl := Except.ok.inj (hts.symm.trans hts')
      obtain ⟨t, ha, -⟩ := (Parser.parse_eq_ok_iff_advance hnil).mp hp
      rw [hks] at ha
      have hdepth := (depth_of_advance ht (fun c hm => (hc c hm).fits) (Nat.zero_le _) ha).1
      rwa [List.length_nil, Nat.zero_add] at hdepth
  · rintro (rfl | ⟨ht, hd, hs, hc⟩)
    · have hempty : Reads "".toList [] := reads_nil
      obtain ⟨ts, hts, hks⟩ := tokenize_of_reads hempty
      rw [List.map_eq_nil_iff.mp hks] at hts
      exact parseQuery_eq_ok_iff.mpr ⟨[], hts, rfl⟩
    · exact parseQuery_render ht hd hs hc

end FilterQuery
