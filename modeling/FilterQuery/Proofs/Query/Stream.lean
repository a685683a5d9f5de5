import FilterQuery.Proofs.Query.Cursor
import FilterQuery.Proofs.Query.Faults

namespace FilterQuery.Query

open FilterQuery.Text

namespace Lexer

variable {query : String} {n m : Nat}

/-- The place after `n` answers. -/
def after (query : String) : Nat → Lexer
  | 0 => ofString query
  | n + 1 => (after query n).next.2

def answer (query : String) (n : Nat) : Option (Except LexError Token) := (after query n).next.1

theorem head?_steps (l : Lexer) : l.steps.head? = l.next.1 := by
  match h : l.next with
  | (none, l') => rw [steps_of_next_none h, List.head?_nil]
  | (some step, l') => rw [steps_of_next_some h, List.head?_cons]

theorem eq_of_next_none {l l' : Lexer} (h : l.next = (none, l')) :
    l' = l.skipBlanks ∧ l'.rest = [] := by
  rw [next] at h
  split at h
  · next hs =>
    cases h
    exact ⟨hs.symm, rfl⟩
  · split at h <;> cases h

theorem tail_steps (l : Lexer) : l.steps.tail = l.next.2.steps := by
  match h : l.next with
  | (none, ⟨position, rest⟩) =>
    have hrest : rest = [] := (eq_of_next_none h).2
    rw [steps_of_next_none h, hrest, steps_nil, List.tail_nil]
  | (some step, l') => rw [steps_of_next_some h, List.tail_cons]

theorem steps_after (query : String) (n : Nat) :
    (after query n).steps = (ofString query).steps.drop n := by
  induction n with
  | zero => rfl
  | succ n ih => rw [after, ← tail_steps, ih, List.tail_drop]

theorem answer_eq (query : String) (n : Nat) : answer query n = (ofString query).steps[n]? := by
  rw [answer, ← head?_steps, steps_after, List.head?_drop]

theorem answer_eq_none_of_le (h : answer query n = none) (hm : n ≤ m) : answer query m = none := by
  rw [answer_eq, List.getElem?_eq_none_iff] at h ⊢
  exact Nat.le_trans h hm

theorem exists_of_answer_error {e : LexError} (h : answer query n = some (.error e)) :
    ∃ ts : List Token, (ofString query).steps = ts.map .ok ++ [.error e] ∧ ts.length = n := by
  have hok (ts : List Token) : (ts.map Except.ok)[n]? ≠ some (Except.error e) := by
    rw [List.getElem?_map]
    cases ts[n]? <;> simp
  rw [answer_eq] at h
  obtain ⟨ts, hts⟩ | ⟨ts, e', hts⟩ := steps_cases (ofString query)
  · exact absurd (hts ▸ h) (hok ts)
  · rw [hts] at h
    have hle : (ts.map (Except.ok : Token → Except LexError Token)).length ≤ n := by
      by_contra hlt
      exact hok ts ((List.getElem?_append_left (Nat.not_le.mp hlt)).symm.trans h)
    rw [List.getElem?_append_right hle, List.length_map] at h
    rw [List.length_map] at hle
    obtain ⟨hn, he⟩ : n - ts.length = 0 ∧ e' = e := by
      cases hn : n - ts.length with
      | zero => simpa [hn] using h
      | succ i => simp [hn] at h
    subst he
    exact ⟨ts, hts, by omega⟩

theorem answer_eq_none_of_error {e : LexError} (h : answer query n = some (.error e)) (hm : n < m) :
    answer query m = none := by
  obtain ⟨ts, hts, rfl⟩ := exists_of_answer_error h
  rw [answer_eq, hts, List.getElem?_eq_none_iff]
  simpa [Nat.succ_le_iff] using hm

theorem tokenize_eq_ok_iff_answer {ts : List Token} :
    tokenize query = .ok ts ↔ ∀ n, answer query n = ts[n]?.map .ok := by
  simp only [tokenize_eq_ok_iff, answer_eq, ← List.getElem?_map]
  exact List.ext_getElem?_iff

theorem tokenize_eq_error_iff_answer {e : LexError} :
    tokenize query = .error e ↔ ∃ n, answer query n = some (.error e) := by
  constructor
  · intro h
    obtain ⟨ts, hts⟩ := tokenize_eq_error_iff.mp h
    exact ⟨ts.length, by simp [answer_eq, hts]⟩
  · rintro ⟨n, h⟩
    obtain ⟨ts, hts, -⟩ := exists_of_answer_error h
    exact tokenize_of_steps_error hts

theorem position_le_next (l : Lexer) : l.position ≤ l.next.2.position := by
  match h : l.next with
  | (none, l') =>
    rw [(eq_of_next_none h).1]
    exact Nat.le_add_right _ _
  | (some (.error e), l') =>
    rw [eq_atEnd_of_next_error h]
    exact Nat.le_add_right _ _
  | (some (.ok t), l') =>
    obtain ⟨gap, cs, rest, -, -, -, -, -, rfl⟩ := exists_of_next h
    simp only
    omega

theorem lt_position_of_answer {t : Token} (h : answer query n = some (.ok t)) :
    (after query n).position < (after query (n + 1)).position := by
  obtain ⟨gap, cs, rest, -, -, hk, -, -, hl⟩ := exists_of_next (Prod.ext h rfl)
  obtain ⟨c, ds, rfl, -⟩ := hk.exists_cons
  have hc := c.utf8Size_pos
  have hposition := congrArg Lexer.position hl
  simp only [width] at hposition
  rw [after, hposition]
  omega

theorem countP_answer_le (query : String) (n : Nat) :
    (List.range n).countP (fun i => (answer query i).any Except.isOk) ≤
      (after query n).position := by
  induction n with
  | zero => exact Nat.zero_le _
  | succ n ih =>
    have hle := position_le_next (after query n)
    rw [List.range_succ, List.countP_append, List.countP_singleton]
    split
    · next hok =>
      obtain ⟨t, ht⟩ : ∃ t, answer query n = some (.ok t) := by
        match h : answer query n with
        | none => simp [h] at hok
        | some (.error e) => simp [h, Except.isOk, Except.toBool] at hok
        | some (.ok t) => exact ⟨t, rfl⟩
      exact Nat.succ_le_of_lt (Nat.lt_of_le_of_lt ih (lt_position_of_answer ht))
    · exact Nat.le_trans ih hle

end Lexer

namespace Cursor

/-- The first `n` answers, from the start of the text. -/
def answers (input : String) : Nat → Option (List (Option (Except LexError Token)) × Tape Nat)
  | 0 => some ([], .start 0)
  | n + 1 => do
    let (before, t) ← answers input n
    let (a, t') ← next input t
    return (before ++ [a], t')

theorem exists_answers (input : String) (n : Nat) :
    ∃ before t, answers input n = some ((List.range n).map (Lexer.answer input), t) ∧
      At input before (Lexer.after input n).rest t ∧
      (Lexer.after input n).position = width before := by
  induction n with
  | zero => exact ⟨[], .start 0, rfl, .start input, rfl⟩
  | succ n ih =>
    obtain ⟨before, t, ht, h, hp⟩ := ih
    obtain ⟨before', t', ht', h', hp'⟩ := exists_next h hp
    refine ⟨before', t', ?_, h', hp'⟩
    rw [answers, ht, List.range_succ, List.map_append]
    simp only [Option.bind_eq_bind, Option.bind_some, ht']
    rfl

end Cursor

namespace Lexer

/-- What one can rely on who asks the lexer for its answers, one after the other. -/
structure Streams (query : String) : Prop where
  /-- With a cursor the answers are the same ones. All the places that it comes to, within a token
  too, are in order, in the text and between characters. -/
  cursor : ∀ n, ∃ t, Cursor.answers query n = some ((List.range n).map (answer query), t) ∧
    t.now = (after query n).position ∧ t.points.Pairwise (· ≥ ·) ∧
    ∀ i ∈ t.points, i ≤ query.utf8ByteSize ∧ String.Pos.Raw.IsValid query ⟨i⟩
  place_le : ∀ n, (after query n).position ≤ (after query (n + 1)).position
  place_le_size : ∀ n, (after query n).position ≤ query.utf8ByteSize
  boundary : ∀ n, String.Pos.Raw.IsValid query ⟨(after query n).position⟩
  progress : ∀ n t, answer query n = some (.ok t) →
    (after query n).position + 1 ≤ (after query (n + 1)).position
  tokens_le_size : ∀ n,
    (List.range n).countP (fun i => (answer query i).any Except.isOk) ≤ query.utf8ByteSize
  nothing_after_error : ∀ n e, answer query n = some (.error e) → ∀ m, n < m →
    answer query m = none
  nothing_after_end : ∀ n, answer query n = none → ∀ m, n ≤ m → answer query m = none
  tokenize_ok : ∀ ts, tokenize query = .ok ts ↔ ∀ n, answer query n = ts[n]?.map .ok
  tokenize_error : ∀ e, tokenize query = .error e ↔ ∃ n, answer query n = some (.error e)

theorem streams (query : String) : Streams query := by
  have hplace (n : Nat) : String.Pos.Raw.IsValid query ⟨(after query n).position⟩ := by
    obtain ⟨before, t, -, h, hp⟩ := Cursor.exists_answers query n
    rw [hp]
    exact isValid_of_append h.toList_eq
  have hsize (n : Nat) : (after query n).position ≤ query.utf8ByteSize :=
    (hplace n).le_utf8ByteSize
  constructor
  case cursor =>
    intro n
    obtain ⟨before, t, ht, h, hp⟩ := Cursor.exists_answers query n
    refine ⟨t, ht, h.now_eq.trans hp.symm, h.ordered, fun i hi => ?_⟩
    exact ⟨(h.valid i hi).le_utf8ByteSize, h.valid i hi⟩
  case place_le => exact fun n => position_le_next _
  case place_le_size => exact hsize
  case boundary => exact hplace
  case progress => exact fun n t h => lt_position_of_answer h
  case tokens_le_size => exact fun n => Nat.le_trans (countP_answer_le query n) (hsize n)
  case nothing_after_error => exact fun n e h m hm => answer_eq_none_of_error h hm
  case nothing_after_end => exact fun n h m hm => answer_eq_none_of_le h hm
  case tokenize_ok => exact fun ts => tokenize_eq_ok_iff_answer
  case tokenize_error => exact fun e => tokenize_eq_error_iff_answer

end Lexer

end FilterQuery.Query
