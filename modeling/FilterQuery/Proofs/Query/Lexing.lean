import FilterQuery.Proofs.Query.Moves
import FilterQuery.Proofs.Query.Spelling

namespace FilterQuery.Query

open FilterQuery.Text FilterQuery.Decimal

namespace Lexer

theorem steps_of_next_none {l l' : Lexer} (h : l.next = (none, l')) : l.steps = [] := by
  unfold steps
  rw [drain]
  split
  · rfl
  · next hs =>
    rw [h] at hs
    cases hs

theorem steps_of_next_some {l l' : Lexer} {step : Except LexError Token}
    (h : l.next = (some step, l')) : l.steps = step :: l'.steps := by
  rw [steps]
  rw [drain]
  split
  · next hs =>
    rw [h] at hs
    cases hs
  · next hs =>
    rw [h] at hs
    cases hs
    rfl

theorem steps_congr {l l' : Lexer} (h : l.next = l'.next) : l.steps = l'.steps := by
  match hn : l'.next with
  | (none, l'') => rw [steps_of_next_none hn, steps_of_next_none (h.trans hn)]
  | (some step, l'') => rw [steps_of_next_some hn, steps_of_next_some (h.trans hn)]

theorem exists_next_of_steps_nil {l : Lexer} (h : l.steps = []) : ∃ l', l.next = (none, l') := by
  match hn : l.next with
  | (none, l') => exact ⟨l', rfl⟩
  | (some step, l') =>
    rw [steps_of_next_some hn] at h
    cases h

theorem exists_next_of_steps_cons {l : Lexer} {step : Except LexError Token}
    {rest : List (Except LexError Token)} (h : l.steps = step :: rest) :
    ∃ l', l.next = (some step, l') ∧ l'.steps = rest := by
  match hn : l.next with
  | (none, l') =>
    rw [steps_of_next_none hn] at h
    cases h
  | (some step', l') =>
    rw [steps_of_next_some hn] at h
    obtain ⟨rfl, hrest⟩ := List.cons.inj h
    exact ⟨l', rfl, hrest⟩

theorem next_blank {c : Char} (h : isBlank c = true) (position : Nat) (cs : List Char) :
    next ⟨position, c :: cs⟩ = next ⟨position + c.utf8Size, cs⟩ := by
  simp [next, skipBlanks, atEnd, h, width, Nat.add_assoc]

theorem next_scan {c : Char} {cs : List Char} {x : Lexeme} (hb : isBlank c = false)
    (h : Lexeme.scan c cs = .ok x) (position : Nat) :
    next ⟨position, c :: cs⟩ =
      (some (.ok ⟨x.kind, ⟨position, position + width x.spelling⟩⟩),
        ⟨position + width x.spelling, x.rest⟩) := by
  simp [next, skipBlanks, hb, h, width]

theorem next_scan_error {c : Char} {cs : List Char} {flaw : Flaw} (hb : isBlank c = false)
    (h : Lexeme.scan c cs = .error flaw) (position : Nat) :
    next ⟨position, c :: cs⟩ =
      (some (.error ⟨position + flaw.offset, flaw.fault⟩), atEnd ⟨position, c :: cs⟩) := by
  simp [next, skipBlanks, hb, h, width]

theorem steps_nil (position : Nat) : steps ⟨position, []⟩ = [] := by
  have hn : (Lexer.mk position []).next = (none, ⟨position, []⟩) := by
    simp [next, skipBlanks, width]
  exact steps_of_next_none hn

end Lexer

theorem tokenize_eq_ok_iff {query : String} {ts : List Token} :
    tokenize query = .ok ts ↔ (Lexer.ofString query).steps = ts.map .ok :=
  mapM_id_eq_ok_iff

/-- Wherever it stands, the text is read as tokens of these kinds and nothing else. -/
def Reads (cs : List Char) (ks : List Token.Kind) : Prop :=
  ∀ position, ∃ ts : List Token, (Lexer.mk position cs).steps = ts.map .ok ∧ ts.map Token.kind = ks

theorem reads_nil : Reads [] [] := fun position => ⟨[], Lexer.steps_nil position, rfl⟩

theorem Reads.blank {c : Char} {cs : List Char} {ks : List Token.Kind} (hc : isBlank c = true)
    (h : Reads cs ks) : Reads (c :: cs) ks := by
  intro position
  rw [Lexer.steps_congr (Lexer.next_blank hc position cs)]
  exact h _

theorem Spelling.exists_cons {k : Token.Kind} {cs : List Char} (h : Spelling k cs) :
    ∃ c ds, cs = c :: ds ∧ isBlank c = false := by
  cases h with
  | openParen | closeParen | comma | eq | ne | lt | le | gt | ge => exact ⟨_, _, rfl, by decide⟩
  | named => exact ⟨_, _, rfl, by decide⟩
  | @text quote _ _ hq => exact ⟨quote, _, rfl, by obtain rfl | rfl := hq <;> decide⟩
  | number h =>
    obtain ⟨hs, hw, ht⟩ := h
    obtain ⟨hne, hd⟩ := isDigits_iff.mp hw
    obtain rfl | rfl := hs
    · obtain ⟨d, ds, rfl⟩ := List.exists_cons_of_ne_nil hne
      exact ⟨d, _, rfl, isBlank_of_isDigit (hd d (by simp))⟩
    · exact ⟨'-', _, rfl, by decide⟩
  | date h =>
    obtain ⟨hy, -, -, hd⟩ := h
    obtain ⟨y, ys, rfl⟩ := List.exists_cons_of_length_eq_add_one hy
    exact ⟨y, _, rfl, isBlank_of_isDigit (hd y (by simp))⟩
  | word h =>
    obtain ⟨hc, hs⟩ := h
    exact ⟨_, _, rfl, isBlank_of_isNamePart
      (isNamePart_of_isNameStart (by simpa [isNameStart] using hc))⟩

theorem Lexer.steps_spelling {k : Token.Kind} {cs rest : List Char} (hk : Spelling k cs)
    (hr : Stops (goesOn k cs) rest) (position : Nat) :
    Lexer.steps ⟨position, cs ++ rest⟩ =
      .ok ⟨k, ⟨position, position + width cs⟩⟩ :: Lexer.steps ⟨position + width cs, rest⟩ := by
  obtain ⟨c, ds, rfl, hb⟩ := hk.exists_cons
  exact Lexer.steps_of_next_some (Lexer.next_scan hb (Lexeme.scan_append hk hr) position)

theorem Reads.spelling {k : Token.Kind} {cs rest : List Char} {ks : List Token.Kind}
    (hk : Spelling k cs) (hr : Apart k rest) (h : Reads rest ks) :
    Reads (cs ++ rest) (k :: ks) := by
  intro position
  obtain ⟨ts, hts, hks⟩ := h (position + width cs)
  refine ⟨⟨k, ⟨position, position + width cs⟩⟩ :: ts, ?_, by rw [List.map_cons, hks]⟩
  rw [Lexer.steps_spelling hk (hr.stops cs), hts, List.map_cons]

theorem tokenize_of_reads {query : String} {ks : List Token.Kind} (h : Reads query.toList ks) :
    ∃ ts, tokenize query = .ok ts ∧ ts.map Token.kind = ks := by
  obtain ⟨ts, hts, hks⟩ := h 0
  exact ⟨ts, tokenize_eq_ok_iff.mpr hts, hks⟩

end FilterQuery.Query
