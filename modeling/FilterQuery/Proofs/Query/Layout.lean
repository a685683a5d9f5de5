import FilterQuery.Proofs.Query.Extent

namespace FilterQuery.Query

open FilterQuery.Text

/-- The text from the given position on is blanks and spellings of the tokens, each of them taking
all that goes on with it. -/
inductive Layout : Nat → List Char → List Token → Prop
  | blanks {position : Nat} {gap : List Char} (hg : ∀ c ∈ gap, isBlank c = true) :
      Layout position gap []
  | token {position : Nat} {gap cs rest : List Char} {k : Token.Kind} {ts : List Token}
      (hg : ∀ c ∈ gap, isBlank c = true) (hk : Spelling k cs) (hr : Stops (goesOn k cs) rest)
      (h : Layout (position + width gap + width cs) rest ts) :
      Layout position (gap ++ cs ++ rest)
        (⟨k, ⟨position + width gap, position + width gap + width cs⟩⟩ :: ts)

@[simp]
theorem width_append (cs ds : List Char) : width (cs ++ ds) = width cs + width ds := by
  induction cs with
  | nil => simp [width]
  | cons c cs ih => simp [width, ih, Nat.add_assoc]

theorem eq_nil_of_width_eq_zero {cs : List Char} (h : width cs = 0) : cs = [] := by
  cases cs with
  | nil => rfl
  | cons c cs =>
    have hc := c.utf8Size_pos
    rw [width] at h
    omega

theorem width_eq_utf8ByteSize (cs : List Char) : width cs = (String.ofList cs).utf8ByteSize := by
  induction cs with
  | nil => rfl
  | cons c cs ih =>
    rw [String.ofList_cons, String.utf8ByteSize_append, String.utf8ByteSize_singleton, width, ih]

theorem width_toList (s : String) : width s.toList = s.utf8ByteSize := by
  rw [width_eq_utf8ByteSize, String.ofList_toList]

namespace Lexer

theorem next_blanks {gap : List Char} (hg : ∀ c ∈ gap, isBlank c = true) (position : Nat)
    (rest : List Char) : next ⟨position, gap ++ rest⟩ = next ⟨position + width gap, rest⟩ := by
  induction gap generalizing position with
  | nil => rfl
  | cons c gap ih =>
    obtain ⟨hc, hg⟩ := List.forall_mem_cons.mp hg
    rw [List.cons_append, next_blank hc, ih hg, width, Nat.add_assoc]

theorem steps_blanks {gap : List Char} (hg : ∀ c ∈ gap, isBlank c = true) (position : Nat)
    (rest : List Char) : steps ⟨position, gap ++ rest⟩ = steps ⟨position + width gap, rest⟩ :=
  steps_congr (next_blanks hg position rest)

theorem exists_of_next {l l' : Lexer} {t : Token} (h : l.next = (some (.ok t), l')) :
    ∃ gap cs rest, l.rest = gap ++ cs ++ rest ∧ (∀ c ∈ gap, isBlank c = true) ∧
      Spelling t.kind cs ∧ Stops (goesOn t.kind cs) rest ∧
      t.span = ⟨l.position + width gap, l.position + width gap + width cs⟩ ∧
      l' = ⟨l.position + width gap + width cs, rest⟩ := by
  have hsplit := List.takeWhile_append_dropWhile (p := isBlank) (l := l.rest)
  rw [next] at h
  split at h
  · cases h
  · next c cs hs =>
    obtain ⟨rfl, hd⟩ := Lexer.mk.inj hs
    split at h
    · next x hx =>
      obtain ⟨hk, hr, ht⟩ := Lexeme.scan_eq_ok_iff.mp hx
      cases h
      refine ⟨_, x.spelling, x.rest, ?_, fun c => test_of_mem_takeWhile, hk, hr, rfl, rfl⟩
      rw [List.append_assoc, ht, ← hd, hsplit]
    · cases h

theorem blank_of_next_none {l l' : Lexer} (h : l.next = (none, l')) :
    ∀ c ∈ l.rest, isBlank c = true := by
  have hsplit := List.takeWhile_append_dropWhile (p := isBlank) (l := l.rest)
  rw [next] at h
  split at h
  · next hs =>
    have hd : l.rest.dropWhile isBlank = [] := congrArg Lexer.rest hs
    rw [hd, List.append_nil] at hsplit
    intro c hc
    rw [← hsplit] at hc
    exact test_of_mem_takeWhile hc
  · split at h <;> cases h

theorem layout_of_steps {position : Nat} {cs : List Char} {ts : List Token}
    (h : steps ⟨position, cs⟩ = ts.map .ok) : Layout position cs ts := by
  induction ts generalizing position cs with
  | nil =>
    obtain ⟨l', hn⟩ := exists_next_of_steps_nil h
    exact .blanks (blank_of_next_none hn)
  | cons t ts ih =>
    obtain ⟨l', hn, hts⟩ := exists_next_of_steps_cons h
    obtain ⟨gap, ds, rest, rfl, hg, hk, hr, hspan, rfl⟩ := exists_of_next hn
    obtain ⟨kind, span⟩ := t
    cases hspan
    exact .token hg hk hr (ih hts)

end Lexer

def touchesToken (c : Char) : Bool := touchesNumber c || c == '='

theorem touchesToken_of_goesOn {k : Token.Kind} {cs : List Char} {c : Char}
    (h : goesOn k cs c = true) : touchesToken c = true := by
  rw [touchesToken, Bool.or_eq_true, touchesNumber, Bool.or_eq_true]
  cases k with
  | name | bool | and | or => exact .inl (.inl h)
  | date => exact .inl (by simpa [touchesNumber, goesOn] using h)
  | number =>
    simp only [goesOn, Bool.or_eq_true, Bool.and_eq_true] at h
    exact .inl (h.imp id And.left)
  | operator op =>
    cases op with
    | lt | gt =>
      simp only [goesOn, Bool.and_eq_true] at h
      exact .inr h.2
    | eq | ne | le | ge | isIn | notIn | like => cases h
  | text | openParen | closeParen | comma => cases h

theorem stops_touchesToken_of_isBlank {c : Char} (h : isBlank c = true) (rest : List Char) :
    Stops touchesToken (c :: rest) := by
  apply stops_cons
  rw [← Bool.not_eq_true]
  intro ht
  simp only [touchesToken, touchesNumber, Bool.or_eq_true, beq_iff_eq] at ht
  obtain (ht | rfl) | rfl := ht
  · rw [isBlank_of_isNamePart ht] at h
    cases h
  · exact absurd h (by decide)
  · exact absurd h (by decide)

namespace Layout

variable {position : Nat} {cs rest : List Char} {ts : List Token}

/-- Behind a text that is laid out as tokens the reading goes on with what follows, unless that goes
on with the last token. -/
theorem steps_append (h : Layout position cs ts) (hr : Stops touchesToken rest) :
    Lexer.steps ⟨position, cs ++ rest⟩ =
      ts.map .ok ++ Lexer.steps ⟨position + width cs, rest⟩ := by
  induction h with
  | blanks hg => exact Lexer.steps_blanks hg _ rest
  | @token position gap cs rest' k ts hg hk hs _ ih =>
    have hstops : Stops (goesOn k cs) (rest' ++ rest) :=
      hs.append (hr.mono fun _ => touchesToken_of_goesOn)
    rw [List.append_assoc, List.append_assoc, Lexer.steps_blanks hg,
      Lexer.steps_spelling hk hstops, ih, width_append, width_append]
    simp only [List.map_cons, List.cons_append, Nat.add_assoc]

theorem steps_eq (h : Layout position cs ts) : Lexer.steps ⟨position, cs⟩ = ts.map .ok := by
  have hnil : Stops touchesToken [] := by rintro c ⟨⟩
  have happend := h.steps_append hnil
  rwa [List.append_nil, Lexer.steps_nil, List.append_nil] at happend

theorem exists_of_cons {t : Token} (h : Layout position cs (t :: ts)) :
    ∃ gap ds rest, cs = gap ++ ds ++ rest ∧ Spelling t.kind ds ∧
      t.span = ⟨position + width gap, position + width gap + width ds⟩ := by
  cases h with
  | token hg hk hr h => exact ⟨_, _, _, rfl, hk, rfl⟩

theorem spelled (h : Layout position cs ts) : ∀ t ∈ ts, ∃ ds, Spelling t.kind ds := by
  induction h with
  | blanks => simp
  | @token _ _ cs _ k _ _ hk _ _ ih =>
    intro t ht
    obtain rfl | ht := List.mem_cons.mp ht
    · exact ⟨cs, hk⟩
    · exact ih t ht

end Layout

theorem tokenize_eq_ok_iff_layout {query : String} {ts : List Token} :
    tokenize query = .ok ts ↔ Layout 0 query.toList ts :=
  tokenize_eq_ok_iff.trans ⟨Lexer.layout_of_steps, Layout.steps_eq⟩

theorem tokenize_eq_singleton_iff {query : String} {k : Token.Kind} :
    tokenize query = .ok [⟨k, ⟨0, query.utf8ByteSize⟩⟩] ↔ Spelling k query.toList := by
  rw [tokenize_eq_ok_iff_layout, ← width_toList]
  constructor
  · intro h
    obtain ⟨gap, ds, rest, hcs, hk, hspan⟩ := h.exists_of_cons
    obtain ⟨hstart, hstop⟩ := Span.mk.inj hspan
    have hwidth := congrArg width hcs
    rw [width_append, width_append] at hwidth
    have hgap : gap = [] := eq_nil_of_width_eq_zero (by omega)
    have hrest : rest = [] := eq_nil_of_width_eq_zero (by omega)
    rwa [hcs, hgap, hrest, List.nil_append, List.append_nil]
  · intro hk
    have hnil : Stops (goesOn k query.toList) [] := by rintro c ⟨⟩
    have hlayout := @Layout.token 0 [] _ _ _ _ (by simp) hk hnil (.blanks (by simp))
    simpa [width] using hlayout

theorem spelled_of_tokenize {query : String} {ts : List Token} (h : tokenize query = .ok ts) :
    ∀ k ∈ ts.map Token.kind, ∃ cs, Spelling k cs := by
  intro k hk
  obtain ⟨t, ht, rfl⟩ := List.mem_map.mp hk
  exact (tokenize_eq_ok_iff_layout.mp h).spelled t ht

end FilterQuery.Query
