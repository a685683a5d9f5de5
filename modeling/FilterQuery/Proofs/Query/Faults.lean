import FilterQuery.Proofs.Query.Quotes
import FilterQuery.Proofs.Query.Tiling

namespace FilterQuery.Query

open FilterQuery.Text

def Flaw.AtStart (flaw : Flaw) : Prop := flaw.offset = 0 ∧ flaw.fault ≠ .badEscape

namespace Lexeme

theorem atStart_of_fail {fault : Fault} {flaw : Flaw} (hf : fault ≠ .badEscape)
    (h : fail fault = .error flaw) : flaw.AtStart := by
  cases h
  exact ⟨rfl, hf⟩

theorem flaw_of_scanBody {quote : Char} (hquote : quote ≠ '\\') {offset : Nat} {cs : List Char}
    {flaw : Flaw} (h : scanBody quote offset cs = .error flaw) :
    flaw.AtStart ∨ ∃ ds es, cs = ds ++ '\\' :: es ∧ (∀ s ∈ signs ds, s.GoesOn quote) ∧
      flaw = ⟨offset + width ds, .badEscape⟩ := by
  cases hfind : (signs cs).find? fun s => ¬ s.GoesOn quote with
  | none =>
    have hon : ∀ s ∈ signs cs, s.GoesOn quote := by simpa using List.find?_eq_none.mp hfind
    rw [scanBody_unterminated offset hon] at h
    cases h
    exact .inl ⟨rfl, by simp⟩
  | some s =>
    obtain ⟨hs, before, after, hcs, hb⟩ := List.find?_eq_some_iff_append.mp hfind
    have hs : ¬ s.GoesOn quote := by simpa using hs
    have hb : ∀ s ∈ before, s.GoesOn quote := by simpa using hb
    cases s with
    | plain c =>
      obtain rfl : c = quote := Decidable.not_not.mp hs
      rw [scanBody_closed offset hquote hcs hb] at h
      cases h
    | escape c =>
      rw [scanBody_badEscape offset hquote hcs hb hs] at h
      cases h
      obtain ⟨rest, rfl, hrest, hu⟩ := unescapes_of_signs hcs hb
      obtain ⟨rest', rfl, -, -, -⟩ := exists_of_signs_eq_cons hrest
      exact .inr ⟨_, c.toList ++ rest', rfl, goesOn_of_unescapes hu, rfl⟩

theorem atStart_of_scanEquals {cs : List Char} {flaw : Flaw} (h : scanEquals cs = .error flaw) :
    flaw.AtStart := by
  unfold scanEquals at h
  split at h
  · cases h
  · split at h
    · exact atStart_of_fail (by simp) h
    · split at h
      · split at h
        · cases h
        · exact atStart_of_fail (by simp) h
      · exact atStart_of_fail (by simp) h

theorem atStart_of_endNumber {digits cs : List Char} {flaw : Flaw}
    (h : endNumber digits cs = .error flaw) : flaw.AtStart := by
  rw [endNumber] at h
  split at h
  · exact atStart_of_fail (by simp) h
  · cases h

theorem atStart_of_scanDate {year cs : List Char} {flaw : Flaw}
    (h : scanDate year cs = .error flaw) : flaw.AtStart := by
  rw [scanDate] at h
  split at h
  · exact atStart_of_fail (by simp) h
  · split at h
    · exact atStart_of_fail (by simp) h
    · split at h
      · exact atStart_of_fail (by simp) h
      · cases h

theorem atStart_of_scanNumber {c : Char} {cs : List Char} {flaw : Flaw}
    (h : scanNumber c cs = .error flaw) : flaw.AtStart := by
  unfold scanNumber at h
  dsimp only at h
  split at h
  · split at h
    · exact atStart_of_scanDate h
    · exact atStart_of_endNumber h
  · split at h
    · exact atStart_of_fail (by simp) h
    · exact atStart_of_endNumber h
  · exact atStart_of_endNumber h

/-- A fault stands where the token starts, or at a backslash in it that escapes nothing, with
nothing at fault in the text before. -/
theorem flaw_of_scan {c : Char} {cs : List Char} {flaw : Flaw} (h : scan c cs = .error flaw) :
    flaw.AtStart ∨ (c = '"' ∨ c = '\'') ∧ ∃ ds es, cs = ds ++ '\\' :: es ∧
      (∀ s ∈ signs ds, s.GoesOn c) ∧ flaw = ⟨width (c :: ds), .badEscape⟩ := by
  unfold scan at h
  split at h
  · cases h
  · cases h
  · cases h
  · exact .inl (atStart_of_scanEquals h)
  · cases h
  · exact .inl (atStart_of_fail (by simp) h)
  · cases h
  · cases h
  · cases h
  · cases h
  · split at h
    · next hq =>
      rw [scanText_eq] at h
      cases hb : scanBody c c.utf8Size cs with
      | ok b =>
        rw [hb] at h
        cases h
      | error f =>
        rw [hb] at h
        cases h
        obtain hf | ⟨ds, es, rfl, hds, rfl⟩ := flaw_of_scanBody (ne_backslash hq) hb
        · exact .inl hf
        · exact .inr ⟨hq, ds, es, rfl, hds, rfl⟩
    · split at h
      · exact .inl (atStart_of_scanNumber h)
      · split at h
        · cases h
        · exact .inl (atStart_of_fail (by simp) h)

end Lexeme

namespace Lexer

theorem exists_of_next_error {l l' : Lexer} {e : LexError} (h : l.next = (some (.error e), l')) :
    ∃ gap c cs flaw, l.rest = gap ++ c :: cs ∧ (∀ x ∈ gap, isBlank x = true) ∧
      isBlank c = false ∧ Lexeme.scan c cs = .error flaw ∧
      e = ⟨l.position + width gap + flaw.offset, flaw.fault⟩ := by
  have hsplit := List.takeWhile_append_dropWhile (p := isBlank) (l := l.rest)
  rw [next] at h
  split at h
  · cases h
  · next c cs hs =>
    obtain ⟨rfl, hd⟩ := Lexer.mk.inj hs
    split at h
    · cases h
    · next flaw hx =>
      cases h
      refine ⟨_, c, cs, flaw, ?_, fun x => test_of_mem_takeWhile, ?_, hx, rfl⟩
      · rw [← hd, hsplit]
      · exact stops_dropWhile isBlank l.rest c (by rw [hd]; rfl)

theorem eq_atEnd_of_next_error {l l' : Lexer} {e : LexError}
    (h : l.next = (some (.error e), l')) : l' = l.atEnd := by
  rw [next] at h
  split at h
  · cases h
  · split at h
    · cases h
    · cases h
      rfl

/-- Tokens come one after the other until the end or until a fault, and nothing comes behind it. -/
theorem steps_cases (l : Lexer) :
    (∃ ts : List Token, l.steps = ts.map .ok) ∨
      ∃ (ts : List Token) (e : LexError), l.steps = ts.map .ok ++ [.error e] := by
  induction l using drain.induct with
  | case1 l l' hn => exact .inl ⟨[], steps_of_next_none hn⟩
  | case2 l step l' hn _ _ _ ih =>
    rw [steps_of_next_some hn]
    cases step with
    | ok t =>
      obtain ⟨ts, hts⟩ | ⟨ts, e, hts⟩ := ih
      · exact .inl ⟨t :: ts, by rw [hts]; rfl⟩
      · exact .inr ⟨t :: ts, e, by rw [hts]; rfl⟩
    | error e =>
      rw [eq_atEnd_of_next_error hn, atEnd, steps_nil]
      exact .inr ⟨[], e, rfl⟩

/-- What stands before the character that no token can be read from is laid out as the tokens that
are read before the fault. -/
theorem exists_of_steps_error {position : Nat} {cs : List Char} {ts : List Token} {e : LexError}
    (h : steps ⟨position, cs⟩ = ts.map .ok ++ [.error e]) :
    ∃ before c after flaw, cs = before ++ c :: after ∧ Layout position before ts ∧
      isBlank c = false ∧ Lexeme.scan c after = .error flaw ∧
      e = ⟨position + width before + flaw.offset, flaw.fault⟩ := by
  induction ts generalizing position cs with
  | nil =>
    obtain ⟨l', hn, -⟩ := exists_next_of_steps_cons h
    obtain ⟨gap, c, rest, flaw, hr, hg, hc, hx, rfl⟩ := exists_of_next_error hn
    exact ⟨gap, c, rest, flaw, hr, .blanks hg, hc, hx, rfl⟩
  | cons t ts ih =>
    obtain ⟨l', hn, hts⟩ := exists_next_of_steps_cons h
    obtain ⟨gap, ds, rest, rfl, hg, hk, hs, hspan, rfl⟩ := exists_of_next hn
    obtain ⟨before, c, after, flaw, rfl, hl, hc, hx, rfl⟩ := ih hts
    obtain ⟨kind, span⟩ := t
    cases hspan
    -- the token ends where it ended before, also with the text cut off in front of the fault
    refine ⟨gap ++ ds ++ before, c, after, flaw, ?_, .token hg hk hs.of_append hl, hc, hx, ?_⟩
    · rw [List.append_assoc _ before]
    · simp only [width_append, Nat.add_assoc]

end Lexer

theorem tokenize_of_steps_error {query : String} {ts : List Token} {e : LexError}
    (h : (Lexer.ofString query).steps = ts.map .ok ++ [.error e]) : tokenize query = .error e :=
  mapM_eq_error_iff.mpr ⟨ts.map .ok, .error e, [], h, by simp, rfl⟩

theorem tokenize_eq_error_iff {query : String} {e : LexError} :
    tokenize query = .error e ↔
      ∃ ts : List Token, (Lexer.ofString query).steps = ts.map .ok ++ [.error e] := by
  constructor
  · intro h
    obtain ⟨ts, hts⟩ | ⟨ts, e', hts⟩ := Lexer.steps_cases (.ofString query)
    · rw [tokenize_eq_ok_iff.mpr hts] at h
      cases h
    · rw [tokenize_of_steps_error hts] at h
      cases h
      exact ⟨ts, hts⟩
  · rintro ⟨ts, hts⟩
    exact tokenize_of_steps_error hts

theorem exists_of_tokenize_error {query : String} {e : LexError} (h : tokenize query = .error e) :
    ∃ (ts : List Token) (before : List Char) (c : Char) (after : List Char),
      (Lexer.ofString query).steps = ts.map .ok ++ [.error e] ∧
      query.toList = before ++ c :: after ∧ Layout 0 before ts ∧ isBlank c = false ∧
      (e.fault ≠ .badEscape ∧ e.position = width before ∨
        (c = '"' ∨ c = '\'') ∧ ∃ ds es, after = ds ++ '\\' :: es ∧
          (∀ s ∈ signs ds, s.GoesOn c) ∧ e = ⟨width (before ++ c :: ds), .badEscape⟩) := by
  obtain ⟨ts, hts⟩ := tokenize_eq_error_iff.mp h
  obtain ⟨before, c, after, flaw, hq, hl, hc, hx, rfl⟩ := Lexer.exists_of_steps_error hts
  refine ⟨ts, before, c, after, hts, hq, hl, hc, ?_⟩
  obtain ⟨hoffset, hfault⟩ | ⟨hquote, ds, es, rfl, hds, rfl⟩ := Lexeme.flaw_of_scan hx
  · refine .inl ⟨hfault, ?_⟩
    rw [hoffset, Nat.zero_add, Nat.add_zero]
  · refine .inr ⟨hquote, ds, es, rfl, hds, ?_⟩
    rw [Nat.zero_add, width_append]

theorem boundary_of_tokenize_error {query : String} {e : LexError}
    (h : tokenize query = .error e) :
    ∃ before after, query.toList = before ++ after ∧ e.position = width before := by
  obtain ⟨ts, before, c, after, -, hq, -, -, ⟨-, hp⟩ | ⟨-, ds, es, rfl, -, rfl⟩⟩ :=
    exists_of_tokenize_error h
  · exact ⟨before, c :: after, hq, hp⟩
  · exact ⟨before ++ c :: ds, '\\' :: es, by simp [hq], rfl⟩

/-- Cut off at the position the query is read as the tokens, and nothing but blanks stands before,
between and behind them. -/
structure ReadUpTo (query : String) (ts : List Token) (position : Nat) : Prop where
  tokens : tokenize (Span.text ⟨0, position⟩ query) = .ok ts
  blank : ∀ s ∈ gaps 0 position (ts.map Token.span), ∀ c ∈ (s.text query).toList, isBlank c = true

theorem readUpTo_of_layout {query : String} {before after : List Char} {ts : List Token}
    (hq : query.toList = before ++ after) (hl : Layout 0 before ts) :
    ReadUpTo query ts (width before) := by
  have hcovers : Span.Covers ⟨0, width before⟩ query before :=
    ⟨[], after, hq, by rw [width, Nat.zero_add]⟩
  have hblank := hl.blank_gaps [] after hq rfl
  rw [Nat.zero_add] at hblank
  refine ⟨?_, hblank⟩
  rw [tokenize_eq_ok_iff_layout, hcovers.toList_text]
  exact hl

theorem width_lt_append_cons (before : List Char) (c : Char) (after : List Char) :
    width before < width (before ++ c :: after) := by
  rw [width_append, width]
  exact Nat.lt_add_of_pos_right (Nat.add_pos_left c.utf8Size_pos _)

theorem lt_utf8ByteSize_of_append {query : String} {before after : List Char} {c : Char}
    (h : query.toList = before ++ c :: after) : width before < query.utf8ByteSize := by
  rw [← width_toList, h]
  exact width_lt_append_cons before c after

theorem get?_of_append {query : String} {before after : List Char}
    (h : query.toList = before ++ after) :
    String.Pos.Raw.get? query ⟨width before⟩ = after.head? := by
  rw [← String.ofList_toList (s := query), h, width_eq_utf8Len]
  exact String.get?_of_valid before after

/-- A fault stands at a character of the query, and spoils nothing before the token it is in. That
token starts at the fault itself, unless the fault is a backslash: then it starts at a quote, and from
there to the backslash the text goes on. -/
theorem readUpTo_of_tokenize_error {query : String} {e : LexError}
    (h : tokenize query = .error e) :
    ∃ ts : List Token, (Lexer.ofString query).steps = ts.map .ok ++ [.error e] ∧
      String.Pos.Raw.IsValid query ⟨e.position⟩ ∧ e.position < query.utf8ByteSize ∧
      (e.fault ≠ .badEscape → ReadUpTo query ts e.position ∧
        ∃ c, String.Pos.Raw.get? query ⟨e.position⟩ = some c ∧ isBlank c = false) ∧
      (e.fault = .badEscape → String.Pos.Raw.get? query ⟨e.position⟩ = some '\\' ∧
        ∃ start quote, start < e.position ∧ String.Pos.Raw.get? query ⟨start⟩ = some quote ∧
          (quote = '"' ∨ quote = '\'') ∧ ReadUpTo query ts start ∧
          ∀ s ∈ signs (Span.text ⟨start + quote.utf8Size, e.position⟩ query).toList,
            s.GoesOn quote) := by
  obtain ⟨ts, before, c, after, hts, hq, hl, hc, ⟨hfault, hp⟩ | ⟨hquote, ds, es, rfl, hds, rfl⟩⟩ :=
    exists_of_tokenize_error h
  · refine ⟨ts, hts, hp ▸ isValid_of_append hq, hp ▸ lt_utf8ByteSize_of_append hq, ?_,
      fun hf => absurd hf hfault⟩
    rw [hp]
    exact fun _ => ⟨readUpTo_of_layout hq hl, c, get?_of_append hq, hc⟩
  · have hfault : query.toList = (before ++ c :: ds) ++ '\\' :: es := by simp [hq]
    have hcovers : Span.Covers ⟨width before + c.utf8Size, width (before ++ c :: ds)⟩ query ds :=
      ⟨before ++ [c], '\\' :: es, by simp [hq], by simp [width, Nat.add_assoc]⟩
    refine ⟨ts, hts, isValid_of_append hfault, lt_utf8ByteSize_of_append hfault,
      fun hf => absurd rfl hf, fun _ => ⟨get?_of_append hfault, ?_⟩⟩
    refine ⟨width before, c, width_lt_append_cons before c ds, get?_of_append hq, hquote,
      readUpTo_of_layout hq hl, ?_⟩
    rwa [hcovers.toList_text]

theorem readUpTo_of_tokenize_error_escape_date :
    let escape := "größe==1 and ü==\"'\\\\\\n\""
    let date := "b=in=(2024-01-31,\u20032024-01-3)"
    tokenize escape = .error ⟨23, .badEscape⟩ ∧ tokenize date = .error ⟨20, .malformedDate⟩ ∧
      (∃ ts start, ReadUpTo escape ts start ∧ start < 23 ∧
        String.Pos.Raw.get? escape ⟨23⟩ = some '\\') ∧
      ∃ ts, ReadUpTo date ts 20 := by
  intro escape date
  have hescape : tokenize escape = .error ⟨23, .badEscape⟩ := by decide +kernel
  have hdate : tokenize date = .error ⟨20, .malformedDate⟩ := by decide +kernel
  obtain ⟨ts, -, -, -, -, he⟩ := readUpTo_of_tokenize_error hescape
  obtain ⟨hget, start, -, hlt, -, -, hread, -⟩ := he rfl
  obtain ⟨us, -, -, -, hd, -⟩ := readUpTo_of_tokenize_error hdate
  exact ⟨hescape, hdate, ⟨ts, start, hread, hlt, hget⟩, us, (hd (by simp)).1⟩

end FilterQuery.Query
