import FilterQuery.Proofs.Query.Layout

namespace FilterQuery.Query

open FilterQuery.Text

/-- What is read at once between quotes: a backslash with the character behind it, if there is one,
or any other character. -/
inductive Sign
  | plain (c : Char)
  | escape (c : Option Char)
deriving DecidableEq, Repr

namespace Sign

def spelling : Sign → List Char
  | plain c => [c]
  | escape c => '\\' :: c.toList

def content : Sign → List Char
  | plain c => [c]
  | escape c => c.toList

/-- Whether the text goes on behind the sign. The quote itself ends it, and only quotes and
backslashes can be escaped. -/
def GoesOn (quote : Char) : Sign → Prop
  | plain c => c ≠ quote
  | escape none => False
  | escape (some c) => c = '"' ∨ c = '\'' ∨ c = '\\'

instance (quote : Char) : DecidablePred (GoesOn quote)
  | plain c => inferInstanceAs (Decidable (c ≠ quote))
  | escape none => inferInstanceAs (Decidable False)
  | escape (some c) => inferInstanceAs (Decidable (c = '"' ∨ c = '\'' ∨ c = '\\'))

end Sign

def signs : List Char → List Sign
  | '\\' :: c :: cs => .escape (some c) :: signs cs
  | ['\\'] => [.escape none]
  | c :: cs => .plain c :: signs cs
  | [] => []

theorem signs_plain {c : Char} (h : c ≠ '\\') (cs : List Char) :
    signs (c :: cs) = .plain c :: signs cs := by
  rw [signs]
  · exact fun d ds hc => absurd hc h
  · exact fun hc => absurd hc h

theorem flatMap_spelling_signs (cs : List Char) : (signs cs).flatMap Sign.spelling = cs := by
  fun_induction signs cs with
  | case1 c cs ih => rw [List.flatMap_cons, ih]; rfl
  | case2 => rfl
  | case3 c cs _ _ ih => rw [List.flatMap_cons, ih]; rfl
  | case4 => rfl

theorem exists_of_signs_eq_cons {cs : List Char} {s : Sign} {ss : List Sign}
    (h : signs cs = s :: ss) :
    ∃ rest, cs = s.spelling ++ rest ∧ signs rest = ss ∧ s ≠ .plain '\\' ∧
      (s = .escape none → rest = []) := by
  rw [signs.eq_def] at h
  split at h
  · next c cs =>
    cases h
    exact ⟨cs, rfl, rfl, by simp, by simp⟩
  · cases h
    exact ⟨[], rfl, rfl, by simp, fun _ => rfl⟩
  · next c cs hescape hlast =>
    cases h
    refine ⟨cs, rfl, rfl, ?_, by simp⟩
    rintro ⟨⟩
    cases cs with
    | nil => exact hlast rfl rfl
    | cons d ds => exact hescape d ds rfl rfl
  · cases h

variable {quote : Char} {before after : List Sign}

theorem unescapes_of_signs {cs : List Char} (h : signs cs = before ++ after)
    (hb : ∀ s ∈ before, s.GoesOn quote) :
    ∃ rest, cs = before.flatMap Sign.spelling ++ rest ∧ signs rest = after ∧
      Unescapes quote (before.flatMap Sign.spelling) (before.flatMap Sign.content) := by
  induction before generalizing cs with
  | nil => exact ⟨cs, rfl, h, .nil⟩
  | cons s before ih =>
    obtain ⟨hs, hb⟩ := List.forall_mem_cons.mp hb
    obtain ⟨rest, rfl, hrest, hne, -⟩ := exists_of_signs_eq_cons h
    obtain ⟨rest', rfl, hafter, hu⟩ := ih hrest hb
    refine ⟨rest', by rw [List.flatMap_cons, List.append_assoc], hafter, ?_⟩
    cases s with
    | plain c =>
      have hc : c ≠ '\\' := fun hc => hne (congrArg Sign.plain hc)
      exact .plain hs hc hu
    | escape c =>
      cases c with
      | none => exact hs.elim
      | some c => exact .escaped hs hu

theorem goesOn_of_unescapes {body content : List Char} (h : Unescapes quote body content) :
    ∀ s ∈ signs body, s.GoesOn quote := by
  induction h with
  | nil => exact List.forall_mem_nil _
  | plain hq hb _ ih =>
    rw [signs_plain hb]
    exact List.forall_mem_cons.mpr ⟨hq, ih⟩
  | escaped hc _ ih => exact List.forall_mem_cons.mpr ⟨hc, ih⟩

section scanBody

variable {cs : List Char} (offset : Nat)

theorem scanBody_closed (hquote : quote ≠ '\\') (h : signs cs = before ++ .plain quote :: after)
    (hb : ∀ s ∈ before, s.GoesOn quote) :
    Lexeme.scanBody quote offset cs =
      .ok ⟨before.flatMap Sign.content, before.flatMap Sign.spelling ++ [quote],
        after.flatMap Sign.spelling⟩ := by
  obtain ⟨rest, rfl, hrest, hu⟩ := unescapes_of_signs h hb
  obtain ⟨rest', rfl, hafter, -⟩ := exists_of_signs_eq_cons hrest
  rw [← hafter, flatMap_spelling_signs]
  exact Lexeme.scanBody_append hquote hu rest' offset

theorem scanBody_badEscape {c : Option Char} (hquote : quote ≠ '\\')
    (h : signs cs = before ++ .escape c :: after) (hb : ∀ s ∈ before, s.GoesOn quote)
    (hc : ¬ (Sign.escape c).GoesOn quote) :
    Lexeme.scanBody quote offset cs =
      .error ⟨offset + width (before.flatMap Sign.spelling), .badEscape⟩ := by
  obtain ⟨rest, rfl, hrest, hu⟩ := unescapes_of_signs h hb
  obtain ⟨rest', rfl, -, -, hlast⟩ := exists_of_signs_eq_cons hrest
  rw [Lexeme.scanBody_unescapes hu]
  cases c with
  | none =>
    obtain rfl := hlast rfl
    simp [Sign.spelling, Lexeme.scanBody, hquote.symm, Except.map]
  | some c =>
    have he : ¬ Lexeme.isEscapable c = true := by
      simpa [Lexeme.isEscapable, Sign.GoesOn, or_assoc] using hc
    simp [Sign.spelling, Lexeme.scanBody, he, Except.map]

theorem scanBody_unterminated (h : ∀ s ∈ signs cs, s.GoesOn quote) :
    Lexeme.scanBody quote offset cs = .error ⟨0, .unterminatedText⟩ := by
  obtain ⟨rest, hcs, hrest, hu⟩ := unescapes_of_signs (List.append_nil (signs cs)).symm h
  rw [flatMap_spelling_signs] at hcs hu
  obtain rfl : rest = [] := by simpa using hcs
  have hread := Lexeme.scanBody_unescapes hu [] offset
  rwa [List.append_nil] at hread

end scanBody

/-- At a quote the first sign that the text cannot go on behind tells what is read, and so does the
want of one: the text and its content, the backslash at fault, or the quote that is never closed.
Where a copy of the content begins makes no difference to it. -/
theorem Lexer.next_quote {gap : List Char} (hq : quote = '"' ∨ quote = '\'')
    (hg : ∀ c ∈ gap, isBlank c = true) (position : Nat) (cs : List Char) :
    let l : Lexer := ⟨position, gap ++ quote :: cs⟩
    let start := position + width gap
    (∀ before after, signs cs = before ++ .plain quote :: after →
      (∀ s ∈ before, s.GoesOn quote) →
      let stop := start + width (quote :: before.flatMap Sign.spelling ++ [quote])
      l.next = (some (.ok ⟨.text (String.ofList (before.flatMap Sign.content)), ⟨start, stop⟩⟩),
        ⟨stop, after.flatMap Sign.spelling⟩)) ∧
    (∀ before c after, signs cs = before ++ .escape c :: after →
      (∀ s ∈ before, s.GoesOn quote) → ¬ (Sign.escape c).GoesOn quote →
      l.next = (some (.error
        ⟨start + width (quote :: before.flatMap Sign.spelling), .badEscape⟩), l.atEnd)) ∧
    ((∀ s ∈ signs cs, s.GoesOn quote) →
      l.next = (some (.error ⟨start, .unterminatedText⟩), l.atEnd)) ∧
    Lexeme.scanText quote cs = (Lexeme.scanBody quote quote.utf8Size cs).map fun b =>
      ⟨.text (String.ofList b.content), quote :: b.spelling, b.rest⟩ := by
  intro l start
  have hquote := Lexeme.ne_backslash hq
  have hblank : isBlank quote = false := by obtain rfl | rfl := hq <;> decide
  have hscan : Lexeme.scan quote cs = (Lexeme.scanBody quote quote.utf8Size cs).map fun b =>
      ⟨.text (String.ofList b.content), quote :: b.spelling, b.rest⟩ := by
    rw [Lexeme.scan_quote hq, Lexeme.scanText_eq]
  have hnext : l.next = next ⟨start, quote :: cs⟩ := next_blanks hg position (quote :: cs)
  have hend : l.atEnd = atEnd ⟨start, quote :: cs⟩ := by
    simp only [l, start, atEnd, width_append, Nat.add_assoc]
  refine ⟨?_, ?_, ?_, Lexeme.scanText_eq quote cs⟩
  · intro before after h hb stop
    rw [scanBody_closed _ hquote h hb] at hscan
    rw [hnext, next_scan hblank hscan]
    rfl
  · intro before c after h hb hc
    rw [scanBody_badEscape _ hquote h hb hc] at hscan
    rw [hnext, hend, next_scan_error hblank hscan]
    rfl
  · intro h
    rw [scanBody_unterminated _ h] at hscan
    rw [hnext, hend, next_scan_error hblank hscan]
    rfl

theorem Lexer.next_quote_endings :
    let read (text : String) := (Lexer.mk 4 (['\u3000'] ++ '\'' :: text.toList)).next.1
    ('\'' = '"' ∨ '\'' = '\'') ∧ (∀ c ∈ ['\u3000'], isBlank c = true) ∧
      read "ü\\'\"\\\\' x" = some (.ok ⟨.text "ü'\"\\", ⟨7, 16⟩⟩) ∧
      read "ü\\n'" = some (.error ⟨10, .badEscape⟩) ∧
      read "\\\\\\" = some (.error ⟨10, .badEscape⟩) ∧
      read "ü\"" = some (.error ⟨7, .unterminatedText⟩) := by
  intro read
  have hq : '\'' = '"' ∨ '\'' = '\'' := .inr rfl
  have hg : ∀ c ∈ ['\u3000'], isBlank c = true := by simp [isBlank, blankBounds, within]
  obtain ⟨hclosed, -, -, -⟩ := Lexer.next_quote hq hg 4 "ü\\'\"\\\\' x".toList
  obtain ⟨-, hletter, -, -⟩ := Lexer.next_quote hq hg 4 "ü\\n'".toList
  obtain ⟨-, hlast, -, -⟩ := Lexer.next_quote hq hg 4 "\\\\\\".toList
  obtain ⟨-, -, hopen, -⟩ := Lexer.next_quote hq hg 4 "ü\"".toList
  refine ⟨hq, hg, ?_, ?_, ?_, ?_⟩
  · exact congrArg Prod.fst (hclosed
      [.plain 'ü', .escape (some '\''), .plain '"', .escape (some '\\')]
      [.plain ' ', .plain 'x'] (by decide) (by decide))
  · exact congrArg Prod.fst (hletter [.plain 'ü'] (some 'n') [.plain '\''] (by decide) (by decide)
      (by decide))
  · exact congrArg Prod.fst (hlast [.escape (some '\\')] none [] (by decide) (by decide)
      (by decide))
  · exact congrArg Prod.fst (hopen (by decide))

end FilterQuery.Query
