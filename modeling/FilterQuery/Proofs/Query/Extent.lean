import FilterQuery.Proofs.Query.Lexing

namespace FilterQuery.Query

open FilterQuery.Text FilterQuery.Decimal

namespace Lexeme

/-- What is left of the text does not go on with the token. -/
def Ends (x : Lexeme) : Prop := Stops (goesOn x.kind x.spelling) x.rest

theorem ends_scanWord (c : Char) (cs : List Char) : (scanWord c cs).Ends := by
  show Stops (goesOn (wordKind _) _) (cs.dropWhile isNamePart)
  rw [goesOn_wordKind]
  exact stops_dropWhile isNamePart cs

theorem ends_of_endNumber {digits cs : List Char} {x : Lexeme}
    (hy : digits.length = 4 → (∀ c ∈ digits, c.isDigit = true) → Stops (· == '-') cs)
    (h : endNumber digits cs = .ok x) : x.Ends := by
  rw [endNumber] at h
  split at h
  · cases h
  · next hc =>
    cases h
    have hname : Stops isNamePart cs := continuesNumber_eq_false_iff.mp (Bool.not_eq_true _ ▸ hc)
    intro c hm
    have hhyphen : c = '-' → ¬ (digits.length = 4 ∧ ∀ d ∈ digits, d.isDigit = true) := by
      rintro rfl ⟨hl, hd⟩
      exact absurd (hy hl hd '-' hm) (by decide)
    simpa [goesOn, hname c hm] using hhyphen

theorem ends_of_scanDate {year cs : List Char} {x : Lexeme} (h : scanDate year cs = .ok x) :
    x.Ends := by
  rw [scanDate] at h
  split at h
  · cases h
  · split at h
    · cases h
    · split at h
      · cases h
      · next hc =>
        cases h
        exact continuesDate_eq_false_iff.mp (Bool.not_eq_true _ ▸ hc)

theorem ends_of_scanNumber {c : Char} {cs : List Char} {x : Lexeme}
    (h : scanNumber c cs = .ok x) : x.Ends := by
  unfold scanNumber at h
  dsimp only at h
  split at h
  · split at h
    · exact ends_of_scanDate h
    · next hy =>
      refine ends_of_endNumber (fun hl hd => ?_) h
      refine absurd ⟨?_, hl⟩ hy
      rintro rfl
      exact absurd (hd '-' List.mem_cons_self) (by decide)
  · split at h
    · cases h
    · refine ends_of_endNumber (fun _ hd => ?_) h
      exact absurd (hd '.' (by simp)) (by decide)
  · next hhyphen _ =>
    exact ends_of_endNumber (fun _ _ => stops_of_ne_cons hhyphen) h

theorem goesOn_equals (op : Operator) (cs : List Char) (c : Char) :
    goesOn (.operator op) ('=' :: cs) c = false := by
  cases op <;> simp [goesOn]

theorem ends_of_scanEquals {cs : List Char} {x : Lexeme} (h : scanEquals cs = .ok x) :
    x.Ends := by
  unfold scanEquals at h
  split at h
  · cases h
    exact fun c _ => goesOn_equals .eq ['='] c
  · split at h
    · cases h
    · split at h
      · split at h
        · cases h
          exact fun c _ => goesOn_equals _ _ c
        · cases h
      · cases h

theorem ends_of_scanText {quote : Char} {cs : List Char} {x : Lexeme}
    (h : scanText quote cs = .ok x) : x.Ends := by
  rw [scanText_eq] at h
  cases hb : scanBody quote quote.utf8Size cs with
  | ok b =>
    rw [hb] at h
    cases h
    exact fun _ _ => rfl
  | error f =>
    rw [hb] at h
    cases h

theorem ends_of_scan {c : Char} {cs : List Char} {x : Lexeme} (h : scan c cs = .ok x) :
    x.Ends := by
  unfold scan at h
  split at h
  · cases h; exact fun _ _ => rfl
  · cases h; exact fun _ _ => rfl
  · cases h; exact fun _ _ => rfl
  · exact ends_of_scanEquals h
  · cases h; exact fun _ _ => rfl
  · cases h
  · cases h; exact fun _ _ => rfl
  · next hne =>
    cases h
    exact (stops_of_ne_cons hne).mono (by simp [goesOn])
  · cases h; exact fun _ _ => rfl
  · next hne =>
    cases h
    exact (stops_of_ne_cons hne).mono (by simp [goesOn])
  · split at h
    · exact ends_of_scanText h
    · split at h
      · exact ends_of_scanNumber h
      · split at h
        · cases h
          exact ends_scanWord _ _
        · cases h

/-- A scan reads the longest spelling, and nothing else but a spelling. -/
theorem scan_eq_ok_iff {c : Char} {cs : List Char} {x : Lexeme} :
    scan c cs = .ok x ↔ x.Spelled ∧ x.Ends ∧ x.spelling ++ x.rest = c :: cs := by
  constructor
  · intro h
    exact ⟨spelled_of_scan h, ends_of_scan h, (tiles_of_scan h).2⟩
  · rintro ⟨hs, he, ht⟩
    obtain ⟨kind, spelling, rest⟩ := x
    obtain ⟨d, ds, hd, -⟩ := Spelling.exists_cons hs
    have hd : spelling = d :: ds := hd
    subst hd
    obtain ⟨rfl, rfl⟩ := List.cons.inj ht
    exact scan_append hs he

end Lexeme

end FilterQuery.Query
