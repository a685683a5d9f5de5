import FilterQuery.Decimal.Shortest

namespace FilterQuery.Decimal

/-- Digits, perhaps a hyphen before them, perhaps a point and more digits after them. -/
inductive NumberText : List Char → Prop
  | intro {sign whole tail : List Char} (hs : sign = [] ∨ sign = ['-'])
      (hw : isDigits whole = true)
      (ht : tail = [] ∨ ∃ fraction, tail = '.' :: fraction ∧ isDigits fraction = true) :
      NumberText (sign ++ whole ++ tail)

theorem isDigits_iff {cs : List Char} :
    isDigits cs = true ↔ cs ≠ [] ∧ ∀ c ∈ cs, c.isDigit = true := by
  simp [isDigits]

theorem isDigits_digits (n : Nat) : isDigits (digits n) = true :=
  isDigits_iff.mpr ⟨Nat.toDigits_ne_nil, fun _ hc =>
    Nat.isDigit_of_mem_toDigits (by decide) (by decide) hc⟩

theorem value_digits (n : Nat) : value (digits n) = n := by
  rw [value, digits, ← Nat.ofDigitChars_eq_foldl]
  exact Nat.ofDigitChars_ten_toDigits

theorem digits_eq_toList (n : Nat) : (toString n).toList = digits n := by
  rw [Nat.toString_eq_repr, Nat.toList_repr, digits]

theorem head?_digits_ne_zero {n : Nat} (h : 0 < n) : (digits n).head? ≠ some '0' := by
  have hdigit : ∀ d < 10, d.digitChar = '0' → d = 0 := by decide
  induction n using Nat.strongRecOn with
  | _ n ih =>
    rw [digits, Nat.toDigits_eq_if (by decide)]
    split
    · next hlt =>
      intro hzero
      exact absurd (hdigit n hlt (Option.some.inj hzero)) (Nat.ne_of_gt h)
    · next hle =>
      have hhead := ih (n / 10) (by omega) (by omega)
      obtain ⟨d, ds, hds⟩ := List.exists_cons_of_ne_nil (@Nat.toDigits_ne_nil (n / 10) 10)
      rw [digits, hds] at hhead
      rw [hds]
      exact hhead

theorem isDigit_of_mem_padded {length n : Nat} {c : Char} (h : c ∈ padded length n) :
    c.isDigit = true := by
  obtain h | h := List.mem_append.mp h
  · rw [List.eq_of_mem_replicate h]
    decide
  · exact (isDigits_iff.mp (isDigits_digits n)).2 c h

theorem le_length_padded (length n : Nat) : length ≤ (padded length n).length := by
  rw [padded, List.length_append, List.length_replicate]
  omega

theorem numberText_digits {sign : List Char} (hs : sign = [] ∨ sign = ['-']) (n : Nat) :
    NumberText (sign ++ digits n) := by
  simpa using NumberText.intro hs (isDigits_digits n) (.inl rfl)

theorem numberText_int (n : Int) : NumberText (toString n).toList := by
  cases n with
  | ofNat n =>
    have h := numberText_digits (.inl rfl) n
    rwa [List.nil_append, ← digits_eq_toList] at h
  | negSucc n =>
    have h := numberText_digits (.inr rfl) (n + 1)
    rw [← digits_eq_toList] at h
    simpa [Int.toString_eq_repr, Int.repr] using h

theorem numberText_positional {sign : List Char} (hs : sign = [] ∨ sign = ['-']) (x : Fraction) :
    NumberText (sign ++ x.positional) := by
  rw [Fraction.positional]
  dsimp only
  split
  · obtain ⟨hne, hd⟩ := isDigits_iff.mp (isDigits_digits x.digits)
    have hw : isDigits (digits x.digits ++ List.replicate x.exponent.toNat '0') = true := by
      refine isDigits_iff.mpr ⟨by simp [hne], fun c hc => ?_⟩
      obtain hc | hc := List.mem_append.mp hc
      · exact hd c hc
      · rw [List.eq_of_mem_replicate hc]
        decide
    simpa using NumberText.intro hs hw (.inl rfl)
  · next hx =>
    -- at least one digit stands before the point, and one for each place behind it
    let places := (-x.exponent).toNat
    let ds := padded (places + 1) x.digits
    have hplaces : 0 < places := by omega
    have hlength : places + 1 ≤ ds.length := le_length_padded _ _
    have hd : ∀ c ∈ ds, c.isDigit = true := fun c => isDigit_of_mem_padded
    have hw : isDigits (ds.take (ds.length - places)) = true := by
      refine isDigits_iff.mpr ⟨?_, fun c hc => hd c (List.mem_of_mem_take hc)⟩
      rw [← List.length_pos_iff, List.length_take]
      omega
    have hf : isDigits (ds.drop (ds.length - places)) = true := by
      refine isDigits_iff.mpr ⟨?_, fun c hc => hd c (List.mem_of_mem_drop hc)⟩
      rw [← List.length_pos_iff, List.length_drop]
      omega
    have h := NumberText.intro hs hw (.inr ⟨_, rfl, hf⟩)
    rwa [List.append_assoc] at h

theorem numberText_render {x : Binary64} (h : x.isFinite = true) : NumberText x.render.toList := by
  cases x with
  | finite negative significand exponent =>
    cases negative with
    | false => simpa [Binary64.render] using numberText_positional (.inl rfl) _
    | true => simpa [Binary64.render] using numberText_positional (.inr rfl) _
  | infinite | nan => cases h

end FilterQuery.Decimal
