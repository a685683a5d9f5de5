import FilterQuery.Proofs.Filter.Resolution
import FilterQuery.Proofs.Query.Forms
import FilterQuery.Proofs.Query.Layout
import Mathlib.Data.List.TakeWhile
import Std.Data.String.ToInt
import Std.Data.String.ToNat

namespace FilterQuery

open FilterQuery.Text FilterQuery.Decimal FilterQuery.Query

namespace Decimal

variable {whole fraction tail : List Char}

def hyphen (negative : Bool) : List Char := if negative then ['-'] else []

def signed (negative : Bool) (whole : List Char) : Int :=
  if negative then -(value whole : Int) else value whole

theorem exists_of_numberText {cs : List Char} (h : NumberText cs) :
    ∃ negative whole tail, cs = hyphen negative ++ whole ++ tail ∧ isDigits whole = true ∧
      (tail = [] ∨ ∃ fraction, tail = '.' :: fraction ∧ isDigits fraction = true) := by
  cases h with
  | @intro sign whole tail hs hw ht =>
    obtain rfl | rfl := hs
    · exact ⟨false, whole, tail, rfl, hw, ht⟩
    · exact ⟨true, whole, tail, rfl, hw, ht⟩

theorem numberText_hyphen (negative : Bool) (hw : isDigits whole = true)
    (ht : tail = [] ∨ ∃ fraction, tail = '.' :: fraction ∧ isDigits fraction = true) :
    NumberText (hyphen negative ++ whole ++ tail) := by
  cases negative with
  | false => exact .intro (.inl rfl) hw ht
  | true => exact .intro (.inr rfl) hw ht

theorem ne_of_isDigits {d : Char} (hd : d.isDigit = false) (h : isDigits whole = true) :
    ∀ c ∈ whole, c ≠ d := by
  intro c hc
  exact ne_of_test ((isDigits_iff.mp h).2 c hc) d hd

theorem exists_cons_of_isDigits (h : isDigits whole = true) :
    ∃ c cs, whole = c :: cs ∧ c ≠ '-' ∧ c ≠ '+' := by
  obtain ⟨c, cs, rfl⟩ := List.exists_cons_of_ne_nil (isDigits_iff.mp h).1
  exact ⟨c, cs, rfl, ne_of_isDigits (by decide) h c List.mem_cons_self,
    ne_of_isDigits (by decide) h c List.mem_cons_self⟩

theorem point_notMem (negative : Bool) (h : isDigits whole = true) :
    '.' ∉ hyphen negative ++ whole := by
  intro hm
  obtain hm | hm := List.mem_append.mp hm
  · cases negative with
    | false => cases hm
    | true => exact absurd (List.mem_singleton.mp hm) (by decide)
  · exact ne_of_isDigits (by decide) h '.' hm rfl

theorem integer_or_fraction {t : String} (h : NumberText t.toList) :
    (∃ negative whole, isDigits whole = true ∧ '.' ∉ t.toList ∧
      t = String.ofList (hyphen negative ++ whole)) ∨
    ∃ negative whole fraction, isDigits whole = true ∧ isDigits fraction = true ∧ '.' ∈ t.toList ∧
      t = String.ofList (hyphen negative ++ whole ++ '.' :: fraction) := by
  obtain ⟨negative, whole, tail, ht, hw, htail⟩ := exists_of_numberText h
  have hlist : t = String.ofList (hyphen negative ++ whole ++ tail) := by
    rw [← ht, String.ofList_toList]
  obtain rfl | ⟨fraction, rfl, hf⟩ := htail
  · rw [List.append_nil] at ht hlist
    have hpoint := point_notMem negative hw
    rw [← ht] at hpoint
    exact .inl ⟨negative, whole, hw, hpoint, hlist⟩
  · exact .inr ⟨negative, whole, fraction, hw, hf, by simp [ht], hlist⟩

theorem exists_toInt_eq_iff {m : Int} :
    (∃ n : Int64, m = n.toInt) ↔ Int64.minValue.toInt ≤ m ∧ m ≤ Int64.maxValue.toInt := by
  constructor
  · rintro ⟨n, rfl⟩
    exact ⟨n.minValue_le_toInt, n.toInt_le⟩
  · rintro ⟨hmin, hmax⟩
    exact ⟨.ofInt m, (Int64.toInt_ofInt_of_le hmin (Int.lt_of_le_sub_one hmax)).symm⟩

theorem toNat?_digits (h : isDigits whole = true) :
    (String.ofList whole).toNat? = some (value whole) := by
  obtain ⟨hne, hd⟩ := isDigits_iff.mp h
  have hnat : (String.ofList whole).isNat = true := by
    apply String.isNat_of_isDigit
    · simpa using hne
    · simpa using hd
  have hplain : ∀ c ∈ whole, (c != '_') = true := by
    intro c hc
    rw [bne_iff_ne]
    exact ne_of_isDigits (by decide) h c hc
  rw [String.toNat?_eq_some_ofDigitChars hnat, String.toList_ofList, List.filter_eq_self.mpr hplain,
    Nat.ofDigitChars_eq_foldl, value]

theorem toInt?_digits (negative : Bool) (h : isDigits whole = true) :
    (String.ofList (hyphen negative ++ whole)).toInt? = some (signed negative whole) := by
  have hnat := toNat?_digits h
  rw [String.toInt?_eq_some_iff]
  cases negative with
  | false => exact .inl ⟨value whole, hnat, rfl⟩
  | true =>
    refine .inr ⟨String.ofList whole, ?_, value whole, hnat, rfl⟩
    rw [String.ofList_append]
    rfl

namespace Binary64

theorem splitSign_hyphen (negative : Bool) (h : isDigits whole = true) (tail : List Char) :
    splitSign (hyphen negative ++ whole ++ tail) = (negative, whole ++ tail) := by
  cases negative with
  | true => rfl
  | false =>
    obtain ⟨c, cs, rfl, hhyphen, hplus⟩ := exists_cons_of_isDigits h
    rw [hyphen, if_neg Bool.false_ne_true, List.nil_append, List.cons_append]
    unfold splitSign
    split
    · next hc => exact absurd (List.cons.inj hc).1 hhyphen
    · next hc => exact absurd (List.cons.inj hc).1 hplus
    · rfl

theorem ofUnsigned?_fraction (negative : Bool) (hw : isDigits whole = true)
    (hf : isDigits fraction = true) :
    ofUnsigned? negative (whole ++ '.' :: fraction) =
      some (ofFraction negative whole fraction 0) := by
  obtain ⟨hne, hd⟩ := isDigits_iff.mp hw
  have hpoint : Stops Char.isDigit ('.' :: fraction) := stops_cons (by decide) fraction
  have hrun := (isDigits_iff.mp hf).2
  have htake := List.takeWhile_eq_self_iff.mpr hrun
  have hdrop := List.dropWhile_eq_nil_iff.mpr hrun
  rw [ofUnsigned?, takeWhile_run hd hpoint, dropWhile_run hd hpoint]
  simp [htake, hdrop, hne, scale?]

theorem ofString?_of_point {t : String} {negative : Bool} {cs : List Char}
    (ht : splitSign t.toList = (negative, cs)) (hp : '.' ∈ cs) :
    ofString? t = ofUnsigned? negative cs := by
  have hlower : '.' ∈ (String.ofList (cs.map Char.toLower)).toList := by
    rw [String.toList_ofList]
    exact List.mem_map.mpr ⟨'.', hp, by decide⟩
  rw [ofString?, ht]
  dsimp only
  split
  · next h => exact absurd (h ▸ hlower) (by decide)
  · next h => exact absurd (h ▸ hlower) (by decide)
  · next h => exact absurd (h ▸ hlower) (by decide)
  · rfl

theorem ofString?_fraction (negative : Bool) (hw : isDigits whole = true)
    (hf : isDigits fraction = true) :
    ofString? (String.ofList (hyphen negative ++ whole ++ '.' :: fraction)) =
      some (ofFraction negative whole fraction 0) := by
  have hsplit := splitSign_hyphen negative hw ('.' :: fraction)
  rw [← ofUnsigned?_fraction negative hw hf]
  apply ofString?_of_point
  · rw [String.toList_ofList, hsplit]
  · simp

end Binary64

end Decimal

namespace Value

variable {whole fraction : List Char}

theorem number?_hyphen (negative : Bool) (h : isDigits whole = true) (tail : List Char) :
    number? (String.ofList (hyphen negative ++ whole ++ tail)) =
      unsignedNumber? negative (whole ++ tail) := by
  rw [number?, String.toList_ofList]
  cases negative with
  | true => rfl
  | false =>
    obtain ⟨c, cs, rfl, hhyphen, -⟩ := exists_cons_of_isDigits h
    rw [hyphen, if_neg Bool.false_ne_true, List.nil_append, List.cons_append]
    split
    · next hc => exact absurd (List.cons.inj hc).1 hhyphen
    · rfl

theorem integer?_eq_some_iff {negative : Bool} {n : Int64} :
    integer? negative whole = some n ↔ signed negative whole = n.toInt := by
  have hsigned : integer? negative whole =
      if Int64.minValue.toInt ≤ signed negative whole ∧
          signed negative whole ≤ Int64.maxValue.toInt then
        some (Int64.ofInt (signed negative whole)) else none := rfl
  rw [hsigned]
  by_cases h : ∃ k : Int64, signed negative whole = k.toInt
  · rw [if_pos (exists_toInt_eq_iff.mp h)]
    obtain ⟨k, hk⟩ := h
    rw [hk, Int64.ofInt_toInt, Option.some_inj, Int64.toInt_inj]
  · rw [if_neg (mt exists_toInt_eq_iff.mpr h)]
    exact iff_of_false (Option.some_ne_none n).symm fun hn => h ⟨n, hn⟩

theorem unsignedNumber?_digits (negative : Bool) (h : isDigits whole = true) :
    unsignedNumber? negative whole = (integer? negative whole).map .integer := by
  have hplain : ∀ c ∈ whole, decide (c ≠ '.') = true := by
    simpa using ne_of_isDigits (by decide) h
  rw [unsignedNumber?, List.takeWhile_eq_self_iff.mpr hplain, List.dropWhile_eq_nil_iff.mpr hplain]
  exact if_pos h

theorem unsignedNumber?_fraction (negative : Bool) (hw : isDigits whole = true)
    (hf : isDigits fraction = true) :
    unsignedNumber? negative (whole ++ '.' :: fraction) =
      if (Binary64.ofFraction negative whole fraction 0).isFinite then
        some (.decimal (Binary64.ofFraction negative whole fraction 0)) else none := by
  have hplain : ∀ c ∈ whole, decide (c ≠ '.') = true := by
    simpa using ne_of_isDigits (by decide) hw
  have hpoint : Stops (fun c => decide (c ≠ '.')) ('.' :: fraction) := stops_cons (by decide) fraction
  rw [unsignedNumber?, takeWhile_run hplain hpoint, dropWhile_run hplain hpoint]
  dsimp only
  rw [hw, hf]
  rfl

theorem exists_of_unsignedNumber? {negative : Bool} {cs : List Char} {v : Value}
    (h : unsignedNumber? negative cs = some v) :
    ∃ whole tail, cs = whole ++ tail ∧ isDigits whole = true ∧
      (tail = [] ∨ ∃ fraction, tail = '.' :: fraction ∧ isDigits fraction = true) := by
  have hsplit := List.takeWhile_append_dropWhile (p := (· ≠ '.')) (l := cs)
  refine ⟨cs.takeWhile (· ≠ '.'), cs.dropWhile (· ≠ '.'), hsplit.symm, ?_⟩
  rw [unsignedNumber?] at h
  dsimp only at h
  split at h
  · next hd =>
    split at h
    · next hw => exact ⟨hw, .inl hd⟩
    · cases h
  · next c fraction hd =>
    split at h
    · next hw =>
      obtain ⟨hw, hf⟩ := Bool.and_eq_true_iff.mp hw
      have hc : c = '.' := by
        have hstop := stops_dropWhile (fun c => decide (c ≠ '.')) cs c (by rw [hd]; rfl)
        simpa using hstop
      exact ⟨hw, .inr ⟨fraction, by rw [hd, hc], hf⟩⟩
    · cases h

theorem numberText_of_number? {t : String} {v : Value} (h : number? t = some v) :
    NumberText t.toList := by
  rw [number?] at h
  split at h
  · next cs ht =>
    obtain ⟨whole, tail, rfl, hw, htail⟩ := exists_of_unsignedNumber? h
    rw [ht]
    exact numberText_hyphen true hw htail
  · obtain ⟨whole, tail, ht, hw, htail⟩ := exists_of_unsignedNumber? h
    rw [ht]
    exact numberText_hyphen false hw htail

theorem number?_digits_eq_some_iff (negative : Bool) (h : isDigits whole = true) {v : Value} :
    number? (String.ofList (hyphen negative ++ whole)) = some v ↔
      ∃ n : Int64, (String.ofList (hyphen negative ++ whole)).toInt? = some n.toInt ∧
        v = .integer n := by
  have hread := number?_hyphen negative h []
  rw [List.append_nil, List.append_nil, unsignedNumber?_digits negative h] at hread
  rw [hread, Option.map_eq_some_iff, toInt?_digits negative h]
  simp only [integer?_eq_some_iff, Option.some_inj, eq_comm (b := v)]

theorem number?_fraction_eq_some_iff (negative : Bool) (hw : isDigits whole = true)
    (hf : isDigits fraction = true) {v : Value} :
    number? (String.ofList (hyphen negative ++ whole ++ '.' :: fraction)) = some v ↔
      ∃ x, Binary64.ofString? (String.ofList (hyphen negative ++ whole ++ '.' :: fraction)) = some x ∧
        x.isFinite = true ∧ v = .decimal x := by
  rw [number?_hyphen negative hw, unsignedNumber?_fraction negative hw hf,
    Binary64.ofString?_fraction negative hw hf]
  constructor
  · intro h
    split at h
    · next hx => exact ⟨_, rfl, hx, (Option.some.inj h).symm⟩
    · cases h
  · rintro ⟨x, ⟨⟩, hx, rfl⟩
    exact if_pos hx

/-- With a point a text is read as the decimal nearest to it, without one as the integer that it
denotes. -/
theorem number?_eq_some_iff {t : String} {v : Value} :
    number? t = some v ↔
      NumberText t.toList ∧
        if '.' ∈ t.toList then
          ∃ x, Binary64.ofString? t = some x ∧ x.isFinite = true ∧ v = .decimal x
        else ∃ n : Int64, t.toInt? = some n.toInt ∧ v = .integer n := by
  by_cases h : NumberText t.toList
  · rw [and_iff_right h]
    obtain ⟨negative, whole, hw, hpoint, rfl⟩ | ⟨negative, whole, fraction, hw, hf, hpoint, rfl⟩ :=
      integer_or_fraction h
    · rw [if_neg hpoint]
      exact number?_digits_eq_some_iff negative hw
    · rw [if_pos hpoint]
      exact number?_fraction_eq_some_iff negative hw hf
  · exact iff_of_false (mt numberText_of_number? h) fun hv => h hv.1

example : number? "-0009223372036854775808" = some (.integer Int64.minValue) ∧
    number? "9223372036854775808" = none := by decide

theorem exists_number?_eq_some_iff {t : String} :
    (∃ v, number? t = some v) ↔
      NumberText t.toList ∧
        if '.' ∈ t.toList then ∃ x, Binary64.ofString? t = some x ∧ x.isFinite = true
        else ∃ n, t.toInt? = some n ∧ Int64.minValue.toInt ≤ n ∧ n ≤ Int64.maxValue.toInt := by
  simp only [number?_eq_some_iff]
  rw [exists_and_left]
  apply and_congr_right
  intro _
  split
  · constructor
    · rintro ⟨v, x, hx, hfinite, -⟩
      exact ⟨x, hx, hfinite⟩
    · rintro ⟨x, hx, hfinite⟩
      exact ⟨.decimal x, x, hx, hfinite, rfl⟩
  · constructor
    · rintro ⟨v, n, hn, -⟩
      exact ⟨n.toInt, hn, exists_toInt_eq_iff.mp ⟨n, rfl⟩⟩
    · rintro ⟨m, hm, hrange⟩
      obtain ⟨n, rfl⟩ := exists_toInt_eq_iff.mpr hrange
      exact ⟨.integer n, n, hm, rfl⟩

theorem denotes_of_number? {t : String} {v : Value} (h : number? t = some v) :
    if '.' ∈ t.toList then ∃ x, Binary64.ofString? t = some x ∧ v = .decimal x
    else ∃ n : Int64, t.toInt? = some n.toInt ∧ v = .integer n := by
  have hv := (number?_eq_some_iff.mp h).2
  by_cases hp : '.' ∈ t.toList
  · rw [if_pos hp] at hv ⊢
    obtain ⟨x, hx, -, rfl⟩ := hv
    exact ⟨x, hx, rfl⟩
  · rw [if_neg hp] at hv ⊢
    exact hv

end Value

theorem Decimal.denotes_of_numberText {t : String} (h : NumberText t.toList) :
    if '.' ∈ t.toList then ∃ x, Binary64.ofString? t = some x else ∃ n, t.toInt? = some n := by
  obtain ⟨negative, whole, hw, hp, ht⟩ | ⟨negative, whole, fraction, hw, hf, hp, ht⟩ :=
    integer_or_fraction h
  · rw [if_neg hp, ht, toInt?_digits negative hw]
    exact ⟨_, rfl⟩
  · rw [if_pos hp, ht, Binary64.ofString?_fraction negative hw hf]
    exact ⟨_, rfl⟩

theorem Query.exists_token_iff {kind : String → Token.Kind} {shape : List Char → Prop}
    (h : ∀ s cs, (kind s).IsSpelling cs ↔ cs = s.toList ∧ shape cs) {t : String} :
    (∃ s, tokenize t = .ok [⟨kind s, ⟨0, t.utf8ByteSize⟩⟩]) ↔ shape t.toList := by
  simp only [tokenize_eq_singleton_iff, spelling_iff, h]
  constructor
  · rintro ⟨s, -, hs⟩
    exact hs
  · intro hs
    exact ⟨t, rfl, hs⟩

theorem Query.exists_tokenize_eq_number_iff {t : String} :
    (∃ digits, tokenize t = .ok [⟨.number digits, ⟨0, t.utf8ByteSize⟩⟩]) ↔
      NumberText t.toList :=
  exists_token_iff fun _ _ => Iff.rfl

/-- What is read for a number field is what a query can write as one number, as far as the number
that it denotes is in range: an integer of 64 bits without a point, a finite decimal with one. -/
theorem Literal.read_number_iff_token (field : String) (l : Literal) :
    let t := l.content
    let isNumber := ∃ digits, tokenize t = .ok [⟨.number digits, ⟨0, t.utf8ByteSize⟩⟩]
    ((∃ v, l.read field .number = .ok v) ↔ isNumber ∧
      if '.' ∈ t.toList then ∃ x, Binary64.ofString? t = some x ∧ x.isFinite = true
      else ∃ n, t.toInt? = some n ∧ Int64.minValue.toInt ≤ n ∧ n ≤ Int64.maxValue.toInt) ∧
    (∀ v, l.read field .number = .ok v →
      if '.' ∈ t.toList then ∃ x, Binary64.ofString? t = some x ∧ v = .decimal x
      else ∃ n : Int64, t.toInt? = some n.toInt ∧ v = .integer n) ∧
    (isNumber → if '.' ∈ t.toList then ∃ x, Binary64.ofString? t = some x
      else ∃ n, t.toInt? = some n) := by
  intro t isNumber
  have htoken : isNumber ↔ NumberText t.toList := exists_tokenize_eq_number_iff
  have hread : ∀ v, l.read field .number = .ok v ↔ Value.number? t = some v := fun v =>
    Literal.read_eq_ok_iff
  simp only [hread, htoken]
  exact ⟨Value.exists_number?_eq_some_iff, fun v => Value.denotes_of_number?,
    denotes_of_numberText⟩

end FilterQuery
