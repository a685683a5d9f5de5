import FilterQuery.Proofs.Filter.Numbers
import FilterQuery.Sql.Quoted
import Mathlib.Data.List.Induction
import Mathlib.Tactic.IntervalCases
import Std.Time.Date.PlainDate

namespace FilterQuery

open FilterQuery.Text FilterQuery.Decimal FilterQuery.Query

namespace Decimal

variable {ds : List Char}

theorem digits_eq (n : Nat) :
    digits n = (if n < 10 then [] else digits (n / 10)) ++ [(n % 10).digitChar] := by
  rw [digits, Nat.toDigits_eq_if (by decide)]
  split
  · next h => rw [Nat.mod_eq_of_lt h, List.nil_append]
  · rfl

theorem value_concat (ds : List Char) (c : Char) :
    value (ds ++ [c]) = 10 * value ds + (c.toNat - '0'.toNat) := by
  rw [value, List.foldl_append]
  rfl

theorem digit_of_isDigit {c : Char} (h : c.isDigit = true) :
    c.toNat - '0'.toNat < 10 ∧ (c.toNat - '0'.toNat).digitChar = c := by
  obtain ⟨hl, hu⟩ := toNat_of_isDigit h
  have hzero : '0'.toNat = 48 := rfl
  have hlt : c.toNat - '0'.toNat < 10 := by omega
  refine ⟨hlt, Char.toNat_inj.mp ?_⟩
  rw [Nat.toNat_digitChar_of_lt_ten hlt]
  omega

theorem value_lt (h : ∀ c ∈ ds, c.isDigit = true) : value ds < 10 ^ ds.length := by
  induction ds using List.reverseRecOn with
  | nil => decide
  | append_singleton ds c ih =>
    obtain ⟨hds, hc⟩ := List.forall_mem_append.mp h
    have hvalue := ih hds
    obtain ⟨hlast, -⟩ := digit_of_isDigit (hc c (List.mem_singleton_self c))
    rw [value_concat, List.length_append, List.length_singleton, Nat.pow_succ]
    omega

theorem padded_succ {length : Nat} (hl : length ≠ 0) (n : Nat) {d : Nat} (hd : d < 10) :
    padded (length + 1) (10 * n + d) = padded length n ++ [d.digitChar] := by
  have hdiv : (10 * n + d) / 10 = n := by omega
  have hmod : (10 * n + d) % 10 = d := by omega
  rw [padded, digits_eq, hdiv, hmod]
  split
  · next hlt =>
    obtain rfl : n = 0 := by omega
    have hzeros : List.replicate length '0' = padded length 0 := by
      obtain ⟨k, rfl⟩ := Nat.exists_eq_succ_of_ne_zero hl
      exact List.replicate_succ'
    rw [List.nil_append, List.length_singleton, Nat.add_sub_cancel, hzeros]
  · rw [List.length_append, List.length_singleton, Nat.add_sub_add_right, padded,
      List.append_assoc]

theorem padded_value (hne : ds ≠ []) (h : ∀ c ∈ ds, c.isDigit = true) :
    padded ds.length (value ds) = ds := by
  induction ds using List.reverseRecOn with
  | nil => exact absurd rfl hne
  | append_singleton ds c ih =>
    obtain ⟨hds, hc⟩ := List.forall_mem_append.mp h
    obtain ⟨hlast, hchar⟩ := digit_of_isDigit (hc c (List.mem_singleton_self c))
    rw [value_concat, List.length_append, List.length_singleton]
    by_cases hnil : ds = []
    · subst hnil
      have hzero : 10 * value [] + (c.toNat - '0'.toNat) = c.toNat - '0'.toNat := Nat.zero_add _
      rw [hzero, padded, digits_eq, if_pos hlast, Nat.mod_eq_of_lt hlast, hchar]
      rfl
    · rw [padded_succ (mt List.length_eq_zero_iff.mp hnil) _ hlast, ih hnil hds,
        hchar]

end Decimal

namespace Date

theorem isLeap_eq (year : Int) : Std.Time.Year.Offset.isLeap year = isLeapYear year := by
  have hdvd (k : Int) : Int.tmod year k = 0 ↔ year % k = 0 :=
    Int.dvd_iff_tmod_eq_zero.symm.trans Int.dvd_iff_emod_eq_zero
  rw [Bool.eq_iff_iff, Std.Time.Year.Offset.isLeap, isLeapYear, Std.Time.Year.Offset.toInt]
  simp [hdvd]

theorem days_eq (year : Int) {month : Int} (h : 1 ≤ month ∧ month ≤ 12) :
    (Std.Time.Month.Ordinal.days (Std.Time.Year.Offset.isLeap year) ⟨month, h⟩).val =
      daysIn year month.toNat := by
  rw [isLeap_eq]
  obtain ⟨hl, hu⟩ := h
  interval_cases month
  case «2» =>
    show _ = ((if isLeapYear year then 29 else 28 : Nat) : Int)
    cases isLeapYear year <;> rfl
  all_goals cases isLeapYear year <;> rfl

theorem month_of_daysIn {year : Int} {month : Nat} (h : daysIn year month ≠ 0) :
    1 ≤ (month : Int) ∧ (month : Int) ≤ 12 := by
  unfold daysIn at h
  split at h
  all_goals first | exact absurd rfl h | decide

def ofPlainDate (day : Std.Time.PlainDate) : Date where
  year := day.year.toInt
  month := day.month.val.toNat
  day := day.day.val.toNat
  one_le_day := by
    have hday := day.day.property.1
    omega
  day_le := by
    have hvalid : day.day.val ≤ (day.month.days day.year.isLeap).val := day.valid
    have hdays := days_eq day.year.toInt day.month.property
    have hmonth : (day.month.days day.year.isLeap).val =
        daysIn day.year.toInt day.month.val.toNat := hdays
    omega

theorem of?_eq_some_iff {year : Int} {month day : Nat} {d : Date} :
    of? year month day = some d ↔ ∃ p : Std.Time.PlainDate, p.year.toInt = year ∧
      p.month.val = month ∧ p.day.val = day ∧ d = ofPlainDate p := by
  constructor
  · intro h
    rw [of?] at h
    split at h
    · next hday =>
      cases h
      have hmonth := @month_of_daysIn year month (by omega)
      have hvalid := days_eq year hmonth
      have hle := (Std.Time.Month.Ordinal.days (Std.Time.Year.Offset.isLeap year)
        ⟨month, hmonth⟩).property.2
      rw [Int.toNat_natCast] at hvalid
      refine ⟨⟨year, ⟨month, hmonth⟩, ⟨day, by omega, by omega⟩, ?_⟩, rfl, rfl, rfl, rfl⟩
      show (day : Int) ≤ _
      rw [hvalid]
      omega
    · cases h
  · rintro ⟨p, rfl, hmonth, hday, rfl⟩
    have hm : month = p.month.val.toNat := by omega
    have hd : day = p.day.val.toNat := by omega
    subst hm hd
    exact dif_pos ⟨(ofPlainDate p).one_le_day, (ofPlainDate p).day_le⟩

variable {year month day : List Char}

/-- The numbers between the hyphens of the text are the year, the month and the day. -/
def Spells (t : String) (p : Std.Time.PlainDate) : Prop :=
  (t.toList.splitOn '-').map (fun group => (String.ofList group).toInt?) =
    [some p.year.toInt, some p.month.val, some p.day.val]

theorem ofText?_digits (hy : year.length = 4) (hm : month.length = 2) (hd : day.length = 2)
    (h : ∀ c ∈ year ++ month ++ day, c.isDigit = true) :
    ofText? (String.ofList (year ++ '-' :: month ++ '-' :: day)) =
      of? (value year) (value month) (value day) := by
  obtain ⟨y₁, y₂, y₃, y₄, rfl⟩ := List.length_eq_four.mp hy
  obtain ⟨m₁, m₂, rfl⟩ := List.length_eq_two.mp hm
  obtain ⟨d₁, d₂, rfl⟩ := List.length_eq_two.mp hd
  rw [ofText?, String.toList_ofList]
  exact if_pos (List.all_eq_true.mpr h)

theorem dateText_of_ofText? {t : String} {d : Date} (h : ofText? t = some d) :
    DateText t.toList := by
  rw [ofText?] at h
  split at h
  · next y₁ y₂ y₃ y₄ m₁ m₂ d₁ d₂ ht =>
    dsimp only at h
    split at h
    · next hdigits =>
      rw [ht]
      exact @DateText.intro [y₁, y₂, y₃, y₄] [m₁, m₂] [d₁, d₂] rfl rfl rfl
        (List.all_eq_true.mp hdigits)
    · cases h
  · cases h

theorem hyphen_notMem {ds : List Char} (h : ∀ c ∈ ds, c.isDigit = true) : '-' ∉ ds := by
  intro hm
  exact absurd (h '-' hm) (by decide)

theorem spells_digits (hy : isDigits year = true) (hm : isDigits month = true)
    (hd : isDigits day = true) {p : Std.Time.PlainDate} :
    Spells (String.ofList (year ++ '-' :: month ++ '-' :: day)) p ↔
      p.year.toInt = value year ∧ p.month.val = value month ∧ p.day.val = value day := by
  have hgroups : (year ++ '-' :: month ++ '-' :: day).splitOn '-' = [year, month, day] := by
    rw [List.append_assoc, List.cons_append,
      List.splitOn_append_cons_self_of_not_mem (hyphen_notMem (isDigits_iff.mp hy).2),
      List.splitOn_append_cons_self_of_not_mem (hyphen_notMem (isDigits_iff.mp hm).2),
      List.splitOn_eq_singleton (hyphen_notMem (isDigits_iff.mp hd).2)]
  have hread {ds : List Char} (h : isDigits ds = true) :
      (String.ofList ds).toInt? = some (value ds : Int) := toInt?_digits false h
  rw [Spells, String.toList_ofList, hgroups]
  simp [hread hy, hread hm, hread hd, eq_comm]

theorem exists_of_dateText {t : String} (h : DateText t.toList) :
    ∃ year month day, t = String.ofList (year ++ '-' :: month ++ '-' :: day) ∧
      year.length = 4 ∧ month.length = 2 ∧ day.length = 2 ∧
        ∀ c ∈ year ++ month ++ day, c.isDigit = true := by
  generalize ht : t.toList = cs at h
  cases h with
  | @intro year month day hy hm hd h =>
    exact ⟨year, month, day, by rw [← ht, String.ofList_toList], hy, hm, hd, h⟩

/-- A text is read as a day if it has the shape of a date and the calendar has the day that it
spells. -/
theorem ofText?_eq_some_iff {t : String} {d : Date} :
    ofText? t = some d ↔ DateText t.toList ∧ ∃ p, Spells t p ∧ d = ofPlainDate p := by
  by_cases h : DateText t.toList
  · rw [and_iff_right h]
    obtain ⟨year, month, day, rfl, hy, hm, hd, hdigits⟩ := exists_of_dateText h
    rw [ofText?_digits hy hm hd hdigits, of?_eq_some_iff]
    simp only [List.forall_mem_append] at hdigits
    have hyear := isDigits_iff.mpr ⟨List.ne_nil_of_length_eq_add_one hy, hdigits.1.1⟩
    have hmonth := isDigits_iff.mpr ⟨List.ne_nil_of_length_eq_add_one hm, hdigits.1.2⟩
    have hday := isDigits_iff.mpr ⟨List.ne_nil_of_length_eq_add_one hd, hdigits.2⟩
    simp only [spells_digits hyear hmonth hday, and_assoc]
  · exact iff_of_false (mt dateText_of_ofText? h) fun ht => h ht.1

example : (ofText? "2000-02-29").isSome = true ∧ ofText? "1900-02-29" = none := by decide

theorem padded_of_length {n : Nat} {ds : List Char} (hl : ds.length = n + 1)
    (h : ∀ c ∈ ds, c.isDigit = true) : padded (n + 1) (value ds) = ds := by
  rw [← hl]
  exact padded_value (List.ne_nil_of_length_eq_add_one hl) h

theorem renderYear_digits (hy : year.length = 4) (h : ∀ c ∈ year, c.isDigit = true) :
    renderYear (value year) = year := by
  have hlt : value year < 10000 := by simpa [hy] using value_lt h
  have hyear : renderYear (value year) =
      if value year < 10000 then padded 4 (value year) else '+' :: padded 4 (value year) := rfl
  rw [hyear, if_pos hlt, padded_of_length hy h]

theorem render_of_of? {m d : Nat} {y : Int} {x : Date} (h : of? y m d = some x) :
    x.render = String.ofList (renderYear y ++ '-' :: padded 2 m ++ '-' :: padded 2 d) := by
  rw [of?] at h
  split at h
  · cases h
    rfl
  · cases h

theorem render_of_ofText? {t : String} {d : Date} (h : ofText? t = some d) : d.render = t := by
  obtain ⟨year, month, day, rfl, hy, hm, hd, hdigits⟩ :=
    exists_of_dateText (dateText_of_ofText? h)
  rw [ofText?_digits hy hm hd hdigits] at h
  simp only [List.forall_mem_append] at hdigits
  rw [render_of_of? h, renderYear_digits hy hdigits.1.1, padded_of_length hm hdigits.1.2,
    padded_of_length hd hdigits.2]

end Date

theorem Query.exists_tokenize_eq_date_iff {t : String} :
    (∃ text, tokenize t = .ok [⟨.date text, ⟨0, t.utf8ByteSize⟩⟩]) ↔ DateText t.toList :=
  exists_token_iff fun _ _ => Iff.rfl

/-- What is read for a date field is what a query can write as one date, as far as the calendar has
the day that it spells. The date is that day, and it is written as the text that it was read from. -/
theorem Literal.read_date_iff_calendar (field : String) (l : Literal) :
    let t := l.content
    let isDate := ∃ text, tokenize t = .ok [⟨.date text, ⟨0, t.utf8ByteSize⟩⟩]
    ((∃ v, l.read field .date = .ok v) ↔ isDate ∧ ∃ p, Date.Spells t p) ∧
    (∀ v, l.read field .date = .ok v →
      (∃ p, Date.Spells t p ∧ v = .date (.ofPlainDate p)) ∧ v.render = t ∧
        Sql.valueConstant v = "'" ++ t ++ "'") ∧
    ∀ other (l' : Literal) v, l.read field .date = .ok v → l'.read other .date = .ok v →
      l'.content = t := by
  intro t isDate
  have htoken : isDate ↔ DateText t.toList := exists_tokenize_eq_date_iff
  have hread (other : String) (l' : Literal) (v : Value) :
      l'.read other .date = .ok v ↔ ∃ d, Date.ofText? l'.content = some d ∧ .date d = v :=
    Literal.read_eq_ok_iff.trans Option.map_eq_some_iff
  simp only [hread, htoken]
  refine ⟨?_, ?_, ?_⟩
  · constructor
    · rintro ⟨v, d, hd, rfl⟩
      obtain ⟨ht, p, hp, rfl⟩ := Date.ofText?_eq_some_iff.mp hd
      exact ⟨ht, p, hp⟩
    · rintro ⟨ht, p, hp⟩
      exact ⟨_, _, Date.ofText?_eq_some_iff.mpr ⟨ht, p, hp, rfl⟩, rfl⟩
  · rintro v ⟨d, hd, rfl⟩
    obtain ⟨ht, p, hp, rfl⟩ := Date.ofText?_eq_some_iff.mp hd
    have hrender := Date.render_of_ofText? hd
    exact ⟨⟨p, hp, rfl⟩, hrender, by rw [Sql.valueConstant, hrender]⟩
  · rintro other l' v ⟨d, hd, rfl⟩ ⟨d', hd', hdate⟩
    obtain rfl := Value.date.inj hdate
    rw [← Date.render_of_ofText? hd', Date.render_of_ofText? hd]

end FilterQuery
