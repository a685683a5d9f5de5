import FilterQuery.Text.CharClass

namespace FilterQuery.Text

theorem ne_of_test {test : Char → Bool} {c : Char} (hc : test c = true) (d : Char)
    (hd : test d = false) : c ≠ d := by
  rintro rfl
  exact Bool.false_ne_true (hd.symm.trans hc)

theorem not_mem_of_test {test : Char → Bool} {c : Char} {ds : List Char} (hc : test c = true)
    (hd : ds.any test = false) : c ∉ ds := by
  intro hm
  rw [List.any_eq_false] at hd
  exact hd c hm hc

theorem within_eq_false {start n : Nat} (bounds : List Nat) (h : n < start) :
    within (start :: bounds) n = false := by
  cases bounds <;> simp [within, Nat.not_le.mpr h]

def blankPoints : List Nat :=
  [9, 10, 11, 12, 13, 32, 133, 160, 5760, 8192, 8193, 8194, 8195, 8196, 8197, 8198, 8199, 8200,
    8201, 8202, 8232, 8233, 8239, 8287, 12288]

theorem mem_blankPoints {c : Char} (h : isBlank c = true) : c.toNat ∈ blankPoints := by
  simp only [isBlank, blankBounds, within, Bool.and_eq_true, Bool.or_eq_true, decide_eq_true_eq,
    Bool.false_eq_true, or_false] at h
  simp only [blankPoints, List.mem_cons, List.not_mem_nil, or_false]
  omega

theorem blankPoints_disjoint : ∀ n ∈ blankPoints,
    within alphabeticBounds n = false ∧ within numericBounds n = false := by
  decide +kernel

theorem isAlphanumeric_of_isBlank {c : Char} (h : isBlank c = true) :
    isAlphanumeric c = false := by
  obtain ⟨ha, hn⟩ := blankPoints_disjoint _ (mem_blankPoints h)
  simp [isAlphanumeric, isAlphabetic, ha, hn]

theorem isAlphanumeric_of_isAlphabetic {c : Char} (h : isAlphabetic c = true) :
    isAlphanumeric c = true := by
  simp [isAlphanumeric, h]

theorem isNamePart_of_isNameStart {c : Char} (h : isNameStart c = true) : isNamePart c = true := by
  simp only [isNameStart, Bool.or_eq_true] at h
  simp only [isNamePart, Bool.or_eq_true]
  exact h.imp (fun ha => .inl (isAlphanumeric_of_isAlphabetic ha)) id

theorem isBlank_of_isNamePart {c : Char} (h : isNamePart c = true) : isBlank c = false := by
  rw [← Bool.not_eq_true]
  intro hb
  have ha := isAlphanumeric_of_isBlank hb
  simp only [isNamePart, ha, Bool.false_or, Bool.or_eq_true, beq_iff_eq] at h
  obtain rfl | rfl := h
  · exact absurd hb (by decide)
  · exact absurd hb (by decide)

theorem toNat_of_isDigit {c : Char} (h : c.isDigit = true) : 48 ≤ c.toNat ∧ c.toNat ≤ 57 := by
  simp only [Char.isDigit, Bool.and_eq_true, decide_eq_true_eq] at h
  exact ⟨UInt32.le_iff_toNat_le.mp h.1, UInt32.le_iff_toNat_le.mp h.2⟩

theorem isAlphabetic_of_isDigit {c : Char} (h : c.isDigit = true) : isAlphabetic c = false := by
  have hc : c.toNat < 65 := Nat.lt_of_le_of_lt (toNat_of_isDigit h).2 (by decide)
  exact within_eq_false _ hc

theorem isAlphanumeric_of_isDigit {c : Char} (h : c.isDigit = true) : isAlphanumeric c = true := by
  obtain ⟨hl, hu⟩ := toNat_of_isDigit h
  obtain ⟨bounds, hb⟩ : ∃ bounds, numericBounds = 48 :: 58 :: bounds := ⟨_, rfl⟩
  have hn : within numericBounds c.toNat = true := by
    rw [hb]
    simp [within, hl, Nat.lt_succ_of_le hu]
  simp [isAlphanumeric, hn]

theorem isDigit_of_isNameStart {c : Char} (h : isNameStart c = true) : c.isDigit = false := by
  rw [← Bool.not_eq_true]
  intro hd
  simp only [isNameStart, isAlphabetic_of_isDigit hd, Bool.false_or, beq_iff_eq] at h
  subst h
  exact absurd hd (by decide)

theorem isBlank_of_isDigit {c : Char} (h : c.isDigit = true) : isBlank c = false := by
  apply isBlank_of_isNamePart
  simp [isNamePart, isAlphanumeric_of_isDigit h]

/-- The text is at its end or goes on with a character that fails the test. -/
def Stops (test : Char → Bool) (rest : List Char) : Prop := ∀ c ∈ rest.head?, test c = false

theorem stops_cons {test : Char → Bool} {c : Char} (h : test c = false) (rest : List Char) :
    Stops test (c :: rest) := by
  rintro d ⟨rfl⟩
  exact h

theorem stops_of_ne_cons {d : Char} {rest : List Char} (h : ∀ cs, rest ≠ d :: cs) :
    Stops (· == d) rest := by
  intro c hc
  rw [beq_eq_false_iff_ne]
  rintro rfl
  obtain ⟨cs, hcs⟩ := List.head?_eq_some_iff.mp hc
  exact h cs hcs

theorem Stops.mono {test test' : Char → Bool} {rest : List Char}
    (h : ∀ c, test' c = true → test c = true) (hs : Stops test rest) : Stops test' rest := by
  intro c hc
  rw [← Bool.not_eq_true]
  intro ht
  exact Bool.false_ne_true ((hs c hc).symm.trans (h c ht))

theorem Stops.append {test : Char → Bool} {rest rest' : List Char} (h : Stops test rest)
    (h' : Stops test rest') : Stops test (rest ++ rest') := by
  cases rest with
  | nil => exact h'
  | cons c rest => exact stops_cons (h c rfl) _

theorem Stops.of_append {test : Char → Bool} {rest rest' : List Char}
    (h : Stops test (rest ++ rest')) : Stops test rest := by
  cases rest with
  | nil => rintro c ⟨⟩
  | cons c rest => exact h

theorem stops_dropWhile (test : Char → Bool) (cs : List Char) :
    Stops test (cs.dropWhile test) := by
  intro c hc
  have h := List.head?_dropWhile_not test cs
  rwa [hc] at h

theorem test_of_mem_takeWhile {test : Char → Bool} {c : Char} {cs : List Char}
    (h : c ∈ cs.takeWhile test) : test c = true :=
  List.all_eq_true.mp List.all_takeWhile c h

theorem takeWhile_run {test : Char → Bool} {run rest : List Char}
    (hr : ∀ c ∈ run, test c = true) (hs : Stops test rest) :
    (run ++ rest).takeWhile test = run := by
  rw [List.takeWhile_append_of_pos hr]
  cases rest with
  | nil => simp
  | cons c rest => simp [hs c rfl]

theorem dropWhile_run {test : Char → Bool} {run rest : List Char}
    (hr : ∀ c ∈ run, test c = true) (hs : Stops test rest) :
    (run ++ rest).dropWhile test = rest := by
  rw [List.dropWhile_append_of_pos hr]
  cases rest with
  | nil => rfl
  | cons c rest => simp [hs c rfl]

end FilterQuery.Text
