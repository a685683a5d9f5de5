import FilterQuery.Sql.Expr

namespace FilterQuery.Sql

/-- `Glob g x`: the text `x` is the text `g` with any characters put in for each star. -/
inductive Glob : List Char → List Char → Prop
  | nil : Glob [] []
  | star (xs : List Char) {g x : List Char} (h : Glob g x) : Glob ('*' :: g) (xs ++ x)
  | plain {c : Char} {g x : List Char} (hc : c ≠ '*') (h : Glob g x) : Glob (c :: g) (c :: x)

def IsSpecial (c : Char) : Prop := c = '%' ∨ c = '_' ∨ c = '\\'

/-- `Like p x`: the text `x` is like the pattern `p` with a backslash as its escape. A percent sign
stands for any characters and an underscore for any one; behind a backslash each character stands
for itself. A pattern that ends with a backslash is like nothing. -/
inductive Like : List Char → List Char → Prop
  | nil : Like [] []
  | any (xs : List Char) {p x : List Char} (h : Like p x) : Like ('%' :: p) (xs ++ x)
  | one (c : Char) {p x : List Char} (h : Like p x) : Like ('_' :: p) (c :: x)
  | escaped (c : Char) {p x : List Char} (h : Like p x) : Like ('\\' :: c :: p) (c :: x)
  | plain {c : Char} {p x : List Char} (hc : ¬ IsSpecial c) (h : Like p x) :
      Like (c :: p) (c :: x)

/-- Each backslash that escapes stands before a wildcard or a backslash. -/
inductive WellEscaped : List Char → Prop
  | nil : WellEscaped []
  | escaped {c : Char} {p : List Char} (hc : IsSpecial c) (h : WellEscaped p) :
      WellEscaped ('\\' :: c :: p)
  | plain {c : Char} {p : List Char} (hc : c ≠ '\\') (h : WellEscaped p) : WellEscaped (c :: p)

theorem glob_nil_iff {x : List Char} : Glob [] x ↔ x = [] := by
  constructor
  · rintro ⟨⟩
    rfl
  · rintro rfl
    exact .nil

theorem glob_star_iff {g x : List Char} :
    Glob ('*' :: g) x ↔ ∃ xs y, x = xs ++ y ∧ Glob g y := by
  constructor
  · intro h
    cases h with
    | star xs h => exact ⟨xs, _, rfl, h⟩
    | plain hc => exact absurd rfl hc
  · rintro ⟨xs, y, rfl, h⟩
    exact .star xs h

theorem glob_cons_iff {c : Char} (hc : c ≠ '*') {g x : List Char} :
    Glob (c :: g) x ↔ ∃ y, x = c :: y ∧ Glob g y := by
  constructor
  · intro h
    cases h with
    | star => exact absurd rfl hc
    | plain _ h => exact ⟨_, rfl, h⟩
  · rintro ⟨y, rfl, h⟩
    exact .plain hc h

theorem like_nil_iff {x : List Char} : Like [] x ↔ x = [] := by
  constructor
  · rintro ⟨⟩
    rfl
  · rintro rfl
    exact .nil

theorem like_any_iff {p x : List Char} :
    Like ('%' :: p) x ↔ ∃ xs y, x = xs ++ y ∧ Like p y := by
  constructor
  · intro h
    cases h with
    | any xs h => exact ⟨xs, _, rfl, h⟩
    | plain hc => exact absurd (.inl rfl) hc
  · rintro ⟨xs, y, rfl, h⟩
    exact .any xs h

theorem like_escaped_iff {c : Char} {p x : List Char} :
    Like ('\\' :: c :: p) x ↔ ∃ y, x = c :: y ∧ Like p y := by
  constructor
  · intro h
    cases h with
    | escaped _ h => exact ⟨_, rfl, h⟩
    | plain hc => exact absurd (.inr (.inr rfl)) hc
  · rintro ⟨y, rfl, h⟩
    exact .escaped c h

theorem like_cons_iff {c : Char} (hc : ¬ IsSpecial c) {p x : List Char} :
    Like (c :: p) x ↔ ∃ y, x = c :: y ∧ Like p y := by
  constructor
  · intro h
    cases h with
    | any => exact absurd (.inl rfl) hc
    | one => exact absurd (.inr (.inl rfl)) hc
    | escaped => exact absurd (.inr (.inr rfl)) hc
    | plain _ h => exact ⟨_, rfl, h⟩
  · rintro ⟨y, rfl, h⟩
    exact .plain hc h

def likeChar (c : Char) : List Char :=
  if c = '*' then ['%'] else if c = '%' ∨ c = '_' ∨ c = '\\' then ['\\', c] else [c]

theorem likeChar_star : likeChar '*' = ['%'] := rfl

theorem toList_likePattern (s : String) :
    (likePattern (.text s)).toList = s.toList.flatMap likeChar :=
  String.toList_ofList

theorem likeChar_special {c : Char} (hc : IsSpecial c) : likeChar c = ['\\', c] := by
  obtain rfl | rfl | rfl := hc <;> rfl

theorem likeChar_plain {c : Char} (hs : c ≠ '*') (hc : ¬ IsSpecial c) : likeChar c = [c] := by
  rw [likeChar, if_neg hs]
  exact if_neg hc

theorem like_flatMap_iff (g x : List Char) : Like (g.flatMap likeChar) x ↔ Glob g x := by
  induction g generalizing x with
  | nil => exact like_nil_iff.trans glob_nil_iff.symm
  | cons c g ih =>
    rw [List.flatMap_cons]
    by_cases hs : c = '*'
    · subst hs
      simp only [likeChar_star, List.singleton_append, like_any_iff, glob_star_iff, ih]
    · by_cases hc : IsSpecial c
      · simp only [likeChar_special hc, List.cons_append, List.nil_append, like_escaped_iff,
          glob_cons_iff hs, ih]
      · simp only [likeChar_plain hs hc, List.singleton_append, like_cons_iff hc,
          glob_cons_iff hs, ih]

theorem wellEscaped_flatMap (g : List Char) : WellEscaped (g.flatMap likeChar) := by
  induction g with
  | nil => exact .nil
  | cons c g ih =>
    rw [List.flatMap_cons]
    by_cases hs : c = '*'
    · subst hs
      exact .plain (by decide) ih
    · by_cases hc : IsSpecial c
      · rw [likeChar_special hc]
        exact .escaped hc ih
      · rw [likeChar_plain hs hc]
        exact .plain (fun h => hc (.inr (.inr h))) ih

/-- The pattern for a text is like the texts that fill in its stars, and no others; none of its
escapes is without need or at its end. -/
theorem like_likePattern_iff_glob (s : String) :
    (∀ x : String, Like (likePattern (.text s)).toList x.toList ↔ Glob s.toList x.toList) ∧
      WellEscaped (likePattern (.text s)).toList := by
  rw [toList_likePattern]
  exact ⟨fun x => like_flatMap_iff s.toList x.toList, wellEscaped_flatMap s.toList⟩

end FilterQuery.Sql
