import FilterQuery.Proofs.Query.Spelling

namespace FilterQuery

open FilterQuery.Text FilterQuery.Decimal

def AnyCase (word : String) (cs : List Char) : Prop := cs.map Char.toLower = word.toList

/-- Each operator but `==` and `!=` is a name between equals signs; those of an order are a sign
too. -/
def Operator.IsSpelling : Operator → List Char → Prop
  | .eq, cs => cs = "==".toList
  | .ne, cs => cs = "!=".toList
  | .gt, cs => cs = ">".toList ∨ AnyCase "=gt=" cs
  | .ge, cs => cs = ">=".toList ∨ AnyCase "=ge=" cs
  | .lt, cs => cs = "<".toList ∨ AnyCase "=lt=" cs
  | .le, cs => cs = "<=".toList ∨ AnyCase "=le=" cs
  | .isIn, cs => AnyCase "=in=" cs
  | .notIn, cs => AnyCase "=out=" cs
  | .like, cs => AnyCase "=like=" cs

namespace Query

/-- The texts that a token of the kind is written as. -/
def Token.Kind.IsSpelling : Token.Kind → List Char → Prop
  | .and, cs => AnyCase "and" cs
  | .or, cs => AnyCase "or" cs
  | .name s, cs => cs = s.toList ∧ WordText cs ∧ ¬ IsKeyword cs
  | .text s, cs => ∃ quote body, (quote = '"' ∨ quote = '\'') ∧ cs = quote :: body ++ [quote] ∧
      Unescapes quote body s.toList
  | .number s, cs => cs = s.toList ∧ NumberText cs
  | .bool true, cs => cs = "true".toList
  | .bool false, cs => cs = "false".toList
  | .date s, cs => cs = s.toList ∧ DateText cs
  | .openParen, cs => cs = ['(']
  | .closeParen, cs => cs = [')']
  | .comma, cs => cs = [',']
  | .operator op, cs => op.IsSpelling cs

theorem wordText_of_all {c : Char} {cs : List Char} (h : (c :: cs).all isAlphabetic = true) :
    WordText (c :: cs) := by
  obtain ⟨hc, hcs⟩ := List.forall_mem_cons.mp (List.all_eq_true.mp h)
  exact .intro (.inl hc) fun d hd => .inl (isAlphanumeric_of_isAlphabetic (hcs d hd))

theorem isUpper_iff {c : Char} : c.isUpper = true ↔ 65 ≤ c.toNat ∧ c.toNat ≤ 90 := by
  have hdef : c.isUpper = decide (c.val ≥ 65 ∧ c.val ≤ 90) := rfl
  rw [hdef, decide_eq_true_iff]
  exact and_congr UInt32.le_iff_toNat_le UInt32.le_iff_toNat_le

theorem isAlpha_iff {c : Char} :
    c.isAlpha = true ↔ 65 ≤ c.toNat ∧ c.toNat ≤ 90 ∨ 97 ≤ c.toNat ∧ c.toNat ≤ 122 := by
  have hdef : c.isAlpha = (c.isUpper || (decide (c.val ≥ 97) && decide (c.val ≤ 122))) := rfl
  rw [hdef, Bool.or_eq_true, isUpper_iff, Bool.and_eq_true, decide_eq_true_iff, decide_eq_true_iff]
  exact or_congr Iff.rfl (and_congr UInt32.le_iff_toNat_le UInt32.le_iff_toNat_le)

theorem toLower_cases (c : Char) :
    c.isAlpha = true ∧ c.toLower.isAlpha = true ∨ c.toLower = c := by
  by_cases h : c.val ≥ 65 ∧ c.val ≤ 90
  · have hc : 65 ≤ c.toNat ∧ c.toNat ≤ 90 :=
      ⟨UInt32.le_iff_toNat_le.mp h.1, UInt32.le_iff_toNat_le.mp h.2⟩
    have hlower : c.toLower.toNat = c.toNat + 32 := by
      have hval : c.toLower.val = c.val + 32 := congrArg Char.val (dif_pos h)
      have hadd : (c.val + 32).toNat = (c.val.toNat + 32) % 2 ^ 32 := UInt32.toNat_add _ _
      have hsmall : c.val.toNat ≤ 90 := hc.2
      rw [Char.toNat, hval, hadd, Nat.mod_eq_of_lt (by omega)]
      rfl
    exact .inl ⟨isAlpha_iff.mpr (.inl hc), isAlpha_iff.mpr (.inr (by omega))⟩
  · exact .inr (dif_neg h)

theorem isAlpha_of_anyCase {word : String} {cs : List Char} (h : AnyCase word cs)
    (hw : word.toList.all Char.isAlpha = true) : cs.all Char.isAlpha = true := by
  rw [AnyCase] at h
  rw [← h, List.all_map] at hw
  refine List.all_eq_true.mpr fun c hc => ?_
  have halpha : c.toLower.isAlpha = true := List.all_eq_true.mp hw c hc
  rcases toLower_cases c with ⟨hc, -⟩ | hc
  · exact hc
  · rwa [hc] at halpha

theorem eq_of_toLower_eq {c d : Char} (h : c.toLower = d) (hd : d.isAlpha = false) : c = d := by
  rcases toLower_cases c with ⟨-, hc⟩ | hc
  · rw [h, hd] at hc
    cases hc
  · exact hc.symm.trans h

theorem isAlphabetic_of_isAlpha {c : Char} (h : c.isAlpha = true) : isAlphabetic c = true := by
  obtain ⟨bounds, hb⟩ : ∃ bounds, alphabeticBounds = 65 :: 91 :: 97 :: 123 :: bounds := ⟨_, rfl⟩
  have hbounds := isAlpha_iff.mp h
  rw [isAlphabetic, hb]
  simp only [within, Bool.and_eq_true, Bool.or_eq_true, decide_eq_true_eq]
  omega

theorem wordText_of_anyCase {word : String} {cs : List Char} (h : AnyCase word cs)
    (hw : word.toList.all Char.isAlpha = true) (hne : word.toList ≠ []) : WordText cs := by
  have hall := List.all_eq_true.mp (isAlpha_of_anyCase h hw)
  cases cs with
  | nil => exact absurd h.symm hne
  | cons c cs =>
    exact wordText_of_all (List.all_eq_true.mpr fun d hd => isAlphabetic_of_isAlpha (hall d hd))

theorem exists_of_anyCase_enclosed {cs word : List Char}
    (h : cs.map Char.toLower = '=' :: word ++ ['=']) :
    ∃ name, cs = '=' :: name ++ ['='] ∧ name.map Char.toLower = word := by
  obtain ⟨front, back, rfl, hfront, hback⟩ := List.map_eq_append_iff.mp h
  obtain ⟨c, name, rfl, hc, hname⟩ := List.map_eq_cons_iff.mp hfront
  obtain ⟨d, ds, rfl, hd, hds⟩ := List.map_eq_cons_iff.mp hback
  obtain rfl := eq_of_toLower_eq hc rfl
  obtain rfl := eq_of_toLower_eq hd rfl
  obtain rfl := List.map_eq_nil_iff.mp hds
  exact ⟨name, rfl, hname⟩

theorem spelling_named {word : String} {op : Operator} {cs : List Char}
    (h : AnyCase ("=" ++ word ++ "=") cs) (ho : Operator.ofName? word = some op)
    (hw : word.toList.all Char.isAlpha = true) (hne : word.toList ≠ []) :
    Spelling (.operator op) cs := by
  rw [AnyCase, String.toList_append, String.toList_append] at h
  obtain ⟨name, rfl, hname⟩ := exists_of_anyCase_enclosed h
  have hname : AnyCase word name := hname
  refine .named ?_ (List.all_eq_true.mp (isAlpha_of_anyCase hname hw)) ?_
  · rintro rfl
    exact hne hname.symm
  · rwa [show name.map Char.toLower = word.toList from hname, String.ofList_toList]

theorem spelling_of_operator {op : Operator} {cs : List Char} (h : op.IsSpelling cs) :
    Spelling (.operator op) cs := by
  cases op with
  | eq =>
    rw [show cs = ['=', '='] from h]
    exact .eq
  | ne =>
    rw [show cs = ['!', '='] from h]
    exact .ne
  | gt =>
    obtain rfl | h := h
    · exact .gt
    · exact @spelling_named "gt" .gt cs h rfl rfl (by decide)
  | ge =>
    obtain rfl | h := h
    · exact .ge
    · exact @spelling_named "ge" .ge cs h rfl rfl (by decide)
  | lt =>
    obtain rfl | h := h
    · exact .lt
    · exact @spelling_named "lt" .lt cs h rfl rfl (by decide)
  | le =>
    obtain rfl | h := h
    · exact .le
    · exact @spelling_named "le" .le cs h rfl rfl (by decide)
  | isIn => exact @spelling_named "in" .isIn cs h rfl rfl (by decide)
  | notIn => exact @spelling_named "out" .notIn cs h rfl rfl (by decide)
  | like => exact @spelling_named "like" .like cs h rfl rfl (by decide)

theorem isSpelling_named {name : List Char} {op : Operator}
    (ho : Operator.ofName? (String.ofList (name.map Char.toLower)) = some op) :
    op.IsSpelling ('=' :: name ++ ['=']) := by
  have hcase {word : String} (h : String.ofList (name.map Char.toLower) = word) :
      AnyCase ("=" ++ word ++ "=") ('=' :: name ++ ['=']) := by
    have hname : name.map Char.toLower = word.toList := by rw [← h, String.toList_ofList]
    rw [AnyCase, List.map_append, List.map_cons, hname, String.toList_append, String.toList_append]
    rfl
  unfold Operator.ofName? at ho
  split at ho
  · next h => cases ho; exact .inr (hcase h)
  · next h => cases ho; exact .inr (hcase h)
  · next h => cases ho; exact .inr (hcase h)
  · next h => cases ho; exact .inr (hcase h)
  · next h => cases ho; exact hcase h
  · next h => cases ho; exact hcase h
  · next h => cases ho; exact hcase h
  · cases ho

theorem isSpelling_wordKind {cs : List Char} (h : WordText cs) :
    (Lexeme.wordKind cs).IsSpelling cs := by
  rw [Lexeme.wordKind]
  split
  · next ht => exact ht
  · split
    · next hf => exact hf
    · split
      · next ha => exact ha
      · split
        · next ho => exact ho
        · next ht hf ha ho =>
          refine ⟨String.toList_ofList.symm, h, ?_⟩
          rintro (hk | hk | hk | hk)
          · exact ht hk
          · exact hf hk
          · exact ha hk
          · exact ho hk

theorem ne_of_anyCase {word other : String} {cs : List Char} (h : AnyCase word cs)
    (hw : other.toList.map Char.toLower ≠ word.toList) : cs ≠ other.toList := by
  rintro rfl
  exact hw h

theorem wordKind_of_anyCase_and {cs : List Char} (h : AnyCase "and" cs) :
    Lexeme.wordKind cs = .and := by
  have hand : cs.map Char.toLower = "and".toList := h
  rw [Lexeme.wordKind, if_neg (ne_of_anyCase h (by decide)), if_neg (ne_of_anyCase h (by decide)),
    if_pos hand]

theorem wordKind_of_anyCase_or {cs : List Char} (h : AnyCase "or" cs) :
    Lexeme.wordKind cs = .or := by
  have hor : cs.map Char.toLower = "or".toList := h
  have hand : cs.map Char.toLower ≠ "and".toList := by
    rw [hor]
    decide
  rw [Lexeme.wordKind, if_neg (ne_of_anyCase h (by decide)), if_neg (ne_of_anyCase h (by decide)),
    if_neg hand, if_pos hor]

theorem wordKind_of_not_isKeyword {cs : List Char} (h : ¬ IsKeyword cs) :
    Lexeme.wordKind cs = .name (String.ofList cs) := by
  simp only [IsKeyword, not_or] at h
  rw [Lexeme.wordKind, if_neg h.1, if_neg h.2.1, if_neg h.2.2.1, if_neg h.2.2.2]

theorem spelling_bool (b : Bool) : Spelling (.bool b) (if b then "true" else "false").toList := by
  cases b with
  | false => exact @Spelling.word ['f', 'a', 'l', 's', 'e'] (wordText_of_all rfl)
  | true => exact @Spelling.word ['t', 'r', 'u', 'e'] (wordText_of_all rfl)

theorem spelling_iff {k : Token.Kind} {cs : List Char} : Spelling k cs ↔ k.IsSpelling cs := by
  constructor
  · intro h
    cases h with
    | openParen | closeParen | comma => rfl
    | eq | ne => rfl
    | lt | le | gt | ge => exact .inl rfl
    | named _ _ ho => exact isSpelling_named ho
    | text hq hb => exact ⟨_, _, hq, rfl, by rwa [String.toList_ofList]⟩
    | number h => exact ⟨String.toList_ofList.symm, h⟩
    | date h => exact ⟨String.toList_ofList.symm, h⟩
    | word h => exact isSpelling_wordKind h
  · intro h
    cases k with
    | and =>
      rw [← wordKind_of_anyCase_and h]
      exact .word (wordText_of_anyCase h rfl (by decide))
    | or =>
      rw [← wordKind_of_anyCase_or h]
      exact .word (wordText_of_anyCase h rfl (by decide))
    | name s =>
      obtain ⟨rfl, hw, hk⟩ := h
      have hs := Spelling.word hw
      rwa [wordKind_of_not_isKeyword hk, String.ofList_toList] at hs
    | text s =>
      obtain ⟨quote, body, hq, rfl, hb⟩ := h
      have hs := Spelling.text hq hb
      rwa [String.ofList_toList] at hs
    | number s =>
      obtain ⟨rfl, hn⟩ := h
      have hs := Spelling.number hn
      rwa [String.ofList_toList] at hs
    | bool b =>
      cases b with
      | false => exact h ▸ spelling_bool false
      | true => exact h ▸ spelling_bool true
    | date s =>
      obtain ⟨rfl, hd⟩ := h
      have hs := Spelling.date hd
      rwa [String.ofList_toList] at hs
    | openParen => exact h ▸ .openParen
    | closeParen => exact h ▸ .closeParen
    | comma => exact h ▸ .comma
    | operator op => exact spelling_of_operator h

end Query

end FilterQuery
