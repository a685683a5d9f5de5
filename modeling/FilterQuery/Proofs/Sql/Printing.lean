import FilterQuery.Proofs.Sql.Lexing
import FilterQuery.Proofs.Sql.Reader

namespace FilterQuery

def Value.isFinite : Value → Bool
  | .decimal x => x.isFinite
  | _ => true

end FilterQuery

namespace FilterQuery.Sql

open FilterQuery.Text FilterQuery.Decimal

variable {letter : Char → Char}

/-- A value as it is read back. -/
def Constant.ofValue (letter : Char → Char) : Value → Constant
  | .text s => .text (reread letter s)
  | .bool b => .bool b
  | .date d => .text d.render
  | v => .number v.render

def Constant.token : Constant → Token
  | .text s => .text s
  | .number s => .number s
  | .bool b => .keyword (if b then .isTrue else .isFalse)

theorem ne_quote_of_mem_padded {length n : Nat} : ∀ c ∈ padded length n, c ≠ '\'' :=
  fun _ hc => ne_of_test (isDigit_of_mem_padded hc) _ (by decide)

theorem ne_quote_of_mem_render (d : Date) : ∀ c ∈ d.render.toList, c ≠ '\'' := by
  have hyear : ∀ c ∈ Date.renderYear d.year, c ≠ '\'' := by
    unfold Date.renderYear
    split
    · split
      · exact ne_quote_of_mem_padded
      · exact List.forall_mem_cons.mpr ⟨by decide, ne_quote_of_mem_padded⟩
    · exact List.forall_mem_cons.mpr ⟨by decide, ne_quote_of_mem_padded⟩
  rw [Date.render, String.toList_ofList, List.append_assoc]
  simp only [List.cons_append, List.forall_mem_append, List.forall_mem_cons]
  exact ⟨hyear, by decide, ne_quote_of_mem_padded, by decide, ne_quote_of_mem_padded⟩

theorem lexes_bool (letter : Char → Char) (b : Bool) :
    Lexes letter (if b then "TRUE" else "FALSE").toList
      [.keyword (if b then .isTrue else .isFalse)] := by
  cases b with
  | false => exact lexes_keyword letter .isFalse
  | true => exact lexes_keyword letter .isTrue

theorem lexes_valueConstant (letter : Char → Char) {v : Value} (h : v.isFinite = true) :
    Lexes letter (valueConstant v).toList [(Constant.ofValue letter v).token] := by
  cases v with
  | text s => exact lexes_textConstant letter s
  | integer n => exact lexes_number letter (numberText_int n.toInt)
  | decimal x => exact lexes_number letter (numberText_render h)
  | bool b => exact lexes_bool letter b
  | date d =>
    have hd := lexes_quoted letter (ne_quote_of_mem_render d)
    simpa [valueConstant, Constant.ofValue, Constant.token] using hd

theorem lexes_values (letter : Char → Char) {vs : List Value} (hne : vs ≠ [])
    (h : ∀ v ∈ vs, v.isFinite = true) :
    Lexes letter (", ".intercalate (vs.map valueConstant)).toList
      ((vs.map fun v => (Constant.ofValue letter v).token).intersperse .comma) := by
  induction vs with
  | nil => exact absurd rfl hne
  | cons v vs ih =>
    have hv := lexes_valueConstant letter (h v List.mem_cons_self)
    cases vs with
    | nil => simpa using hv
    | cons w vs =>
      have hvs := ih (by simp) fun x hx => h x (List.mem_cons_of_mem v hx)
      simpa [String.toList_intercalate, List.intercalate] using
        hv.append (by decide) hvs.space.comma

theorem lexes_between {left right : String} {ls rs : List Token} (middle : String) (k : Keyword)
    (hm : middle.toList = ' ' :: (k.spelling.toList ++ [' '])) (hl : Lexes letter left.toList ls)
    (hr : Lexes letter right.toList rs) :
    Lexes letter (left ++ middle ++ right).toList (ls ++ .keyword k :: rs) := by
  have hk := (lexes_keyword letter k).append (by decide) hr.space
  simpa [hm] using hl.append (by decide) hk.space

theorem lexes_related {left right : String} {ls rs : List Token} (r : Relation)
    (hl : Lexes letter left.toList ls) (hr : Lexes letter right.toList rs) :
    Lexes letter (left ++ " " ++ r.symbol ++ " " ++ right).toList (ls ++ .relation r :: rs) := by
  have h := (lexes_relation letter r).append (by decide) hr.space
  simpa using hl.append (by decide) h.space

namespace Expr

def parenthesizedTokens (needed : Bool) (ts : List Token) : List Token :=
  if needed then .openParen :: (ts ++ [.closeParen]) else ts

def values : Expr → List Value
  | .constant _ | .like _ _ => []
  | .compare _ _ v => [v]
  | .isIn _ _ vs => vs
  | .and l r | .or l r => l.values ++ r.values

def tokens (letter : Char → Char) : Expr → List Token
  | .constant b => [.keyword (if b then .isTrue else .isFalse)]
  | .compare column relation v =>
    [.name column, .relation relation, (Constant.ofValue letter v).token]
  | .like column pattern =>
    [.name column, .keyword .like, .text (reread letter pattern), .keyword .escape,
      .text (reread letter "\\")]
  | .isIn _ negated [] => [.number "1", .relation .eq, .number (if negated then "1" else "2")]
  | .isIn column negated vs =>
    .name column :: (if negated then [.keyword .not, .keyword .isIn] else [.keyword .isIn]) ++
      .openParen :: ((vs.map fun v => (Constant.ofValue letter v).token).intersperse .comma ++
        [.closeParen])
  | .and l r =>
    parenthesizedTokens l.isDisjunction (l.tokens letter) ++ .keyword .and ::
      parenthesizedTokens r.isConnective (r.tokens letter)
  | .or l r =>
    parenthesizedTokens l.isConjunction (l.tokens letter) ++ .keyword .or ::
      parenthesizedTokens r.isConnective (r.tokens letter)

theorem lexes_parenthesized {text : String} {ts : List Token} (needed : Bool)
    (h : Lexes letter text.toList ts) :
    Lexes letter (parenthesized needed text).toList (parenthesizedTokens needed ts) := by
  cases needed with
  | false => exact h
  | true =>
    have hp := (h.append (by decide) .closeParen).openParen
    simpa [parenthesized, parenthesizedTokens] using hp

theorem lexes_isIn {column : String} {negated : Bool} {vs : List Value}
    (h : ∀ v ∈ vs, v.isFinite = true) :
    Lexes letter (isIn column negated vs).render.toList
      ((isIn column negated vs).tokens letter) := by
  cases vs with
  | nil =>
    have h₁ : Lexes letter "1".toList [.number "1"] := lexes_natural letter 1
    have h₂ : Lexes letter "2".toList [.number "2"] := lexes_natural letter 2
    cases negated with
    | false => simpa [render, Expr.tokens, Relation.symbol] using lexes_related .eq h₁ h₂
    | true => simpa [render, Expr.tokens, Relation.symbol] using lexes_related .eq h₁ h₁
  | cons v vs =>
    have hn := lexes_name letter column
    have hg := ((lexes_values letter (by simp) h).append (by decide) .closeParen).openParen
    have hi := (lexes_keyword letter .isIn).append (by decide) hg.space
    cases negated with
    | false =>
      have h := hn.append (by decide) hi.space
      simpa [render, Expr.tokens, Keyword.spelling] using h
    | true =>
      have hnot := (lexes_keyword letter .not).append (by decide) hi.space
      have h := hn.append (by decide) hnot.space
      simpa [render, Expr.tokens, Keyword.spelling] using h

theorem lexes_render {e : Expr} (h : ∀ v ∈ e.values, v.isFinite = true) :
    Lexes letter e.render.toList (e.tokens letter) := by
  induction e with
  | constant b => exact lexes_bool letter b
  | compare column relation v =>
    exact lexes_related relation (lexes_name letter column)
      (lexes_valueConstant letter (h v List.mem_cons_self))
  | like column pattern =>
    have hl := lexes_between " LIKE " .like rfl (lexes_name letter column)
      (lexes_textConstant letter pattern)
    exact lexes_between _ .escape rfl hl (lexes_textConstant letter "\\")
  | isIn column negated vs => exact lexes_isIn h
  | and l r ihl ihr =>
    have hl := lexes_parenthesized l.isDisjunction
      (ihl fun v hv => h v (List.mem_append_left _ hv))
    have hr := lexes_parenthesized r.isConnective
      (ihr fun v hv => h v (List.mem_append_right _ hv))
    exact lexes_between _ .and rfl hl hr
  | or l r ihl ihr =>
    have hl := lexes_parenthesized l.isConjunction
      (ihl fun v hv => h v (List.mem_append_left _ hv))
    have hr := lexes_parenthesized r.isConnective
      (ihr fun v hv => h v (List.mem_append_right _ hv))
    exact lexes_between _ .or rfl hl hr

end Expr

namespace Scope

def conditionTokens (letter : Char → Char) : Option Expr → List Token
  | some e => .keyword .condition :: e.tokens letter
  | none => []

def tokens (letter : Char → Char) (s : Scope) : List Token :=
  .keyword .source :: .name s.table :: conditionTokens letter s.condition

theorem lexes_render {s : Scope} (h : ∀ e ∈ s.condition, ∀ v ∈ e.values, v.isFinite = true)
    {left : String} {ls : List Token} (hl : Lexes letter left.toList ls) :
    Lexes letter (left ++ s.render).toList (ls ++ s.tokens letter) := by
  obtain ⟨table, condition⟩ := s
  have ht := lexes_between " FROM " .source rfl hl (lexes_name letter table)
  cases condition with
  | none => simpa [render, Scope.tokens, conditionTokens] using ht
  | some e =>
    have hc := lexes_between " WHERE " .condition rfl ht (Expr.lexes_render (h e rfl))
    simpa [render, Scope.tokens, conditionTokens] using hc

theorem lexes_select {s : Scope} (h : ∀ e ∈ s.condition, ∀ v ∈ e.values, v.isFinite = true)
    (page : PageRequest) :
    Lexes letter (s.select page).toList
      (.keyword .select :: .star :: s.tokens letter ++
        [.keyword .limit, .number (toString page.size.toNat), .keyword .offset,
          .number (toString page.offset.toNat)]) := by
  have hp : Lexes letter "SELECT *".toList [.keyword .select, .star] :=
    (lexes_keyword letter .select).append (by decide) (lexes_star letter).space
  have hl := lexes_between " LIMIT " .limit rfl (lexes_render h hp)
    (lexes_natural letter page.size.toNat)
  have ho := lexes_between " OFFSET " .offset rfl hl (lexes_natural letter page.offset.toNat)
  simpa [select] using ho

theorem lexes_count {s : Scope} (h : ∀ e ∈ s.condition, ∀ v ∈ e.values, v.isFinite = true) :
    Lexes letter s.count.toList
      (.keyword .select :: .keyword .count :: .openParen :: .star :: .closeParen ::
        s.tokens letter) := by
  have hg : Lexes letter "(*)".toList [.openParen, .star, .closeParen] :=
    ((lexes_star letter).append (by decide) .closeParen).openParen
  have hc := (lexes_keyword letter .count).append (by decide) hg
  have hp : Lexes letter "SELECT COUNT(*)".toList
      [.keyword .select, .keyword .count, .openParen, .star, .closeParen] :=
    (lexes_keyword letter .select).append (by decide) hc.space
  exact lexes_render h hp

end Scope

end FilterQuery.Sql
