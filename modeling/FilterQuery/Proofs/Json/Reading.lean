import FilterQuery.Json.Parser
import FilterQuery.Proofs.Json.Spelling

namespace FilterQuery.Json

open FilterQuery.Text FilterQuery.Decimal FilterQuery.Json.Parser

/-- Spellings of the tokens one behind the other, with any space before, between and behind them. -/
inductive Lexes : List Token → List Char → Prop
  | nil {space : List Char} (hs : ∀ c ∈ space, Token.isSpace c = true) : Lexes [] space
  | cons {t : Token} {ts : List Token} {space cs rest : List Char}
      (hs : ∀ c ∈ space, Token.isSpace c = true) (ht : Spelling t cs) (ha : Apart t rest)
      (h : Lexes ts rest) : Lexes (t :: ts) (space ++ (cs ++ rest))

mutual

def tokens : Json → List Token
  | .array [] => [.openArray, .closeArray]
  | .array (v :: vs) => .openArray :: (v.tokens ++ moreItems vs)
  | .object [] => [.openObject, .closeObject]
  | .object ((k, v) :: ms) => .openObject :: .text k :: .colon :: (v.tokens ++ moreMembers ms)
  | .string s => [.text s]
  | .null => [.atom .null]
  | .bool b => [.atom (.bool b)]
  | .number n => [.atom (.number n)]

def moreItems : List Json → List Token
  | [] => [.closeArray]
  | v :: vs => .comma :: (v.tokens ++ moreItems vs)

def moreMembers : List (Option String × Json) → List Token
  | [] => [.closeObject]
  | (k, v) :: ms => .comma :: .text k :: .colon :: (v.tokens ++ moreMembers ms)

end

/-- The text spells the document. -/
def Spells (j : Json) (text : List Char) : Prop := Lexes j.tokens text

theorem exists_cons_of_spelling {t : Token} {cs : List Char} (h : Spelling t cs) :
    ∃ c tail, cs = c :: tail ∧ Token.isSpace c = false := by
  cases h with
  | number h =>
    obtain ⟨hw, -, -⟩ := h
    split
    · exact ⟨'-', _, rfl, by decide⟩
    · obtain ⟨d, ds, hwhole, hd⟩ := exists_cons_of_isWhole hw
      refine ⟨d, _, by rw [hwhole]; rfl, ?_⟩
      simp [Token.isSpace, ne_of_test hd]
  | _ => exact ⟨_, _, rfl, by decide⟩

theorem all_of_lexes {ts : List Token} {cs : List Char} (h : Lexes ts cs) :
    Token.all cs = some ts := by
  induction h with
  | nil hs =>
    rw [Token.all]
    split
    · rfl
    · next c tail hdrop =>
      have hempty := @dropWhile_run Token.isSpace _ [] hs (by rintro c ⟨⟩)
      rw [List.append_nil, hdrop] at hempty
      cases hempty
  | @cons t ts space cs rest hs ht ha _ ih =>
    obtain ⟨c, tail, rfl, hc⟩ := exists_cons_of_spelling ht
    have hdrop : (space ++ (c :: tail ++ rest)).dropWhile Token.isSpace = c :: (tail ++ rest) :=
      dropWhile_run hs (stops_cons hc _)
    have hscan : Token.scan (c :: (tail ++ rest)) = some (t, rest) := scan_of_spelling ht ha
    rw [Token.all]
    split
    · next hempty =>
      rw [hdrop] at hempty
      cases hempty
    · next d ds hfound =>
      rw [hdrop] at hfound
      obtain ⟨rfl, rfl⟩ := List.cons.inj hfound
      split
      · next hnone =>
        rw [hscan] at hnone
        cases hnone
      · next u after hsome =>
        rw [hscan] at hsome
        cases hsome
        rw [ih]
        rfl

theorem exists_cons_tokens (j : Json) :
    ∃ t ts, j.tokens = t :: ts ∧ ∀ frames,
      State.step ⟨frames, .firstItem⟩ t = State.step ⟨frames, .value⟩ t := by
  match j with
  | .array [] | .array (v :: vs) | .object [] | .object ((k, v) :: ms) | .string s | .null
  | .bool b | .number n =>
    rw [tokens]
    exact ⟨_, _, rfl, fun _ => rfl⟩

mutual

theorem foldlM_tokens (j : Json) (frames : List Frame) :
    j.tokens.foldlM State.step ⟨frames, .value⟩ = some ⟨frames, .valueEnd j⟩ := by
  match j with
  | .array [] | .object [] | .string s | .null | .bool b | .number n =>
    rw [tokens]
    rfl
  | .array (v :: vs) =>
    obtain ⟨t, ts, ht, hfirst⟩ := exists_cons_tokens v
    have hv := foldlM_tokens v (.array [] :: frames)
    rw [ht, List.foldlM_cons, ← hfirst, ← List.foldlM_cons, ← ht] at hv
    rw [tokens, List.foldlM_cons]
    show (v.tokens ++ moreItems vs).foldlM State.step ⟨.array [] :: frames, .firstItem⟩ = _
    rw [List.foldlM_append, hv]
    exact foldlM_moreItems vs frames [] v
  | .object ((k, v) :: ms) =>
    rw [tokens, List.foldlM_cons]
    show (v.tokens ++ moreMembers ms).foldlM State.step ⟨.object [] k :: frames, .value⟩ = _
    rw [List.foldlM_append, foldlM_tokens v (.object [] k :: frames)]
    exact foldlM_moreMembers ms frames [] k v

theorem foldlM_moreItems (vs : List Json) (frames : List Frame) (before : List Json) (v : Json) :
    (moreItems vs).foldlM State.step ⟨.array before :: frames, .valueEnd v⟩ =
      some ⟨frames, .valueEnd (.array (before.reverse ++ v :: vs))⟩ := by
  match vs with
  | [] =>
    rw [moreItems, ← List.reverse_cons]
    rfl
  | w :: vs =>
    have hvs := foldlM_moreItems vs frames (v :: before) w
    rw [List.reverse_cons, List.append_assoc, List.singleton_append] at hvs
    rw [moreItems, List.foldlM_cons]
    show (w.tokens ++ moreItems vs).foldlM State.step ⟨.array (v :: before) :: frames, .value⟩ = _
    rw [List.foldlM_append, foldlM_tokens w (.array (v :: before) :: frames)]
    exact hvs

theorem foldlM_moreMembers (ms : List (Option String × Json)) (frames : List Frame)
    (before : List (Option String × Json)) (k : Option String) (v : Json) :
    (moreMembers ms).foldlM State.step ⟨.object before k :: frames, .valueEnd v⟩ =
      some ⟨frames, .valueEnd (.object (before.reverse ++ (k, v) :: ms))⟩ := by
  match ms with
  | [] =>
    rw [moreMembers, ← List.reverse_cons]
    rfl
  | (l, w) :: ms =>
    have hms := foldlM_moreMembers ms frames ((k, v) :: before) l w
    rw [List.reverse_cons, List.append_assoc, List.singleton_append] at hms
    rw [moreMembers, List.foldlM_cons]
    show (w.tokens ++ moreMembers ms).foldlM State.step
      ⟨.object ((k, v) :: before) l :: frames, .value⟩ = _
    rw [List.foldlM_append, foldlM_tokens w (.object ((k, v) :: before) l :: frames)]
    exact hms

end

/-- Every text that spells a document is read as that document. -/
theorem ofString?_of_spells {j : Json} {s : String} (h : j.Spells s.toList) :
    ofString? s = some j := by
  rw [ofString?, all_of_lexes h]
  show (j.tokens.foldlM State.step State.initial).bind State.finish = some j
  rw [State.initial, foldlM_tokens]
  rfl

/-- Numbers are words of 64 bits, and every string and name has a text. -/
inductive Plain : Json → Prop
  | null : Plain .null
  | bool (b : Bool) : Plain (.bool b)
  | word (n : UInt64) : Plain (.word n)
  | text (s : String) : Plain (.text s)
  | array {items : List Json} (h : ∀ v ∈ items, Plain v) : Plain (.array items)
  | record {members : List (String × Json)} (h : ∀ m ∈ members, Plain m.2) :
    Plain (.record members)

theorem unescape?_of_escapeLetter? {c letter : Char} (h : escapeLetter? c = some letter) :
    Token.unescape? letter = some c := by
  unfold escapeLetter? at h
  split at h <;> cases h <;> rfl

theorem isCode_of_lt {n : Nat} (h : n < 32) : IsCode n ('0' :: '0' :: hexByte n) := by
  have hvalue : ∀ n < 32, valueInBase? 16 ('0' :: '0' :: hexByte n) = some n := by decide
  exact ⟨rfl, hvalue n h⟩

theorem charText_escaped (c : Char) : CharText c (escaped c) := by
  rw [escaped]
  split
  · next letter h => exact .letter (unescape?_of_escapeLetter? h)
  · next h =>
    split
    · next hlt => exact .code (isCode_of_lt hlt)
    · next hge =>
      refine .plain ?_ ?_ (Nat.not_lt.mp hge) <;> rintro rfl <;> cases h

theorem stringText_escaped (cs : List Char) : StringText cs (cs.flatMap escaped) := by
  induction cs with
  | nil => exact .nil
  | cons c cs ih => exact .cons (charText_escaped c) ih

theorem spelling_quote (s : String) : Spelling (.text (some s)) (quote s).toList := by
  have hs := Spelling.text (stringText_escaped s.toList)
  simpa [quote] using hs

theorem isWhole_digits (n : Nat) : IsWhole (digits n) := by
  by_cases hn : 0 < n
  · exact .inr ⟨isDigits_digits n, head?_digits_ne_zero hn⟩
  · rw [Nat.eq_zero_of_not_pos hn]
    exact .inl rfl

theorem spelling_word (n : UInt64) : Spelling (.atom (.word n)) (compact (.word n)).toList := by
  have hn : NumberText (.ofNat n.toNat) (digits n.toNat) := by
    simpa [Number.ofNat] using NumberText.intro (n := .ofNat n.toNat) (isWhole_digits n.toNat)
      (List.forall_mem_nil _) .none
  have hrender : compact (.word n) = String.ofList (digits n.toNat) := by
    show (Number.ofNat n.toNat).render = _
    simp [Number.render, Number.ofNat, Number.isPlain, value_digits, n.toNat_lt_size]
  rw [hrender, String.toList_ofList]
  exact .number hn

theorem Lexes.token {t : Token} {ts : List Token} {cs rest : List Char} (ht : Spelling t cs)
    (ha : Apart t rest) (h : Lexes ts rest) : Lexes (t :: ts) (cs ++ rest) :=
  .cons (List.forall_mem_nil _) ht ha h

def commaLed (ss : List String) : List Char := ss.flatMap fun s => ',' :: s.toList

theorem toList_intercalate_comma (s : String) (ss : List String) :
    (",".intercalate (s :: ss)).toList = s.toList ++ commaLed ss := by
  induction ss generalizing s with
  | nil => simp [commaLed]
  | cons t ss ih =>
    have ht := ih t
    rw [String.toList_intercalate] at ht ⊢
    rw [commaLed, List.flatMap_cons, ← commaLed, List.cons_append, ← ht]
    simp [List.intercalate]

theorem stops_commaLed (ss : List String) {c : Char} (hc : goesOn c = false) (rest : List Char) :
    Stops goesOn (commaLed ss ++ c :: rest) := by
  cases ss with
  | nil => exact stops_cons hc rest
  | cons s ss => exact stops_cons (by decide) _

/-- The compact text lexes into the tokens of the document, before any text that does not go on with
a number. -/
def CompactLexes (j : Json) : Prop := ∀ ⦃ts : List Token⦄ ⦃rest : List Char⦄, Stops goesOn rest →
  Lexes ts rest → Lexes (j.tokens ++ ts) (j.compact.toList ++ rest)

variable {ts : List Token} {rest : List Char}

theorem lexes_moreItems {vs : List Json} (h : ∀ v ∈ vs, CompactLexes v) (hl : Lexes ts rest) :
    Lexes (moreItems vs ++ ts) (commaLed (compactItems vs) ++ ']' :: rest) := by
  induction vs with
  | nil =>
    rw [moreItems, compactItems]
    show Lexes _ ([']'] ++ rest)
    exact hl.token .closeArray trivial
  | cons v vs ih =>
    obtain ⟨hv, hvs⟩ := List.forall_mem_cons.mp h
    have hmore := hv (stops_commaLed _ (by decide) _) (ih hvs)
    rw [moreItems, compactItems]
    simpa [commaLed] using hmore.token .comma trivial

theorem lexes_member {name : String} {v : Json} (hv : CompactLexes v) (hs : Stops goesOn rest)
    (hl : Lexes ts rest) :
    Lexes (.text (some name) :: .colon :: (v.tokens ++ ts))
      ((quoteText (some name) ++ ":" ++ v.compact).toList ++ rest) := by
  have hcolon := ((hv hs hl).token .colon trivial).token (spelling_quote name) trivial
  simpa [quoteText] using hcolon

theorem lexes_moreMembers {ms : List (String × Json)} (h : ∀ m ∈ ms, CompactLexes m.2)
    (hl : Lexes ts rest) :
    Lexes (moreMembers (ms.map fun m => (some m.1, m.2)) ++ ts)
      (commaLed (compactMembers (ms.map fun m => (some m.1, m.2))) ++ '\x7d' :: rest) := by
  induction ms with
  | nil =>
    rw [List.map_nil, moreMembers, compactMembers]
    show Lexes _ (['\x7d'] ++ rest)
    exact hl.token .closeObject trivial
  | cons m ms ih =>
    obtain ⟨name, v⟩ := m
    obtain ⟨hv, hms⟩ := List.forall_mem_cons.mp h
    have hmore := @lexes_member _ _ name v hv (stops_commaLed _ (by decide) _) (ih hms)
    rw [List.map_cons, moreMembers, compactMembers]
    simpa [commaLed] using hmore.token .comma trivial

theorem compactLexes {j : Json} (h : Plain j) : CompactLexes j := by
  induction h with
  | null => exact fun ts rest _ hl => hl.token .null trivial
  | bool b => cases b with
    | true => exact fun ts rest _ hl => hl.token .true trivial
    | false => exact fun ts rest _ hl => hl.token .false trivial
  | word n => exact fun ts rest hs hl => hl.token (spelling_word n) hs
  | text s => exact fun ts rest _ hl => hl.token (spelling_quote s) trivial
  | @array items _ ih =>
    intro ts rest _ hl
    cases items with
    | nil =>
      rw [tokens, compact, compactItems]
      simpa using (hl.token .closeArray trivial).token .openArray trivial
    | cons v vs =>
      obtain ⟨hv, hvs⟩ := List.forall_mem_cons.mp ih
      -- a comma or a bracket stands behind the item, and no number goes on with either
      have hmore := hv (stops_commaLed _ (by decide) _) (lexes_moreItems hvs hl)
      rw [tokens, compact, compactItems, String.toList_append, String.toList_append,
        toList_intercalate_comma]
      simpa using hmore.token .openArray trivial
  | @record ms _ ih =>
    intro ts rest _ hl
    cases ms with
    | nil =>
      rw [record, List.map_nil, tokens, compact, compactMembers]
      simpa using (hl.token .closeObject trivial).token .openObject trivial
    | cons m ms =>
      obtain ⟨name, v⟩ := m
      obtain ⟨hv, hms⟩ := List.forall_mem_cons.mp ih
      have hmore := @lexes_member _ _ name v hv (stops_commaLed _ (by decide) _)
        (lexes_moreMembers hms hl)
      rw [record, List.map_cons, tokens, compact, compactMembers, String.toList_append,
        String.toList_append, toList_intercalate_comma]
      simpa using hmore.token .openObject trivial

theorem spells_compact {j : Json} (h : Plain j) : j.Spells j.compact.toList := by
  simpa [Spells] using compactLexes h (by rintro c ⟨⟩) (.nil (List.forall_mem_nil _))

end FilterQuery.Json
