import FilterQuery.Proofs.Decimal.Text
import FilterQuery.Proofs.Sql.Tokens

namespace FilterQuery.Sql

open FilterQuery.Text FilterQuery.Decimal

variable {letter : Char → Char}

section Quoted

variable {quote : Char} {decode : Option (Char → Char)} {rest : List Char}

theorem scanQuoted_closing (h : Stops (· == quote) rest) :
    scanQuoted quote decode (quote :: rest) = some ([], rest) := by
  rw [scanQuoted.eq_def]
  cases rest with
  | nil => simp
  | cons d ds =>
    have hd : d ≠ quote := beq_eq_false_iff_ne.mp (h d rfl)
    simp [hd]

theorem scanQuoted_doubled :
    scanQuoted quote decode (quote :: quote :: rest) =
      (scanQuoted quote decode rest).map (Prod.map (quote :: ·) id) := by
  rw [scanQuoted.eq_def]
  simp

theorem scanQuoted_plain {c : Char} (hq : c ≠ quote) (hd : c = '\\' → decode = none) :
    scanQuoted quote decode (c :: rest) =
      (scanQuoted quote decode rest).map (Prod.map (c :: ·) id) := by
  have hn : (if c = '\\' then decode else none) = none := by
    split
    · next hc => exact hd hc
    · rfl
  rw [scanQuoted.eq_def]
  simp only [if_neg hq, hn]

theorem scanQuoted_escaped {f : Char → Char} {c : Char} (hq : quote ≠ '\\') :
    scanQuoted quote (some f) ('\\' :: c :: rest) =
      (scanQuoted quote (some f) rest).map (Prod.map (f c :: ·) id) := by
  rw [scanQuoted.eq_def]
  simp [hq.symm]

theorem scanQuoted_flatMap {cs : List Char} {write : Char → List Char} {back : Char → Char}
    (hw : ∀ c ∈ cs, ∀ tail, scanQuoted quote decode (write c ++ tail) =
      (scanQuoted quote decode tail).map (Prod.map (back c :: ·) id))
    (h : Stops (· == quote) rest) :
    scanQuoted quote decode (cs.flatMap write ++ quote :: rest) = some (cs.map back, rest) := by
  induction cs with
  | nil => exact scanQuoted_closing h
  | cons c cs ih =>
    have ih := ih fun d hd => hw d (List.mem_cons_of_mem c hd)
    rw [List.flatMap_cons, List.append_assoc, hw c List.mem_cons_self, ih]
    rfl

end Quoted

/-- What may stand right behind a word, a number or a quoted text. -/
def delimiters : List Char := [' ', ',', '(', ')']

def Delimited (rest : List Char) : Prop := ∀ c ∈ rest.head?, c ∈ delimiters

theorem delimited_cons {c : Char} (h : c ∈ delimiters) (rest : List Char) :
    Delimited (c :: rest) := by
  rintro d ⟨rfl⟩
  exact h

theorem Delimited.ne {c d : Char} {rest : List Char} (h : Delimited (d :: rest))
    (hc : c ∉ delimiters) : d ≠ c := by
  rintro rfl
  exact hc (h d rfl)

theorem Delimited.stops {rest : List Char} (h : Delimited rest) {test : Char → Bool}
    (ht : delimiters.any test = false) : Stops test rest := by
  intro c hc
  exact Bool.eq_false_iff.mpr (List.any_eq_false.mp ht c (h c hc))

/-- Before a delimiter the text is cut into these tokens. -/
def Lexes (letter : Char → Char) (cs : List Char) (ts : List Token) : Prop :=
  ∀ rest us, Delimited rest → tokens letter rest = some us →
    tokens letter (cs ++ rest) = some (ts ++ us)

namespace Lexes

variable {cs ds : List Char} {ts us : List Token}

theorem append {d : Char} (hd : d ∈ delimiters) (h : Lexes letter cs ts)
    (h' : Lexes letter (d :: ds) us) : Lexes letter (cs ++ d :: ds) (ts ++ us) := by
  intro rest ws hr hw
  rw [List.append_assoc, List.append_assoc]
  exact h _ _ (delimited_cons hd _) (h' rest ws hr hw)

theorem space (h : Lexes letter cs ts) : Lexes letter (' ' :: cs) ts := by
  intro rest us hr hu
  exact tokens_space (h rest us hr hu)

theorem tokens_eq (h : Lexes letter cs ts) : tokens letter cs = some ts := by
  have hn := h [] [] (fun _ hc => by cases hc) tokens_nil
  rwa [List.append_nil, List.append_nil] at hn

theorem mark {c : Char} {t : Token} (hc : isSpace c = false)
    (hs : ∀ rest, scanToken letter c rest = some (t, rest)) (h : Lexes letter cs ts) :
    Lexes letter (c :: cs) (t :: ts) := by
  intro rest us hr hu
  exact tokens_scan hc (hs _) (h rest us hr hu)

theorem nil : Lexes letter [] [] := fun _ _ _ hu => hu

theorem comma (h : Lexes letter cs ts) : Lexes letter (',' :: cs) (.comma :: ts) :=
  h.mark (by decide) fun _ => rfl

theorem openParen (h : Lexes letter cs ts) : Lexes letter ('(' :: cs) (.openParen :: ts) :=
  h.mark (by decide) fun _ => rfl

theorem closeParen : Lexes letter [')'] [.closeParen] :=
  nil.mark (by decide) fun _ => rfl

theorem token {c : Char} {t : Token} (hc : isSpace c = false)
    (hs : ∀ rest, Delimited rest → scanToken letter c (cs ++ rest) = some (t, rest)) :
    Lexes letter (c :: cs) [t] := by
  intro rest us hr hu
  exact tokens_scan hc (hs rest hr) hu

end Lexes

theorem isDigit_of_isUpper {c : Char} (hc : c.isUpper = true) : c.isDigit = false := by
  have hc : 'A'.val ≤ c.val ∧ c.val ≤ 'Z'.val := of_decide_eq_true hc
  simp only [Char.isDigit, Bool.and_eq_false_iff, decide_eq_false_iff_not]
  refine .inr fun h => ?_
  exact absurd (UInt32.le_trans hc.1 h) (by decide)

theorem isSpace_of_isUpper {c : Char} (hc : c.isUpper = true) : isSpace c = false := by
  simp [isSpace, ne_of_test hc]

theorem isSpace_of_isDigit {c : Char} (hc : c.isDigit = true) : isSpace c = false := by
  simp [isSpace, ne_of_test hc]

theorem scanToken_of_not_mem {c : Char} (h : c ∉ ['"', '\'', ',', '(', ')']) (cs : List Char) :
    scanToken letter c cs =
      if c.isDigit ∨ c = '-' ∧ cs.head?.any Char.isDigit then
        some (Prod.map (.number <| .ofList <| c :: ·) id (scanDigits cs))
      else if isWordPart c then scanWord letter c cs
      else scanOperator c cs := by
  simp only [List.mem_cons, List.not_mem_nil, or_false, not_or] at h
  obtain ⟨hname, htext, hcomma, hopen, hclose⟩ := h
  rw [scanToken, if_neg hname, if_neg htext, if_neg hcomma, if_neg hopen, if_neg hclose]

theorem scanToken_word {c : Char} (hc : c.isUpper = true) (cs : List Char) :
    scanToken letter c cs = scanWord letter c cs := by
  rw [scanToken_of_not_mem (not_mem_of_test hc (by decide)), if_neg, if_pos]
  · show (((c.isUpper || c.isLower) || c.isDigit) || c == '_') = true
    rw [hc]
    rfl
  · simp [isDigit_of_isUpper hc, ne_of_test hc '-' (by decide)]

theorem Keyword.spelling_eq (k : Keyword) : ∃ c cs, k.spelling.toList = c :: cs ∧
    c.isUpper = true ∧ cs.all isWordPart = true ∧
    (c :: cs).map Char.toUpper = c :: cs := by
  cases k <;> exact ⟨_, _, rfl, by decide⟩

theorem lexes_keyword (letter : Char → Char) (k : Keyword) :
    Lexes letter k.spelling.toList [.keyword k] := by
  obtain ⟨c, cs, hk, hc, hcs, hu⟩ := k.spelling_eq
  have hw := Keyword.ofWord?_spelling k
  rw [hk] at hw ⊢
  apply Lexes.token (isSpace_of_isUpper hc)
  intro rest hr
  have hcs := List.all_eq_true.mp hcs
  have hstop : Stops isWordPart rest := hr.stops (by decide)
  rw [scanToken_word hc, scanWord, takeWhile_run hcs hstop, dropWhile_run hcs hstop, hu, hw]
  cases rest with
  | nil => rfl
  | cons d rest =>
    have hd : d ≠ '\'' := hr.ne (by decide)
    simp [hd]

theorem Relation.symbol_eq (r : Relation) : ∃ c cs, r.symbol.toList = c :: cs ∧
    (c = '<' ∨ c = '>' ∨ c = '=') ∧ cs.all isOperatorPart = true := by
  cases r <;> exact ⟨_, _, rfl, by decide⟩

theorem lexes_relation (letter : Char → Char) (r : Relation) :
    Lexes letter r.symbol.toList [.relation r] := by
  obtain ⟨c, cs, hr, hc, hcs⟩ := r.symbol_eq
  have hs := Relation.ofSymbol?_symbol r
  rw [hr] at hs ⊢
  apply Lexes.token
  · obtain rfl | rfl | rfl := hc <;> decide
  intro rest hd
  have hcs := List.all_eq_true.mp hcs
  have hstop : Stops isOperatorPart rest := hd.stops (by decide)
  have hscan : scanToken letter c (cs ++ rest) = scanOperator c (cs ++ rest) := by
    obtain rfl | rfl | rfl := hc <;> rfl
  have hstar : c :: cs ≠ ['*'] := by
    rintro ⟨⟩
    exact absurd hc (by decide)
  rw [hscan, scanOperator, takeWhile_run hcs hstop, dropWhile_run hcs hstop, if_neg hstar, hs]
  rfl

theorem lexes_star (letter : Char → Char) : Lexes letter ['*'] [.star] := by
  apply Lexes.token (by decide)
  intro rest hr
  have hstop : Stops isOperatorPart rest := hr.stops (by decide)
  have hscan : scanToken letter '*' rest = scanOperator '*' ([] ++ rest) := rfl
  rw [List.nil_append, hscan, scanOperator, takeWhile_run (by simp) hstop,
    dropWhile_run (by simp) hstop]
  rfl

theorem scanDigits_append {whole tail rest : List Char} (hw : ∀ c ∈ whole, c.isDigit = true)
    (ht : tail = [] ∨ ∃ fraction, tail = '.' :: fraction ∧ ∀ c ∈ fraction, c.isDigit = true)
    (hr : Delimited rest) : scanDigits (whole ++ tail ++ rest) = (whole ++ tail, rest) := by
  have hstop : Stops Char.isDigit rest := hr.stops (by decide)
  obtain rfl | ⟨fraction, rfl, hf⟩ := ht
  · rw [List.append_nil, scanDigits, takeWhile_run hw hstop, dropWhile_run hw hstop]
    cases rest with
    | nil => rfl
    | cons d rest =>
      have hd : d ≠ '.' := hr.ne (by decide)
      simp [hd]
  · have hpoint : Stops Char.isDigit ('.' :: (fraction ++ rest)) := stops_cons (by decide) _
    rw [List.append_assoc, List.cons_append, scanDigits, takeWhile_run hw hpoint,
      dropWhile_run hw hpoint]
    show (whole ++ '.' :: (fraction ++ rest).takeWhile _, (fraction ++ rest).dropWhile _) = _
    rw [takeWhile_run hf hstop, dropWhile_run hf hstop]

theorem scanToken_digit {c : Char} (hc : c.isDigit = true) (cs : List Char) :
    scanToken letter c cs =
      some (Prod.map (.number <| .ofList <| c :: ·) id (scanDigits cs)) := by
  rw [scanToken_of_not_mem (not_mem_of_test hc (by decide)), if_pos (.inl hc)]

theorem scanToken_hyphen {cs : List Char} (h : cs.head?.any Char.isDigit = true) :
    scanToken letter '-' cs =
      some (Prod.map (.number <| .ofList <| '-' :: ·) id (scanDigits cs)) := by
  rw [scanToken_of_not_mem (by decide), if_pos (.inr ⟨rfl, h⟩)]

theorem lexes_numberText (letter : Char → Char) {cs : List Char} (h : NumberText cs) :
    Lexes letter cs [.number (.ofList cs)] := by
  obtain @⟨sign, whole, tail, hs, hw, ht⟩ := h
  obtain ⟨hne, hd⟩ := isDigits_iff.mp hw
  obtain ⟨c, ds, rfl⟩ := List.exists_cons_of_ne_nil hne
  have hc : c.isDigit = true := hd c List.mem_cons_self
  have ht : tail = [] ∨ ∃ fraction, tail = '.' :: fraction ∧ ∀ c ∈ fraction, c.isDigit = true := by
    refine ht.imp_right ?_
    rintro ⟨fraction, rfl, hf⟩
    exact ⟨fraction, rfl, (isDigits_iff.mp hf).2⟩
  obtain rfl | rfl := hs
  · rw [List.nil_append, List.cons_append]
    apply Lexes.token (isSpace_of_isDigit hc)
    intro rest hr
    rw [scanToken_digit hc, scanDigits_append (fun d hm => hd d (List.mem_cons_of_mem c hm)) ht hr]
    rfl
  · apply Lexes.token (by decide)
    intro rest hr
    have hh : (c :: ds ++ tail ++ rest).head?.any Char.isDigit = true := hc
    exact (scanToken_hyphen hh).trans (by rw [scanDigits_append hd ht hr]; rfl)

theorem lexes_number (letter : Char → Char) {s : String} (h : NumberText s.toList) :
    Lexes letter s.toList [.number s] := by
  have hl := lexes_numberText letter h
  rwa [String.ofList_toList] at hl

theorem lexes_natural (letter : Char → Char) (n : Nat) :
    Lexes letter (toString n).toList [.number (toString n)] := by
  apply lexes_number
  have h := numberText_digits (.inl rfl) n
  rwa [List.nil_append, ← digits_eq_toList] at h

theorem lexes_name (letter : Char → Char) (name : String) :
    Lexes letter (identifier name).toList [.name name] := by
  have hcs : (identifier name).toList =
      '"' :: (name.toList.flatMap (fun c => if c = '"' then ['"', '"'] else [c]) ++ ['"']) := by
    simp [identifier]
  rw [hcs]
  apply Lexes.token (by decide)
  intro rest hr
  have hscan : scanQuoted '"' none
      (name.toList.flatMap (fun c => if c = '"' then ['"', '"'] else [c]) ++ '"' :: rest) =
        some (name.toList.map id, rest) := by
    refine scanQuoted_flatMap (fun c _ tail => ?_) (hr.stops (by decide))
    split
    · next hc =>
      subst hc
      exact scanQuoted_doubled
    · next hc => exact scanQuoted_plain hc fun _ => rfl
  rw [scanToken, if_pos rfl, List.append_assoc, List.singleton_append, hscan]
  simp

theorem lexes_quoted (letter : Char → Char) {s : String} (h : ∀ c ∈ s.toList, c ≠ '\'') :
    Lexes letter ('\'' :: (s.toList ++ ['\''])) [.text s] := by
  apply Lexes.token (by decide)
  intro rest hr
  have hscan : scanQuoted '\'' none (s.toList.flatMap (fun c => [c]) ++ '\'' :: rest) =
      some (s.toList.map id, rest) :=
    scanQuoted_flatMap (fun c hc _ => scanQuoted_plain (h c hc) fun _ => rfl)
      (hr.stops (by decide))
  rw [List.flatMap_singleton', List.map_id] at hscan
  rw [scanToken, if_neg (by decide), if_pos rfl, List.append_assoc, List.singleton_append, hscan]
  simp

/-- The character that is read back for this one from a text with backslashes. -/
def rereadChar (letter : Char → Char) (c : Char) : Char :=
  match escapeLetter? c with
  | some l => letter l
  | none => c

def reread (letter : Char → Char) (s : String) : String :=
  .ofList (s.toList.map (rereadChar letter))

theorem ne_of_escapeLetter?_eq_none {c : Char} (h : escapeLetter? c = none) :
    c ≠ '\'' ∧ c ≠ '\\' := by
  constructor <;> · rintro rfl; cases h

theorem lexes_escaped (letter : Char → Char) (s : String) :
    Lexes letter ('E' :: '\'' :: (escaped s.toList ++ ['\''])) [.text (reread letter s)] := by
  apply Lexes.token (by decide)
  intro rest hr
  have hscan : scanQuoted '\'' (some letter) (escaped s.toList ++ '\'' :: rest) =
      some (s.toList.map (rereadChar letter), rest) := by
    refine scanQuoted_flatMap (fun c _ tail => ?_) (hr.stops (by decide))
    rw [rereadChar]
    cases hc : escapeLetter? c with
    | some l => exact scanQuoted_escaped (by decide)
    | none =>
      obtain ⟨hq, hb⟩ := ne_of_escapeLetter?_eq_none hc
      exact scanQuoted_plain hq fun h => absurd h hb
  rw [scanToken_word (by decide), List.cons_append, List.append_assoc, List.singleton_append]
  show (scanQuoted '\'' (some letter) (escaped s.toList ++ '\'' :: rest)).map _ = _
  rw [hscan]
  rfl

theorem escaped_eq_self {cs : List Char} (h : '\\' ∉ escaped cs) :
    escaped cs = cs ∧ ∀ c ∈ cs, escapeLetter? c = none := by
  induction cs with
  | nil => exact ⟨rfl, by simp⟩
  | cons c cs ih =>
    rw [escaped, List.flatMap_cons, ← escaped, List.mem_append, not_or] at h
    obtain ⟨hcs, hn⟩ := ih h.2
    cases hc : escapeLetter? c with
    | some l => simp [hc] at h
    | none =>
      refine ⟨?_, by simpa [hc] using hn⟩
      rw [escaped, List.flatMap_cons, ← escaped, hcs, hc]
      rfl

theorem reread_eq_self {s : String}
    (h : ∀ c ∈ s.toList, ∀ l, escapeLetter? c = some l → letter l = c) :
    reread letter s = s := by
  have hmap : s.toList.map (rereadChar letter) = s.toList := by
    refine (List.map_congr_left (g := id) fun c hc => ?_).trans (List.map_id _)
    rw [rereadChar]
    split
    · next l hl => exact h c hc l hl
    · rfl
  rw [reread, hmap, String.ofList_toList]

theorem lexes_textConstant (letter : Char → Char) (s : String) :
    Lexes letter (textConstant s).toList [.text (reread letter s)] := by
  unfold textConstant
  dsimp only
  split
  · simpa using lexes_escaped letter s
  · next hb =>
    have hb : '\\' ∉ escaped s.toList := by simpa using hb
    obtain ⟨he, hn⟩ := escaped_eq_self hb
    have hs : reread letter s = s := reread_eq_self fun c hc l hl => by rw [hn c hc] at hl; cases hl
    have h := lexes_quoted letter fun c hc => (ne_of_escapeLetter?_eq_none (hn c hc)).1
    simpa [he, hs] using h

end FilterQuery.Sql
