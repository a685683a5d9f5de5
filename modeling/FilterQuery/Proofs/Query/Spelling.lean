import FilterQuery.Proofs.Decimal.Text
import FilterQuery.Proofs.Text.Classes
import FilterQuery.Query.Lexeme

namespace FilterQuery.Query

open FilterQuery.Text FilterQuery.Decimal

/-- A letter or an underscore, then letters, digits, dots and underscores. -/
inductive WordText : List Char → Prop
  | intro {c : Char} {cs : List Char} (hc : isAlphabetic c = true ∨ c = '_')
      (hs : ∀ d ∈ cs, isAlphanumeric d = true ∨ d = '.' ∨ d = '_') : WordText (c :: cs)

/-- A word with a meaning of its own. Only the connectives may be written in any case. -/
def IsKeyword (cs : List Char) : Prop :=
  cs = "true".toList ∨ cs = "false".toList ∨ cs.map Char.toLower = "and".toList ∨
    cs.map Char.toLower = "or".toList

inductive DateText : List Char → Prop
  | intro {year month day : List Char} (hy : year.length = 4) (hm : month.length = 2)
      (hd : day.length = 2) (h : ∀ c ∈ year ++ month ++ day, c.isDigit = true) :
      DateText (year ++ '-' :: month ++ '-' :: day)

/-- The body of a text between quotes and its content. A quote or a backslash is written after a
backslash, all but the quote of the text itself and the backslash also as they are. -/
inductive Unescapes (quote : Char) : List Char → List Char → Prop
  | nil : Unescapes quote [] []
  | plain {c : Char} {body content : List Char} (hq : c ≠ quote) (hb : c ≠ '\\')
      (h : Unescapes quote body content) : Unescapes quote (c :: body) (c :: content)
  | escaped {c : Char} {body content : List Char} (hc : c = '"' ∨ c = '\'' ∨ c = '\\')
      (h : Unescapes quote body content) : Unescapes quote ('\\' :: c :: body) (c :: content)

inductive Spelling : Token.Kind → List Char → Prop
  | openParen : Spelling .openParen ['(']
  | closeParen : Spelling .closeParen [')']
  | comma : Spelling .comma [',']
  | eq : Spelling (.operator .eq) ['=', '=']
  | ne : Spelling (.operator .ne) ['!', '=']
  | lt : Spelling (.operator .lt) ['<']
  | le : Spelling (.operator .le) ['<', '=']
  | gt : Spelling (.operator .gt) ['>']
  | ge : Spelling (.operator .ge) ['>', '=']
  | named {name : List Char} {op : Operator} (hn : name ≠ []) (hl : ∀ c ∈ name, c.isAlpha = true)
      (ho : Operator.ofName? (String.ofList (name.map Char.toLower)) = some op) :
      Spelling (.operator op) ('=' :: name ++ ['='])
  | text {quote : Char} {body content : List Char} (hq : quote = '"' ∨ quote = '\'')
      (hb : Unescapes quote body content) :
      Spelling (.text (String.ofList content)) (quote :: body ++ [quote])
  | number {cs : List Char} (h : NumberText cs) : Spelling (.number (String.ofList cs)) cs
  | date {cs : List Char} (h : DateText cs) : Spelling (.date (String.ofList cs)) cs
  | word {cs : List Char} (h : WordText cs) : Spelling (Lexeme.wordKind cs) cs

def touchesNumber (c : Char) : Bool := isNamePart c || c == '-'

/-- Whether a character goes on with a token when it stands directly behind its spelling. A hyphen
goes on with a year only, and an equals sign with a bare angle. -/
def goesOn : Token.Kind → List Char → Char → Bool
  | .name _, _, c | .bool _, _, c | .and, _, c | .or, _, c => isNamePart c
  | .number _, cs, c => isNamePart c || c == '-' && (cs.length == 4 && cs.all Char.isDigit)
  | .date _, _, c => touchesNumber c
  | .operator .lt, cs, c => cs == ['<'] && c == '='
  | .operator .gt, cs, c => cs == ['>'] && c == '='
  | _, _, _ => false

/-- What may stand directly behind a token, whatever its spelling is, for the token to end there. -/
def Apart : Token.Kind → List Char → Prop
  | .name _, rest | .bool _, rest | .and, rest | .or, rest => Stops isNamePart rest
  | .number _, rest | .date _, rest => Stops touchesNumber rest
  | .operator .lt, rest | .operator .gt, rest => Stops (· == '=') rest
  | _, _ => True

theorem Apart.stops {k : Token.Kind} {rest : List Char} (h : Apart k rest) (cs : List Char) :
    Stops (goesOn k cs) rest := by
  cases k with
  | name | bool | and | or | date => exact h
  | number => exact Stops.mono (by simp +contextual [goesOn, touchesNumber, or_imp]) h
  | operator op =>
    cases op with
    | lt | gt => exact Stops.mono (by simp [goesOn]) h
    | eq | ne | le | ge | isIn | notIn | like => exact fun _ _ => rfl
  | text | openParen | closeParen | comma => exact fun _ _ => rfl

theorem stops_isDigit {rest : List Char} (hr : Stops isNamePart rest) : Stops Char.isDigit rest :=
  hr.mono fun c hc => by simp [isNamePart, isAlphanumeric_of_isDigit hc]

theorem stops_isNamePart {rest : List Char} (hr : Stops touchesNumber rest) :
    Stops isNamePart rest :=
  hr.mono fun c hc => by simp [touchesNumber, hc]

namespace Lexeme

theorem scan_of_not_mem {c : Char} (h : c ∉ ['(', ')', ',', '=', '!', '<', '>']) (cs : List Char) :
    scan c cs =
      if c = '"' ∨ c = '\'' then scanText c cs
      else if c.isDigit ∨ c = '-' ∧ cs.head?.any Char.isDigit then scanNumber c cs
      else if isNameStart c then .ok (scanWord c cs)
      else fail (.strayCharacter c) := by
  unfold scan
  split
  all_goals first | rfl | exact absurd (by simp) h

theorem scan_quote {quote : Char} (hq : quote = '"' ∨ quote = '\'') (cs : List Char) :
    scan quote cs = scanText quote cs := by
  have hc : quote ∉ ['(', ')', ',', '=', '!', '<', '>'] := by
    obtain rfl | rfl := hq <;> decide
  rw [scan_of_not_mem hc, if_pos hq]

theorem ne_backslash {quote : Char} (hq : quote = '"' ∨ quote = '\'') : quote ≠ '\\' := by
  rintro rfl
  exact absurd hq (by decide)

theorem continuesNumber_eq_false_iff {rest : List Char} :
    continuesNumber rest = false ↔ Stops isNamePart rest := by
  cases rest with
  | nil => simp [continuesNumber, Stops]
  | cons c rest => simp [continuesNumber, Stops, isNamePart, and_assoc, and_comm (a := ¬ c = '_')]

theorem continuesDate_eq_false_iff {rest : List Char} :
    continuesDate rest = false ↔ Stops touchesNumber rest := by
  rw [continuesDate, Bool.or_eq_false_iff, continuesNumber_eq_false_iff]
  cases rest with
  | nil => simp [Stops]
  | cons c rest => simp [Stops, touchesNumber]

theorem scanBody_cons {quote c : Char} (h : c ≠ '\\') (offset : Nat) (cs : List Char) :
    scanBody quote offset (c :: cs) =
      if c = quote then .ok ⟨[], [c], cs⟩
      else (scanBody quote (offset + c.utf8Size) cs).map (Body.push c [c]) := by
  rw [scanBody]
  · simp [h]
  · intro e cs' hc
    exact absurd hc h

theorem utf8Size_of_isEscapable {c : Char} (h : isEscapable c = true) : c.utf8Size = 1 := by
  simp only [isEscapable, Bool.or_eq_true, beq_iff_eq] at h
  obtain (rfl | rfl) | rfl := h <;> rfl

theorem scanBody_unescapes {quote : Char} {body content : List Char}
    (h : Unescapes quote body content) (rest : List Char) (offset : Nat) :
    scanBody quote offset (body ++ rest) = (scanBody quote (offset + width body) rest).map fun b =>
      ⟨content ++ b.content, body ++ b.spelling, b.rest⟩ := by
  induction h generalizing offset with
  | nil =>
    have hid : scanBody quote offset rest = (scanBody quote offset rest).map id := by
      cases scanBody quote offset rest <;> rfl
    exact hid
  | @plain c body content hq hb _ ih =>
    rw [List.cons_append, scanBody_cons hb, if_neg hq, ih, width, Nat.add_assoc]
    cases scanBody quote (offset + (c.utf8Size + width body)) rest <;> rfl
  | @escaped c body content hc _ ih =>
    have he : isEscapable c = true := by simpa [isEscapable, or_assoc] using hc
    have hwidth : offset + 2 + width body = offset + width ('\\' :: c :: body) := by
      have hbackslash : '\\'.utf8Size = 1 := rfl
      simp only [width, utf8Size_of_isEscapable he]
      omega
    rw [List.cons_append, List.cons_append, scanBody, if_pos he, ih, hwidth]
    cases scanBody quote (offset + width ('\\' :: c :: body)) rest <;> rfl

theorem scanBody_append {quote : Char} (hquote : quote ≠ '\\') {body content : List Char}
    (h : Unescapes quote body content) (rest : List Char) (offset : Nat) :
    scanBody quote offset (body ++ quote :: rest) = .ok ⟨content, body ++ [quote], rest⟩ := by
  rw [scanBody_unescapes h, scanBody_cons hquote, if_pos rfl]
  simp [Except.map]

theorem scanText_append {quote : Char} (hquote : quote ≠ '\\') {body content : List Char}
    (h : Unescapes quote body content) (rest : List Char) :
    scanText quote (body ++ quote :: rest) =
      .ok ⟨.text (String.ofList content), quote :: body ++ [quote], rest⟩ := by
  simp [scanText_eq, scanBody_append hquote h, Except.map]

theorem scanWord_append {c : Char} {cs rest : List Char} (hs : ∀ d ∈ cs, isNamePart d = true)
    (hr : Stops isNamePart rest) :
    scanWord c (cs ++ rest) = ⟨wordKind (c :: cs), c :: cs, rest⟩ := by
  simp only [scanWord, takeWhile_run hs hr, dropWhile_run hs hr]

theorem scanEquals_append {name : List Char} {op : Operator} (hn : name ≠ [])
    (hl : ∀ c ∈ name, c.isAlpha = true)
    (ho : Operator.ofName? (String.ofList (name.map Char.toLower)) = some op) (rest : List Char) :
    scanEquals (name ++ '=' :: rest) = .ok ⟨.operator op, '=' :: name ++ ['='], rest⟩ := by
  have hs : Stops isAsciiLetter ('=' :: rest) := stops_cons (by decide) _
  have ht : (name ++ '=' :: rest).takeWhile isAsciiLetter = name := takeWhile_run hl hs
  have hd : (name ++ '=' :: rest).dropWhile isAsciiLetter = '=' :: rest := dropWhile_run hl hs
  unfold scanEquals
  split
  · next cs hc =>
    cases name with
    | nil => exact absurd rfl hn
    | cons c name =>
      have hce : c = '=' := (List.cons.inj hc).1
      have hc := hl c List.mem_cons_self
      rw [hce] at hc
      exact absurd hc (by decide)
  · rw [ht, hd]
    split
    · exact absurd rfl hn
    · simp only [ho]

theorem endNumber_append {digits rest : List Char} (hr : Stops isNamePart rest) :
    endNumber digits rest = .ok ⟨.number (String.ofList digits), digits, rest⟩ := by
  simp [endNumber, continuesNumber_eq_false_iff.mpr hr]

theorem scanNumber_append {c : Char} {ds tail rest : List Char}
    (hd : ∀ d ∈ ds, d.isDigit = true)
    (ht : tail = [] ∨ ∃ fraction, tail = '.' :: fraction ∧ isDigits fraction = true)
    (hr : Stops isNamePart rest)
    (hy : tail = [] → c ≠ '-' → ds.length = 3 → Stops (· == '-') rest) :
    scanNumber c (ds ++ tail ++ rest) =
      .ok ⟨.number (String.ofList (c :: ds ++ tail)), c :: ds ++ tail, rest⟩ := by
  unfold scanNumber
  obtain rfl | ⟨fraction, rfl, hf⟩ := ht
  · rw [List.append_nil, takeWhile_run hd (stops_isDigit hr), dropWhile_run hd (stops_isDigit hr)]
    dsimp only
    split
    · rw [if_neg, List.append_nil, endNumber_append hr]
      rintro ⟨hc, hl⟩
      exact absurd (hy rfl hc (Nat.succ.inj hl) '-' rfl) (by decide)
    · exact absurd (hr '.' rfl) (by decide)
    · rw [List.append_nil, endNumber_append hr]
  · obtain ⟨hne, hf⟩ := isDigits_iff.mp hf
    have hs : Stops Char.isDigit ('.' :: (fraction ++ rest)) := stops_cons (by decide) _
    rw [List.append_assoc, List.cons_append, takeWhile_run hd hs, dropWhile_run hd hs]
    dsimp only
    split
    · next h => exact absurd (List.cons.inj h).1 (by decide)
    · next rest' h =>
      obtain rfl := (List.cons.inj h).2
      rw [takeWhile_run hf (stops_isDigit hr), dropWhile_run hf (stops_isDigit hr)]
      cases fraction with
      | nil => exact absurd rfl hne
      | cons d fraction => exact endNumber_append hr
    · next h => exact absurd rfl (h _)

theorem scanDatePart_append {digits rest : List Char} (hd : ∀ d ∈ digits, d.isDigit = true)
    (hl : digits.length = 2) (hr : Stops Char.isDigit rest) :
    scanDatePart ('-' :: (digits ++ rest)) = some ('-' :: digits, rest) := by
  simp [scanDatePart, takeWhile_run hd hr, dropWhile_run hd hr, hl]

theorem scanDate_append {year month day rest : List Char} (hm : month.length = 2)
    (hd : day.length = 2) (h : ∀ c ∈ month ++ day, c.isDigit = true)
    (hr : Stops touchesNumber rest) :
    scanDate year ('-' :: (month ++ '-' :: (day ++ rest))) =
      .ok ⟨.date (String.ofList (year ++ '-' :: month ++ '-' :: day)),
        year ++ '-' :: month ++ '-' :: day, rest⟩ := by
  have hs : Stops Char.isDigit ('-' :: (day ++ rest)) := stops_cons (by decide) _
  have hc : continuesDate rest = false := continuesDate_eq_false_iff.mpr hr
  have hpm := scanDatePart_append (fun c hc => h c (by simp [hc])) hm hs
  have hpd := scanDatePart_append (fun c hc => h c (by simp [hc])) hd
    (stops_isDigit (stops_isNamePart hr))
  simp [scanDate, hpm, hpd, hc]

theorem scanNumber_date {c : Char} {ys month day rest : List Char} (hy : ys.length = 3)
    (hm : month.length = 2) (hd : day.length = 2)
    (h : ∀ d ∈ c :: ys ++ month ++ day, d.isDigit = true)
    (hr : Stops touchesNumber rest) :
    scanNumber c (ys ++ '-' :: month ++ '-' :: day ++ rest) =
      .ok ⟨.date (String.ofList (c :: ys ++ '-' :: month ++ '-' :: day)),
        c :: ys ++ '-' :: month ++ '-' :: day, rest⟩ := by
  have hs : Stops Char.isDigit ('-' :: (month ++ '-' :: (day ++ rest))) := stops_cons (by decide) _
  have hc : c ≠ '-' := by
    rintro rfl
    exact absurd (h '-' (by simp)) (by decide)
  have hys : ∀ d ∈ ys, d.isDigit = true := fun d hd => h d (by simp [hd])
  have happend : ys ++ '-' :: month ++ '-' :: day ++ rest =
      ys ++ '-' :: (month ++ '-' :: (day ++ rest)) := by simp
  rw [scanNumber]
  rw [happend, takeWhile_run hys hs, dropWhile_run hys hs]
  split
  · next rest' he =>
    obtain rfl := (List.cons.inj he).2
    rw [if_pos ⟨hc, by simp [hy]⟩]
    refine scanDate_append hm hd (fun d hd => ?_) hr
    obtain hd | hd := List.mem_append.mp hd
    · exact h d (by simp [hd])
    · exact h d (by simp [hd])
  · next he => exact absurd (List.cons.inj he).1 (by decide)
  · next he _ => exact absurd rfl (he _)

theorem scan_number {c : Char} {cs : List Char} (h : c.isDigit = true ∨
    c = '-' ∧ cs.head?.any Char.isDigit = true) : scan c cs = scanNumber c cs := by
  have hc (ds : List Char) (hds : ds.any (fun d => d.isDigit || d == '-') = false) : c ∉ ds := by
    refine @not_mem_of_test (fun d => d.isDigit || d == '-') c ds ?_ hds
    obtain hd | ⟨rfl, -⟩ := h
    · simp [hd]
    · rfl
  have hq : ¬ (c = '"' ∨ c = '\'') := by
    simpa using hc ['"', '\''] (by decide)
  rw [scan_of_not_mem (hc _ (by decide)), if_neg hq, if_pos h]

theorem scan_word {c : Char} (cs : List Char) (h : isNameStart c = true) :
    scan c cs = .ok (scanWord c cs) := by
  have hne := ne_of_test h
  rw [scan_of_not_mem (not_mem_of_test h (by decide)), if_neg, if_neg, if_pos h]
  · simp [isDigit_of_isNameStart h, hne '-' (by decide)]
  · simp [hne '"' (by decide), hne '\'' (by decide)]

theorem scan_number_append {c : Char} {cs rest : List Char} (h : NumberText (c :: cs))
    (hr : Stops (goesOn (.number (String.ofList (c :: cs))) (c :: cs)) rest) :
    scan c (cs ++ rest) = .ok ⟨.number (String.ofList (c :: cs)), c :: cs, rest⟩ := by
  have hname : Stops isNamePart rest := hr.mono (by simp +contextual [goesOn])
  generalize hcs : c :: cs = text at h
  cases h with
  | @intro sign whole tail hs hw ht =>
    obtain ⟨hne, hd⟩ := isDigits_iff.mp hw
    obtain rfl | rfl := hs
    · cases whole with
      | nil => exact absurd rfl hne
      | cons d ds =>
        obtain ⟨rfl, rfl⟩ := List.cons.inj hcs
        rw [scan_number (.inl (hd c (by simp)))]
        refine scanNumber_append (fun d hm => hd d (by simp [hm])) ht hname ?_
        rintro rfl - hl
        refine hr.mono fun d hd' => ?_
        simpa [goesOn, hl, hd'] using .inr (List.forall_mem_cons.mp hd)
    · obtain ⟨rfl, rfl⟩ := List.cons.inj hcs
      have hh : ((whole ++ tail) ++ rest).head?.any Char.isDigit = true := by
        cases whole with
        | nil => exact absurd rfl hne
        | cons d ds => simpa using hd d (by simp)
      change scan '-' (whole ++ tail ++ rest) = _
      rw [scan_number (.inr ⟨rfl, hh⟩)]
      exact scanNumber_append hd ht hname fun _ hc => absurd rfl hc

theorem scan_date_append {c : Char} {cs rest : List Char} (h : DateText (c :: cs))
    (hr : Stops touchesNumber rest) :
    scan c (cs ++ rest) = .ok ⟨.date (String.ofList (c :: cs)), c :: cs, rest⟩ := by
  generalize hcs : c :: cs = text at h
  cases h with
  | @intro year month day hy hm hd hall =>
    cases year with
    | nil => exact absurd hy (by decide)
    | cons y ys =>
      obtain ⟨rfl, rfl⟩ := List.cons.inj hcs
      rw [scan_number (.inl (hall c (by simp)))]
      exact scanNumber_date (Nat.succ.inj hy) hm hd hall hr

theorem goesOn_wordKind (word cs : List Char) : goesOn (wordKind word) cs = isNamePart := by
  rw [wordKind]
  split
  · rfl
  · split
    · rfl
    · split
      · rfl
      · split <;> rfl

theorem scan_append {k : Token.Kind} {c : Char} {cs rest : List Char} (h : Spelling k (c :: cs))
    (hr : Stops (goesOn k (c :: cs)) rest) : scan c (cs ++ rest) = .ok ⟨k, c :: cs, rest⟩ := by
  generalize hcs : c :: cs = text at h
  cases h with
  | openParen | closeParen | comma | eq | ne | le | ge =>
    cases hcs
    rfl
  | lt | gt =>
    cases hcs
    cases rest with
    | nil => rfl
    | cons d rest =>
      have hd := hr d rfl
      unfold scan
      split <;> simp_all [goesOn]
  | @named name op hn hl ho =>
    obtain ⟨rfl, rfl⟩ := List.cons.inj hcs
    simpa [scan] using scanEquals_append hn hl ho rest
  | @text quote body content hq hb =>
    obtain ⟨rfl, rfl⟩ := List.cons.inj hcs
    rw [scan_quote hq]
    simpa using scanText_append (ne_backslash hq) hb rest
  | number h =>
    subst hcs
    exact scan_number_append h hr
  | date h =>
    subst hcs
    exact scan_date_append h hr
  | word h =>
    subst hcs
    cases h with
    | intro hc hs =>
      have hstart : isNameStart c = true := by simpa [isNameStart] using hc
      rw [goesOn_wordKind] at hr
      rw [scan_word _ hstart, scanWord_append (fun d hd => ?_) hr]
      simpa [isNamePart, or_assoc] using hs d hd

def Spelled (x : Lexeme) : Prop := Spelling x.kind x.spelling

theorem spelled_scanWord {c : Char} {cs : List Char} (h : isNameStart c = true) :
    (scanWord c cs).Spelled := by
  refine .word (.intro (by simpa [isNameStart] using h) fun d hd => ?_)
  simpa [isNamePart, or_assoc] using test_of_mem_takeWhile hd

theorem unescapes_of_scanBody {quote : Char} {offset : Nat} {cs : List Char} {b : Body}
    (h : scanBody quote offset cs = .ok b) :
    ∃ body, b.spelling = body ++ [quote] ∧ Unescapes quote body b.content := by
  fun_induction scanBody quote offset cs generalizing b with
  | case1 => cases h
  | case2 offset e cs he ih =>
    cases hr : scanBody quote (offset + 2) cs with
    | ok b' =>
      rw [hr] at h
      cases h
      obtain ⟨body, hs, hu⟩ := ih hr
      refine ⟨'\\' :: e :: body, by simp [Body.push, hs], .escaped ?_ hu⟩
      simpa [isEscapable, or_assoc] using he
    | error f =>
      rw [hr] at h
      cases h
  | case3 => cases h
  | case4 =>
    cases h
    exact ⟨[], rfl, .nil⟩
  | case5 => cases h
  | case6 offset c cs _ hq hb ih =>
    cases hr : scanBody quote (offset + c.utf8Size) cs with
    | ok b' =>
      rw [hr] at h
      cases h
      obtain ⟨body, hs, hu⟩ := ih hr
      exact ⟨c :: body, by simp [Body.push, hs], .plain hq hb hu⟩
    | error f =>
      rw [hr] at h
      cases h

theorem spelled_of_scanText {quote : Char} {cs : List Char} {x : Lexeme}
    (hq : quote = '"' ∨ quote = '\'') (h : scanText quote cs = .ok x) : x.Spelled := by
  rw [scanText_eq] at h
  cases hb : scanBody quote quote.utf8Size cs with
  | ok b =>
    rw [hb] at h
    cases h
    obtain ⟨body, hs, hu⟩ := unescapes_of_scanBody hb
    show Spelling (.text (String.ofList b.content)) (quote :: b.spelling)
    rw [hs]
    exact .text hq hu
  | error f =>
    rw [hb] at h
    cases h

theorem spelled_of_scanEquals {cs : List Char} {x : Lexeme} (h : scanEquals cs = .ok x) :
    x.Spelled := by
  unfold scanEquals at h
  split at h
  · cases h
    exact .eq
  · split at h
    · cases h
    · next name hn hname =>
      split at h
      · split at h
        · next ho =>
          cases h
          refine .named (fun hnil => hname ?_) (fun c hc => ?_) ho
          · exact hnil
          · exact test_of_mem_takeWhile hc
        · cases h
      · cases h

theorem digits_of_scanDatePart {cs part rest : List Char}
    (h : scanDatePart cs = some (part, rest)) :
    ∃ digits, part = '-' :: digits ∧ digits.length = 2 ∧ ∀ c ∈ digits, c.isDigit = true := by
  unfold scanDatePart at h
  split at h
  · dsimp only at h
    split at h
    · next hl =>
      cases h
      exact ⟨_, rfl, hl, fun c hc => test_of_mem_takeWhile hc⟩
    · cases h
  · cases h

theorem spelled_of_scanDate {year cs : List Char} {x : Lexeme} (hy : year.length = 4)
    (hd : ∀ c ∈ year, c.isDigit = true) (h : scanDate year cs = .ok x) : x.Spelled := by
  rw [scanDate] at h
  split at h
  · cases h
  · next month rest hm =>
    split at h
    · cases h
    · next day rest' hday =>
      split at h
      · cases h
      · cases h
        obtain ⟨ms, rfl, hml, hmd⟩ := digits_of_scanDatePart hm
        obtain ⟨ds, rfl, hdl, hdd⟩ := digits_of_scanDatePart hday
        refine .date (.intro hy hml hdl fun c hc => ?_)
        simp only [List.mem_append] at hc
        exact hc.elim (fun hc => hc.elim (hd c) (hmd c)) (hdd c)

theorem spelled_of_endNumber {digits cs : List Char} {x : Lexeme} (hd : NumberText digits)
    (h : endNumber digits cs = .ok x) : x.Spelled := by
  rw [endNumber] at h
  split at h
  · cases h
  · cases h
    exact .number hd

theorem whole_of_scanNumber {c : Char} {cs : List Char}
    (h : c.isDigit = true ∨ c = '-' ∧ cs.head?.any Char.isDigit = true) :
    ∃ sign whole, c :: cs.takeWhile Char.isDigit = sign ++ whole ∧
      (sign = [] ∨ sign = ['-']) ∧ isDigits whole = true := by
  obtain h | ⟨rfl, h⟩ := h
  · refine ⟨[], _, rfl, .inl rfl, isDigits_iff.mpr ⟨by simp, ?_⟩⟩
    intro d hd
    obtain rfl | hd := List.mem_cons.mp hd
    · exact h
    · exact test_of_mem_takeWhile hd
  · refine ⟨['-'], _, rfl, .inr rfl, isDigits_iff.mpr ⟨?_, fun d => test_of_mem_takeWhile⟩⟩
    cases cs with
    | nil => cases h
    | cons d ds =>
      have hd : d.isDigit = true := by simpa using h
      simp [hd]

theorem spelled_of_scanNumber {c : Char} {cs : List Char} {x : Lexeme}
    (hc : c.isDigit = true ∨ c = '-' ∧ cs.head?.any Char.isDigit = true)
    (h : scanNumber c cs = .ok x) : x.Spelled := by
  obtain ⟨sign, whole, hsw, hs, hw⟩ := whole_of_scanNumber hc
  have hnumber : NumberText (c :: cs.takeWhile Char.isDigit) := by
    rw [hsw, ← List.append_nil (sign ++ whole)]
    exact .intro hs hw (.inl rfl)
  unfold scanNumber at h
  dsimp only at h
  split at h
  · split at h
    · next hy =>
      refine spelled_of_scanDate hy.2 (fun d hd => ?_) h
      obtain rfl | hd := List.mem_cons.mp hd
      · exact hc.resolve_right fun hm => hy.1 hm.1
      · exact test_of_mem_takeWhile hd
    · exact spelled_of_endNumber hnumber h
  · next rest hr =>
    split at h
    · cases h
    · next fraction hf =>
      refine spelled_of_endNumber ?_ h
      rw [hsw]
      refine .intro hs hw (.inr ⟨_, rfl, isDigits_iff.mpr ⟨fun hnil => hf ?_, ?_⟩⟩)
      · exact hnil
      · exact fun d hd => test_of_mem_takeWhile hd
  · exact spelled_of_endNumber hnumber h

theorem spelled_of_scan {c : Char} {cs : List Char} {x : Lexeme} (h : scan c cs = .ok x) :
    x.Spelled := by
  unfold scan at h
  split at h
  · cases h; exact .openParen
  · cases h; exact .closeParen
  · cases h; exact .comma
  · exact spelled_of_scanEquals h
  · cases h; exact .ne
  · cases h
  · cases h; exact .le
  · cases h; exact .lt
  · cases h; exact .ge
  · cases h; exact .gt
  · split at h
    · next hq => exact spelled_of_scanText hq h
    · split at h
      · next hn => exact spelled_of_scanNumber hn h
      · split at h
        · next hw =>
          cases h
          exact spelled_scanWord hw
        · cases h

end Lexeme

end FilterQuery.Query
