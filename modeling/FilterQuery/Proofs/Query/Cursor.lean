import FilterQuery.Proofs.Query.Tiling
import FilterQuery.Proofs.Reading

namespace FilterQuery.Query

open FilterQuery.Text

namespace Cursor

/-- The state is the number of bytes that are passed. -/
abbrev Reader : Type → Type := Reading String LexError Nat

def place : Reader Nat := Reading.state

def slice (start stop : Nat) : Reader (List Char) := do
  let input ← read
  if start ≤ stop ∧ String.Pos.Raw.isValid input ⟨start⟩ ∧ String.Pos.Raw.isValid input ⟨stop⟩ then
    return (Span.text ⟨start, stop⟩ input).toList
  else Reading.abort

def sliceFrom (start : Nat) : Reader (List Char) := do
  slice start (← read).utf8ByteSize

def peek : Reader (Option Char) := do
  return (← sliceFrom (← place)).head?

def bump : Reader (Option Char) := do
  match ← peek with
  | some c =>
    Reading.move (· + c.utf8Size)
    return some c
  | none => return none

/-- A loop has one round more than there are bytes. -/
def loop {α β : Type} (step : α → Reader (α ⊕ β)) (a : α) : Reader β := do
  Reading.rounds step ((← read).utf8ByteSize + 1) a

def bumpWhile (test : Char → Bool) : Nat → Reader Nat :=
  loop fun count => do
    if (← peek).any test then
      let _ ← bump
      return .inl (count + 1)
    else return .inr count

def fail {α : Type} (position : Nat) (fault : Fault) : Reader α := throw ⟨position, fault⟩

def token (kind : Token.Kind) (start : Nat) : Reader Token := do
  return ⟨kind, ⟨start, ← place⟩⟩

def passed (start : Nat) : Reader (List Char) := do
  slice start (← place)

def datePart (start : Nat) : Reader Unit := do
  if (← bump) ≠ some '-' then fail start .malformedDate
  else if (← bumpWhile Char.isDigit 0) ≠ 2 then fail start .malformedDate

def date (start : Nat) : Reader Token := do
  datePart start
  datePart start
  let next ← peek
  if Lexeme.continuesDate next.toList then fail start .malformedDate
  else token (.date (String.ofList (← passed start))) start

def fraction (start : Nat) : Reader Unit := do
  if (← peek) = some '.' then
    let _ ← bump
    if (← bumpWhile Char.isDigit 0) = 0 then fail start .missingFraction

def endNumber (start : Nat) : Reader Token := do
  let next ← peek
  let digits ← passed start
  if Lexeme.continuesNumber next.toList then fail start (.malformedNumber (String.ofList digits))
  else token (.number (String.ofList digits)) start

def number (start : Nat) : Reader Token := do
  let negative := (← sliceFrom start).head? == some '-'
  let digits := (← bumpWhile Char.isDigit 0) + if negative then 0 else 1
  if negative = false ∧ digits = 4 ∧ (← peek) = some '-' then date start
  else
    fraction start
    endNumber start

def content (copy : Option String) (start stop : Nat) : Reader String := do
  match copy with
  | some s => return s
  | none => return String.ofList (← slice start stop)

/-- Up to the first escape there is no copy of the content, which stands from `body` on. -/
def text (start : Nat) (quote : Char) (body : Nat) : Option String → Reader Token :=
  loop fun copy => do
    let here ← place
    match ← bump with
    | none => fail start .unterminatedText
    | some c =>
      if c = quote then return .inr (← token (.text (← content copy body here)) start)
      else if c = '\\' then
        match ← bump with
        | some e =>
          if Lexeme.isEscapable e then
            return .inl (some ((← content copy body here).push e))
          else fail here .badEscape
        | none => fail here .badEscape
      else return .inl (copy.map fun s => s.push c)

def word (start : Nat) : Reader Token := do
  let _ ← bumpWhile isNamePart 0
  token (Lexeme.wordKind (← passed start)) start

def namedOperator (start : Nat) : Reader Token := do
  let here ← place
  let _ ← bumpWhile Lexeme.isAsciiLetter 0
  let name ← passed here
  if (← bump) ≠ some '=' then fail start (.unclosedOperator (String.ofList name))
  else
    match Operator.ofName? (String.ofList (name.map Char.toLower)) with
    | some op => token (.operator op) start
    | none => fail start (.unknownOperator (String.ofList name))

def beforeEquals (op : Operator) (start : Nat) (other : Reader Token) : Reader Token := do
  if (← peek) = some '=' then
    let _ ← bump
    token (.operator op) start
  else other

def tokenFrom (start : Nat) (c : Char) : Reader Token := do
  match c with
  | '(' => token .openParen start
  | ')' => token .closeParen start
  | ',' => token .comma start
  | '=' => beforeEquals .eq start do
      if (← peek).any Lexeme.isAsciiLetter then namedOperator start else fail start .loneEquals
  | '!' => beforeEquals .ne start (fail start .loneBang)
  | '<' => beforeEquals .le start (token (.operator .lt) start)
  | '>' => beforeEquals .ge start (token (.operator .gt) start)
  | c =>
    if c = '"' ∨ c = '\'' then text start c (← place) none
    else
      let next ← peek
      if c.isDigit ∨ c = '-' ∧ next.any Char.isDigit then number start
      else if isNameStart c then word start
      else fail start (.strayCharacter c)

def nextToken : Reader (Option Token) := do
  let _ ← bumpWhile isBlank 0
  let start ← place
  match ← bump with
  | some c => return some (← tokenFrom start c)
  | none => return none

/-- The next answer. After an error the place is the end. -/
def next (input : String) (t : Tape Nat) : Option (Option (Except LexError Token) × Tape Nat) :=
  (nextToken input t).map fun
    | (.ok none, t') => (none, t')
    | (.ok (some k), t') => (some (.ok k), t')
    | (.error e, t') => (some (.error e), t'.move fun _ => input.utf8ByteSize)

variable {input : String} {before rest : List Char} {c : Char} {cs : List Char} {t : Tape Nat}

/-- The cursor stands between `before` and `rest`. It never went back on its way there, and it never
stood inside a character. -/
structure At (input : String) (before rest : List Char) (t : Tape Nat) : Prop where
  toList_eq : input.toList = before ++ rest
  now_eq : t.now = width before
  ordered : t.points.Pairwise (· ≥ ·)
  valid : ∀ i ∈ t.points, String.Pos.Raw.IsValid input ⟨i⟩

namespace At

theorem start (input : String) : At input [] input.toList (.start 0) :=
  ⟨rfl, rfl, List.pairwise_singleton _ _,
    List.forall_mem_singleton.mpr (isValid_of_append (List.nil_append _).symm)⟩

theorem move (cs : List Char) (f : Nat → Nat) (h : At input before (cs ++ rest) t)
    (hf : f t.now = t.now + width cs) : At input (before ++ cs) rest (t.move f) := by
  have hq : input.toList = (before ++ cs) ++ rest := by rw [h.toList_eq, List.append_assoc]
  have hnow : (t.move f).now = width (before ++ cs) := by
    rw [Tape.now_move, hf, h.now_eq, width_append]
  have hle : ∀ i ∈ t.points, i ≤ f t.now := by
    refine List.forall_mem_cons.mpr ⟨by omega, fun i hi => ?_⟩
    have hpast := (List.pairwise_cons.mp h.ordered).1 i hi
    omega
  refine ⟨hq, hnow, .cons hle h.ordered, List.forall_mem_cons.mpr ⟨?_, h.valid⟩⟩
  rw [hnow]
  exact isValid_of_append hq

theorem bump (h : At input before (c :: rest) t) :
    At input (before ++ [c]) rest (t.move (· + c.utf8Size)) :=
  move [c] _ h rfl

theorem size_eq (h : At input before rest t) : input.utf8ByteSize = t.now + width rest := by
  rw [h.now_eq, ← width_append, ← h.toList_eq, width_toList]

theorem toEnd (h : At input before rest t) :
    At input input.toList [] (t.move fun _ => input.utf8ByteSize) := by
  have hend := move rest (fun _ => input.utf8ByteSize) (by rwa [List.append_nil]) h.size_eq
  rwa [← h.toList_eq] at hend

theorem bytesLeft_bump (h : At input before (c :: rest) t) :
    input.utf8ByteSize - (t.now + c.utf8Size) < input.utf8ByteSize - t.now := by
  have hsize := h.size_eq
  have hc := c.utf8Size_pos
  simp only [width] at hsize
  omega

end At

theorem slice_eq {after : List Char} (h : input.toList = before ++ cs ++ after) (t : Tape Nat) :
    slice (width before) (width before + width cs) input t = some (.ok cs, t) := by
  have hc : Span.Covers ⟨width before, width before + width cs⟩ input cs := ⟨before, after, h, rfl⟩
  have hvalid := hc.isValid
  rw [← String.Pos.Raw.isValid_eq_true_iff, ← String.Pos.Raw.isValid_eq_true_iff] at hvalid
  rw [slice, Reading.bind_read, if_pos ⟨Nat.le_add_right _ _, hvalid⟩, hc.toList_text]
  rfl

theorem sliceFrom_eq (h : input.toList = before ++ rest) (t : Tape Nat) :
    sliceFrom (width before) input t = some (.ok rest, t) := by
  have hsize : input.utf8ByteSize = width before + width rest := by
    rw [← width_append, ← h, width_toList]
  rw [sliceFrom, Reading.bind_read, hsize]
  exact slice_eq (by rw [h, List.append_nil]) t

namespace At

theorem place (h : At input before rest t) : place input t = some (.ok (width before), t) := by
  rw [← h.now_eq]
  rfl

theorem passed (h : At input (before ++ cs) rest t) :
    passed (width before) input t = some (.ok cs, t) := by
  rw [Cursor.passed, Reading.bind_of_returned h.place, width_append]
  exact slice_eq h.toList_eq t

theorem peek (h : At input before rest t) : peek input t = some (.ok rest.head?, t) := by
  rw [Cursor.peek, Reading.bind_of_returned h.place]
  exact Reading.bind_of_returned (sliceFrom_eq h.toList_eq t)

theorem bump_cons (h : At input before (c :: rest) t) :
    Cursor.bump input t = some (.ok (some c), t.move (· + c.utf8Size)) :=
  Reading.bind_of_returned h.peek

theorem bump_nil (h : At input before [] t) : Cursor.bump input t = some (.ok none, t) :=
  Reading.bind_of_returned h.peek

end At

theorem meets_loop {α β : Type} {Q : β → Tape Nat → Prop} {E : LexError → Tape Nat → Prop}
    {step : α → Reader (α ⊕ β)} (inv : α → Tape Nat → Prop)
    (hstep : ∀ a t, inv a t → Reading.Meets (step a) input t
      (fun x t' => match x with
        | .inl a' => inv a' t' ∧ input.utf8ByteSize - t'.now < input.utf8ByteSize - t.now
        | .inr b => Q b t') E)
    {a : α} (h : inv a t) : Reading.Meets (loop step a) input t Q E := by
  rw [loop]
  apply Reading.meets_bind_read
  exact Reading.meets_rounds inv (fun t => input.utf8ByteSize - t.now) hstep h
    (Nat.lt_succ_of_le (Nat.sub_le _ _))

theorem At.exists_bumpWhile (h : At input before rest t) (test : Char → Bool) (n : Nat) :
    ∃ t', bumpWhile test n input t = some (.ok (n + (rest.takeWhile test).length), t') ∧
      At input (before ++ rest.takeWhile test) (rest.dropWhile test) t' := by
  have hmeets : Reading.Meets (bumpWhile test n) input t
      (fun m t' => m = n + (rest.takeWhile test).length ∧
        At input (before ++ rest.takeWhile test) (rest.dropWhile test) t') fun _ _ => False := by
    -- what remains to be counted, and where the cursor will stand, stay the same in each round
    refine meets_loop (fun m t' => ∃ done cs, At input done cs t' ∧
      m + (cs.takeWhile test).length = n + (rest.takeWhile test).length ∧
      done ++ cs.takeWhile test = before ++ rest.takeWhile test ∧
      cs.dropWhile test = rest.dropWhile test) ?_ ⟨before, rest, h, rfl, rfl, rfl⟩
    rintro m t₁ ⟨done, cs, h, hm, hdone, hcs⟩
    refine Reading.meets_bind_of_returned h.peek ?_
    cases cs with
    | nil => exact Reading.meets_pure ⟨hm.symm ▸ rfl, by simpa [← hdone, ← hcs] using h⟩
    | cons c cs =>
      rw [List.head?_cons, Option.any_some]
      cases hc : test c with
      | true =>
        rw [List.takeWhile_cons_of_pos hc] at hm hdone
        rw [List.dropWhile_cons_of_pos hc] at hcs
        refine Reading.meets_bind_of_returned h.bump_cons ?_
        refine Reading.meets_pure ⟨⟨done ++ [c], cs, h.bump, ?_, by simpa using hdone, hcs⟩,
          h.bytesLeft_bump⟩
        rw [← hm, List.length_cons]
        omega
      | false =>
        have hneg : ¬ test c = true := by simp [hc]
        rw [List.takeWhile_cons_of_neg hneg] at hm hdone
        rw [List.dropWhile_cons_of_neg hneg] at hcs
        rw [List.append_nil] at hdone
        exact Reading.meets_pure ⟨hm, hdone ▸ hcs ▸ h⟩
  obtain ⟨m, t', ht, rfl, h'⟩ := hmeets.exists_returned
  exact ⟨t', ht, h'⟩

def Returns (input : String) (before : List Char) (r : Except Flaw Lexeme) (k : Token)
    (t : Tape Nat) : Prop :=
  ∃ x, r = .ok x ∧ At input (before ++ x.spelling) x.rest t ∧
    k = ⟨x.kind, ⟨width before, width before + width x.spelling⟩⟩

def Rejects (input : String) (before : List Char) (r : Except Flaw Lexeme) (e : LexError)
    (t : Tape Nat) : Prop :=
  ∃ flaw, r = .error flaw ∧ (∃ before' rest, At input before' rest t) ∧
    e = ⟨width before + flaw.offset, flaw.fault⟩

/-- The reader answers with the token or the fault of `r`. -/
def Agrees (input : String) (before : List Char) (r : Except Flaw Lexeme) (f : Reader Token)
    (t : Tape Nat) : Prop :=
  Reading.Meets f input t (Returns input before r) (Rejects input before r)

section

open Lexeme Reading

variable {α : Type} {f : Reader α} {g : α → Reader Token} {r : Except Flaw Lexeme} {x : α}
  {t' : Tape Nat}

theorem agrees_bind (hf : f input t = some (.ok x, t')) (h : Agrees input before r (g x) t') :
    Agrees input before r (f >>= g) t :=
  meets_bind_of_returned hf h

theorem agrees_token (kind : Token.Kind) (h : At input (before ++ cs) rest t) :
    Agrees input before (.ok ⟨kind, cs, rest⟩) (token kind (width before)) t := by
  refine .returned rfl ⟨_, rfl, h, ?_⟩
  rw [h.now_eq, width_append]

theorem meets_fail {P : α → Tape Nat → Prop} (offset : Nat) (fault : Fault)
    (h : At input cs rest t) :
    Meets (Cursor.fail (width before + offset) fault : Reader α) input t P
      (Rejects input before (.error ⟨offset, fault⟩)) :=
  .rejected rfl ⟨_, rfl, ⟨_, _, h⟩, rfl⟩

theorem agrees_fail (fault : Fault) (h : At input cs rest t) :
    Agrees input before (Lexeme.fail fault) (Cursor.fail (width before) fault) t :=
  meets_fail 0 fault h

theorem agrees_word (h : At input (before ++ [c]) cs t) :
    Agrees input before (.ok (scanWord c cs)) (word (width before)) t := by
  obtain ⟨t', ht, h'⟩ := h.exists_bumpWhile isNamePart 0
  rw [List.append_assoc] at h'
  exact agrees_bind ht (agrees_bind h'.passed (agrees_token _ h'))

theorem agrees_namedOperator (h : At input (before ++ ['=']) (c :: cs) t)
    (hc : isAsciiLetter c = true) :
    Agrees input before (scanEquals (c :: cs)) (namedOperator (width before)) t := by
  obtain ⟨t', ht, h'⟩ := h.exists_bumpWhile isAsciiLetter 0
  refine agrees_bind h.place (agrees_bind ht (agrees_bind h'.passed ?_))
  rw [scanEquals]
  · split
    · next hnil => simp [hc] at hnil
    · generalize (c :: cs).takeWhile isAsciiLetter = name at h' ⊢
      generalize (c :: cs).dropWhile isAsciiLetter = rest at h' ⊢
      cases rest with
      | nil => exact agrees_bind h'.bump_nil (agrees_fail _ h')
      | cons d ds =>
        refine agrees_bind h'.bump_cons ?_
        by_cases hd : d = '='
        · subst hd
          have hend := h'.bump
          rw [List.append_assoc, List.append_assoc] at hend
          rw [if_neg (by simp)]
          cases Operator.ofName? (String.ofList (name.map Char.toLower)) with
          | some op => exact agrees_token (.operator op) hend
          | none => exact agrees_fail _ hend
        · rw [if_pos (by simpa using hd)]
          split
          · next heq => exact absurd (List.cons.inj heq).1 hd
          · exact agrees_fail _ h'.bump
  · rintro ds ⟨rfl, rfl⟩
    cases hc

theorem agrees_beforeEquals {op : Operator} {other : Reader Token}
    (h : At input (before ++ [c]) cs t)
    (hop : ∀ ds, cs = '=' :: ds → r = .ok ⟨.operator op, [c, '='], ds⟩)
    (hother : (∀ ds, cs ≠ '=' :: ds) → Agrees input before r other t) :
    Agrees input before r (beforeEquals op (width before) other) t := by
  refine agrees_bind h.peek ?_
  cases cs with
  | nil => exact hother (by simp)
  | cons d ds =>
    by_cases hd : d = '='
    · subst hd
      rw [hop ds rfl]
      have h' := h.bump
      rw [List.append_assoc] at h'
      exact agrees_bind h.bump_cons (agrees_token _ h')
    · have hne : (d :: ds).head? ≠ some '=' := by simpa using hd
      rw [if_neg hne]
      exact hother (by simpa using hd)

theorem meets_datePart {ds : List Char} (h : At input (before ++ ds) cs t) :
    Meets (datePart (width before)) input t
      (fun _ t' => ∃ part rest, scanDatePart cs = some (part, rest) ∧
        At input (before ++ (ds ++ part)) rest t')
      (fun e t' => scanDatePart cs = none ∧ e = ⟨width before, .malformedDate⟩ ∧
        ∃ before' rest, At input before' rest t') := by
  rw [datePart]
  cases cs with
  | nil =>
    refine meets_bind_of_returned h.bump_nil ?_
    exact .rejected rfl ⟨rfl, rfl, _, _, h⟩
  | cons c cs =>
    refine meets_bind_of_returned h.bump_cons ?_
    by_cases hc : c = '-'
    · subst hc
      rw [if_neg (by simp)]
      obtain ⟨t', ht, h'⟩ := h.bump.exists_bumpWhile Char.isDigit 0
      refine meets_bind_of_returned ht ?_
      by_cases hn : (cs.takeWhile Char.isDigit).length = 2
      · rw [if_neg (by simpa using hn)]
        refine meets_pure ⟨_, _, if_pos hn, ?_⟩
        simpa using h'
      · rw [if_pos (by simpa using hn)]
        exact .rejected rfl ⟨if_neg hn, rfl, _, _, h'⟩
    · rw [if_pos (by simpa using hc)]
      refine .rejected rfl ⟨?_, rfl, _, _, h.bump⟩
      simp [scanDatePart, hc]

theorem agrees_date {year : List Char} (h : At input (before ++ year) cs t) :
    Agrees input before (scanDate year cs) (date (width before)) t := by
  refine ((meets_datePart h).mono_rejects ?_).bind ?_
  · rintro e t' ⟨hnone, rfl, hat⟩
    exact ⟨_, by rw [scanDate, hnone]; rfl, hat, rfl⟩
  rintro - t₁ ⟨month, rest, hmonth, h₁⟩
  refine ((meets_datePart h₁).mono_rejects ?_).bind ?_
  · rintro e t' ⟨hnone, rfl, hat⟩
    exact ⟨_, by simp only [scanDate, hmonth, hnone]; rfl, hat, rfl⟩
  rintro - t₂ ⟨day, rest', hday, h₂⟩
  have hscan : scanDate year cs =
      if continuesDate rest' then Lexeme.fail .malformedDate
      else .ok ⟨.date (String.ofList (year ++ month ++ day)), year ++ month ++ day, rest'⟩ := by
    simp only [scanDate, hmonth, hday]
  have hnext : continuesDate rest'.head?.toList = continuesDate rest' := by
    cases rest' <;> rfl
  refine agrees_bind h₂.peek ?_
  rw [hscan, hnext]
  split
  · exact agrees_fail _ h₂
  · exact agrees_bind h₂.passed (agrees_token _ h₂)

theorem agrees_endNumber {digits : List Char} (h : At input (before ++ digits) rest t) :
    Agrees input before (Lexeme.endNumber digits rest) (endNumber (width before)) t := by
  have hnext : continuesNumber rest.head?.toList = continuesNumber rest := by
    cases rest <;> rfl
  refine agrees_bind h.peek (agrees_bind h.passed ?_)
  rw [Lexeme.endNumber, hnext]
  split
  · exact agrees_fail _ h
  · exact agrees_token _ h

theorem fraction_of_ne {start : Nat} (h : At input before rest t) (hr : rest.head? ≠ some '.') :
    fraction start input t = some (.ok (), t) := by
  rw [fraction, bind_of_returned h.peek, if_neg hr]
  rfl

theorem exists_fraction (start : Nat) (h : At input before ('.' :: rest) t) :
    ∃ t', At input (before ++ '.' :: rest.takeWhile Char.isDigit) (rest.dropWhile Char.isDigit) t' ∧
      fraction start input t = some
        (if rest.takeWhile Char.isDigit = [] then .error ⟨start, .missingFraction⟩ else .ok (),
          t') := by
  obtain ⟨t', ht, h'⟩ := h.bump.exists_bumpWhile Char.isDigit 0
  refine ⟨t', by simpa using h', ?_⟩
  rw [fraction, bind_of_returned h.peek, List.head?_cons, if_pos rfl, bind_of_returned h.bump_cons,
    bind_of_returned ht]
  cases rest.takeWhile Char.isDigit with
  | nil => rfl
  | cons d ds =>
    rw [if_neg (by simp), if_neg (by simp)]
    rfl

theorem agrees_number (h : At input (before ++ [c]) cs t) :
    Agrees input before (scanNumber c cs) (number (width before)) t := by
  have hfirst : sliceFrom (width before) input t = some (.ok (c :: cs), t) :=
    sliceFrom_eq (by simpa using h.toList_eq) t
  obtain ⟨t', ht, h'⟩ := h.exists_bumpWhile Char.isDigit 0
  rw [List.append_assoc] at h'
  refine agrees_bind hfirst (agrees_bind ht (agrees_bind h'.peek ?_))
  rw [scanNumber]
  generalize cs.takeWhile Char.isDigit = digits at h' ⊢
  generalize cs.dropWhile Char.isDigit = rest at h' ⊢
  have hdate : (((c :: cs).head? == some '-') = false ∧
        0 + digits.length + (if ((c :: cs).head? == some '-') = true then 0 else 1) = 4 ∧
        rest.head? = some '-') ↔
      (c ≠ '-' ∧ (c :: digits).length = 4) ∧ rest.head? = some '-' := by
    by_cases hc : c = '-' <;> simp [hc]
  rw [if_congr hdate rfl rfl]
  split
  · next rest =>
    by_cases hyear : c ≠ '-' ∧ (c :: digits).length = 4
    · rw [if_pos hyear, if_pos ⟨hyear, rfl⟩]
      exact agrees_date h'
    · rw [if_neg hyear, if_neg fun h => hyear h.1]
      exact agrees_bind (fraction_of_ne h' (by simp)) (agrees_endNumber h')
  · next rest =>
    rw [if_neg (by simp)]
    obtain ⟨t'', hend, ht⟩ := exists_fraction (width before) h'
    split
    · next hnil =>
      rw [if_pos hnil] at ht
      exact .rejected (bind_of_rejected ht) ⟨_, rfl, ⟨_, _, hend⟩, rfl⟩
    · next hne =>
      rw [if_neg hne] at ht
      rw [List.append_assoc] at hend
      exact agrees_bind ht (agrees_endNumber hend)
  · next hminus hdot =>
    have hhead (d : Char) (hd : ∀ cs, rest = d :: cs → False) : rest.head? ≠ some d := by
      cases rest with
      | nil => simp
      | cons e es =>
        rintro ⟨⟩
        exact hd es rfl
    rw [if_neg fun h => hhead '-' hminus h.2]
    exact agrees_bind (fraction_of_ne h' (hhead '.' hdot)) (agrees_endNumber h')

theorem content_eq {quote : Char} {done after : List Char} (copy : Option String)
    (h : input.toList = before ++ quote :: done ++ after) (t : Tape Nat) :
    content copy (width before + quote.utf8Size) (width (before ++ quote :: done)) input t =
      some (.ok (copy.getD (String.ofList done)), t) := by
  cases copy with
  | some s => rfl
  | none =>
    have hslice : slice (width (before ++ [quote])) (width (before ++ [quote]) + width done)
        input t = some (.ok done, t) := slice_eq (by simpa using h) t
    have hstart : width (before ++ [quote]) = width before + quote.utf8Size := width_append _ _
    have hstop : width (before ++ quote :: done) = width (before ++ [quote]) + width done := by
      rw [← width_append, List.append_assoc]
      rfl
    rw [← hstart, hstop]
    exact bind_of_returned hslice

/-- In a text, `done` of whose content is passed. What remains is scanned to the same end. -/
structure InText (input : String) (before : List Char) (quote : Char) (cs : List Char)
    (copy : Option String) (done rest : List Char) (t : Tape Nat) : Prop where
  eq_append : cs = done ++ rest
  place : At input (before ++ quote :: done) rest t
  scan_eq : sliceBody quote cs done.length (width (quote :: done)) copy rest = scanText quote cs

namespace InText

variable {quote e : Char} {copy : Option String} {done : List Char}

theorem plain (h : InText input before quote cs copy done (c :: rest) t) (hq : c ≠ quote)
    (hb : c ≠ '\\') :
    InText input before quote cs (copy.map fun s => s.push c) (done ++ [c]) rest
      (t.move (· + c.utf8Size)) := by
  have hat := h.place.bump
  have hscan := h.scan_eq
  have hwidth : width (quote :: (done ++ [c])) = width (quote :: done) + c.utf8Size :=
    width_append (quote :: done) [c]
  rw [List.append_assoc] at hat
  refine ⟨by rw [h.eq_append, List.append_cons], hat, ?_⟩
  rw [sliceBody, if_neg hq, if_neg hb] at hscan
  · rw [hwidth, List.length_append]
    exact hscan
  · exact fun _ _ hc => absurd hc hb

theorem escape (h : InText input before quote cs copy done ('\\' :: e :: rest) t)
    (he : isEscapable e) :
    InText input before quote cs (some ((copy.getD (String.ofList done)).push e))
      (done ++ ['\\', e]) rest ((t.move (· + Char.utf8Size '\\')).move (· + e.utf8Size)) := by
  have hat := h.place.bump.bump
  have hscan := h.scan_eq
  have hpair : width ['\\', e] = 2 := by
    simp only [width, utf8Size_of_isEscapable he]
    rfl
  have hwidth : width (quote :: (done ++ ['\\', e])) = width (quote :: done) + 2 := by
    rw [← List.cons_append, width_append, hpair]
  rw [List.append_assoc, List.append_assoc] at hat
  refine ⟨by rw [h.eq_append, List.append_assoc]; rfl, hat, ?_⟩
  rw [sliceBody, if_pos he, h.eq_append, List.take_left, ← h.eq_append] at hscan
  rw [hwidth, List.length_append]
  exact hscan

theorem scanText_quote (h : InText input before quote cs copy done (quote :: rest) t)
    (hquote : quote ≠ '\\') :
    scanText quote cs =
      .ok ⟨.text (copy.getD (String.ofList done)), quote :: done ++ [quote], rest⟩ := by
  have htake : cs.take (done.length + 1) = done ++ [quote] := by
    rw [h.eq_append, List.append_cons]
    exact List.take_left' List.length_append
  rw [← h.scan_eq, sliceBody, if_pos rfl, htake, h.eq_append, List.take_left]
  · rfl
  · exact fun _ _ hc => absurd hc hquote

theorem scanText_badEscape (h : InText input before quote cs copy done ('\\' :: rest) t)
    (hquote : quote ≠ '\\') (he : ∀ e ∈ rest.head?, ¬ isEscapable e) :
    scanText quote cs = .error ⟨width (quote :: done), .badEscape⟩ := by
  rw [← h.scan_eq]
  cases rest with
  | nil =>
    rw [sliceBody, if_neg hquote.symm, if_pos rfl]
    simp
  | cons e es => rw [sliceBody, if_neg (he e rfl)]

end InText

theorem agrees_text {quote : Char} (hquote : quote ≠ '\\')
    (h : At input (before ++ [quote]) cs t) :
    Agrees input before (scanText quote cs)
      (text (width before) quote (width before + quote.utf8Size) none) t := by
  refine meets_loop
    (fun copy t' => ∃ done rest, InText input before quote cs copy done rest t') ?_
    ⟨[], cs, rfl, h, rfl⟩
  rintro copy t₁ ⟨done, rest, h⟩
  have hhere : width (before ++ quote :: done) = width before + width (quote :: done) :=
    width_append _ _
  have hcontent := content_eq copy h.place.toList_eq
  refine meets_bind_of_returned h.place.place ?_
  cases rest with
  | nil =>
    rw [← h.scan_eq]
    exact meets_bind_of_returned h.place.bump_nil (meets_fail 0 _ h.place)
  | cons c ds =>
    have hc := h.place.bump
    have hless := h.place.bytesLeft_bump
    refine meets_bind_of_returned h.place.bump_cons ?_
    dsimp only
    split
    · next he =>
      subst he
      rw [List.append_assoc] at hc
      rw [h.scanText_quote hquote]
      refine meets_bind_of_returned (hcontent _) ?_
      exact (agrees_token _ hc).bind fun k t' hk => meets_pure hk
    · next hne =>
      split
      · next he =>
        subst he
        cases ds with
        | nil =>
          rw [h.scanText_badEscape hquote (by simp), hhere]
          exact meets_bind_of_returned hc.bump_nil (meets_fail _ _ hc)
        | cons e es =>
          refine meets_bind_of_returned hc.bump_cons ?_
          dsimp only
          split
          · next he =>
            refine meets_bind_of_returned (hcontent _) (meets_pure ⟨⟨_, es, h.escape he⟩, ?_⟩)
            exact Nat.lt_trans hc.bytesLeft_bump hless
          · next he =>
            rw [h.scanText_badEscape hquote (by simpa using he), hhere]
            exact meets_fail _ _ hc.bump
      · next hb => exact meets_pure ⟨⟨_, ds, h.plain hne hb⟩, hless⟩

theorem agrees_equals (h : At input (before ++ ['=']) cs t) (hne : ∀ ds, cs ≠ '=' :: ds) :
    Agrees input before (scanEquals cs)
      (do if (← peek).any isAsciiLetter then namedOperator (width before)
          else Cursor.fail (width before) .loneEquals) t := by
  refine agrees_bind h.peek ?_
  cases cs with
  | nil => exact agrees_fail _ h
  | cons c ds =>
    cases hc : isAsciiLetter c with
    | true =>
      rw [List.head?_cons, Option.any_some, if_pos hc]
      exact agrees_namedOperator h hc
    | false =>
      have hscan : scanEquals (c :: ds) = Lexeme.fail .loneEquals := by
        rw [scanEquals, List.takeWhile_cons_of_neg (by simp [hc])]
        exact hne
      rw [List.head?_cons, Option.any_some, if_neg (by simp [hc]), hscan]
      exact agrees_fail _ h

theorem agrees_other (h : At input (before ++ [c]) cs t) :
    Agrees input before
      (if c = '"' ∨ c = '\'' then scanText c cs
        else if c.isDigit ∨ c = '-' ∧ cs.head?.any Char.isDigit then scanNumber c cs
        else if isNameStart c then .ok (scanWord c cs)
        else Lexeme.fail (.strayCharacter c))
      (do
        if c = '"' ∨ c = '\'' then text (width before) c (← place) none
        else
          let next ← peek
          if c.isDigit ∨ c = '-' ∧ next.any Char.isDigit then number (width before)
          else if isNameStart c then word (width before)
          else Cursor.fail (width before) (.strayCharacter c)) t := by
  split
  · next hq =>
    have hplace : width (before ++ [c]) = width before + c.utf8Size := width_append _ _
    refine agrees_bind h.place ?_
    rw [hplace]
    exact agrees_text (ne_backslash hq) h
  · refine agrees_bind h.peek ?_
    split
    · exact agrees_number h
    · split
      · exact agrees_word h
      · exact agrees_fail _ h

theorem agrees_tokenFrom (h : At input (before ++ [c]) cs t) :
    Agrees input before (scan c cs) (tokenFrom (width before) c) t := by
  rw [tokenFrom.eq_def]
  split
  · exact agrees_token .openParen h
  · exact agrees_token .closeParen h
  · exact agrees_token .comma h
  · refine agrees_beforeEquals h (fun ds hds => ?_) fun hne => ?_
    · subst hds
      rfl
    · exact agrees_equals h hne
  · refine agrees_beforeEquals h (fun ds hds => ?_) fun hne => ?_
    · subst hds
      rfl
    · rw [scan]
      · exact agrees_fail _ h
      · exact hne
  · refine agrees_beforeEquals h (fun ds hds => ?_) fun hne => ?_
    · subst hds
      rfl
    · rw [scan]
      · exact agrees_token _ h
      · exact hne
  · refine agrees_beforeEquals h (fun ds hds => ?_) fun hne => ?_
    · subst hds
      rfl
    · rw [scan]
      · exact agrees_token _ h
      · exact hne
  · rw [scan_of_not_mem]
    · exact agrees_other h
    · next h₁ h₂ h₃ h₄ h₅ h₆ h₇ => simpa using ⟨h₁, h₂, h₃, h₄, h₅, h₆, h₇⟩

end

theorem bind_of_place {α : Type} {g : Nat → Reader α} (h : At input before rest t) :
    (place >>= g) input t = g (width before) input t :=
  Reading.bind_of_returned h.place

/-- The cursor answers as the lexer does, and goes on to the same place. -/
theorem exists_next {l : Lexer} (h : At input before l.rest t) (hl : l.position = width before) :
    ∃ before' t', next input t = some (l.next.1, t') ∧ At input before' l.next.2.rest t' ∧
      l.next.2.position = width before' := by
  obtain ⟨t₁, ht, h₁⟩ := h.exists_bumpWhile isBlank 0
  have hskip : l.skipBlanks =
      ⟨width (before ++ l.rest.takeWhile isBlank), l.rest.dropWhile isBlank⟩ := by
    rw [Lexer.skipBlanks, hl, width_append]
  have hstep : nextToken input t = (do
      match ← bump with
      | some c => return some (← tokenFrom (width (before ++ l.rest.takeWhile isBlank)) c)
      | none => return none : Reader (Option Token)) input t₁ := by
    rw [nextToken, Reading.bind_of_returned ht, bind_of_place h₁]
  generalize before ++ l.rest.takeWhile isBlank = start at h₁ hskip hstep
  cases hr : l.rest.dropWhile isBlank with
  | nil =>
    rw [hr] at h₁ hskip
    have hnext : l.next = (none, ⟨width start, []⟩) := by rw [Lexer.next, hskip]
    rw [hnext]
    refine ⟨start, t₁, ?_, h₁, rfl⟩
    rw [next, hstep, Reading.bind_of_returned h₁.bump_nil]
    rfl
  | cons c cs =>
    rw [hr] at h₁ hskip
    rw [next, hstep, Reading.bind_of_returned h₁.bump_cons]
    dsimp only
    cases agrees_tokenFrom h₁.bump with
    | returned hx hk =>
      obtain ⟨x, hscan, h₂, rfl⟩ := hk
      have hnext : l.next = (some (.ok ⟨x.kind, ⟨width start, width start + width x.spelling⟩⟩),
          ⟨width start + width x.spelling, x.rest⟩) := by
        simp only [Lexer.next, hskip, hscan]
      rw [hnext, Reading.bind_of_returned hx]
      exact ⟨_, _, rfl, h₂, (width_append _ _).symm⟩
    | rejected hx he =>
      obtain ⟨flaw, hscan, ⟨_, _, h₂⟩, rfl⟩ := he
      have hnext : l.next = (some (.error ⟨width start + flaw.offset, flaw.fault⟩), l.atEnd) := by
        simp only [Lexer.next, hskip, hscan]
      have hend : l.atEnd.position = width input.toList := by
        rw [Lexer.atEnd, hl, ← width_append, ← h.toList_eq]
      rw [hnext, Reading.bind_of_rejected hx]
      exact ⟨_, _, rfl, h₂.toEnd, hend⟩

end Cursor

end FilterQuery.Query
