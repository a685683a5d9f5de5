import FilterQuery.Json.Token
import FilterQuery.Proofs.Decimal.Text
import FilterQuery.Proofs.Text.Classes

namespace FilterQuery.Json

open FilterQuery.Text FilterQuery.Decimal

def IsCode (n : Nat) (ds : List Char) : Prop := ds.length = 4 ∧ valueInBase? 16 ds = some n

/-- The texts of a character between quotes: the character, a letter after a backslash, or its code.
The code of a character beyond 16 bits is that of its two halves. -/
inductive CharText : Char → List Char → Prop
  | plain {c : Char} (hq : c ≠ '"') (hb : c ≠ '\\') (hc : 32 ≤ c.toNat) : CharText c [c]
  | letter {c letter : Char} (h : Token.unescape? letter = some c) : CharText c ['\\', letter]
  | code {c : Char} {ds : List Char} (h : IsCode c.toNat ds) : CharText c ('\\' :: 'u' :: ds)
  | pair {c : Char} {high low : Nat} {hs ls : List Char} (hh : high < 0x400) (hl : low < 0x400)
      (hc : c.toNat = 0x10000 + high * 0x400 + low) (hhs : IsCode (0xD800 + high) hs)
      (hls : IsCode (0xDC00 + low) ls) : CharText c ('\\' :: 'u' :: hs ++ '\\' :: 'u' :: ls)

inductive StringText : List Char → List Char → Prop
  | nil : StringText [] []
  | cons {c : Char} {cs text texts : List Char} (hc : CharText c text) (h : StringText cs texts) :
      StringText (c :: cs) (text ++ texts)

def IsWhole (ds : List Char) : Prop := ds = ['0'] ∨ isDigits ds = true ∧ ds.head? ≠ some '0'

inductive ExponentText : Option Int → List Char → Prop
  | none : ExponentText none []
  | some {letter : Char} {sign ds : List Char} (hl : letter = 'e' ∨ letter = 'E')
      (hs : sign = [] ∨ sign = ['+'] ∨ sign = ['-']) (hd : isDigits ds = true) :
      ExponentText (some (if sign = ['-'] then -(value ds : Int) else value ds))
        (letter :: (sign ++ ds))

inductive NumberText (n : Number) : List Char → Prop
  | intro {power : List Char} (hw : IsWhole n.whole) (hf : ∀ c ∈ n.fraction, c.isDigit = true)
      (he : ExponentText n.exponent power) :
      NumberText n ((if n.negative then ['-'] else []) ++ (n.whole ++
        ((if n.fraction = [] then [] else '.' :: n.fraction) ++ power)))

inductive Spelling : Token → List Char → Prop
  | openArray : Spelling .openArray ['[']
  | closeArray : Spelling .closeArray [']']
  | openObject : Spelling .openObject ['\x7b']
  | closeObject : Spelling .closeObject ['\x7d']
  | comma : Spelling .comma [',']
  | colon : Spelling .colon [':']
  | null : Spelling (.atom .null) ['n', 'u', 'l', 'l']
  | true : Spelling (.atom (.bool true)) ['t', 'r', 'u', 'e']
  | false : Spelling (.atom (.bool false)) ['f', 'a', 'l', 's', 'e']
  | number {n : Number} {cs : List Char} (h : NumberText n cs) : Spelling (.atom (.number n)) cs
  | text {s : String} {cs : List Char} (h : StringText s.toList cs) :
      Spelling (.text (some s)) ('"' :: (cs ++ ['"']))

/-- The characters that go on with a number when they stand directly behind it. -/
def goesOn (c : Char) : Bool := c.isDigit || c == '.' || c == 'e' || c == 'E'

/-- What may stand directly behind a token for the token to end there. -/
def Apart : Token → List Char → Prop
  | .atom (.number _), rest => Stops goesOn rest
  | _, _ => True

section Strings

open Token

variable {c : Char} {n : Nat} {ds text cs rest : List Char}

theorem scanPieces_code (h : IsCode n ds) (rest : List Char) :
    scanPieces ('\\' :: 'u' :: ds ++ rest) =
      (scanPieces rest).map fun scanned => (.code n :: scanned.1, scanned.2) := by
  obtain ⟨hlength, hvalue⟩ := h
  match ds, hlength with
  | [a, b, c, d], _ =>
    simp only [List.cons_append, List.nil_append]
    rw [scanPieces, hvalue]
    cases scanPieces rest <;> rfl

theorem scanPieces_letter {letter : Char} (h : unescape? letter = some c) (rest : List Char) :
    scanPieces ('\\' :: letter :: rest) =
      (scanPieces rest).map fun scanned => (.char c :: scanned.1, scanned.2) := by
  have hu : letter ≠ 'u' := by
    rintro rfl
    cases h
  rw [scanPieces.eq_3 _ _ fun _ _ _ _ _ hl => (hu hl).elim, h]
  cases scanPieces rest <;> rfl

theorem scanPieces_plain (hq : c ≠ '"') (hb : c ≠ '\\') (hc : 32 ≤ c.toNat) (rest : List Char) :
    scanPieces (c :: rest) =
      (scanPieces rest).map fun scanned => (.char c :: scanned.1, scanned.2) := by
  have hplain : ¬ (c = '\\' ∨ c.toNat < 32) := not_or.mpr ⟨hb, Nat.not_lt.mpr hc⟩
  rw [scanPieces.eq_4 _ _ hq (fun _ _ _ _ _ h => (hb h).elim) (fun _ _ h => (hb h).elim),
    if_neg hplain]
  cases scanPieces rest <;> rfl

theorem not_surrogate (c : Char) :
    isHighSurrogate c.toNat = false ∧ isLowSurrogate c.toNat = false := by
  have hvalid : c.toNat < 0xD800 ∨ 0xDFFF < c.toNat ∧ c.toNat < 0x110000 := c.valid
  simp only [isHighSurrogate, isLowSurrogate, Bool.and_eq_false_iff, decide_eq_false_iff_not]
  omega

theorem assemble_code (c : Char) (pieces : List Piece) :
    assemble (.code c.toNat :: pieces) = (assemble pieces).map (c :: ·) := by
  obtain ⟨hhigh, hlow⟩ := not_surrogate c
  match pieces with
  | .code low :: pieces => simp [assemble, hhigh, hlow]
  | [] | .char d :: pieces => simp [assemble, hhigh, hlow]

theorem assemble_pair {high low : Nat} (hh : high < 0x400) (hl : low < 0x400)
    (hc : c.toNat = 0x10000 + high * 0x400 + low) (pieces : List Piece) :
    assemble (.code (0xD800 + high) :: .code (0xDC00 + low) :: pieces) =
      (assemble pieces).map (c :: ·) := by
  have htest : (isHighSurrogate (0xD800 + high) && isLowSurrogate (0xDC00 + low)) = true := by
    simp only [isHighSurrogate, isLowSurrogate, Bool.and_eq_true, decide_eq_true_eq]
    omega
  have hcode : 0x10000 + (0xD800 + high - 0xD800) * 0x400 + (0xDC00 + low - 0xDC00) = c.toNat := by
    omega
  rw [assemble, if_pos htest, hcode, Char.ofNat_toNat]

theorem exists_pieces_of_charText (h : CharText c text) :
    ∃ pieces, (∀ more, assemble (pieces ++ more) = (assemble more).map (c :: ·)) ∧
      ∀ rest, scanPieces (text ++ rest) =
        (scanPieces rest).map fun scanned => (pieces ++ scanned.1, scanned.2) := by
  cases h with
  | plain hq hb hc => exact ⟨[.char c], fun _ => rfl, scanPieces_plain hq hb hc⟩
  | letter h => exact ⟨[.char c], fun _ => rfl, scanPieces_letter h⟩
  | code h => exact ⟨[.code c.toNat], assemble_code c, scanPieces_code h⟩
  | @pair high low _ _ hh hl hc hhs hls =>
    refine ⟨[.code (0xD800 + high), .code (0xDC00 + low)], assemble_pair hh hl hc, fun rest => ?_⟩
    rw [List.append_assoc, scanPieces_code hhs, scanPieces_code hls, Option.map_map]
    rfl

theorem exists_pieces_of_stringText (h : StringText cs text) :
    ∃ pieces, assemble pieces = some cs ∧
      ∀ rest, scanPieces (text ++ '"' :: rest) = some (pieces, rest) := by
  induction h with
  | nil => exact ⟨[], rfl, fun _ => rfl⟩
  | cons hc _ ih =>
    obtain ⟨pieces, hassemble, hscan⟩ := exists_pieces_of_charText hc
    obtain ⟨more, hmore, hrest⟩ := ih
    refine ⟨pieces ++ more, by rw [hassemble, hmore]; rfl, fun rest => ?_⟩
    rw [List.append_assoc, hscan, hrest]
    rfl

end Strings

section Numbers

open Token

variable {whole fraction power rest : List Char} {exponent : Option Int}

theorem scanWhole_append (h : IsWhole whole) (hs : Stops Char.isDigit rest) :
    scanWhole (whole ++ rest) = some (whole, rest) := by
  obtain rfl | ⟨hd, hzero⟩ := h
  · rfl
  · obtain ⟨hne, hall⟩ := isDigits_iff.mp hd
    obtain ⟨d, ds, rfl⟩ := List.exists_cons_of_ne_nil hne
    obtain ⟨hfirst, hds⟩ := List.forall_mem_cons.mp hall
    rw [List.cons_append, scanWhole, if_pos hfirst, takeWhile_run hds hs, dropWhile_run hds hs]
    rintro rfl
    exact hzero rfl

theorem exists_cons_of_isWhole (h : IsWhole whole) :
    ∃ d ds, whole = d :: ds ∧ d.isDigit = true := by
  obtain rfl | ⟨hd, -⟩ := h
  · exact ⟨'0', [], rfl, by decide⟩
  · obtain ⟨hne, hall⟩ := isDigits_iff.mp hd
    obtain ⟨d, ds, rfl⟩ := List.exists_cons_of_ne_nil hne
    exact ⟨d, ds, rfl, hall d List.mem_cons_self⟩

theorem scanFraction_append (h : ∀ c ∈ fraction, c.isDigit = true)
    (hs : Stops (fun c => c.isDigit || c == '.') rest) :
    scanFraction ((if fraction = [] then [] else '.' :: fraction) ++ rest) =
      some (fraction, rest) := by
  split
  · next hempty =>
    subst hempty
    rw [List.nil_append, scanFraction]
    rintro cs rfl
    exact absurd (hs '.' rfl) (by decide)
  · next hne =>
    have hdigit : Stops Char.isDigit rest := hs.mono fun c hc => by simp [hc]
    rw [List.cons_append, scanFraction, takeWhile_run h hdigit, dropWhile_run h hdigit]
    cases fraction with
    | nil => exact absurd rfl hne
    | cons d ds => rfl

theorem splitSign_append {sign ds : List Char} (hs : sign = [] ∨ sign = ['+'] ∨ sign = ['-'])
    (hd : Stops (fun c => c == '+' || c == '-') ds) :
    Binary64.splitSign (sign ++ ds) = (decide (sign = ['-']), ds) := by
  obtain rfl | rfl | rfl := hs
  · rw [List.nil_append, Binary64.splitSign]
    · rfl
    · rintro cs rfl
      exact absurd (hd '-' rfl) (by decide)
    · rintro cs rfl
      exact absurd (hd '+' rfl) (by decide)
  · rfl
  · rfl

theorem scanExponent_append (h : ExponentText exponent power) (hs : Stops goesOn rest) :
    scanExponent (power ++ rest) = some (exponent, rest) := by
  cases h with
  | none =>
    cases rest with
    | nil => rfl
    | cons c rest =>
      have hc : ¬ (c = 'e' ∨ c = 'E') := by
        rintro (rfl | rfl) <;> exact absurd (hs _ rfl) (by decide)
      rw [List.nil_append, scanExponent, if_neg hc]
  | @some letter sign ds hl hsign hd =>
    obtain ⟨hne, hall⟩ := isDigits_iff.mp hd
    have hdigit : Stops Char.isDigit rest := hs.mono fun c hc => by simp [goesOn, hc]
    have hstart : Stops (fun c => c == '+' || c == '-') (ds ++ rest) := by
      obtain ⟨d, ds, rfl⟩ := List.exists_cons_of_ne_nil hne
      exact stops_cons (by simp [ne_of_test (hall d List.mem_cons_self)]) _
    rw [List.cons_append, scanExponent, if_pos hl, List.append_assoc,
      splitSign_append hsign hstart]
    dsimp only
    rw [takeWhile_run hall hdigit, dropWhile_run hall hdigit]
    cases ds with
    | nil => exact absurd rfl hne
    | cons d ds => simp

theorem stops_power (h : ExponentText exponent power) (hs : Stops goesOn rest) :
    Stops (fun c => c.isDigit || c == '.') (power ++ rest) := by
  cases h with
  | none => exact hs.mono fun c hc => by simp [goesOn, hc]
  | some hl =>
    refine stops_cons ?_ _
    obtain rfl | rfl := hl <;> rfl

theorem scanUnsigned_append {n : Number} (hw : IsWhole n.whole)
    (hf : ∀ c ∈ n.fraction, c.isDigit = true) (he : ExponentText n.exponent power)
    (hs : Stops goesOn rest) :
    scanUnsigned n.negative (n.whole ++
      ((if n.fraction = [] then [] else '.' :: n.fraction) ++ (power ++ rest))) =
      some (n, rest) := by
  have hpower := stops_power he hs
  have hpoint : Stops Char.isDigit
      ((if n.fraction = [] then [] else '.' :: n.fraction) ++ (power ++ rest)) := by
    split
    · exact hpower.mono fun c hc => by simp [hc]
    · exact stops_cons (by decide) _
  rw [scanUnsigned, scanWhole_append hw hpoint]
  simp only [Option.bind_eq_bind, Option.bind_some, scanFraction_append hf hpower,
    scanExponent_append he hs]
  rfl

end Numbers

section Tokens

variable {t : Token} {ts : List Token} {n : Number} {c : Char} {cs rest : List Char}

theorem scan_digit (hc : c.isDigit = true) (cs : List Char) :
    Token.scan (c :: cs) = (Token.scanUnsigned false (c :: cs)).map fun scanned =>
      (.atom (.number scanned.1), scanned.2) := by
  have hne {d : Char} {ds : List Char} (hd : d.isDigit = false) (h : c :: cs = d :: ds) : False :=
    ne_of_test hc d hd (List.cons.inj h).1
  rw [Token.scan]
  all_goals exact fun ds => hne (by decide)

theorem scan_of_numberText (h : NumberText n cs) (hs : Stops goesOn rest) :
    Token.scan (cs ++ rest) = some (.atom (.number n), rest) := by
  obtain ⟨hw, hf, he⟩ := h
  have hscan := scanUnsigned_append hw hf he hs
  simp only [List.append_assoc]
  cases hsign : n.negative with
  | true =>
    rw [hsign] at hscan
    rw [if_pos rfl, List.singleton_append, Token.scan, hscan]
    rfl
  | false =>
    obtain ⟨d, ds, hwhole, hd⟩ := exists_cons_of_isWhole hw
    rw [hsign, hwhole] at hscan
    rw [if_neg Bool.false_ne_true, List.nil_append, hwhole, List.cons_append, scan_digit hd]
    rw [List.cons_append] at hscan
    rw [hscan]
    rfl

theorem scan_of_spelling (h : Spelling t cs) (hs : Apart t rest) :
    Token.scan (cs ++ rest) = some (t, rest) := by
  cases h with
  | number h => exact scan_of_numberText h hs
  | text h =>
    obtain ⟨pieces, hassemble, hscan⟩ := exists_pieces_of_stringText h
    rw [List.cons_append, List.append_assoc, Token.scan, List.singleton_append, hscan]
    simp [hassemble]
  | _ => rfl

end Tokens

end FilterQuery.Json
