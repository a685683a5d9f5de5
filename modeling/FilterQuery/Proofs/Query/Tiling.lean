import FilterQuery.Proofs.Query.Forms
import FilterQuery.Proofs.Query.Layout
import Mathlib.Data.String.Basic

namespace FilterQuery.Query

open FilterQuery.Text

theorem width_eq_utf8Len (cs : List Char) : width cs = String.utf8Len cs := by
  rw [width_eq_utf8ByteSize, String.utf8ByteSize_ofList]

def Span.text (s : Span) (query : String) : String :=
  String.Pos.Raw.extract query ⟨s.start⟩ ⟨s.stop⟩

def Span.Covers (s : Span) (query : String) (cs : List Char) : Prop :=
  ∃ before after, query.toList = before ++ cs ++ after ∧
    s = ⟨width before, width before + width cs⟩

theorem isValid_of_append {query : String} {before after : List Char}
    (h : query.toList = before ++ after) : String.Pos.Raw.IsValid query ⟨width before⟩ := by
  refine String.Pos.Raw.isValid_iff_exists_append.mpr
    ⟨String.ofList before, String.ofList after, ?_, ?_⟩
  · rw [← String.ofList_append, ← h, String.ofList_toList]
  · rw [width_eq_utf8ByteSize]
    rfl

namespace Span.Covers

variable {s : Span} {query : String} {cs : List Char}

theorem text_eq (h : s.Covers query cs) : s.text query = String.ofList cs := by
  obtain ⟨before, after, hq, rfl⟩ := h
  rw [Span.text, ← String.ofList_toList (s := query), hq, width_eq_utf8Len, width_eq_utf8Len]
  exact String.extract_of_valid before cs after

theorem toList_text (h : s.Covers query cs) : (s.text query).toList = cs := by
  rw [h.text_eq, String.toList_ofList]

theorem isValid (h : s.Covers query cs) :
    String.Pos.Raw.IsValid query ⟨s.start⟩ ∧ String.Pos.Raw.IsValid query ⟨s.stop⟩ := by
  obtain ⟨before, after, hq, rfl⟩ := h
  refine ⟨isValid_of_append (by rw [hq, List.append_assoc]), ?_⟩
  have hstop := isValid_of_append hq
  rwa [width_append] at hstop

end Span.Covers

/-- The ranges before, between and behind the spans, from `start` to `stop`. -/
def gaps (start stop : Nat) : List Span → List Span
  | [] => [⟨start, stop⟩]
  | s :: spans => ⟨start, s.start⟩ :: gaps s.stop stop spans

/-- The tokens stand one behind the other in the query, each between two characters and at one of its
spellings, and all else in the query is blank. -/
structure Tiled (query : String) (ts : List Token) : Prop where
  nonempty : ∀ t ∈ ts, t.span.start < t.span.stop
  ordered : ts.Pairwise fun t u => t.span.stop ≤ u.span.start
  boundaries : ∀ t ∈ ts, String.Pos.Raw.IsValid query ⟨t.span.start⟩ ∧
    String.Pos.Raw.IsValid query ⟨t.span.stop⟩
  spelled : ∀ t ∈ ts, t.kind.IsSpelling (t.span.text query).toList
  blank : ∀ s ∈ gaps 0 query.utf8ByteSize (ts.map Token.span),
    ∀ c ∈ (s.text query).toList, isBlank c = true

namespace Layout

variable {position : Nat} {cs : List Char} {ts : List Token}

theorem start_lt_stop (h : Layout position cs ts) : ∀ t ∈ ts, t.span.start < t.span.stop := by
  induction h with
  | blanks => simp
  | token _ hk _ _ ih =>
    obtain ⟨c, ds, rfl, -⟩ := hk.exists_cons
    refine List.forall_mem_cons.mpr ⟨?_, ih⟩
    have hc := c.utf8Size_pos
    simp only [width]
    omega

theorem le_start (h : Layout position cs ts) : ∀ t ∈ ts, position ≤ t.span.start := by
  induction h with
  | blanks => simp
  | token _ _ _ _ ih =>
    refine List.forall_mem_cons.mpr ⟨Nat.le_add_right _ _, fun t ht => ?_⟩
    have hle := ih t ht
    omega

theorem pairwise_stop_le_start (h : Layout position cs ts) :
    ts.Pairwise fun t u => t.span.stop ≤ u.span.start := by
  induction h with
  | blanks => exact .nil
  | token _ _ _ h ih => exact .cons h.le_start ih

theorem covers (h : Layout position cs ts) {query : String} (before : List Char)
    (hq : query.toList = before ++ cs) (hp : position = width before) :
    ∀ t ∈ ts, ∃ ds, t.span.Covers query ds ∧ Spelling t.kind ds := by
  induction h generalizing before with
  | blanks => simp
  | @token position gap ds rest k ts _ hk _ _ ih =>
    subst hp
    refine List.forall_mem_cons.mpr ⟨⟨ds, ⟨before ++ gap, rest, ?_, ?_⟩, hk⟩, ?_⟩
    · simp [hq]
    · rw [width_append]
    · exact ih (before ++ gap ++ ds) (by simp [hq]) (by simp [Nat.add_assoc])

theorem covers_gaps (h : Layout position cs ts) {query : String} (before after : List Char)
    (hq : query.toList = before ++ cs ++ after) (hp : position = width before) :
    ∀ s ∈ gaps position (position + width cs) (ts.map Token.span),
      ∃ ds, s.Covers query ds ∧ ∀ c ∈ ds, isBlank c = true := by
  induction h generalizing before with
  | @blanks position gap hg =>
    exact List.forall_mem_singleton.mpr ⟨gap, ⟨before, after, hq, by rw [hp]⟩, hg⟩
  | @token position gap ds rest k ts hg _ _ _ ih =>
    subst hp
    have hrest := ih (before ++ gap ++ ds) (by simp [hq]) (by simp [Nat.add_assoc])
    have hstop : width before + width gap + width ds + width rest =
        width before + width (gap ++ ds ++ rest) := by simp [Nat.add_assoc]
    rw [hstop] at hrest
    exact List.forall_mem_cons.mpr
      ⟨⟨gap, ⟨before, ds ++ rest ++ after, by simp [hq], rfl⟩, hg⟩, hrest⟩

theorem blank_gaps (h : Layout position cs ts) {query : String} (before after : List Char)
    (hq : query.toList = before ++ cs ++ after) (hp : position = width before) :
    ∀ s ∈ gaps position (position + width cs) (ts.map Token.span),
      ∀ c ∈ (s.text query).toList, isBlank c = true := by
  intro s hs
  obtain ⟨ds, hc, hb⟩ := h.covers_gaps before after hq hp s hs
  rwa [hc.toList_text]

end Layout

/-- Each token of a query stands at one of its spellings, and nothing but blanks is passed over. -/
theorem tiled_of_tokenize {query : String} {ts : List Token} (h : tokenize query = .ok ts) :
    Tiled query ts := by
  have hl : Layout 0 query.toList ts := tokenize_eq_ok_iff_layout.mp h
  have hcovers := hl.covers [] rfl rfl
  have hblank := hl.blank_gaps [] [] (List.append_nil query.toList).symm rfl
  rw [Nat.zero_add, width_toList] at hblank
  refine ⟨hl.start_lt_stop, hl.pairwise_stop_le_start, ?_, ?_, hblank⟩
  · intro t ht
    obtain ⟨cs, hc, -⟩ := hcovers t ht
    exact hc.isValid
  · intro t ht
    obtain ⟨cs, hc, hk⟩ := hcovers t ht
    rw [hc.toList_text]
    exact spelling_iff.mp hk

theorem tiled_of_tokenize_mixed :
    let query := "größe=IN=('x\\'',2024)\u3000AND b<2024-01-31 "
    let ts : List Token := [⟨.name "größe", ⟨0, 7⟩⟩, ⟨.operator .isIn, ⟨7, 11⟩⟩,
      ⟨.openParen, ⟨11, 12⟩⟩, ⟨.text "x'", ⟨12, 17⟩⟩, ⟨.comma, ⟨17, 18⟩⟩,
      ⟨.number "2024", ⟨18, 22⟩⟩, ⟨.closeParen, ⟨22, 23⟩⟩, ⟨.and, ⟨26, 29⟩⟩,
      ⟨.name "b", ⟨30, 31⟩⟩, ⟨.operator .lt, ⟨31, 32⟩⟩, ⟨.date "2024-01-31", ⟨32, 42⟩⟩]
    tokenize query = .ok ts ∧ Tiled query ts := by
  intro query ts
  have h : tokenize query = .ok ts := by decide +kernel
  exact ⟨h, tiled_of_tokenize h⟩

structure Piece where
  gap : String
  kind : Token.Kind
  spelling : String

namespace Piece

def write : List Piece → String
  | [] => ""
  | p :: ps => p.gap ++ p.spelling ++ write ps

/-- The tokens of the pieces, each at the bytes of its spelling. -/
def tokens (position : Nat) : List Piece → List Token
  | [] => []
  | p :: ps =>
    let start := position + p.gap.utf8ByteSize
    let stop := start + p.spelling.utf8ByteSize
    ⟨p.kind, ⟨start, stop⟩⟩ :: tokens stop ps

theorem stops_blanks {gap : List Char} (hg : ∀ c ∈ gap, isBlank c = true) :
    Stops touchesToken gap := by
  cases gap with
  | nil => rintro c ⟨⟩
  | cons c gap => exact stops_touchesToken_of_isBlank (hg c List.mem_cons_self) gap

variable {ps : List Piece} {trail : String}

theorem stops_write (hg : ∀ p ∈ ps, p.gap ≠ "" ∧ ∀ c ∈ p.gap.toList, isBlank c = true)
    (ht : ∀ c ∈ trail.toList, isBlank c = true) :
    Stops touchesToken (write ps ++ trail).toList := by
  cases ps with
  | nil => simpa [write] using stops_blanks ht
  | cons p ps =>
    obtain ⟨hne, hb⟩ := hg p List.mem_cons_self
    obtain ⟨c, gap, hc⟩ : ∃ c gap, p.gap.toList = c :: gap :=
      List.exists_cons_of_ne_nil (by simpa using hne)
    have hblank : isBlank c = true := hb c (by simp [hc])
    simpa [write, hc] using stops_touchesToken_of_isBlank hblank _

theorem layout_write (hk : ∀ p ∈ ps, p.kind.IsSpelling p.spelling.toList)
    (hg : ∀ p ∈ ps, ∀ c ∈ p.gap.toList, isBlank c = true) (hs : ∀ p ∈ ps.tail, p.gap ≠ "")
    (ht : ∀ c ∈ trail.toList, isBlank c = true) (position : Nat) :
    Layout position (write ps ++ trail).toList (tokens position ps) := by
  induction ps generalizing position with
  | nil => simpa [write, tokens] using Layout.blanks ht
  | cons p ps ih =>
    obtain ⟨hkp, hk⟩ := List.forall_mem_cons.mp hk
    obtain ⟨hgp, hg⟩ := List.forall_mem_cons.mp hg
    have hstops : Stops touchesToken (write ps ++ trail).toList :=
      stops_write (fun q hq => ⟨hs q hq, hg q hq⟩) ht
    have hrest := ih hk hg (fun q hq => hs q (List.mem_of_mem_tail hq))
      (position + p.gap.utf8ByteSize + p.spelling.utf8ByteSize)
    rw [← width_toList, ← width_toList] at hrest
    have h := Layout.token hgp (spelling_iff.mpr hkp)
      (hstops.mono fun _ => touchesToken_of_goesOn) hrest
    simpa [write, tokens, width_toList] using h

end Piece

/-- Whatever spelling is taken of each token, and whatever blanks between any two and around them,
the text is read as those tokens, each at its spelling. -/
theorem tokenize_write {ps : List Piece} {trail : String}
    (hk : ∀ p ∈ ps, p.kind.IsSpelling p.spelling.toList)
    (hg : ∀ p ∈ ps, ∀ c ∈ p.gap.toList, isBlank c = true) (hs : ∀ p ∈ ps.tail, p.gap ≠ "")
    (ht : ∀ c ∈ trail.toList, isBlank c = true) :
    tokenize (Piece.write ps ++ trail) = .ok (Piece.tokens 0 ps) :=
  tokenize_eq_ok_iff_layout.mpr (Piece.layout_write hk hg hs ht 0)

theorem tokenize_write_quotes :
    let ps : List Piece := [⟨"", .operator .ge, "=Ge="⟩, ⟨"\u2003\t", .text "'\"'", "'\\'\"\\''"⟩,
      ⟨"\n", .or, "oR"⟩]
    (∀ p ∈ ps, p.kind.IsSpelling p.spelling.toList) ∧
      (∀ p ∈ ps, ∀ c ∈ p.gap.toList, isBlank c = true) ∧ (∀ p ∈ ps.tail, p.gap ≠ "") ∧
      (∀ c ∈ "\u00a0".toList, isBlank c = true) ∧
      tokenize (Piece.write ps ++ "\u00a0") =
        .ok [⟨.operator .ge, ⟨0, 4⟩⟩, ⟨.text "'\"'", ⟨8, 15⟩⟩, ⟨.or, ⟨16, 18⟩⟩] := by
  intro ps
  have hbody : Unescapes '\'' ['\\', '\'', '"', '\\', '\''] ['\'', '"', '\''] :=
    .escaped (.inr (.inl rfl)) (.plain (by decide) (by decide) (.escaped (.inr (.inl rfl)) .nil))
  have hk : ∀ p ∈ ps, p.kind.IsSpelling p.spelling.toList := by
    simp only [ps, List.forall_mem_cons]
    exact ⟨.inr rfl, ⟨'\'', _, .inr rfl, rfl, hbody⟩, rfl, List.forall_mem_nil _⟩
  have hg : ∀ p ∈ ps, ∀ c ∈ p.gap.toList, isBlank c = true := by
    simp [ps, isBlank, blankBounds, within]
  have hs : ∀ p ∈ ps.tail, p.gap ≠ "" := by simp [ps]
  have ht : ∀ c ∈ "\u00a0".toList, isBlank c = true := by simp [isBlank, blankBounds, within]
  exact ⟨hk, hg, hs, ht, tokenize_write hk hg hs ht⟩

end FilterQuery.Query
