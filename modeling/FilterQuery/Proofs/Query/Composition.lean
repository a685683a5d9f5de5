import Mathlib.Control.Monad.Basic
import FilterQuery.Proofs.Query.Layout

namespace FilterQuery.Query

open FilterQuery.Text

def Token.shift (n : Nat) (t : Token) : Token :=
  ⟨t.kind, ⟨t.span.start + n, t.span.stop + n⟩⟩

def LexError.shift (n : Nat) (e : LexError) : LexError := ⟨e.position + n, e.fault⟩

def shiftStep (n : Nat) : Except LexError Token → Except LexError Token
  | .ok t => .ok (t.shift n)
  | .error e => .error (e.shift n)

@[simp]
theorem isOk_shiftStep (n : Nat) (step : Except LexError Token) :
    (shiftStep n step).isOk = step.isOk := by
  cases step <;> rfl

theorem map_kind_shift (n : Nat) (ts : List Token) :
    (ts.map (Token.shift n)).map Token.kind = ts.map Token.kind := by
  rw [List.map_map]
  rfl

namespace Lexer

def shift (n : Nat) (l : Lexer) : Lexer := ⟨l.position + n, l.rest⟩

theorem skipBlanks_shift (n : Nat) (l : Lexer) : (l.shift n).skipBlanks = l.skipBlanks.shift n := by
  simp only [skipBlanks, shift, Nat.add_right_comm]

theorem next_shift (n : Nat) (l : Lexer) :
    (l.shift n).next = (l.next.1.map (shiftStep n), l.next.2.shift n) := by
  rw [next, next, skipBlanks_shift]
  cases hs : l.skipBlanks with
  | mk start rest =>
    cases rest with
    | nil => rfl
    | cons c cs =>
      simp only [shift]
      cases hx : Lexeme.scan c cs with
      | ok x => simp [shiftStep, Token.shift, Nat.add_right_comm]
      | error flaw => simp [shiftStep, LexError.shift, atEnd, Nat.add_right_comm]

theorem steps_shift (n : Nat) (l : Lexer) : (l.shift n).steps = l.steps.map (shiftStep n) := by
  induction l using drain.induct with
  | case1 l l' h =>
    have hn : (l.shift n).next = (none, l'.shift n) := by rw [next_shift, h]; rfl
    rw [steps_of_next_none h, steps_of_next_none hn, List.map_nil]
  | case2 l step l' h _ _ _ ih =>
    have hn : (l.shift n).next = (some (shiftStep n step), l'.shift n) := by
      rw [next_shift, h]
      rfl
    rw [steps_of_next_some h, steps_of_next_some hn, ih, List.map_cons]

theorem steps_eq_map_shiftStep (position : Nat) (s : String) :
    steps ⟨position, s.toList⟩ = (ofString s).steps.map (shiftStep position) := by
  rw [← steps_shift, shift, ofString, Nat.zero_add]

end Lexer

/-- A text of whole tokens is read the same before whatever does not go on with its last token. -/
theorem Reads.tokens {a : String} {ts : List Token} {rest : List Char} {ks : List Token.Kind}
    (h : tokenize a = .ok ts) (hs : Stops touchesToken rest) (hr : Reads rest ks) :
    Reads (a.toList ++ rest) (ts.map Token.kind ++ ks) := by
  intro position
  have hsteps : Lexer.steps ⟨position, a.toList⟩ = (ts.map (Token.shift position)).map .ok := by
    rw [Lexer.steps_eq_map_shiftStep, tokenize_eq_ok_iff.mp h, List.map_map, List.map_map]
    rfl
  obtain ⟨us, hus, hks⟩ := hr (position + width a.toList)
  refine ⟨ts.map (Token.shift position) ++ us, ?_, ?_⟩
  · rw [(Lexer.layout_of_steps hsteps).steps_append hs, hus, List.map_append]
  · rw [List.map_append, map_kind_shift, hks]

theorem exists_tokenize_eq_ok_iff {query : String} :
    (∃ ts, tokenize query = .ok ts) ↔ ∀ step ∈ (Lexer.ofString query).steps, step.isOk := by
  simp only [tokenize_eq_ok_iff]
  constructor
  · rintro ⟨ts, hts⟩
    rw [hts]
    exact List.forall_mem_map.mpr fun _ _ => rfl
  · intro h
    generalize (Lexer.ofString query).steps = steps at h
    induction steps with
    | nil => exact ⟨[], rfl⟩
    | cons step steps ih =>
      obtain ⟨hstep, hsteps⟩ := List.forall_mem_cons.mp h
      obtain ⟨ts, rfl⟩ := ih hsteps
      cases step with
      | ok t => exact ⟨t :: ts, rfl⟩
      | error e => cases hstep

/-- Behind the tokens of a text and a blank come the steps of the text that follows, faults among
them, each as many bytes further on as stand before it. -/
theorem steps_append_blank {a : String} {ts : List Token} (h : tokenize a = .ok ts) {w : Char}
    (hw : isBlank w = true) (b : String) :
    (Lexer.ofString (a ++ String.singleton w ++ b)).steps =
        ts.map .ok ++
          (Lexer.ofString b).steps.map (shiftStep (a ++ String.singleton w).utf8ByteSize) ∧
      ((∃ us, tokenize (a ++ String.singleton w ++ b) = .ok us) ↔ ∃ us, tokenize b = .ok us) := by
  have hl : Layout 0 a.toList ts := tokenize_eq_ok_iff_layout.mp h
  have hs : Stops touchesToken (w :: b.toList) := stops_touchesToken_of_isBlank hw _
  have hsteps : (Lexer.ofString (a ++ String.singleton w ++ b)).steps =
      ts.map .ok ++
        (Lexer.ofString b).steps.map (shiftStep (a ++ String.singleton w).utf8ByteSize) := by
    rw [String.utf8ByteSize_append, String.utf8ByteSize_singleton, ← width_toList,
      ← Lexer.steps_eq_map_shiftStep, ← Lexer.steps_congr (Lexer.next_blank hw _ _)]
    simpa [Lexer.ofString] using hl.steps_append hs
  refine ⟨hsteps, ?_⟩
  rw [exists_tokenize_eq_ok_iff, exists_tokenize_eq_ok_iff, hsteps, List.forall_mem_append,
    List.forall_mem_map, List.forall_mem_map]
  simp only [isOk_shiftStep]
  exact and_iff_right fun _ _ => rfl

theorem steps_append_blank_unterminated :
    let a := "größe==\"ü\""
    let b := "and name=like='x"
    let ts : List Token := [⟨.name "größe", ⟨0, 7⟩⟩, ⟨.operator .eq, ⟨7, 9⟩⟩, ⟨.text "ü", ⟨9, 13⟩⟩]
    tokenize a = .ok ts ∧ isBlank '\u3000' = true ∧
      (Lexer.ofString (a ++ String.singleton '\u3000' ++ b)).steps =
        ts.map .ok ++ [.ok ⟨.and, ⟨16, 19⟩⟩, .ok ⟨.name "name", ⟨20, 24⟩⟩,
          .ok ⟨.operator .like, ⟨24, 30⟩⟩, .error ⟨30, .unterminatedText⟩] ∧
      ((∃ us, tokenize (a ++ String.singleton '\u3000' ++ b) = .ok us) ↔
        ∃ us, tokenize b = .ok us) := by
  intro a b ts
  have h : tokenize a = .ok ts := by decide +kernel
  have hw : isBlank '\u3000' = true := by decide
  have hb : (Lexer.ofString b).steps = [.ok ⟨.and, ⟨0, 3⟩⟩, .ok ⟨.name "name", ⟨4, 8⟩⟩,
      .ok ⟨.operator .like, ⟨8, 14⟩⟩, .error ⟨14, .unterminatedText⟩] := by decide +kernel
  obtain ⟨hsteps, hiff⟩ := steps_append_blank h hw b
  rw [hb] at hsteps
  exact ⟨h, hw, hsteps, hiff⟩

end FilterQuery.Query
