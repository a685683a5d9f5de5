import FilterQuery.Paging.Page
import FilterQuery.Session.Request
import FilterQuery.Proofs.Decimal.Text
import FilterQuery.Proofs.Text.Classes
import Mathlib.Data.List.DropRight

namespace FilterQuery

open FilterQuery.Decimal FilterQuery.Text

theorem readWord_digits (what : String) (n : UInt64) : readWord what (digits n.toNat) = .ok n := by
  obtain ⟨hne, hd⟩ := isDigits_iff.mp (isDigits_digits n.toNat)
  have hsign : (digits n.toNat).head? ≠ some '+' := by
    intro h
    have hplus := hd '+' (List.mem_of_mem_head? h)
    exact absurd hplus (by decide)
  have hrun : (digits n.toNat).takeWhile Char.isDigit = digits n.toNat := by
    simpa using @takeWhile_run _ _ [] hd (by rintro c ⟨⟩)
  have hsize : ¬ n.toNat ≥ UInt64.size := Nat.not_le.mpr n.toNat_lt_size
  rw [readWord]
  simp [hsign, hrun, hsize, hne, value_digits]

namespace Url

def parameter (piece : List Char) : List Char × List Char :=
  (piece.takeWhile (· ≠ '='), (piece.dropWhile (· ≠ '=')).tail)

/-- The first value of this name in the query, whose parameters stand between ampersands. -/
def parameter? (u : Url) (name : String) : Option (List Char) := do
  ((← u.query).splitOn '&' |>.map parameter).lookup name.toList

def number? (u : Url) (name : String) : Option UInt64 := do
  (readWord name (← u.parameter? name)).toOption

/-- The request that the query makes, if it states both numbers. -/
def request? (u : Url) : Option PageRequest := do
  return ⟨← u.number? "page", ← u.number? "size"⟩

theorem parameter_append {name : List Char} (h : '=' ∉ name) (value : List Char) :
    parameter (name ++ '=' :: value) = (name, value) := by
  have hrun : ∀ c ∈ name, decide (c ≠ '=') = true := by
    rintro c hc
    rw [decide_eq_true_iff]
    rintro rfl
    exact h hc
  have hstop : Stops (fun c => decide (c ≠ '=')) ('=' :: value) := stops_cons (by decide) value
  rw [parameter, takeWhile_run hrun hstop, dropWhile_run hrun hstop, List.tail_cons]

theorem formEncode_digits (n : Nat) : formEncode (digits n) = digits n := by
  have hsingle : ∀ c ∈ digits n,
      (if c == ' ' then ['+'] else percentEncodeChar .form c) = [c] := by
    intro c hc
    have hd := (isDigits_iff.mp (isDigits_digits n)).2 c hc
    obtain ⟨hl, hu⟩ := toNat_of_isDigit hd
    have hblank : c ≠ ' ' := ne_of_test hd ' ' (by decide)
    have hcontrol : isControl c = false := by
      simp only [isControl, Bool.or_eq_false_iff, decide_eq_false_iff_not, beq_eq_false_iff_ne]
      omega
    have hascii : ¬ c.toNat ≥ 128 := by omega
    have hform : EncodeSet.form c = false := by simp [EncodeSet.form, Char.isAlphanum, hd]
    simp [percentEncodeChar, hblank, hcontrol, hascii, hform]
  rw [formEncode, List.flatMap_congr hsingle, List.flatMap_singleton']

theorem trimPath_of_isHierarchical {u : Url} (h : u.isHierarchical = true) : u.trimPath = u := by
  rw [trimPath, h]
  rfl

theorem trimPath_trimPath (u : Url) : u.trimPath.trimPath = u.trimPath := by
  by_cases h : (u.isHierarchical || u.query.isSome || u.fragment.isSome) = true
  · have hsame : u.trimPath = u := if_pos h
    rw [hsame, hsame]
  · have htrim : u.trimPath =
        { u with path := (u.path.reverse.dropWhile (· == ' ')).reverse } := if_neg h
    rw [htrim, trimPath]
    split
    · rfl
    · rw [List.reverse_reverse, List.dropWhile_idempotent]

theorem query_trimPath (u : Url) : u.trimPath.query = u.query := by
  rw [trimPath]
  split <;> rfl

theorem fragment_trimPath (u : Url) : u.trimPath.fragment = u.fragment := by
  rw [trimPath]
  split <;> rfl

theorem removeFragment_of_eq_none {u : Url} (h : u.fragment = none) :
    u.removeFragment = u.trimPath := by
  rw [removeFragment, ← h]

theorem removeQuery_of_eq_some {u : Url} {f : List Char} (h : u.fragment = some f) :
    u.removeQuery = { u with query := none } :=
  if_pos (by simp [h])

theorem removeFragment_removeQuery (u : Url) :
    u.removeQuery.removeFragment = trimPath { u with query := none, fragment := none } := by
  cases hf : u.fragment with
  | none =>
    have hnone : u.removeQuery.fragment = none := (fragment_trimPath _).trans hf
    rw [removeFragment_of_eq_none hnone, removeQuery, trimPath_trimPath, ← hf]
  | some f => rw [removeQuery_of_eq_some hf, removeFragment]

theorem addParameter_of_eq_none {u : Url} (h : u.query = none) (name value : String) :
    u.addParameter name value =
      { u with query := some (formEncode name.toList ++ '=' :: formEncode value.toList) } := by
  rw [addParameter, h]

theorem addParameter_of_eq_some {u : Url} {before : List Char} (h : u.query = some before)
    (hne : before ≠ []) (name value : String) :
    let added := formEncode name.toList ++ '=' :: formEncode value.toList
    u.addParameter name value = { u with query := some (before ++ '&' :: added) } := by
  obtain ⟨c, cs, rfl⟩ := List.exists_cons_of_ne_nil hne
  rw [addParameter, h]

theorem withPage_eq (u : Url) (number size : UInt64) :
    u.withPage number size =
      { trimPath { u with query := none, fragment := none } with
        query := some ("page".toList ++ '=' :: digits number.toNat ++
          '&' :: ("size".toList ++ '=' :: digits size.toNat)) } := by
  have hpage : formEncode "page".toList = "page".toList := by decide
  have hsize : formEncode "size".toList = "size".toList := by decide
  have hnone : (trimPath { u with query := none, fragment := none }).query = none :=
    query_trimPath _
  rw [withPage, removeFragment_removeQuery, addParameter_of_eq_none hnone,
    addParameter_of_eq_some rfl (by simp), hpage, hsize, digits_eq_toList, digits_eq_toList,
    formEncode_digits, formEncode_digits]

theorem not_mem_parameter {name : List Char} (h : '&' ∉ name) (n : UInt64) :
    '&' ∉ name ++ '=' :: digits n.toNat := by
  have hdigits : '&' ∉ digits n.toNat := by
    intro hc
    have hd := (isDigits_iff.mp (isDigits_digits n.toNat)).2 '&' hc
    exact absurd hd (by decide)
  simp [h, hdigits]

theorem parameters_withPage (u : Url) (number size : UInt64) :
    (u.withPage number size).query.map (fun query => (query.splitOn '&').map parameter) =
      some [("page".toList, digits number.toNat), ("size".toList, digits size.toNat)] := by
  have hpage := @not_mem_parameter "page".toList (by decide) number
  have hsize := @not_mem_parameter "size".toList (by decide) size
  rw [withPage_eq, Option.map_some, List.splitOn_append_cons_self_of_not_mem hpage,
    List.splitOn_eq_singleton hsize, List.map_cons, List.map_singleton,
    parameter_append (by decide), parameter_append (by decide)]

theorem request?_withPage (u : Url) (number size : UInt64) :
    (u.withPage number size).request? = some ⟨number, size⟩ := by
  obtain ⟨query, hquery, hparameters⟩ := Option.map_eq_some_iff.mp (parameters_withPage u number size)
  have hpage : (u.withPage number size).parameter? "page" = some (digits number.toNat) := by
    rw [parameter?, hquery, Option.bind_eq_bind, Option.bind_some, hparameters]
    rfl
  have hsize : (u.withPage number size).parameter? "size" = some (digits size.toNat) := by
    rw [parameter?, hquery, Option.bind_eq_bind, Option.bind_some, hparameters]
    rfl
  rw [request?, number?, number?, hpage, hsize]
  simp [readWord_digits, Except.toOption]

end Url

end FilterQuery
