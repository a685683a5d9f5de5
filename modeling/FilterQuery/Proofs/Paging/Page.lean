import FilterQuery.Paging.Page

namespace FilterQuery

variable {α : Type}

theorem toNat_min (a b : UInt64) : (min a b).toNat = min a.toNat b.toNat := by
  rw [Std.min_eq_if, Std.min_eq_if, apply_ite UInt64.toNat]
  rfl

theorem toNat_saturatingMul (a b : UInt64) :
    (saturatingMul a b).toNat = min (a.toNat * b.toNat) (UInt64.size - 1) := by
  have hsize : UInt64.size = 2 ^ 64 := rfl
  rw [saturatingMul, UInt64.toNat_ofNat']
  omega

theorem toNat_saturatingAdd (a b : UInt64) :
    (saturatingAdd a b).toNat = min (a.toNat + b.toNat) (UInt64.size - 1) := by
  have hsize : UInt64.size = 2 ^ 64 := rfl
  rw [saturatingAdd, UInt64.toNat_ofNat']
  omega

theorem PageRequest.toNat_offset {r : PageRequest}
    (h : r.number.toNat * r.size.toNat < UInt64.size) :
    r.offset.toNat = r.number.toNat * r.size.toNat := by
  rw [offset, toNat_saturatingMul]
  omega

theorem Pagination.request_size (p : Pagination) (n m size : Option UInt64) :
    p.request n (some (p.request m size).size) = ⟨n.getD 0, (p.request m size).size⟩ := by
  have hmin : ∀ a b : UInt64, min (min a b) b = min a b := by
    intro a b
    rw [Std.min_eq_if (a := a)]
    split
    · next h => rw [Std.min_eq_if, if_pos h]
    · rw [Std.min_eq_if, ite_self]
  exact congrArg (PageRequest.mk (n.getD 0)) (hmin _ _)

/-- The number of the page with the last of `total` rows. -/
def lastPage (total size : UInt64) : Nat := (total.toNat - 1) / size.toNat

theorem lastPage_lt (total size : UInt64) : lastPage total size < UInt64.size := by
  have hdiv := Nat.div_le_self (total.toNat - 1) size.toNat
  have htotal := total.toNat_lt_size
  rw [lastPage]
  omega

theorem offset_lt_of_le_lastPage {total size : UInt64} {k : Nat} (h : k ≤ lastPage total size) :
    k * size.toNat < UInt64.size := by
  have hmul := Nat.mul_le_mul_right size.toNat h
  have hlast := Nat.div_mul_le_self (total.toNat - 1) size.toNat
  have htotal := total.toNat_lt_size
  rw [lastPage] at hmul
  omega

theorem total_le_of_lastPage (total : UInt64) {size : UInt64} (hs : 0 < size.toNat) :
    total.toNat ≤ (lastPage total size + 1) * size.toNat := by
  have hlast := Nat.lt_mul_div_succ (total.toNat - 1) hs
  rw [Nat.mul_comm] at hlast
  rw [lastPage]
  omega

namespace Page

theorem toNat_lastNumber (p : Page α) : p.lastNumber.toNat = lastPage p.total p.size := by
  rw [lastNumber, lastPage]
  split
  · next h =>
    obtain h | h := h
    · rw [h]
      exact (Nat.div_zero _).symm
    · rw [h]
      exact (Nat.zero_div _).symm
  · next h =>
    have hone : (1 : UInt64) ≤ p.total := by
      rw [UInt64.le_iff_toNat_le]
      have hpos : p.total.toNat ≠ 0 := fun h0 => h (.inr (UInt64.toNat_inj.mp h0))
      exact Nat.one_le_iff_ne_zero.mpr hpos
    rw [UInt64.toNat_div, UInt64.toNat_sub_of_le _ _ hone]
    rfl

theorem hasNext_iff {p : Page α} : p.hasNext = true ↔ p.number.toNat < p.lastNumber.toNat := by
  rw [hasNext, decide_eq_true_iff, UInt64.lt_iff_toNat_lt]

end Page

end FilterQuery
