import Mathlib.Data.UInt

/-! Numbers of 64 bits.
A sum or a difference that leaves the range is refused, or replaced by the end of the range that it
passes. -/

namespace PatternLint

def word? (n : Nat) : Option UInt64 := if n < 2 ^ 64 then some (.ofNat n) else none

def checkedAdd (a b : UInt64) : Option UInt64 := word? (a.toNat + b.toNat)

def checkedSub (a b : UInt64) : Option UInt64 := if b ≤ a then some (a - b) else none

def nextWord? (n : Nat) : Option UInt64 := (word? n).bind fun w => checkedAdd w 1

/-- The largest number in place of a sum that is too large. -/
def saturatingAdd (a b : UInt64) : UInt64 := (checkedAdd a b).getD (.ofNat (2 ^ 64 - 1))

def saturatingSub (a b : UInt64) : UInt64 := (checkedSub a b).getD 0

theorem exists_word? {n : Nat} (h : n < 2 ^ 64) : ∃ w, word? n = some w ∧ w.toNat = n :=
  ⟨.ofNat n, if_pos h, UInt64.toNat_ofNat_of_lt' h⟩

@[simp]
theorem word?_eq_none {n : Nat} (h : ¬ n < 2 ^ 64) : word? n = none := if_neg h

@[simp]
theorem nextWord?_eq (n : Nat) : nextWord? n = word? (n + 1) := by
  by_cases h : n < 2 ^ 64
  · obtain ⟨w, hw, hn⟩ := exists_word? h
    rw [nextWord?, hw, Option.bind_some, checkedAdd, hn]
    rfl
  · rw [nextWord?, word?_eq_none h, word?_eq_none (by omega), Option.bind_none]

@[simp]
theorem toNat_saturatingAdd (a b : UInt64) :
    (saturatingAdd a b).toNat = min (a.toNat + b.toNat) (2 ^ 64 - 1) := by
  rw [saturatingAdd, checkedAdd]
  by_cases h : a.toNat + b.toNat < 2 ^ 64
  · obtain ⟨w, hw, hsum⟩ := exists_word? h
    rw [hw, Option.getD_some, hsum]
    omega
  · rw [word?_eq_none h, Option.getD_none, UInt64.toNat_ofNat_of_lt' (by decide)]
    omega

@[simp]
theorem toNat_saturatingSub (a b : UInt64) : (saturatingSub a b).toNat = a.toNat - b.toNat := by
  rw [saturatingSub, checkedSub]
  split
  · rename_i h
    exact UInt64.toNat_sub_of_le a b h
  · rename_i h
    rw [UInt64.le_iff_toNat_le] at h
    simp only [Option.getD_none, UInt64.toNat_zero]
    omega

end PatternLint
