import Mathlib.Algebra.Group.Nat.Defs

/-! Deadlines on a clock that wraps around after 2^32 ticks, compared by the sign of the
difference. The comparison is right as long as clock and deadline are at most half a turn
apart, and a deadline that is set further ahead looks passed at once.
-/

namespace KeypadBridge.Foundation

/-- The clock is before the deadline, by the sign of their difference. -/
def beforeDeadline (clock deadline : UInt32) : Bool := (clock - deadline).toInt32 < 0

/-- A word is negative from half a turn on. -/
theorem toInt32_neg_iff (word : UInt32) : word.toInt32 < 0 ↔ 2 ^ 31 ≤ word.toNat := by
  rw [Int32.lt_iff_toInt_lt, Int32.toInt_zero]
  have sign := BitVec.toInt_neg_iff (x := word.toBitVec)
  rw [show word.toInt32.toInt = word.toBitVec.toInt from rfl, sign, UInt32.toNat_toBitVec]
  omega

theorem beforeDeadline_iff (clock deadline : UInt32)
    : beforeDeadline clock deadline = true ↔ 2 ^ 31 ≤ (clock - deadline).toNat := by
  rw [beforeDeadline, decide_eq_true_eq, toInt32_neg_iff]

/-- The sign is right for a deadline at most half a turn ahead, up to half a turn behind it. -/
theorem beforeDeadline_ofNat {now due : Nat} (near : due ≤ now + 2 ^ 31)
    (recent : now < due + 2 ^ 31)
    : beforeDeadline (.ofNat now) (.ofNat due) = true ↔ now < due := by
  rw [beforeDeadline_iff, UInt32.toNat_sub, UInt32.toNat_ofNat', UInt32.toNat_ofNat']
  omega

/-- A deadline that is just being set counts as ahead if it is at most half a turn ahead. -/
theorem beforeDeadline_add (clock interval : UInt32)
    : beforeDeadline clock (clock + interval) = true
      ↔ 0 < interval.toNat ∧ interval.toNat ≤ 2 ^ 31 := by
  have bounded := interval.toNat_lt
  have wraps := clock.toNat_lt
  rw [beforeDeadline_iff, UInt32.toNat_sub, UInt32.toNat_add]
  omega

end KeypadBridge.Foundation
