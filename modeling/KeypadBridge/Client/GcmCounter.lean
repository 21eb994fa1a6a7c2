import KeypadBridge.Foundation.Counters
import KeypadBridge.Client.GcmNonces

/-! The IV of AES-GCM as a counter. Read as a 96-bit big-endian number it moves up by one, and
an IV comes back only after all the others were visited.
-/

namespace KeypadBridge
namespace PhysicalLockClient

open Foundation

-----------------------------------------------------------------------------------------
-- The number in an IV
-----------------------------------------------------------------------------------------

/-- The first `count` bytes of an IV as digits, the least significant first. -/
def digitsBelow (iv : GcmIv) (count : Nat) : List Nat :=
  (iv.toList.take count).reverse.map UInt8.toNat

/-- The IV read as a big-endian number. -/
def gcmIvValue (iv : GcmIv) : Nat := Nat.ofDigits 256 (iv.toList.reverse.map UInt8.toNat)

theorem gcmIvValue_eq (iv : GcmIv) : gcmIvValue iv = Nat.ofDigits 256 (digitsBelow iv 12) := by
  rw [digitsBelow, List.take_of_length_le (by simp), gcmIvValue]

theorem digitsBelow_succ (iv : GcmIv) {i : Nat} (inside : i < 12)
    : digitsBelow iv (i + 1) = iv[i].toNat :: digitsBelow iv i := by
  have last : iv.toList.take (i + 1) = iv.toList.take i ++ [iv[i]] := by
    rw [List.take_add_one, List.getElem?_eq_getElem (by simpa using inside)]
    simp
  simp [digitsBelow, last]

/-- A byte is not among the digits below it. -/
theorem digitsBelow_set (iv : GcmIv) {i : Nat} (inside : i < 12) (byte : UInt8)
    : digitsBelow (iv.set i byte) i = digitsBelow iv i := by
  simp [digitsBelow, Vector.toList_set, List.take_set_of_le]

@[simp] theorem length_digitsBelow (iv : GcmIv) {count : Nat} (inside : count ≤ 12)
    : (digitsBelow iv count).length = count := by
  simp [digitsBelow, inside]

theorem digitsBelow_lt (iv : GcmIv) (count : Nat)
    : ∀ digit ∈ digitsBelow iv count, digit < 256 := by
  intro digit member
  obtain ⟨byte, -, rfl⟩ := List.mem_map.mp member
  exact byte.toNat_lt

-----------------------------------------------------------------------------------------
-- The loop
-----------------------------------------------------------------------------------------

/-- A byte that the increment leaves at zero was full. -/
theorem byte_overflow_iff (byte : UInt8) : byte + 1 = 0 ↔ byte.toNat + 1 = 256 := by
  have bounded := byte.toNat_lt
  rw [← UInt8.toNat_inj, UInt8.toNat_add]
  simp only [UInt8.reduceToNat, UInt8.toNat_zero]
  omega

/-- The loop ripples the carry over the bytes below `count`, by induction over the position
that the carry has reached.
-/
theorem digitsBelow_incrementBelow (iv : GcmIv) (count : Nat) (inside : count ≤ 12)
    : digitsBelow (incrementBelow iv count inside) count
      = rippleCarry 256 (digitsBelow iv count) := by
  induction count generalizing iv with
  | zero => rfl
  | succ i ih =>
      have here : i < 12 := inside
      simp only [incrementBelow, digitsBelow_succ iv here, rippleCarry,
        ← byte_overflow_iff iv[i], ite_not]
      split
      case isTrue overflow =>
        rw [digitsBelow_succ _ here, ih, digitsBelow_set iv here,
          getElem_incrementBelow _ i (by omega) i (Nat.le_refl i) here,
          Vector.getElem_set_self here, overflow]
        rfl
      case isFalse absorbed =>
        rw [digitsBelow_succ _ here, digitsBelow_set iv here, Vector.getElem_set_self here]
        have bounded := iv[i].toNat_lt
        have small := (byte_overflow_iff iv[i]).not.mp absorbed
        rw [UInt8.toNat_add, Nat.mod_eq_of_lt (by simp only [UInt8.reduceToNat]; omega)]
        rfl

/-- `increment_gcm_iv` counts modulo 2^96. -/
theorem gcmIv_cyclicCounter : CyclicCounter gcmIvValue incrementGcmIv (2 ^ 96) where
  bounded := by
    intro iv
    have bounded := Nat.ofDigits_lt_base_pow_length (by decide : 1 < 256) (digitsBelow_lt iv 12)
    rw [length_digitsBelow iv (Nat.le_refl 12)] at bounded
    rw [gcmIvValue_eq]
    exact bounded
  counts := by
    intro iv
    have width : 256 ^ 12 = 2 ^ 96 := rfl
    rw [gcmIvValue_eq, gcmIvValue_eq, incrementGcmIv, digitsBelow_incrementBelow,
      ofDigits_rippleCarry (by decide) (digitsBelow_lt iv 12),
      length_digitsBelow iv (Nat.le_refl 12), width]

/-- `increment_gcm_iv` is the successor of a 96-bit big-endian number, so counting up from any
IV visits pairwise distinct IVs until it has gone through all of them.
-/
theorem incrementGcmIv_counts (iv : GcmIv)
    : gcmIvValue (incrementGcmIv iv) = (gcmIvValue iv + 1) % 2 ^ 96
      ∧ ∀ n < 2 ^ 96, (List.iterate incrementGcmIv iv (n + 1)).Nodup :=
  ⟨gcmIv_cyclicCounter.counts iv, fun _ below => gcmIv_cyclicCounter.nodup_iterate iv below⟩

/-- An IV of full bytes: the carry runs through all twelve. -/
def fullIv : GcmIv := Vector.replicate 12 0xFF

/-- The full IV wraps around to zero, and two more steps still meet no IV again. -/
theorem incrementGcmIv_counts_full
    : gcmIvValue (incrementGcmIv fullIv) = 0
      ∧ (List.iterate incrementGcmIv fullIv 4).Nodup := by
  obtain ⟨successor, distinct⟩ := incrementGcmIv_counts fullIv
  exact ⟨successor.trans (by decide), distinct 3 (by decide)⟩

end PhysicalLockClient

end KeypadBridge
