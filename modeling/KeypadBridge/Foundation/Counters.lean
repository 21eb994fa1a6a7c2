import Mathlib.Data.Nat.Digits.Lemmas
import Mathlib.Data.List.Iterate

/-! Numerals of a fixed width as counters. The increment ripples a carry from the least
significant digit upwards, stops at the first digit that does not overflow and wraps around
at the end of the numeral.
-/

namespace KeypadBridge.Foundation

-----------------------------------------------------------------------------------------
-- The carry
-----------------------------------------------------------------------------------------

/-- The increment of a numeral in `base`, least significant digit first. -/
def rippleCarry (base : Nat) : List Nat → List Nat
  | [] => []
  | digit :: rest =>
      if digit + 1 = base then 0 :: rippleCarry base rest else (digit + 1) :: rest

/-- The ripple carry adds one, modulo the numerals of that width, by induction over the
digits that overflow.
-/
theorem ofDigits_rippleCarry {base : Nat} (proper : 1 < base) {digits : List Nat}
    (fits : ∀ digit ∈ digits, digit < base)
    : Nat.ofDigits base (rippleCarry base digits)
      = (Nat.ofDigits base digits + 1) % base ^ digits.length := by
  induction digits with
  | nil => simp [rippleCarry]
  | cons digit rest ih =>
      have first : digit < base := fits digit (.head _)
      have others : ∀ other ∈ rest, other < base := fun other member =>
        fits other (.tail _ member)
      simp only [rippleCarry, List.length_cons, Nat.ofDigits_cons, pow_succ']
      split
      case isTrue overflow =>
        have carried : digit + base * Nat.ofDigits base rest + 1
            = base * (Nat.ofDigits base rest + 1) := by
          rw [Nat.mul_add, Nat.mul_one]
          omega
        rw [Nat.ofDigits_cons, ih others, carried, Nat.mul_mod_mul_left, Nat.zero_add]
      case isFalse absorbed =>
        have room : Nat.ofDigits base rest + 1 ≤ base ^ rest.length :=
          Nat.ofDigits_lt_base_pow_length proper others
        have below := Nat.mul_le_mul_left base room
        rw [Nat.mul_add, Nat.mul_one] at below
        rw [Nat.ofDigits_cons, Nat.mod_eq_of_lt (by omega)]
        omega

-----------------------------------------------------------------------------------------
-- Counting round a cycle
-----------------------------------------------------------------------------------------

/-- Each step raises the value by one, modulo `period`. -/
structure CyclicCounter {State : Type} (value : State → Nat) (step : State → State)
    (period : Nat) : Prop where
  bounded : ∀ state, value state < period
  counts : ∀ state, value (step state) = (value state + 1) % period

namespace CyclicCounter

variable {State : Type} {value : State → Nat} {step : State → State} {period : Nat}

/-- `n` steps raise the value by `n`. -/
theorem value_iterate (counter : CyclicCounter value step period) (state : State) (n : Nat)
    : value (step^[n] state) = (value state + n) % period := by
  induction n with
  | zero => exact (Nat.mod_eq_of_lt (counter.bounded state)).symm
  | succ n ih =>
      rw [Function.iterate_succ_apply', counter.counts, ih, Nat.mod_add_mod, Nat.add_assoc]

/-- States less than a period apart differ, since their values do. -/
theorem iterate_ne (counter : CyclicCounter value step period) (state : State)
    {earlier later : Nat} (order : earlier < later) (close : later < earlier + period)
    : step^[earlier] state ≠ step^[later] state := by
  intro same
  have values := congrArg value same
  rw [counter.value_iterate, counter.value_iterate] at values
  have divides : (value state + later - (value state + earlier)) % period = 0 :=
    Nat.sub_mod_eq_zero_of_mod_eq values.symm
  rw [Nat.mod_eq_of_lt (by omega)] at divides
  omega

/-- The states on the way are pairwise distinct until the period is over. -/
theorem nodup_iterate (counter : CyclicCounter value step period) (state : State) {n : Nat}
    (within : n ≤ period)
    : (List.iterate step state n).Nodup := by
  rw [← List.range_map_iterate]
  refine List.Nodup.map_on ?_ List.nodup_range
  intro i inside j bounded same
  rw [List.mem_range] at inside bounded
  rcases Nat.lt_trichotomy i j with less | equal | greater
  · exact absurd same (counter.iterate_ne state less (by omega))
  · exact equal
  · exact absurd same.symm (counter.iterate_ne state greater (by omega))

end CyclicCounter

end KeypadBridge.Foundation
