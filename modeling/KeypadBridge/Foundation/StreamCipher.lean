import Mathlib.Logic.Function.Basic

/-! Positionwise stream ciphers. Encrypting masks each symbol by a mask that depends on its
position alone; when every mask is an involution the same operation decrypts.
-/

namespace KeypadBridge.Foundation

variable {α : Type}

/-- Mask every symbol of `data` by the mask of its position. -/
def applyStream (mask : Nat → α → α) (data : List α) : List α := data.mapIdx mask

@[simp] theorem length_applyStream (mask : Nat → α → α) (data : List α)
    : (applyStream mask data).length = data.length := by
  simp [applyStream]

@[simp] theorem getElem?_applyStream (mask : Nat → α → α) (data : List α) (i : Nat)
    : (applyStream mask data)[i]? = data[i]?.map (mask i) := by
  simp [applyStream]

/-- Involutive masks make decryption undo encryption, symbol by symbol. -/
theorem applyStream_involutive {mask : Nat → α → α}
    (involutive : ∀ i, Function.Involutive (mask i))
    : Function.Involutive (applyStream mask) := by
  intro data
  apply List.ext_getElem?
  intro i
  simp only [getElem?_applyStream, Option.map_map]
  cases data[i]? with
  | none => rfl
  | some symbol => simp [involutive i symbol]

/-- Equal ciphertexts under one mask stream have equal plaintexts. -/
theorem applyStream_injective {mask : Nat → α → α}
    (involutive : ∀ i, Function.Involutive (mask i))
    : Function.Injective (applyStream mask) :=
  (applyStream_involutive involutive).injective

/-- Malleability: what follows a prefix does not disturb how the prefix decrypts. -/
theorem take_applyStream (mask : Nat → α → α) (data : List α) (count : Nat)
    : (applyStream mask data).take count = applyStream mask (data.take count) := by
  apply List.ext_getElem?
  intro i
  simp only [getElem?_applyStream, List.getElem?_take]
  split <;> rfl

end KeypadBridge.Foundation
