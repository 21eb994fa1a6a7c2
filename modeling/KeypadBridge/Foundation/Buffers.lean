/-! Fixed-size buffers written in place, as a C program writes them: a write shorter than
the buffer leaves the cells behind it with whatever they held before.
-/

namespace KeypadBridge.Foundation

variable {α : Type} {n : Nat}

/-- Write `data` into `buffer` from cell `offset` on; every other cell keeps its contents. -/
def overwrite (buffer : Vector α n) (offset : Nat) (data : List α) : Vector α n :=
  Vector.ofFn fun i =>
    if offset ≤ i.val then data.getD (i.val - offset) buffer[i] else buffer[i]

/-- The cells of a buffer from `offset` on, `count` of them at most. -/
def readBack (buffer : Vector α n) (offset count : Nat) : List α :=
  (buffer.toList.drop offset).take count

/-- A written cell holds the datum written there. -/
theorem overwrite_getElem_inside (buffer : Vector α n) (offset : Nat) (data : List α)
    {i : Nat} (hi : i < n) (from_offset : offset ≤ i) (inside : i - offset < data.length)
    : (overwrite buffer offset data)[i] = data[i - offset] := by
  simp [overwrite, from_offset, inside]

/-- A cell outside the written range keeps its contents. -/
theorem overwrite_getElem_outside (buffer : Vector α n) (offset : Nat) (data : List α)
    {i : Nat} (hi : i < n) (outside : i < offset ∨ offset + data.length ≤ i)
    : (overwrite buffer offset data)[i] = buffer[i] := by
  by_cases before : i < offset
  · have : ¬ offset ≤ i := by omega
    simp [overwrite, this]
  · have beyond : data.length ≤ i - offset := by omega
    simp [overwrite, beyond]

/-- Reading back the written range gives the data, whatever the buffer held before. -/
theorem readBack_overwrite (buffer : Vector α n) (offset : Nat) (data : List α)
    (fits : offset + data.length ≤ n)
    : readBack (overwrite buffer offset data) offset data.length = data := by
  apply List.ext_getElem
  · simp [readBack]
    omega
  · intro i left right
    simp only [readBack, List.getElem_take, List.getElem_drop, Vector.getElem_toList]
    rw [overwrite_getElem_inside buffer offset data (by omega) (by omega) (by omega)]
    simp

end KeypadBridge.Foundation
