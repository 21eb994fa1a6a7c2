/-! What was learned since the last input of some kind: facts about a list of inputs that hold
until an input of that kind comes again.
-/

namespace KeypadBridge.Foundation

variable {Input : Type}

/-- One of the inputs is as described, and none behind it resets. -/
def Lately (resets learned : Input → Prop) (inputs : List Input) : Prop :=
  ∃ earlier input later,
    inputs = earlier ++ input :: later ∧ learned input ∧ ∀ other ∈ later, ¬ resets other

namespace Lately

variable {resets learned : Input → Prop} {inputs : List Input} {input : Input}

/-- The last input is the latest one. -/
theorem now (holds : learned input) : Lately resets learned (inputs ++ [input]) :=
  ⟨inputs, input, [], rfl, holds, by simp⟩

/-- Inputs that do not reset forget nothing. -/
theorem append (lately : Lately resets learned inputs) {more : List Input}
    (keep : ∀ input ∈ more, ¬ resets input)
    : Lately resets learned (inputs ++ more) := by
  obtain ⟨earlier, known, behind, rfl, holds, quiet⟩ := lately
  refine ⟨earlier, known, behind ++ more, by simp, holds, ?_⟩
  intro other member
  exact (List.mem_append.mp member).elim (quiet other) (keep other)

/-- One such input. -/
theorem later (lately : Lately resets learned inputs) (keeps : ¬ resets input)
    : Lately resets learned (inputs ++ [input]) :=
  lately.append fun _ member => List.mem_singleton.mp member ▸ keeps

end Lately

end KeypadBridge.Foundation
