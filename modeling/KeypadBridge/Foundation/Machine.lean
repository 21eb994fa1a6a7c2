/-! Deterministic machines with one observation per input: runs, observation histories, and
the induction rules that carry a step fact to every run.
-/

namespace KeypadBridge.Foundation

/-- Every observation of a list is allowed behind what was seen before it. -/
def Along {Output : Type} (allowed : List Output → Output → Prop) (seen : List Output)
    : List Output → Prop
  | [] => True
  | output :: rest => allowed seen output ∧ Along allowed (seen ++ [output]) rest

instance Along.decidable {Output : Type} (allowed : List Output → Output → Prop)
    [∀ seen output, Decidable (allowed seen output)] (seen outputs : List Output)
    : Decidable (Along allowed seen outputs) :=
  match outputs with
  | [] => isTrue trivial
  | output :: rest =>
      have := Along.decidable allowed (seen ++ [output]) rest
      inferInstanceAs
        (Decidable (allowed seen output ∧ Along allowed (seen ++ [output]) rest))

/-- What is allowed along a list is allowed at each of its places. -/
theorem Along.split {Output : Type} {allowed : List Output → Output → Prop}
    {seen before after : List Output} {output : Output}
    (along : Along allowed seen (before ++ output :: after))
    : allowed (seen ++ before) output := by
  induction before generalizing seen with
  | nil => simpa using along.1
  | cons first rest ih => simpa using ih along.2

/-- One more observation that is allowed. -/
theorem Along.snoc {Output : Type} {allowed : List Output → Output → Prop}
    {seen outputs : List Output} {output : Output} (along : Along allowed seen outputs)
    (next : allowed (seen ++ outputs) output)
    : Along allowed seen (outputs ++ [output]) := by
  induction outputs generalizing seen with
  | nil => exact ⟨by simpa using next, trivial⟩
  | cons first rest ih => exact ⟨along.1, ih along.2 (by simpa using next)⟩

/-- One step consumes an input and yields the next state and one observation. -/
structure Machine (State Input Output : Type) where
  step : State → Input → State × Output

namespace Machine

variable {State Input Output : Type}

/-- The state reached by feeding a list of inputs. -/
def run (machine : Machine State Input Output) (state : State) : List Input → State
  | [] => state
  | input :: rest => machine.run (machine.step state input).1 rest

/-- The observations made on the way, one for each input. -/
def history (machine : Machine State Input Output) (state : State)
    : List Input → List Output
  | [] => []
  | input :: rest =>
      (machine.step state input).2 :: machine.history (machine.step state input).1 rest

variable (machine : Machine State Input Output)

@[simp] theorem run_nil (state : State) : machine.run state [] = state := rfl

@[simp] theorem history_nil (state : State) : machine.history state [] = [] := rfl

theorem run_append (state : State) (first second : List Input)
    : machine.run state (first ++ second)
      = machine.run (machine.run state first) second := by
  induction first generalizing state with
  | nil => rfl
  | cons input rest ih => exact ih _

theorem history_append (state : State) (first second : List Input)
    : machine.history state (first ++ second)
      = machine.history state first ++ machine.history (machine.run state first) second := by
  induction first generalizing state with
  | nil => rfl
  | cons input rest ih => simp [history, run, ih]

/-- A split of the history is a split of the inputs at the same point. -/
theorem history_split {state : State} {inputs : List Input} {before after : List Output}
    (split : machine.history state inputs = before ++ after)
    : ∃ first second,
        inputs = first ++ second
        ∧ machine.history state first = before
        ∧ machine.history (machine.run state first) second = after := by
  induction before generalizing state inputs with
  | nil => exact ⟨[], inputs, rfl, rfl, split⟩
  | cons output earlier ih =>
      cases inputs with
      | nil => simp at split
      | cons input rest =>
          obtain ⟨same, tail⟩ := List.cons.inj split
          obtain ⟨first, second, rfl, observed, later⟩ := ih tail
          exact ⟨input :: first, second, rfl, by simp [history, observed, same], later⟩

/-- An observation in the middle of a history was made by one step from the state that the
inputs before it reach.
-/
theorem history_split_at {state : State} {inputs : List Input}
    {before after : List Output} {output : Output}
    (split : machine.history state inputs = before ++ output :: after)
    : ∃ first input second,
        inputs = first ++ input :: second
        ∧ machine.history state first = before
        ∧ (machine.step (machine.run state first) input).2 = output
        ∧ machine.history (machine.step (machine.run state first) input).1 second
          = after := by
  obtain ⟨first, rest, rfl, observed, later⟩ := machine.history_split split
  cases rest with
  | nil => simp at later
  | cons input second =>
      obtain ⟨made, tail⟩ := List.cons.inj later
      exact ⟨first, input, second, rfl, observed, made, tail⟩

/-- What every step preserves holds after every run. -/
theorem run_invariant (invariant : State → Prop) {state : State}
    (initial : invariant state)
    (preserved : ∀ state input, invariant state → invariant (machine.step state input).1)
    (inputs : List Input)
    : invariant (machine.run state inputs) := by
  induction inputs generalizing state with
  | nil => exact initial
  | cons input rest ih => exact ih (preserved state input initial)

/-- What holds of no inputs and survives each step relates all inputs to the state they lead
to.
-/
theorem inputs_invariant (invariant : List Input → State → Prop) {state : State}
    (initial : invariant [] state)
    (preserved
      : ∀ inputs state input,
          invariant inputs state
          → invariant (inputs ++ [input]) (machine.step state input).1)
    (inputs : List Input)
    : invariant inputs (machine.run state inputs) := by
  have extend (earlier : List Input) (state : State) (inputs : List Input)
      (holds : invariant earlier state)
      : invariant (earlier ++ inputs) (machine.run state inputs) := by
    induction inputs generalizing earlier state with
    | nil => simpa using holds
    | cons input rest ih => simpa [run] using ih _ _ (preserved earlier state input holds)
  simpa using extend [] state inputs initial

/-- What survives each step with an allowed observation, and shows on every such step, lasts
for as long as only such steps are observed.
-/
theorem run_invariant_while (invariant : State → Prop) (allowed shown : Output → Prop)
    {state : State} (initial : invariant state)
    (preserved
      : ∀ state input,
          invariant state
          → allowed (machine.step state input).2
          → invariant (machine.step state input).1 ∧ shown (machine.step state input).2)
    (inputs : List Input) (all : ∀ output ∈ machine.history state inputs, allowed output)
    : invariant (machine.run state inputs)
      ∧ ∀ output ∈ machine.history state inputs, shown output := by
  induction inputs generalizing state with
  | nil => exact ⟨initial, by simp⟩
  | cons input rest ih =>
      obtain ⟨first, later⟩ := List.forall_mem_cons.mp all
      obtain ⟨holds, seen⟩ := preserved state input initial first
      obtain ⟨after, rest⟩ := ih holds later
      exact ⟨after, List.forall_mem_cons.mpr ⟨seen, rest⟩⟩

/-- What holds of the empty history and survives each observed step on an allowed input
relates every history over allowed inputs to the state it ends in.
-/
theorem history_invariant_of (invariant : List Output → State → Prop)
    (allowed : Input → Prop) {state : State} (initial : invariant [] state)
    (preserved
      : ∀ observed state input,
          allowed input
          → invariant observed state
          → invariant (observed ++ [(machine.step state input).2])
              (machine.step state input).1)
    (inputs : List Input) (all : ∀ input ∈ inputs, allowed input)
    : invariant (machine.history state inputs) (machine.run state inputs) := by
  have extend (observed : List Output) (state : State) (inputs : List Input)
      (all : ∀ input ∈ inputs, allowed input) (holds : invariant observed state)
      : invariant (observed ++ machine.history state inputs)
          (machine.run state inputs) := by
    induction inputs generalizing observed state with
    | nil => simpa using holds
    | cons input rest ih =>
        obtain ⟨first, later⟩ := List.forall_mem_cons.mp all
        simpa [history, run]
          using ih _ _ later (preserved observed state input first holds)
  simpa using extend [] state inputs all initial

/-- What holds of the empty history and survives each observed step relates every history
to the state it ends in.
-/
theorem history_invariant (invariant : List Output → State → Prop) {state : State}
    (initial : invariant [] state)
    (preserved
      : ∀ observed state input,
          invariant observed state
          → invariant (observed ++ [(machine.step state input).2])
              (machine.step state input).1)
    (inputs : List Input)
    : invariant (machine.history state inputs) (machine.run state inputs) :=
  machine.history_invariant_of invariant (fun _ => True) initial
    (fun observed state input _ => preserved observed state input) inputs (by simp)

/-- The machine that also observes the state before each step, and the input. -/
def traced (machine : Machine State Input Output)
    : Machine State Input (State × Input × Output) where
  step state input := ((machine.step state input).1, state, input, (machine.step state input).2)

/-- A projection that commutes with each step commutes with runs. -/
theorem run_project {Image ImageInput ImageOutput : Type}
    (image : Machine Image ImageInput ImageOutput)
    (project : State → Image) (translate : Input → ImageInput)
    (commutes
      : ∀ state input,
          project (machine.step state input).1
            = (image.step (project state) (translate input)).1)
    (state : State) (inputs : List Input)
    : project (machine.run state inputs)
      = image.run (project state) (inputs.map translate) := by
  induction inputs generalizing state with
  | nil => rfl
  | cons input rest ih => simp [run, ih, commutes]

/-- Observing more changes no run. -/
@[simp] theorem traced_run (state : State) (inputs : List Input)
    : machine.traced.run state inputs = machine.run state inputs := by
  induction inputs generalizing state with
  | nil => rfl
  | cons input rest ih => exact ih _

/-- What survives each step that is taken where it is allowed holds after every run of such
steps.
-/
theorem run_invariant_where (invariant : State → Prop) (allowed : State → Input → Prop)
    {state : State} (initial : invariant state)
    (preserved
      : ∀ state input,
          invariant state → allowed state input → invariant (machine.step state input).1)
    (inputs : List Input)
    (all : ∀ step ∈ machine.traced.history state inputs, allowed step.1 step.2.1)
    : invariant (machine.run state inputs) := by
  have kept :=
    (machine.traced.run_invariant_while invariant
      (fun step : State × Input × Output => allowed step.1 step.2.1) (fun _ => True) initial
      (fun state input holds permitted => ⟨preserved state input holds permitted, trivial⟩)
      inputs all).1
  rwa [traced_run] at kept

end Machine

end KeypadBridge.Foundation
