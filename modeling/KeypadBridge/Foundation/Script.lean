import Mathlib.Data.List.Infix

/-! Procedures that go along a script: each part shows a beginning of what it has to show, and
only a part that goes through is followed by the next one.
-/

namespace KeypadBridge.Foundation

/-- What was shown of a script, and whether the procedure went through. -/
structure Plays {Cue : Type} (script shown : List Cue) (through : Prop) : Prop where
  begins : shown <+: script
  whole : through → shown = script

namespace Plays

variable {Cue : Type} {script shown later more : List Cue} {through : Prop}

/-- A whole script. -/
theorem all (script : List Cue) (through : Prop) : Plays script script through where
  begins := List.prefix_rfl
  whole _ := rfl

/-- A part that failed is not followed by the rest. -/
theorem stopped (plays : Plays script shown through) (later : List Cue) {done : Prop}
    (failed : ¬ done)
    : Plays (script ++ later) shown done where
  begins := plays.begins.trans (List.prefix_append script later)
  whole ended := (failed ended).elim

/-- A part that went through is followed by the next one. -/
theorem followed (plays : Plays script shown True) (next : Plays later more through)
    : Plays (script ++ later) (shown ++ more) through := by
  obtain rfl := plays.whole trivial
  exact
    { begins := (List.prefix_append_right_inj shown).mpr next.begins
      whole := fun done => by rw [next.whole done] }

/-- Nothing is shown out of order. -/
theorem pairwise {earlier : Cue → Cue → Prop} (plays : Plays script shown through)
    (ordered : script.Pairwise earlier)
    : shown.Pairwise earlier :=
  ordered.sublist plays.begins.sublist

/-- Nothing is shown that is not in the script. -/
theorem mem (plays : Plays script shown through) {cue : Cue} (member : cue ∈ shown)
    : cue ∈ script :=
  plays.begins.subset member

end Plays

/-- Between two states, this much of a script was added to what is shown. -/
def Performs {State Cue : Type} (shown : State → List Cue) (script : List Cue)
    (before after : State) (through : Prop)
    : Prop :=
  ∃ added, shown after = shown before ++ added ∧ Plays script added through

namespace Performs

variable {State Cue : Type} {shown : State → List Cue} {script later : List Cue}
  {before middle after : State} {through : Prop}

/-- Where nothing is to be shown, nothing is. -/
theorem silent (same : shown after = shown before) (through : Prop)
    : Performs shown [] before after through :=
  ⟨[], by rw [same, List.append_nil], .all [] through⟩

/-- A script that was shown as a whole. -/
theorem whole (added : shown after = shown before ++ script) (through : Prop)
    : Performs shown script before after through :=
  ⟨script, added, .all script through⟩

theorem stopped (performs : Performs shown script before after through) (later : List Cue)
    {done : Prop} (failed : ¬ done)
    : Performs shown (script ++ later) before after done :=
  have ⟨added, shows, plays⟩ := performs
  ⟨added, shows, plays.stopped later failed⟩

theorem followed (performs : Performs shown script before middle True)
    (next : Performs shown later middle after through)
    : Performs shown (script ++ later) before after through := by
  obtain ⟨added, shows, plays⟩ := performs
  obtain ⟨more, also, goes⟩ := next
  exact ⟨added ++ more, by rw [also, shows, List.append_assoc], plays.followed goes⟩

/-- What is shown is what counts of a state. -/
theorem congr (performs : Performs shown script before middle through)
    (same : shown after = shown middle)
    : Performs shown script before after through :=
  have ⟨added, shows, plays⟩ := performs
  ⟨added, same.trans shows, plays⟩

/-- A procedure that went through, as far as that is known. -/
theorem through_of (performs : Performs shown script before after through) {done : Prop}
    (same : done → through)
    : Performs shown script before after done :=
  have ⟨added, shows, plays⟩ := performs
  ⟨added, shows, plays.begins, fun ended => plays.whole (same ended)⟩

end Performs

end KeypadBridge.Foundation
