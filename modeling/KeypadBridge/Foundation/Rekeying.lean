import Mathlib.Data.List.Induction

/-! Re-keying with one overlapping predecessor. A receiver offers fresh key generations and
adopts an offered one when the first message under it arrives. While the peer switches over,
the generation before the newest one stays open for idempotent messages and for one urgent
message.

Generations are numbered in the order they are drawn. Nothing here fixes what messages,
keys or drawing are.
-/

namespace KeypadBridge.Foundation.Rekeying

/-- Which messages may be repeated at will, and which may still arrive late. -/
structure Policy (Message : Type) where
  idempotent : Message → Bool
  urgent : Message → Bool

/-- The capability of the predecessor to deliver one late message. An armed allowance also
records whether an idempotent message has already used up the tolerance for one.
-/
inductive Allowance where
  | spent
  | armed (pollSeen : Bool)
  deriving DecidableEq

namespace Allowance

/-- A fresh draw arms the allowance or leaves it spent. -/
def initial (arms : Bool) : Allowance := if arms then .armed false else .spent

/-- The first idempotent predecessor message is tolerated, the second spends the allowance. -/
def afterPoll : Allowance → Allowance
  | .armed false => .armed true
  | .armed true => .spent
  | .spent => .spent

end Allowance

/-- The generations a receiver holds. A phase names at most two, so a third generation or an
offer beside a retired generation cannot be written down.
-/
inductive Phase where
  | idle
  | offered (next : Nat)
  | settled (current : Nat)
  | rotating (current next : Nat) (allowance : Allowance)
  | overlapped (previous current : Nat)
  deriving DecidableEq

/-- A receiver: how many generations it has drawn, and its phase. -/
structure Receiver where
  drawn : Nat := 0
  phase : Phase := .idle

/-- What an observer sees of one step. -/
inductive Label (Message : Type) where
  | draw (generation : Nat) (arms : Bool)
  | reoffer
  | accept (generation : Nat) (message : Message)
  | refuse (generation : Nat) (message : Message)
  | ignore
  | boundary
  | restart

/-- A connection boundary revokes what the predecessor was still allowed to do. -/
def Phase.afterBoundary : Phase → Phase
  | .rotating current next _ => .rotating current next .spent
  | .overlapped _ current => .settled current
  | phase => phase

variable {Message : Type}

/-- The receiver's steps. -/
inductive Step (policy : Policy Message) : Receiver → Label Message → Receiver → Prop
  /-- A negotiation from scratch forgets every generation held before. -/
  | drawAlone {drawn phase arms}
    : Step policy ⟨drawn, phase⟩ (.draw drawn arms) ⟨drawn + 1, .offered drawn⟩
  | drawSettled {drawn current arms}
    : Step policy ⟨drawn, .settled current⟩ (.draw drawn arms)
        ⟨drawn + 1, .rotating current drawn (.initial arms)⟩
  | drawOverlapped {drawn previous current arms}
    : Step policy ⟨drawn, .overlapped previous current⟩ (.draw drawn arms)
        ⟨drawn + 1, .rotating current drawn (.initial arms)⟩
  | reoffer {receiver} : Step policy receiver .reoffer receiver
  | adopt {drawn next message}
    : Step policy ⟨drawn, .offered next⟩ (.accept next message) ⟨drawn, .settled next⟩
  | current {drawn current message}
    : Step policy ⟨drawn, .settled current⟩ (.accept current message)
        ⟨drawn, .settled current⟩
  | currentRefused {drawn current message}
    : Step policy ⟨drawn, .settled current⟩ (.refuse current message)
        ⟨drawn, .settled current⟩
  /-- Only an idempotent message can commit a rotation and keep the predecessor. -/
  | commitRetaining {drawn current next pollSeen message}
    (idempotent : policy.idempotent message = true)
    : Step policy ⟨drawn, .rotating current next (.armed pollSeen)⟩ (.accept next message)
        ⟨drawn, .overlapped current next⟩
  | commit {drawn current next allowance message}
    (dropping : policy.idempotent message = false ∨ allowance = .spent)
    : Step policy ⟨drawn, .rotating current next allowance⟩ (.accept next message)
        ⟨drawn, .settled next⟩
  | predecessorPoll {drawn current next allowance message}
    (idempotent : policy.idempotent message = true)
    : Step policy ⟨drawn, .rotating current next allowance⟩ (.accept current message)
        ⟨drawn, .rotating current next allowance.afterPoll⟩
  | lateAction {drawn current next pollSeen message}
    (effect : policy.idempotent message = false) (urgent : policy.urgent message = true)
    : Step policy ⟨drawn, .rotating current next (.armed pollSeen)⟩
        (.accept current message) ⟨drawn, .rotating current next .spent⟩
  | predecessorRefused {drawn current next allowance message}
    (effect : policy.idempotent message = false)
    : Step policy ⟨drawn, .rotating current next allowance⟩ (.refuse current message)
        ⟨drawn, .rotating current next .spent⟩
  /-- The next message under either generation ends the overlap. -/
  | overlapCurrent {drawn previous current message}
    : Step policy ⟨drawn, .overlapped previous current⟩ (.accept current message)
        ⟨drawn, .settled current⟩
  | overlapCurrentRefused {drawn previous current message}
    : Step policy ⟨drawn, .overlapped previous current⟩ (.refuse current message)
        ⟨drawn, .settled current⟩
  | overlapPoll {drawn previous current message}
    (idempotent : policy.idempotent message = true)
    : Step policy ⟨drawn, .overlapped previous current⟩ (.accept previous message)
        ⟨drawn, .settled current⟩
  | overlapLateAction {drawn previous current message}
    (effect : policy.idempotent message = false) (urgent : policy.urgent message = true)
    : Step policy ⟨drawn, .overlapped previous current⟩ (.accept previous message)
        ⟨drawn, .settled current⟩
  | overlapRefused {drawn previous current message}
    (effect : policy.idempotent message = false)
    : Step policy ⟨drawn, .overlapped previous current⟩ (.refuse previous message)
        ⟨drawn, .settled current⟩
  | ignore {receiver} : Step policy receiver .ignore receiver
  | ignoreClosing {drawn previous current}
    : Step policy ⟨drawn, .overlapped previous current⟩ .ignore ⟨drawn, .settled current⟩
  | boundary {drawn phase}
    : Step policy ⟨drawn, phase⟩ .boundary ⟨drawn, phase.afterBoundary⟩
  | restart {drawn phase} : Step policy ⟨drawn, phase⟩ .restart ⟨drawn, .idle⟩

/-- A run with the labels observed along it. -/
inductive Run (policy : Policy Message) (start : Receiver)
    : List (Label Message) → Receiver → Prop
  | refl : Run policy start [] start
  | snoc {labels middle label finish}
    (run : Run policy start labels middle) (step : Step policy middle label finish)
    : Run policy start (labels ++ [label]) finish

/-- The last observation of a run was made by its last step. -/
theorem Run.unsnoc {policy : Policy Message} {start finish labels label}
    (run : Run policy start (labels ++ [label]) finish)
    : ∃ middle, Run policy start labels middle ∧ Step policy middle label finish := by
  generalize observed : labels ++ [label] = all at run
  cases run with
  | refl => simp at observed
  | snoc earlier step =>
      obtain ⟨rfl, same⟩ := List.append_inj' observed rfl
      obtain rfl := (List.cons.inj same).1
      exact ⟨_, earlier, step⟩

/-- A run splits where its observations split, by induction on the later ones. -/
theorem Run.split {policy : Policy Message} {start finish first second}
    (run : Run policy start (first ++ second) finish)
    : ∃ middle, Run policy start first middle ∧ Run policy middle second finish := by
  induction second using List.reverseRecOn generalizing finish with
  | nil => exact ⟨finish, by simpa using run, .refl⟩
  | append_singleton earlier label ih =>
      rw [← List.append_assoc] at run
      obtain ⟨before, run, step⟩ := run.unsnoc
      obtain ⟨middle, head, tail⟩ := ih run
      exact ⟨middle, head, .snoc tail step⟩

/-- A run split around one observation exposes the step that made it. -/
theorem Run.split_at {policy : Policy Message} {start finish first label second}
    (run : Run policy start (first ++ label :: second) finish)
    : ∃ before after,
        Run policy start first before
        ∧ Step policy before label after
        ∧ Run policy after second finish := by
  rw [show first ++ label :: second = (first ++ [label]) ++ second by simp] at run
  obtain ⟨after, head, tail⟩ := run.split
  obtain ⟨before, earlier, step⟩ := head.unsnoc
  exact ⟨before, after, earlier, step, tail⟩

/-- What every step preserves holds at the end of every run. -/
theorem Run.invariant {policy : Policy Message} {start finish labels}
    {invariant : Receiver → Prop}
    (run : Run policy start labels finish) (initial : invariant start)
    (preserved
      : ∀ {before label after},
          invariant before → Step policy before label after → invariant after)
    : invariant finish := by
  induction run with
  | refl => exact initial
  | snoc _ step ih => exact preserved ih step

end KeypadBridge.Foundation.Rekeying
