import KeypadBridge.Session.Opening
import KeypadBridge.Session.WellFormed

/-! What one accepted or refused frame may do to a context: record the ciphertext, note a
poll, take the allowance away. None of these updates touches the IV or the validity.
-/

namespace KeypadBridge

namespace CryptoContext
open LockSession (OpenedFrame)

/-- The late-action allowance taken away. -/
def withoutAllowance (context : CryptoContext) : CryptoContext :=
  { context with lateActionAllowed := false }

/-- Both hand-off flags cleared, as on promotion. -/
def settled (context : CryptoContext) : CryptoContext :=
  { context with lateActionAllowed := false, handoffPollSeen := false }

/-- A predecessor poll noted: the first is tolerated, the second closes the allowance. -/
def notePoll (context : CryptoContext) : CryptoContext :=
  if context.lateActionAllowed then
    if context.handoffPollSeen then { context with lateActionAllowed := false }
    else { context with handoffPollSeen := true }
  else context

/-- The ciphertext of an accepted frame recorded, if its command is filtered for replays. -/
def recordAction (context : CryptoContext) (opened : OpenedFrame) : CryptoContext :=
  if opened.command.isAction then context.recordCiphertext opened.ciphertext else context

section

variable (context : CryptoContext) (opened : OpenedFrame)

@[simp] theorem withoutAllowance_withoutAllowance
    : context.withoutAllowance.withoutAllowance = context.withoutAllowance := rfl

@[simp] theorem withoutAllowance_iv : context.withoutAllowance.iv = context.iv := rfl
@[simp] theorem withoutAllowance_valid : context.withoutAllowance.valid = context.valid := rfl

@[simp] theorem withoutAllowance_lateActionAllowed
    : context.withoutAllowance.lateActionAllowed = false := rfl

/-- Recording does not look at the allowance. -/
theorem recordCiphertext_withoutAllowance (ciphertext : Bytes)
    : context.withoutAllowance.recordCiphertext ciphertext
      = (context.recordCiphertext ciphertext).withoutAllowance := by
  unfold recordCiphertext
  split <;> rfl

@[simp] theorem settled_iv : context.settled.iv = context.iv := rfl
@[simp] theorem settled_valid : context.settled.valid = context.valid := rfl
@[simp] theorem settled_lateActionAllowed : context.settled.lateActionAllowed = false := rfl

/-- Noting a poll touches the two hand-off flags only. -/
theorem notePoll_eq
    : ∃ allowed pollSeen,
        context.notePoll
          = { context with lateActionAllowed := allowed, handoffPollSeen := pollSeen } := by
  unfold notePoll
  split
  · split
    · exact ⟨_, _, rfl⟩
    · exact ⟨_, _, rfl⟩
  · exact ⟨_, _, rfl⟩

@[simp] theorem notePoll_iv : context.notePoll.iv = context.iv := by
  obtain ⟨_, _, noted⟩ := context.notePoll_eq
  rw [noted]

@[simp] theorem notePoll_valid : context.notePoll.valid = context.valid := by
  obtain ⟨_, _, noted⟩ := context.notePoll_eq
  rw [noted]

@[simp] theorem notePoll_replayHead : context.notePoll.replayHead = context.replayHead := by
  obtain ⟨_, _, noted⟩ := context.notePoll_eq
  rw [noted]

@[simp] theorem notePoll_replayHistory
    : context.notePoll.replayHistory = context.replayHistory := by
  obtain ⟨_, _, noted⟩ := context.notePoll_eq
  rw [noted]

@[simp] theorem recordAction_iv : (context.recordAction opened).iv = context.iv := by
  unfold recordAction
  split <;> simp

@[simp] theorem recordAction_valid
    : (context.recordAction opened).valid = context.valid := by
  unfold recordAction
  split <;> simp

@[simp] theorem recordAction_lateActionAllowed
    : (context.recordAction opened).lateActionAllowed = context.lateActionAllowed := by
  unfold recordAction
  split <;> simp

@[simp] theorem recordAction_handoffPollSeen
    : (context.recordAction opened).handoffPollSeen = context.handoffPollSeen := by
  unfold recordAction
  split <;> simp

end

/-- Noting a poll never arms the allowance. -/
theorem allowed_of_notePoll {context : CryptoContext}
    (allowed : context.notePoll.lateActionAllowed = true)
    : context.lateActionAllowed = true := by
  unfold notePoll at allowed
  split at allowed
  · assumption
  · exact allowed

/-- Noting a poll never forgets an earlier one. -/
theorem pollSeen_notePoll {context : CryptoContext} (seen : context.handoffPollSeen = true)
    : context.notePoll.handoffPollSeen = true := by
  cases allowed : context.lateActionAllowed <;> simp [notePoll, allowed, seen]

theorem recordAction_head {context : CryptoContext} (opened : OpenedFrame)
    (inside : context.replayHead < replayHistorySize)
    : (context.recordAction opened).replayHead < replayHistorySize := by
  unfold recordAction
  split
  · exact recordCiphertext_head _ inside
  · exact inside

end CryptoContext

end KeypadBridge
