import KeypadBridge.Foundation.RekeyingLaws
import KeypadBridge.Session.Generations

/-! The session refines the re-keying receiver: its three contexts and their flags are a
phase, and each of its operations is a step. The laws of re-keying then hold of every run.
-/

namespace KeypadBridge
open KeypadBridge.Foundation
open KeypadBridge.Foundation.Rekeying
open LockSession (OpenedFrame FrameStep)

/-- Polls may be repeated at will; an unlock by a known method may still arrive late. -/
def lockPolicy : Policy DecryptedFrame where
  idempotent frame := frame.isPoll
  urgent frame := frame.opened.isFastUnlock

/-- The capability that the two hand-off flags encode. -/
def CryptoContext.allowance (context : CryptoContext) : Allowance :=
  if context.lateActionAllowed then .armed context.handoffPollSeen else .spent

namespace Contexts

/-- The phase that the validity of the three contexts encodes. -/
def phase (held : Contexts) (ledger : Ledger) : Phase :=
  if held.pending.valid then
    if held.active.valid then
      .rotating ledger.active ledger.pending held.active.allowance
    else .offered ledger.pending
  else if held.active.valid then
    if held.retired.valid then .overlapped ledger.retired ledger.active
    else .settled ledger.active
  else .idle

def receiver (held : Contexts) (ledger : Ledger) : Receiver :=
  ⟨ledger.drawn, held.phase ledger⟩

section

variable (held : Contexts) (ledger : Ledger)

theorem receiver_rotating (pending : held.pending.valid = true)
    (active : held.active.valid = true)
    : held.receiver ledger
      = ⟨ledger.drawn, .rotating ledger.active ledger.pending held.active.allowance⟩ := by
  simp [receiver, phase, pending, active]

theorem receiver_offered (pending : held.pending.valid = true)
    (active : held.active.valid = false)
    : held.receiver ledger = ⟨ledger.drawn, .offered ledger.pending⟩ := by
  simp [receiver, phase, pending, active]

theorem receiver_overlapped (pending : held.pending.valid = false)
    (active : held.active.valid = true) (retired : held.retired.valid = true)
    : held.receiver ledger
      = ⟨ledger.drawn, .overlapped ledger.retired ledger.active⟩ := by
  simp [receiver, phase, pending, active, retired]

theorem receiver_settled (pending : held.pending.valid = false)
    (active : held.active.valid = true) (retired : held.retired.valid = false)
    : held.receiver ledger = ⟨ledger.drawn, .settled ledger.active⟩ := by
  simp [receiver, phase, pending, active, retired]

theorem receiver_idle (pending : held.pending.valid = false)
    (active : held.active.valid = false)
    : held.receiver ledger = ⟨ledger.drawn, .idle⟩ := by
  simp [receiver, phase, pending, active]

end

end Contexts

/-- What the re-keying receiver sees of an event. A draw arms the late action for the one
slot whose keypads overlap generations.
-/
def SessionEvent.label : SessionEvent → Label DecryptedFrame
  | .drew generation slot _ => .draw generation (slot = visionKeySlot)
  | .resent _ _ => .reoffer
  | .accepted frame => .accept frame.generation frame
  | .refused frame => .refuse frame.generation frame
  | .ignored => .ignore
  | .transportReset => .boundary
  | .reset | .resetForget => .restart
  | .keySet => .ignore

namespace CryptoContext

@[simp] theorem settled_allowance (context : CryptoContext)
    : context.settled.allowance = .spent := rfl

@[simp] theorem withoutAllowance_allowance (context : CryptoContext)
    : context.withoutAllowance.allowance = .spent := rfl

theorem notePoll_allowance (context : CryptoContext)
    : context.notePoll.allowance = context.allowance.afterPoll := by
  cases allowed : context.lateActionAllowed <;> cases seen : context.handoffPollSeen <;>
    simp [notePoll, allowance, Allowance.afterPoll, allowed, seen]

theorem superseded_allowance {context : CryptoContext} {slotId : UInt8}
    (valid : context.valid = true)
    : (context.superseded slotId).allowance = .initial (slotId = visionKeySlot) := by
  by_cases vision : slotId = visionKeySlot <;>
    simp [superseded, allowance, Allowance.initial, valid, vision]

theorem allowance_of_allowed {context : CryptoContext}
    (allowed : context.lateActionAllowed = true)
    : context.allowance = .armed context.handoffPollSeen := by
  simp [allowance, allowed]

theorem allowance_of_disallowed {context : CryptoContext}
    (disallowed : context.lateActionAllowed = false)
    : context.allowance = .spent := by
  simp [allowance, disallowed]

end CryptoContext

variable {held after : Contexts} {ledger : Ledger}

/-- A fresh draw is a draw of the receiver. -/
theorem RequestStep.simulates {slot : UInt8} {iv : Iv}
    (step : RequestStep held slot after iv true)
    : Step lockPolicy (held.receiver ledger) (.draw ledger.drawn (slot = visionKeySlot))
        (after.receiver ledger.afterDraw) := by
  generalize drawn : true = draws at step
  cases step with
  | resent => simp at drawn
  | restarted other =>
      rw [Contexts.receiver_offered _ ledger.afterDraw]
      · exact .drawAlone
      · rfl
      · rfl
  | rotated same noOffer distinct =>
      subst same
      cases active : held.active.valid with
      | false =>
          rw [held.receiver_idle ledger noOffer active, Contexts.receiver_offered]
          · exact .drawAlone
          · rfl
          · simpa using active
      | true =>
          rw [Contexts.receiver_rotating _ ledger.afterDraw]
          · rw [CryptoContext.superseded_allowance active]
            cases retired : held.retired.valid with
            | false =>
                rw [held.receiver_settled ledger noOffer active retired]
                exact .drawSettled
            | true =>
                rw [held.receiver_overlapped ledger noOffer active retired]
                exact .drawOverlapped
          · rfl
          · simpa using active

/-- A promotion adopts the offer, or commits the rotation; a poll that finds the late action
still armed keeps the predecessor.
-/
theorem simulates_promoted {frame : DecryptedFrame} (wf : held.WellFormed)
    (offer : held.pending.valid = true)
    : Step lockPolicy (held.receiver ledger) (.accept ledger.pending frame)
        ({ held with
            active := (held.pending.recordAction frame.opened).settled
            pending := {}
            retired :=
              if frame.opened.isPoll && held.active.lateActionAllowed then held.active
              else {} }.receiver
          (ledger.afterAccept .pending)) := by
  have promoted : (held.pending.recordAction frame.opened).settled.valid = true := by
    simpa using offer
  cases active : held.active.valid with
  | false =>
      have alone : held.active.lateActionAllowed = false := by
        rw [wf.blankActive active]
      rw [held.receiver_offered ledger offer active, Contexts.receiver_settled]
      · exact .adopt
      · rfl
      · exact promoted
      · simp [alone]
  | true =>
      rw [held.receiver_rotating ledger offer active]
      cases retains : frame.opened.isPoll && held.active.lateActionAllowed with
      | true =>
          simp only [Bool.and_eq_true] at retains
          rw [CryptoContext.allowance_of_allowed retains.2, Contexts.receiver_overlapped]
          · exact .commitRetaining retains.1
          · rfl
          · exact promoted
          · simpa using active
      | false =>
          rw [Contexts.receiver_settled]
          · refine .commit ?_
            rcases Bool.and_eq_false_iff.mp retains with effect | disallowed
            · exact .inl effect
            · exact .inr (CryptoContext.allowance_of_disallowed disallowed)
          · rfl
          · exact promoted
          · rfl

/-- An accepted frame is accepted by the receiver, under the same generation. -/
theorem simulates_accept {frame : DecryptedFrame} (wf : held.WellFormed)
    (inUse : (held.context frame.opened.ref).valid = true)
    (generation : frame.generation = ledger.generation frame.opened.ref)
    (step : FrameStep held frame.opened after .command)
    : Step lockPolicy (held.receiver ledger) (.accept frame.generation frame)
        (after.receiver (ledger.afterAccept frame.opened.ref)) := by
  rw [generation]
  generalize accepted : Action.command = action at step
  cases step with
  | promoted bound =>
      rw [bound] at inUse ⊢
      exact simulates_promoted wf inUse
  | current bound noOffer fresh =>
      rw [bound] at inUse ⊢
      change held.active.valid = true at inUse
      rw [Contexts.receiver_settled _ (ledger.afterAccept .active)]
      · cases retired : held.retired.valid with
        | false =>
            rw [held.receiver_settled ledger noOffer inUse retired]
            exact .current
        | true =>
            rw [held.receiver_overlapped ledger noOffer inUse retired]
            exact .overlapCurrent
      · exact noOffer
      · simpa using inUse
      · rfl
  | predecessorPoll bound offer poll =>
      rw [bound] at inUse ⊢
      change held.active.valid = true at inUse
      rw [held.receiver_rotating ledger offer inUse, Contexts.receiver_rotating]
      · rw [CryptoContext.notePoll_allowance]
        exact .predecessorPoll poll
      · exact offer
      · simpa using inUse
  | lateUnlock bound offer fast allowed fresh =>
      rw [bound] at inUse ⊢
      change held.active.valid = true at inUse
      have effect := OpenedFrame.not_isPoll_of_isAction
        (OpenedFrame.isAction_of_isFastUnlock fast)
      rw [held.receiver_rotating ledger offer inUse,
        CryptoContext.allowance_of_allowed allowed, Contexts.receiver_rotating]
      · rw [CryptoContext.withoutAllowance_allowance]
        exact .lateAction effect fast
      · exact offer
      · simpa using inUse
  | retiredAccepted bound admissible =>
      rw [bound] at inUse ⊢
      change held.retired.valid = true at inUse
      have active := (wf.retiredNeeds inUse).1
      have noOffer := wf.noOffer_of_retired inUse
      rw [held.receiver_overlapped ledger noOffer active inUse, Contexts.receiver_settled]
      · rcases admissible with poll | ⟨fast, _⟩
        · exact .overlapPoll poll
        · exact .overlapLateAction (OpenedFrame.not_isPoll_of_isAction
            (OpenedFrame.isAction_of_isFastUnlock fast)) fast
      · exact noOffer
      · exact active
      · rfl
  | currentReplay | predecessorRefused | retiredRefused => simp at accepted

/-- A decrypted frame that is dropped is refused by the receiver. -/
theorem simulates_refuse {frame : DecryptedFrame} (wf : held.WellFormed)
    (inUse : (held.context frame.opened.ref).valid = true)
    (generation : frame.generation = ledger.generation frame.opened.ref)
    (step : FrameStep held frame.opened after .none)
    : Step lockPolicy (held.receiver ledger) (.refuse frame.generation frame)
        (after.receiver ledger) := by
  rw [generation]
  generalize refused : Action.none = action at step
  cases step with
  | currentReplay bound noOffer replay =>
      rw [bound] at inUse ⊢
      change held.active.valid = true at inUse
      cases retired : held.retired.valid with
      | false =>
          rw [held.receiver_settled ledger noOffer inUse retired, Contexts.receiver_settled]
          · exact .currentRefused
          · exact noOffer
          · exact inUse
          · rfl
      | true =>
          rw [held.receiver_overlapped ledger noOffer inUse retired,
            Contexts.receiver_settled]
          · exact .overlapCurrentRefused
          · exact noOffer
          · exact inUse
          · rfl
  | predecessorRefused bound offer effect =>
      rw [bound] at inUse ⊢
      change held.active.valid = true at inUse
      rw [held.receiver_rotating ledger offer inUse, Contexts.receiver_rotating]
      · exact .predecessorRefused effect
      · exact offer
      · exact inUse
  | retiredRefused bound effect =>
      rw [bound] at inUse ⊢
      change held.retired.valid = true at inUse
      have active := (wf.retiredNeeds inUse).1
      have noOffer := wf.noOffer_of_retired inUse
      rw [held.receiver_overlapped ledger noOffer active inUse, Contexts.receiver_settled]
      · exact .overlapRefused effect
      · exact noOffer
      · exact active
      · rfl
  | promoted | current | predecessorPoll | lateUnlock | retiredAccepted => simp at refused

/-- A connection boundary revokes the overlap. -/
theorem simulates_boundary (held : Contexts) (ledger : Ledger)
    : Step lockPolicy (held.receiver ledger) .boundary (held.boundary.receiver ledger) := by
  have boundary : held.boundary.receiver ledger
      = ⟨ledger.drawn, (held.phase ledger).afterBoundary⟩ := by
    cases pending : held.pending.valid <;> cases active : held.active.valid <;>
      cases retired : held.retired.valid <;>
      simp [Contexts.receiver, Contexts.phase, Contexts.boundary, Phase.afterBoundary,
        pending, active, retired]
  rw [boundary]
  exact .boundary

/-- Every move of the session is a step of the re-keying receiver. -/
theorem Moves.simulates {event : SessionEvent} {later : Ledger} (wf : held.WellFormed)
    (moves : Moves held ledger event after later)
    : Step lockPolicy (held.receiver ledger) event.label (after.receiver later) := by
  cases moves with
  | drew step => exact step.simulates
  | resent => exact .reoffer
  | accepted _ inUse generation _ _ _ _ step => exact simulates_accept wf inUse generation step
  | refused _ inUse generation step => exact simulates_refuse wf inUse generation step
  | ignored | keySet => exact .ignore
  | ignoredClosing retired =>
      have active := (wf.retiredNeeds retired).1
      have noOffer := wf.noOffer_of_retired retired
      rw [held.receiver_overlapped ledger noOffer active retired, Contexts.receiver_settled]
      · exact .ignoreClosing
      · exact noOffer
      · exact active
      · rfl
  | transportReset => exact simulates_boundary held ledger
  | reset | resetForget =>
      rw [Contexts.receiver_idle (.blank _) ledger rfl rfl]
      exact .restart

/-- Every run of the session is a run of the re-keying receiver, by induction on its moves.
-/
theorem MoveRun.simulates {events : List SessionEvent} {ledger : Ledger}
    (run : MoveRun events held ledger)
    : Run lockPolicy {} (events.map SessionEvent.label) (held.receiver ledger) := by
  induction run with
  | new => exact .refl
  | snoc _ wf moves ih =>
      rw [List.map_append]
      exact .snoc ih (moves.simulates wf)

end KeypadBridge
