import KeypadBridge.Foundation.Machine
import KeypadBridge.Session.Negotiation

/-! Runs of a session, and the representation invariant over every one of them. Each of the
three ways a call moves the contexts keeps them well formed.
-/

namespace KeypadBridge
open KeypadBridge.Foundation

-----------------------------------------------------------------------------------------
-- The steps keep the contexts well formed
-----------------------------------------------------------------------------------------

namespace Contexts
open CryptoContext (SeqDistinct)

/-- A connection boundary: the overlap ends. -/
def boundary (held : Contexts) : Contexts :=
  { held with retired := {}, active := held.active.settled }

theorem WellFormed.boundary {held : Contexts} (wf : held.WellFormed)
    : held.boundary.WellFormed where
  exclusive := fun _ => rfl
  pendingActive := wf.pendingActive.congr rfl rfl rfl rfl
  retiredActive := .of_invalid rfl
  retiredNeeds := by simp [Contexts.boundary]
  allowanceNeeds := by simp [Contexts.boundary]
  pendingUnused := wf.pendingUnused
  blankActive := fun invalid => congrArg CryptoContext.settled (wf.blankActive invalid)
  blankPending := wf.blankPending
  blankRetired := fun _ => rfl
  activeHead := wf.activeHead
  retiredHead := CryptoContext.blank_head

/-- Updates of a valid active context that keep its IV, keep its head in range and arm
nothing keep the contexts well formed.
-/
theorem WellFormed.mapActive {held : Contexts} (wf : held.WellFormed)
    {active : CryptoContext} (inUse : held.active.valid = true)
    (iv : active.iv = held.active.iv) (valid : active.valid = held.active.valid)
    (head : active.replayHead < replayHistorySize)
    (allowed : active.lateActionAllowed = true → held.active.lateActionAllowed = true)
    : { held with active := active }.WellFormed :=
  { wf with
    pendingActive := wf.pendingActive.congr rfl rfl valid iv
    retiredActive := wf.retiredActive.congr rfl rfl valid iv
    retiredNeeds := fun retired => ⟨valid.trans inUse, (wf.retiredNeeds retired).2⟩
    allowanceNeeds := fun armed => ⟨valid.trans inUse, (wf.allowanceNeeds (allowed armed)).2⟩
    blankActive := by
      intro invalid
      simp [valid, inUse] at invalid
    activeHead := head }

/-- Every answer to a request keeps the contexts well formed. -/
theorem WellFormed.request {held after : Contexts} {requestedSlot : UInt8} {iv : Iv}
    {drawn : Bool} (wf : held.WellFormed)
    (step : RequestStep held requestedSlot after iv drawn)
    : after.WellFormed := by
  cases step with
  | resent => exact wf
  | restarted other =>
      exact {
        exclusive := fun _ => rfl
        pendingActive := (SeqDistinct.of_invalid rfl).symm
        retiredActive := .of_invalid rfl
        retiredNeeds := by simp
        allowanceNeeds := by simp
        pendingUnused := rfl
        blankActive := fun _ => rfl
        blankPending := by simp
        blankRetired := fun _ => rfl
        activeHead := CryptoContext.blank_head
        retiredHead := CryptoContext.blank_head
      }
  | rotated same noOffer distinct =>
      exact {
        exclusive := fun _ => rfl
        pendingActive := (SeqDistinct.of_draw distinct).congr rfl rfl (by simp) (by simp)
        retiredActive := .of_invalid rfl
        retiredNeeds := by simp
        allowanceNeeds := by
          intro allowed
          cases valid : held.active.valid with
          | false =>
              rw [wf.blankActive valid] at allowed
              simp [CryptoContext.superseded] at allowed
          | true =>
              refine ⟨by simp [valid], rfl, ?_⟩
              simpa [CryptoContext.superseded, valid] using allowed
        pendingUnused := rfl
        blankActive := by
          intro invalid
          simp only [CryptoContext.superseded_valid] at invalid
          simp [CryptoContext.superseded, wf.blankActive invalid]
        blankPending := by simp
        blankRetired := fun _ => rfl
        activeHead := by simpa using wf.activeHead
        retiredHead := CryptoContext.blank_head
      }

/-- Every opened frame keeps the contexts well formed, by cases on its step. -/
theorem WellFormed.frame {held after : Contexts} {opened : LockSession.OpenedFrame}
    {action : Action} (wf : held.WellFormed)
    (inUse : (held.context opened.ref).valid = true)
    (step : LockSession.FrameStep held opened after action)
    : after.WellFormed := by
  cases step with
  | promoted bound =>
      rw [bound] at inUse
      have alone : held.retired.valid = false := wf.exclusive inUse
      have pendingHead : held.pending.replayHead < replayHistorySize := by
        rw [wf.pendingUnused]
        exact CryptoContext.blank_head
      exact {
        exclusive := by simp
        pendingActive := .of_invalid rfl
        retiredActive := by
          split
          · exact wf.pendingActive.symm.congr rfl rfl (by simp) (by simp)
          · exact .of_invalid rfl
        retiredNeeds := by
          intro retained
          split at retained
          · rename_i armed
            simp only [Bool.and_eq_true] at armed
            simp only [armed.1, armed.2, Bool.and_self, if_true]
            exact ⟨by simpa [context] using inUse, (wf.allowanceNeeds armed.2).2.2, trivial⟩
          · simp at retained
        allowanceNeeds := by simp
        pendingUnused := rfl
        blankActive := by
          intro invalid
          simp only [CryptoContext.settled_valid, CryptoContext.recordAction_valid] at invalid
          exact absurd inUse (by simp [context, invalid])
        blankPending := fun _ => rfl
        blankRetired := by
          intro invalid
          split at invalid
          · rename_i armed
            simp only [Bool.and_eq_true] at armed
            simp [(wf.allowanceNeeds armed.2).1] at invalid
          · rename_i unarmed
            rw [if_neg unarmed]
        activeHead := CryptoContext.recordAction_head opened pendingHead
        retiredHead := by
          split
          · exact wf.activeHead
          · exact CryptoContext.blank_head
      }
  | current bound =>
      rw [bound] at inUse
      exact (wf.mapActive inUse (by simp) (by simp)
        (CryptoContext.recordAction_head opened wf.activeHead) (by simp)).dropRetired
  | currentReplay | retiredAccepted | retiredRefused => exact wf.dropRetired
  | predecessorPoll bound =>
      rw [bound] at inUse
      exact wf.mapActive inUse (by simp) (by simp) (by simpa using wf.activeHead)
        CryptoContext.allowed_of_notePoll
  | lateUnlock bound =>
      rw [bound] at inUse
      exact wf.mapActive inUse (by simp) (by simp)
        (CryptoContext.recordCiphertext_head _ wf.activeHead) (by simp)
  | predecessorRefused bound =>
      rw [bound] at inUse
      exact wf.mapActive inUse rfl rfl wf.activeHead (by simp)

end Contexts

-----------------------------------------------------------------------------------------
-- Operations and runs
-----------------------------------------------------------------------------------------

/-- The calls a user of the session makes. The slot is forgotten only right after a reset. -/
inductive SessionOp where
  | frame (env : FrameEnv) (bytes : Bytes)
  | reset
  | resetTransport
  | resetForget
  | setAesKey (key : PsaKeyId)

/-- One operation; only a frame has an outcome. -/
def LockSession.perform (keystream : Keystream) (session : LockSession)
    : SessionOp → LockSession × Option LockSession.FrameOutcome
  | .frame env bytes =>
      let outcome := session.processFrame keystream env bytes
      (outcome.session, some outcome)
  | .reset => (session.reset, none)
  | .resetTransport => (session.resetTransport, none)
  | .resetForget => (session.reset.forgetSlot, none)
  | .setAesKey key => (session.setAesKey key, none)

/-- The session as a machine over its operations. -/
def sessionMachine (keystream : Keystream)
    : Machine LockSession SessionOp (Option LockSession.FrameOutcome) where
  step := LockSession.perform keystream

/-- Some sequence of operations leads a new session here. -/
def LockSession.Reachable (keystream : Keystream) (session : LockSession) : Prop :=
  ∃ ops, (sessionMachine keystream).run {} ops = session

namespace LockSession

/-- One call of `process_frame` keeps the contexts well formed. -/
theorem Processed.wellFormed {keystream : Keystream} {env : FrameEnv}
    {session : LockSession} {frame : Bytes} {outcome : FrameOutcome}
    (wf : session.contexts.WellFormed)
    (processed : Processed keystream env session frame outcome)
    : outcome.session.contexts.WellFormed := by
  cases processed with
  | request =>
      exact wf.request (answerIvRequest_answered session.clearTransient _ _).step
  | ignored _ _ header drop =>
      rw [contexts_dropRetiredIf]
      split
      · exact wf.dropRetired
      · exact wf
  | opened _ opens step =>
      have matched := opens.bound_matches
      rw [← contexts_context] at matched
      exact wf.frame (CryptoContext.seqMatches_iff.mp matched).1 step

/-- Every operation keeps the contexts well formed. -/
theorem perform_wellFormed (keystream : Keystream) (session : LockSession) (op : SessionOp)
    (wf : session.contexts.WellFormed)
    : (session.perform keystream op).1.contexts.WellFormed := by
  cases op with
  | frame env bytes => exact (processFrame_processed keystream env wf bytes).wellFormed wf
  | reset => exact .blank session.slotId
  | resetTransport => exact wf.boundary
  | resetForget => exact .blank 0
  | setAesKey key => exact wf

/-- The contexts of every run from a well-formed session are well formed. -/
theorem run_wellFormed (keystream : Keystream) {session : LockSession}
    (wf : session.contexts.WellFormed) (ops : List SessionOp)
    : ((sessionMachine keystream).run session ops).contexts.WellFormed :=
  (sessionMachine keystream).run_invariant (fun session => session.contexts.WellFormed) wf
    (perform_wellFormed keystream) ops

theorem wellFormed_new : ({} : LockSession).contexts.WellFormed := .blank 0

theorem Reachable.wellFormed {keystream : Keystream} {session : LockSession}
    (reachable : session.Reachable keystream)
    : session.contexts.WellFormed := by
  obtain ⟨ops, rfl⟩ := reachable
  exact run_wellFormed keystream wellFormed_new ops

/-- The representation invariant holds in every reachable state, so an encrypted frame
matches at most one context.
-/
theorem representation_invariant (keystream : Keystream) (ops : List SessionOp)
    : let session := (sessionMachine keystream).run {} ops
      (session.pending.valid && session.retired.valid) = false
      ∧ (∀ left right,
          (session.context left).valid = true
          → (session.context right).valid = true
          → left ≠ right
          → ((session.context left).iv.seqA, (session.context left).iv.seqB)
            ≠ ((session.context right).iv.seqA, (session.context right).iv.seqB))
      ∧ (session.retired.valid = true
          → session.active.valid = true
            ∧ session.slotId = 0xC6
            ∧ session.retired.lateActionAllowed = true)
      ∧ (session.active.lateActionAllowed = true
          → session.active.valid = true
            ∧ session.pending.valid = true
            ∧ session.slotId = 0xC6)
      ∧ (session.pending.replayHistory = Vector.replicate 8 {}
          ∧ session.pending.lateActionAllowed = false
          ∧ session.pending.handoffPollSeen = false)
      ∧ (∀ ref, (session.context ref).replayHead < 8)
      ∧ ∀ header left right,
          (session.context left).seqMatches header = true
          → (session.context right).seqMatches header = true
          → left = right := by
  intro session
  have wf : session.contexts.WellFormed :=
    run_wellFormed keystream wellFormed_new ops
  have unique (header : FrameHeader) (left right : ContextRef)
      (hl : (session.context left).seqMatches header = true)
      (hr : (session.context right).seqMatches header = true)
      : left = right :=
    wf.match_unique (by rwa [contexts_context]) (by rwa [contexts_context])
  have unused := wf.pendingUnused
  rw [contexts_pending] at unused
  refine ⟨?_, ?_, wf.retiredNeeds, wf.allowanceNeeds, ?_, ?_, unique⟩
  · cases offer : session.pending.valid with
    | false => rfl
    | true => exact wf.exclusive offer
  · intro left right validLeft validRight different same
    let header : FrameHeader :=
      ⟨0, (session.context left).iv.seqA, (session.context left).iv.seqB⟩
    exact different (unique header left right
      (CryptoContext.seqMatches_iff.mpr ⟨validLeft, rfl⟩)
      (CryptoContext.seqMatches_iff.mpr ⟨validRight, same.symm⟩))
  · exact ⟨congrArg CryptoContext.replayHistory unused,
      congrArg CryptoContext.lateActionAllowed unused,
      congrArg CryptoContext.handoffPollSeen unused⟩
  · intro ref
    cases ref with
    | pending =>
        have head := congrArg CryptoContext.replayHead unused
        simp only [context, head]
        decide
    | active => exact wf.activeHead
    | retired => exact wf.retiredHead

end LockSession

end KeypadBridge
