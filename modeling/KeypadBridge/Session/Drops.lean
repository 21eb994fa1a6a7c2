import KeypadBridge.Session.Wire

/-! A dropped frame never widens what is accepted: all it can do is end the hand-off of the
predecessor, and whatever the session accepts afterwards it would have accepted before.
-/

namespace KeypadBridge
open KeypadBridge.Foundation
open LockSession (OpenedFrame FrameStep Opens isIvRequest)

/-- `narrower` has lost the retired context or the active context's allowance at most. -/
structure Contexts.Narrows (held narrower : Contexts) : Prop where
  slotId : narrower.slotId = held.slotId
  pending : narrower.pending = held.pending
  active : narrower.active = held.active ∨ narrower.active = held.active.withoutAllowance
  retired : narrower.retired = held.retired ∨ narrower.retired = {}

/-- A refused frame narrows the contexts. -/
theorem LockSession.FrameStep.narrows {held after : Contexts} {opened : OpenedFrame}
    (step : FrameStep held opened after .none)
    : held.Narrows after := by
  generalize refused : Action.none = action at step
  cases step with
  | promoted | current | predecessorPoll | lateUnlock | retiredAccepted => simp at refused
  | currentReplay | retiredRefused => exact ⟨rfl, rfl, .inl rfl, .inr rfl⟩
  | predecessorRefused => exact ⟨rfl, rfl, .inr rfl, .inl rfl⟩

/-- Two contexts that differ in their hand-off flags and write position at most. -/
structure CryptoContext.Agrees (left right : CryptoContext) : Prop where
  valid : left.valid = right.valid
  iv : left.iv = right.iv
  replayHistory : left.replayHistory = right.replayHistory

namespace CryptoContext

theorem Agrees.of_eq {left right : CryptoContext} (same : left = right)
    : left.Agrees right :=
  same ▸ ⟨rfl, rfl, rfl⟩

theorem Agrees.of_withoutAllowance {left right : CryptoContext}
    (taken : left = right.withoutAllowance)
    : left.Agrees right :=
  taken ▸ ⟨rfl, rfl, rfl⟩

/-- Agreeing contexts match the same headers. -/
theorem Agrees.seqMatches_eq {left right : CryptoContext} (agrees : left.Agrees right)
    (header : FrameHeader)
    : left.seqMatches header = right.seqMatches header := by
  simp only [seqMatches, agrees.valid, agrees.iv]

/-- Agreeing contexts have seen the same ciphertexts. -/
theorem Agrees.isReplayedCiphertext_eq {left right : CryptoContext}
    (agrees : left.Agrees right) (ciphertext : Bytes)
    : left.isReplayedCiphertext ciphertext = right.isReplayedCiphertext ciphertext := by
  simp only [isReplayedCiphertext, agrees.replayHistory]

end CryptoContext

theorem Contexts.Narrows.active_agrees {held narrower : Contexts}
    (narrows : held.Narrows narrower)
    : narrower.active.Agrees held.active :=
  narrows.active.elim .of_eq .of_withoutAllowance

/-- A context that is still valid after narrowing is the old one, up to its allowance. -/
theorem Contexts.Narrows.context_agrees {held narrower : Contexts}
    (narrows : held.Narrows narrower) {ref : ContextRef}
    (valid : (narrower.context ref).valid = true)
    : (narrower.context ref).Agrees (held.context ref) := by
  cases ref with
  | pending => exact .of_eq narrows.pending
  | active => exact narrows.active_agrees
  | retired =>
      rcases narrows.retired with same | dropped
      · exact .of_eq same
      · simp [Contexts.context, dropped] at valid

/-- The allowance of the active context is taken away at most. -/
theorem Contexts.Narrows.allowed {held narrower : Contexts}
    (narrows : held.Narrows narrower) (allowed : narrower.active.lateActionAllowed = true)
    : held.active.lateActionAllowed = true := by
  rcases narrows.active with same | taken
  · rwa [same] at allowed
  · simp [taken] at allowed

namespace LockSession

/-- A frame without effect narrows the contexts and keeps the key. -/
theorem Processed.narrows {keystream : Keystream} {env : FrameEnv} {session : LockSession}
    {frame : Bytes} {outcome : FrameOutcome}
    (processed : Processed keystream env session frame outcome)
    (dropped : outcome.action = .none)
    : session.contexts.Narrows outcome.session.contexts
      ∧ outcome.session.aesKey = session.aesKey := by
  cases processed with
  | request => simp at dropped
  | ignored _ _ header drop =>
      cases drop with
      | false => exact ⟨⟨rfl, rfl, .inl rfl, .inl rfl⟩, rfl⟩
      | true => exact ⟨⟨rfl, rfl, .inl rfl, .inr rfl⟩, rfl⟩
  | opened _ _ step aesKey =>
      simp only at dropped
      subst dropped
      exact ⟨step.narrows, aesKey⟩

section

variable {keystream : Keystream} {env : FrameEnv} {session narrower : LockSession}
variable {frame : Bytes} {opened : OpenedFrame}

/-- A frame that opens after narrowing opened to the same before. -/
theorem Opens.of_narrows (opens : Opens keystream env narrower frame opened)
    (wf : session.contexts.WellFormed)
    (narrows : session.contexts.Narrows narrower.contexts)
    (aesKey : narrower.aesKey = session.aesKey)
    : Opens keystream env session frame opened := by
  have active : narrower.active.Agrees session.active := narrows.active_agrees
  have pending : narrower.pending = session.pending := narrows.pending
  have matched := opens.bound_matches
  have valid := (CryptoContext.seqMatches_iff.mp matched).1
  have bound : (narrower.context opened.ref).Agrees (session.context opened.ref) := by
    rw [← contexts_context] at valid
    have agrees := narrows.context_agrees valid
    rwa [contexts_context, contexts_context] at agrees
  rw [bound.seqMatches_eq] at matched
  have usesRetired : opened.usesRetired = session.retired.seqMatches (frameHeader frame) := by
    rcases narrows.retired with kept | dropped
    · exact opens.usesRetired.trans (congrArg (CryptoContext.seqMatches · _) kept)
    · -- The frame is bound elsewhere, so it did not match the context that was dropped.
      have unused : narrower.retired.seqMatches (frameHeader frame) = false :=
        CryptoContext.seqMatches_of_invalid (congrArg CryptoContext.valid dropped) _
      rw [opens.usesRetired, unused, eq_comm, Bool.eq_false_iff]
      intro retiredMatched
      have same : opened.ref = .retired :=
        wf.match_unique (by rwa [contexts_context]) retiredMatched
      simp [same, context, show narrower.retired = {} from dropped] at valid
  exact {
    magic := opens.magic
    keyId := opens.keyId.trans narrows.slotId
    negotiated := by
      rw [← active.valid, ← pending]
      exact opens.negotiated
    usesPending := by
      rw [← pending]
      exact opens.usesPending
    usesActive := opens.usesActive.trans (active.seqMatches_eq _)
    usesRetired := usesRetired
    matched := opens.matched
    ciphertext := opens.ciphertext
    nonempty := opens.nonempty
    fits := opens.fits
    seen := opens.seen.trans (bound.isReplayedCiphertext_eq _)
    decrypted := by
      have decrypted := opens.decrypted
      rw [bound.iv] at decrypted
      unfold xcrypt at decrypted ⊢
      rwa [aesKey] at decrypted
  }

/-- What is accepted after narrowing is accepted before, by cases on both steps. -/
theorem FrameStep.command_of_narrows {held narrower after narrowerAfter : Contexts}
    {action : Action} (narrows : held.Narrows narrower)
    (step : FrameStep narrower opened narrowerAfter .command)
    (before : FrameStep held opened after action)
    : action = .command := by
  have pending := narrows.pending
  generalize accepted : Action.command = outcome at step
  cases before with
  | promoted | current | predecessorPoll | lateUnlock | retiredAccepted => exact accepted
  | currentReplay bound noOffer replay =>
      rw [← pending] at noOffer
      cases step <;> simp_all
  | predecessorRefused bound offer effect inadmissible =>
      rw [← pending] at offer
      cases step with
      | lateUnlock _ _ fast allowed fresh =>
          simp [fast, narrows.allowed allowed, fresh] at inadmissible
      | _ => simp_all
  | retiredRefused bound effect inadmissible =>
      cases step with
      | retiredAccepted _ admissible =>
          rcases admissible with poll | ⟨fast, fresh⟩
          · simp [effect] at poll
          · simp [fast, fresh] at inadmissible
      | _ => simp_all

/-- A frame accepted after narrowing is accepted before, and delivers the same. -/
theorem processFrame_command_of_narrows (wf : session.contexts.WellFormed)
    (narrowerWf : narrower.contexts.WellFormed)
    (narrows : session.contexts.Narrows narrower.contexts)
    (aesKey : narrower.aesKey = session.aesKey)
    (accepted : (narrower.processFrame keystream env frame).action = .command)
    : let after := narrower.processFrame keystream env frame
      let before := session.processFrame keystream env frame
      before.action = .command
      ∧ before.session.command = after.session.command
      ∧ before.session.plaintextBytes = after.session.plaintextBytes := by
  intro after before
  have processedAfter := processFrame_processed keystream env narrowerWf frame
  have processedBefore := processFrame_processed keystream env wf frame
  change Processed keystream env narrower frame after at processedAfter
  change Processed keystream env session frame before at processedBefore
  change after.action = .command at accepted
  generalize after = after at accepted processedAfter ⊢
  generalize before = before at processedBefore ⊢
  cases processedAfter with
  | request | ignored => simp at accepted
  | opened notRequest opens step _ _ deliversAfter =>
      have opensBefore := opens.of_narrows wf narrows aesKey
      simp only at accepted
      subst accepted
      cases processedBefore with
      | request isRequest => simp [notRequest] at isRequest
      | ignored _ unopened => exact absurd opensBefore (unopened _)
      | opened _ found stepBefore _ _ deliversBefore =>
          obtain rfl := found.unique opensBefore
          have action := FrameStep.command_of_narrows narrows step stepBefore
          have first := deliversBefore action
          have second := deliversAfter rfl
          exact ⟨action, first.command.trans second.command.symm,
            first.plaintext.trans second.plaintext.symm⟩

/-- An IV request after narrowing is answered with the IV it would have been before. -/
theorem advertisedIv_of_narrows (narrows : session.contexts.Narrows narrower.contexts)
    (request : isIvRequest frame = true)
    : (narrower.processFrame keystream env frame).session.advertisedIv
      = (session.processFrame keystream env frame).session.advertisedIv := by
  rw [processFrame_request keystream env narrower request,
    processFrame_request keystream env session request]
  have answeredAfter := answerIvRequest_answered narrower.clearTransient env.random
    (frame.getD 7 0)
  have answeredBefore := answerIvRequest_answered session.clearTransient env.random
    (frame.getD 7 0)
  have active := narrows.active_agrees
  have same
      : narrower.clearTransient.offeredIv env.random (frame.getD 7 0)
        = session.clearTransient.offeredIv env.random (frame.getD 7 0) :=
    offeredIv_congr _ _ narrows.slotId narrows.pending active.valid active.iv
  exact answeredAfter.offered.trans (same.trans answeredBefore.offered.symm)

end

/-- A frame that `process_frame` drops in a reachable state leaves the slot, the offer and
the active generation alone, and whatever is accepted or advertised after it would have been
before it.
-/
theorem dropped_frame_narrows (keystream : Keystream) (session : LockSession)
    (reachable : session.Reachable keystream) (env : FrameEnv) (frame : Bytes)
    (dropped : (session.processFrame keystream env frame).action = .none)
    : let after := (session.processFrame keystream env frame).session
      after.slotId = session.slotId
      ∧ after.pending = session.pending
      ∧ (after.active.iv = session.active.iv
          ∧ after.active.valid = session.active.valid
          ∧ after.active.replayHistory = session.active.replayHistory
          ∧ after.active.replayHead = session.active.replayHead)
      ∧ (after.retired = session.retired ∨ after.retired.valid = false)
      ∧ (∀ ref,
          (after.context ref).lateActionAllowed = true
          → (session.context ref).lateActionAllowed = true)
      ∧ ∀ env next,
          ((after.processFrame keystream env next).action = .command
            → (session.processFrame keystream env next).action = .command
              ∧ (session.processFrame keystream env next).session.command
                = (after.processFrame keystream env next).session.command
              ∧ (session.processFrame keystream env next).session.plaintextBytes
                = (after.processFrame keystream env next).session.plaintextBytes)
          ∧ (isIvRequest next = true
            → (after.processFrame keystream env next).session.advertisedIv
              = (session.processFrame keystream env next).session.advertisedIv) := by
  intro after
  have wf := reachable.wellFormed
  have processed := processFrame_processed keystream env wf frame
  obtain ⟨narrows, aesKey⟩ := processed.narrows dropped
  have afterWf : after.contexts.WellFormed := processed.wellFormed wf
  have active := narrows.active_agrees
  refine ⟨narrows.slotId, narrows.pending,
    ⟨active.iv, active.valid, active.replayHistory, ?_⟩, ?_, ?_, ?_⟩
  · rcases narrows.active with same | taken
    · exact congrArg CryptoContext.replayHead same
    · exact (congrArg CryptoContext.replayHead taken).trans rfl
  · rcases narrows.retired with same | gone
    · exact .inl same
    · exact .inr (congrArg CryptoContext.valid gone)
  · intro ref allowed
    cases ref with
    | pending => exact (congrArg CryptoContext.lateActionAllowed narrows.pending) ▸ allowed
    | active => exact narrows.allowed allowed
    | retired =>
        rcases narrows.retired with same | gone
        · exact (congrArg CryptoContext.lateActionAllowed same) ▸ allowed
        · exact absurd ((congrArg CryptoContext.lateActionAllowed gone).symm.trans allowed)
            (by simp)
  · intro env next
    exact ⟨processFrame_command_of_narrows wf afterWf narrows aesKey,
      advertisedIv_of_narrows narrows⟩

/-- A session that has accepted an unlock. -/
def unlocked : LockSession :=
  (sessionMachine clearStream).run {}
    [.frame constantEnv (ivRequest 0xC6),
      .frame constantEnv (wireFrame 0xC6 (Vector.replicate 16 0) pinUnlock)]

/-- The replay of the unlock is dropped and leaves the offer alone. -/
theorem dropped_frame_narrows_replay
    : (unlocked.processFrame clearStream constantEnv
        (wireFrame 0xC6 (Vector.replicate 16 0) pinUnlock)).session.pending
      = unlocked.pending :=
  (dropped_frame_narrows clearStream unlocked ⟨_, rfl⟩ constantEnv
    (wireFrame 0xC6 (Vector.replicate 16 0) pinUnlock) (by decide +kernel)).2.1

end LockSession

end KeypadBridge
