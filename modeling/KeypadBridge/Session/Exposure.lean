import KeypadBridge.Session.Malleation

/-! What a caller can still read after a frame that was not delivered: nothing, but for an
action that the replay filter drops. That exit leaves the decoded command behind.
-/

namespace KeypadBridge
open KeypadBridge.Foundation

namespace LockSession

/-- Until the next delivered frame, no plaintext and no command can be read, and no response
can be encrypted.
-/
structure ExposesNothing (keystream : Keystream) (session : LockSession) : Prop where
  plaintextSize : session.plaintextSize = 0
  command : session.command = {}
  silent
    : ∀ ops,
        (∀ outcome,
          some outcome ∈ (sessionMachine keystream).history session ops
          → outcome.action ≠ .command)
        → ∀ env header plaintext,
            ((sessionMachine keystream).run session ops).encryptResponse keystream env header
              plaintext
            = none

/-- The hand-off lets an opened frame through to the replay filter: it is no frame of a
superseded IV, or else an unlock by a known method that may still arrive late.
-/
def HandoffAdmits (session : LockSession) (opened : OpenedFrame) : Prop :=
  (opened.usesRetired || (opened.usesActive && session.pending.valid)) = true
  → opened.isFastUnlock = true ∧ (session.context opened.ref).lateActionAllowed = true

instance (session : LockSession) (opened : OpenedFrame)
    : Decidable (session.HandoffAdmits opened) :=
  inferInstanceAs (Decidable (_ → _))

/-- The frame opens, decodes to a lock or unlock that the hand-off lets through, and the
replay history of its context holds its ciphertext already.
-/
def ReplaysAction (keystream : Keystream) (env : FrameEnv) (session : LockSession)
    (frame : Bytes)
    : Prop :=
  isIvRequest frame = false
  ∧ ∃ opened,
      Opens keystream env session frame opened
      ∧ opened.replays = true
      ∧ session.HandoffAdmits opened

-----------------------------------------------------------------------------------------
-- Responses
-----------------------------------------------------------------------------------------

/-- Answering an IV request decodes nothing. -/
theorem answerIvRequest_command (session : LockSession) (random : Nat → UInt32)
    (requestedSlot : UInt8)
    : (session.answerIvRequest random requestedSlot).1.command = session.command := by
  by_cases same : requestedSlot = session.slotId
  · rw [answerIvRequest_same random same]
    cases offer : session.pending.valid with
    | true => simp [ensurePendingIv, offer, storeIvResponse]
    | false =>
        rw [ensurePendingIv_fresh random offer]
        simp only [storeIvResponse]
  · rw [answerIvRequest_other random same]
    simp only [storeIvResponse]

/-- Without a response IV nothing can be encrypted. -/
theorem encryptResponse_eq_none {keystream : Keystream} {session : LockSession}
    (invalid : session.responseIvValid = false) (env : FrameEnv) (header : FrameHeader)
    (plaintext : Bytes)
    : session.encryptResponse keystream env header plaintext = none := by
  unfold encryptResponse
  split
  · rfl
  · simp [invalid]

variable {keystream : Keystream} {env : FrameEnv} {session : LockSession} {frame : Bytes}
  {opened : OpenedFrame}

-----------------------------------------------------------------------------------------
-- One frame
-----------------------------------------------------------------------------------------

@[simp] theorem dropRetiredIf_command (session : LockSession) (drop : Bool)
    : (session.dropRetiredIf drop).command = session.command := by
  cases drop <;> rfl

/-- The replay filter drops an action that was seen, and leaves its command behind. -/
theorem filterReplay_dropped {usesPredecessor : Bool}
    (dropped : (session.filterReplay opened usesPredecessor).2 ≠ .command)
    : (session.filterReplay opened usesPredecessor).1.command = session.command
      ∧ (session.command.isAction && opened.ciphertextSeen) = true := by
  rw [filterReplay_eq] at dropped ⊢
  split at dropped
  · rename_i replays
    rw [if_pos replays]
    exact ⟨dropRetiredIf_command _ _, replays⟩
  · simp at dropped

/-- The allowance that the hand-off reads is that of the session before the frame. -/
theorem decoded_lateActionAllowed (session : LockSession) (frame : Bytes) (opened : OpenedFrame)
    : ((session.decoded frame opened).context opened.ref).lateActionAllowed
      = (session.context opened.ref).lateActionAllowed := by
  cases pending : opened.usesPending <;> cases active : opened.usesActive <;>
    simp [OpenedFrame.ref, context, pending, active]

/-- What a dropped frame leaves decoded: an action that the replay filter drops, and
otherwise nothing.
-/
theorem decoded_dropped_command
    (dropped : ((session.decoded frame opened).admitDecoded opened).2 ≠ .command)
    : ((session.decoded frame opened).admitDecoded opened).1.command
      = if opened.replays = true ∧ session.HandoffAdmits opened then opened.command
        else {} := by
  by_cases poll : opened.command.type = .statePoll
  · rw [admitDecoded_poll poll] at dropped
    simp at dropped
  have handoff : (opened.usesRetired
      || (opened.usesActive && (session.decoded frame opened).pending.valid))
      = (opened.usesRetired || (opened.usesActive && session.pending.valid)) := by
    rw [decoded_pending]
  by_cases predecessor
    : (opened.usesRetired || (opened.usesActive && session.pending.valid)) = true
  · have admits : session.HandoffAdmits opened
        ↔ (isFastUnlockAction opened.command
            && (session.context opened.ref).lateActionAllowed) = true := by
      simp [HandoffAdmits, predecessor, OpenedFrame.isFastUnlock]
    rw [admitDecoded_predecessor (handoff.trans predecessor) poll,
      decoded_lateActionAllowed, decoded_command] at dropped ⊢
    split at dropped
    · rename_i admitted
      obtain ⟨left, replays⟩ := filterReplay_dropped dropped
      have replayed : opened.replays = true := by simpa [OpenedFrame.replays] using replays
      rw [if_pos admitted, if_pos ⟨replayed, admits.mpr admitted⟩, left]
      simp
    · rename_i refused
      rw [if_neg refused, if_neg fun replayed => refused (admits.mp replayed.2)]
      simp
  · have admits : session.HandoffAdmits opened := fun handed => absurd handed predecessor
    simp only [Bool.or_eq_true, not_or, Bool.not_eq_true] at predecessor
    rw [admitDecoded_current predecessor.1 (by rw [decoded_pending]; exact predecessor.2)]
      at dropped ⊢
    obtain ⟨left, replays⟩ := filterReplay_dropped dropped
    rw [left, if_pos ⟨replays, admits⟩]
    rfl

/-- An action is no default command. -/
theorem command_ne_of_replays (replays : opened.replays = true) : opened.command ≠ {} := by
  intro blank
  simp [OpenedFrame.replays, blank, DecodedCommand.isAction] at replays

/-- Whether a frame that opens is dropped as replayed is a matter of what it opens to. -/
theorem replaysAction_iff (notRequest : isIvRequest frame = false)
    (opens : Opens keystream env session frame opened)
    : ReplaysAction keystream env session frame
      ↔ opened.replays = true ∧ session.HandoffAdmits opened := by
  refine ⟨?_, fun replayed => ⟨notRequest, opened, opens, replayed⟩⟩
  rintro ⟨_, other, same, replayed⟩
  rwa [same.unique opens] at replayed

/-- What any frame leaves that is not delivered. -/
theorem processFrame_undelivered
    (undelivered : (session.processFrame keystream env frame).action ≠ .command)
    : let after := (session.processFrame keystream env frame).session
      after.plaintextSize = 0
      ∧ after.responseIvValid = false
      ∧ (after.command = {} ↔ ¬ ReplaysAction keystream env session frame) := by
  cases request : isIvRequest frame with
  | true =>
      rw [processFrame_request keystream env session request]
      have answered :=
        answerIvRequest_answered session.clearTransient env.random (frame.getD 7 0)
      refine ⟨answered.plaintextSize, answered.responseIvValid, ?_⟩
      rw [answerIvRequest_command]
      simp [ReplaysAction, request, clearTransient]
  | false =>
      cases result : session.clearTransient.openFrame keystream env frame with
      | mk after found =>
          cases found with
          | none =>
              obtain ⟨unopened, header, drop, rfl, _⟩ := openFrame_eq_none result
              have notReplayed : ¬ ReplaysAction keystream env session frame := by
                rintro ⟨_, opened, opens, _⟩
                exact unopened opened (opens_clearTransient.mpr opens)
              have kept := bookkept_dropRetiredIf
                { session.clearTransient with header := header } drop
              simp only [processFrame, request, result, Bool.false_eq_true, if_false]
              refine ⟨kept.plaintextSize, kept.responseIvValid, ?_⟩
              simp [notReplayed, clearTransient]
          | some opened =>
              obtain ⟨opens, rfl⟩ := openFrame_eq_some result
              simp only [processFrame, request, result, Bool.false_eq_true, if_false,
                admitFrame_afterOpening] at undelivered ⊢
              rcases admitDecoded_cases (session.clearTransient.decoded frame opened) opened
                with ⟨ready, done, _⟩ | ⟨dropped, done, kept⟩
              · exact absurd (congrArg Prod.snd done) undelivered
              have left := decoded_dropped_command undelivered
              have base := (bookkept_decoded session.clearTransient frame opened).trans kept
              rw [done] at left ⊢
              refine ⟨base.plaintextSize, base.responseIvValid, ?_⟩
              rw [left, replaysAction_iff request (opens_clearTransient.mp opens)]
              split
              · rename_i replayed
                exact iff_of_false (command_ne_of_replays replayed.1) (not_not_intro replayed)
              · rename_i fresh
                exact iff_of_true rfl fresh

/-- Nothing but a delivered frame makes responses possible. -/
theorem perform_unanswered (session : LockSession) {op : SessionOp}
    (invalid : session.responseIvValid = false)
    (undelivered
      : ∀ outcome, (session.perform keystream op).2 = some outcome → outcome.action ≠ .command)
    : (session.perform keystream op).1.responseIvValid = false := by
  cases op with
  | frame env bytes => exact (processFrame_undelivered (undelivered _ rfl)).2.1
  | reset | resetTransport | resetForget => rfl
  | setAesKey key => exact invalid

/-- A frame that is not delivered exposes nothing, unless the replay filter drops it. -/
theorem dropped_frame_exposes_nothing_iff (session : LockSession)
    (keystream : Keystream) (env : FrameEnv) (frame : Bytes)
    (undelivered : (session.processFrame keystream env frame).action ≠ .command)
    : (session.processFrame keystream env frame).session.ExposesNothing keystream
      ↔ ¬ ReplaysAction keystream env session frame := by
  obtain ⟨size, invalid, command⟩ := processFrame_undelivered undelivered
  refine ⟨fun exposes => command.mp exposes.command, fun fresh => ?_⟩
  refine ⟨size, command.mpr fresh, fun ops delivered => ?_⟩
  have still := ((sessionMachine keystream).run_invariant_while
    (fun session => session.responseIvValid = false)
    (fun outcome => ∀ delivery, outcome = some delivery → delivery.action ≠ .command)
    (fun _ => True) invalid
    (fun session _ invalid shown => ⟨perform_unanswered session invalid shown, trivial⟩) ops
    (by
      rintro _ member outcome rfl
      exact delivered outcome member)).1
  exact fun env header plaintext => encryptResponse_eq_none still env header plaintext

end LockSession

/-- An unlock that an eavesdropper recorded. -/
def recordedUnlock : Bytes := [0x57, 0xC6, 0x00, 0x00] ++ pinUnlock

/-- The unlock was accepted, and the keypad asked for its next IV. -/
def supersededUnlock : LockSession :=
  (sessionMachine clearStream).run acceptedUnlock [.frame constantEnv (ivRequest 0xC6)]

/-- An unlock by an unknown method, under the IV before the one on offer. -/
def unknownUnlock : Bytes :=
  [0x57, 0xC6, 0x00, 0x00, 0x0F, 0x4E, 0x01, 0x03, 0x09, 0x80, 0x0A, 0x00]

/-- A frame that is decoded and then dropped as a late action exposes nothing. -/
theorem dropped_frame_exposes_nothing_iff_late
    : (decodeLockCommand (unknownUnlock.drop 4)).type = .unlock
      ∧ (supersededUnlock.processFrame clearStream constantEnv unknownUnlock).session.ExposesNothing
          clearStream := by
  have undelivered
      : (supersededUnlock.processFrame clearStream constantEnv unknownUnlock).action ≠ .command := by
    decide +kernel
  refine ⟨by decide +kernel, (supersededUnlock.dropped_frame_exposes_nothing_iff clearStream
    constantEnv unknownUnlock undelivered).mpr ?_⟩
  exact (LockSession.processFrame_undelivered undelivered).2.2.mp (by decide +kernel)

/-- A replayed unlock is dropped, and its command can be read all the same. -/
theorem replayed_unlock_exposed
    : ¬ ∀ (keystream : Keystream) (env : FrameEnv) (session : LockSession) (frame : Bytes),
        (session.processFrame keystream env frame).action ≠ .command
        → (session.processFrame keystream env frame).session.ExposesNothing keystream := by
  intro always
  have exposes := always clearStream constantEnv acceptedUnlock recordedUnlock
    (by decide +kernel)
  exact absurd exposes.command (by decide +kernel)

end KeypadBridge
