import KeypadBridge.Protocol.Credentials
import KeypadBridge.Session.ReplayWindow

/-! Altered copies of an accepted unlock. The cipher is malleable and the decoder ignores
some bytes of an unlock, so an eavesdropper can build different ciphertexts of the same
command. The replay filter compares ciphertexts and tells them apart.
-/

namespace KeypadBridge
open KeypadBridge.Foundation
open LockSession (OpenedFrame FrameStep isIvRequest hasKnownUnlockMethod)

/-- `altered` differs from an unlock ciphertext only in what the decoder ignores: byte 7,
the bytes from index 8 on, and how many of those there are.
-/
structure Malleates (ciphertext altered : Bytes) : Prop where
  agrees : altered.take 7 = ciphertext.take 7
  long : 8 ≤ altered.length
  fits : altered.length ≤ maxPayload

/-- Equal prefixes hold equal bytes. -/
theorem getD_eq_of_take_eq {left right : Bytes} {count : Nat}
    (agrees : left.take count = right.take count) {i : Nat} (inside : i < count)
    : left.getD i 0 = right.getD i 0 := by
  have same := congrArg (·[i]?) agrees
  simp only [List.getElem?_take, inside, if_true] at same
  simp [List.getD_eq_getElem?_getD, same]

theorem take_eq_of_take_eq {left right : Bytes} {count fewer : Nat}
    (agrees : left.take count = right.take count) (order : fewer ≤ count)
    : left.take fewer = right.take fewer := by
  have same := congrArg (List.take fewer) agrees
  simpa [List.take_take, Nat.min_eq_left order] using same

/-- An unlock decodes by its first seven bytes alone. -/
theorem decodeLockCommand_malleated {plaintext altered : Bytes}
    (unlock : (decodeLockCommand plaintext).type = .unlock)
    (agrees : altered.take 7 = plaintext.take 7) (long : 8 ≤ altered.length)
    : decodeLockCommand altered = decodeLockCommand plaintext := by
  obtain ⟨originalLong, action, marker⟩ := decodeLockCommand_unlock unlock
  have byte {i : Nat} (inside : i < 7) : altered.getD i 0 = plaintext.getD i 0 :=
    getD_eq_of_take_eq agrees inside
  rw [decodeLockCommand_of_unlock originalLong action marker,
    decodeLockCommand_of_unlock long
      ((take_eq_of_take_eq agrees (by decide)).trans action)
      ((byte (by decide)).trans marker),
    byte (by decide : unlockMethodOffset < 7), byte (by decide : unlockIndexOffset < 7)]

/-- Malleation carries through the cipher. -/
theorem Malleates.command_eq {ciphertext altered : Bytes}
    (malleates : Malleates ciphertext altered) {keystream : Keystream} {key : AesKey}
    {iv : Iv} (unlock : (decodeLockCommand (ctrXor keystream key iv ciphertext)).type = .unlock)
    : decodeLockCommand (ctrXor keystream key iv altered)
      = decodeLockCommand (ctrXor keystream key iv ciphertext) := by
  apply decodeLockCommand_malleated unlock
  · simp only [ctrXor, take_applyStream, malleates.agrees]
  · simpa using malleates.long

/-- The context is superseded: retired, or active beside an offered successor. -/
def Contexts.IsPredecessor (held : Contexts) (ref : ContextRef) : Prop :=
  ref = .retired ∨ ref = .active ∧ held.pending.valid = true

/-- The session refuses an unlock bound to `ref`: its ciphertext is in the replay history, or
the context is superseded and does not allow this unlock to arrive late.
-/
def Contexts.RefusesUnlock (held : Contexts) (ref : ContextRef) (ciphertext : Bytes)
    (command : DecodedCommand)
    : Prop :=
  (held.context ref).isReplayedCiphertext ciphertext = true
  ∨ held.IsPredecessor ref
    ∧ ¬ (hasKnownUnlockMethod command = true
        ∧ (held.context ref).lateActionAllowed = true)

/-- An opened unlock is dropped exactly when it is refused, by cases on its step. -/
theorem LockSession.FrameStep.unlock_action {held after : Contexts} {opened : OpenedFrame}
    {action : Action} (step : FrameStep held opened after action) (wf : held.WellFormed)
    (inUse : (held.context opened.ref).valid = true)
    (seen
      : opened.ciphertextSeen
        = (held.context opened.ref).isReplayedCiphertext opened.ciphertext)
    (unlock : opened.command.type = .unlock)
    : (action = .none
        ↔ held.RefusesUnlock opened.ref opened.ciphertext opened.command)
      ∧ (action = .none ∨ action = .command) := by
  have isAction : opened.command.isAction = true := by
    simp [DecodedCommand.isAction, unlock]
  have notPoll : opened.isPoll = false := OpenedFrame.not_isPoll_of_isAction isAction
  have fastUnlock : opened.isFastUnlock = hasKnownUnlockMethod opened.command := by
    simp [OpenedFrame.isFastUnlock, isFastUnlockAction, unlock]
  refine ⟨?_, step.action_eq.symm⟩
  rw [Contexts.RefusesUnlock, ← seen, ← fastUnlock]
  cases step with
  | promoted bound =>
      have fresh : opened.ciphertextSeen = false := by
        rw [seen, bound]
        exact wf.pendingUnused.not_replayed _
      simp [fresh, Contexts.IsPredecessor, bound]
  | current bound noOffer fresh =>
      have fresh : opened.ciphertextSeen = false := by
        simpa [OpenedFrame.replays, isAction] using fresh
      simp [fresh, Contexts.IsPredecessor, bound, noOffer]
  | currentReplay bound noOffer replay =>
      have replayed : opened.ciphertextSeen = true := by
        simpa [OpenedFrame.replays, isAction] using replay
      simp [replayed]
  | predecessorPoll _ _ poll => simp [notPoll] at poll
  | lateUnlock bound _ fast allowed fresh =>
      simp [fresh, fast, bound, Contexts.context, allowed]
  | predecessorRefused bound offer _ inadmissible =>
      cases replayed : opened.ciphertextSeen with
      | true => simp
      | false =>
          have unfit : ¬ (opened.isFastUnlock = true ∧ held.active.lateActionAllowed = true) := by
            rintro ⟨fast, allowed⟩
            simp [fast, allowed, replayed] at inadmissible
          exact ⟨fun _ => .inr ⟨.inr ⟨bound, offer⟩, by rwa [bound]⟩, fun _ => rfl⟩
  | retiredAccepted bound admissible =>
      rw [bound] at inUse
      rcases admissible with poll | ⟨fast, fresh⟩
      · simp [notPoll] at poll
      · simp [fresh, fast, bound, Contexts.context, (wf.retiredNeeds inUse).2.2]
  | retiredRefused bound _ inadmissible =>
      cases replayed : opened.ciphertextSeen with
      | true => simp
      | false =>
          simp only [replayed, Bool.not_false, Bool.and_true] at inadmissible
          simp [Contexts.IsPredecessor, bound, inadmissible]

/-- What was recorded for a context in use was not mistaken for an IV request then, and the
same bytes are not mistaken for one now. By induction on the moves.
-/
theorem MoveRun.recorded_notRequest {events : List SessionEvent} {held : Contexts}
    {ledger : Ledger} (run : MoveRun events held ledger) {ref : ContextRef}
    (valid : (held.context ref).valid = true) {ciphertext : Bytes}
    (recorded : ciphertext ∈ acceptedActions events (ledger.generation ref))
    : isIvRequest (wireFrame held.slotId (held.context ref).iv ciphertext) = false := by
  induction run generalizing ref with
  | new => simp [acceptedActions] at recorded
  | @snoc events event held ledger after later run wf moves ih =>
      rcases moves.carried valid with ⟨source, carried, _, _, slot⟩ | ⟨rfl, rfl, number, _⟩
      · rw [carried.iv, slot]
        rw [carried.generation, acceptedActions_append, acceptedActions_singleton,
          List.mem_append] at recorded
        rcases recorded with earlier | last
        · exact ih carried.valid earlier
        · cases moves with
          | @accepted frame _ _ inUse generation _ _ _ notRequest =>
              simp only [SessionEvent.actionUnder, Option.mem_toList,
                Option.ite_none_right_eq_some, Bool.and_eq_true, decide_eq_true_eq,
                Option.some.injEq] at last
              obtain ⟨⟨_, same⟩, rfl⟩ := last
              have bound : frame.opened.ref = source := by
                by_contra different
                exact run.generation_ne wf inUse carried.valid different
                  (generation.symm.trans same)
              rwa [bound] at notRequest
          | _ => simp [SessionEvent.actionUnder] at last
      · rw [show later.generation .pending = ledger.drawn from number,
          acceptedActions_append, run.acceptedActions_drawn, acceptedActions_singleton] at recorded
        simp [SessionEvent.actionUnder] at recorded

/-- An altered copy is an IV request only if the original is one. -/
theorem Malleates.isIvRequest_eq {ciphertext altered : Bytes}
    (malleates : Malleates ciphertext altered) (long : 8 ≤ ciphertext.length)
    (slotId : UInt8) (iv : Iv)
    : isIvRequest (wireFrame slotId iv altered)
      = isIvRequest (wireFrame slotId iv ciphertext) := by
  have start : altered.take 3 = ciphertext.take 3 :=
    take_eq_of_take_eq malleates.agrees (by decide)
  have alteredLong := malleates.long
  have enough {text : Bytes} (textLong : 8 ≤ text.length)
      : (wireFrame slotId iv text).length ≥ sessionIvReqMin := by
    simp only [wireFrame, List.cons_append, List.nil_append, List.length_cons,
      sessionIvReqMin]
    omega
  have prefix_eq : (wireFrame slotId iv altered).take 7
      = (wireFrame slotId iv ciphertext).take 7 := by
    simp [wireFrame, start]
  simp only [isIvRequest, enough alteredLong, enough long, prefix_eq]

/-- The fate of an unlock sent under a valid context. -/
theorem LockSession.processFrame_unlock {session : LockSession} (keystream : Keystream)
    (env : FrameEnv) (wf : session.contexts.WellFormed) {ref : ContextRef}
    (valid : (session.context ref).valid = true) {key : AesKey}
    (works : env.psa.Works session.aesKey key) {ciphertext : Bytes}
    (nonempty : ciphertext ≠ []) (fits : ciphertext.length ≤ maxPayload)
    (notRequest
      : isIvRequest (wireFrame session.slotId (session.context ref).iv ciphertext) = false)
    {command : DecodedCommand}
    (decoded
      : decodeLockCommand (ctrXor keystream key (session.context ref).iv ciphertext) = command)
    (unlock : command.type = .unlock)
    : let outcome :=
        session.processFrame keystream env
          (wireFrame session.slotId (session.context ref).iv ciphertext)
      (outcome.action = .none ↔ session.contexts.RefusesUnlock ref ciphertext command)
      ∧ (outcome.action ≠ .none
          → outcome.action = .command ∧ outcome.session.command = command) := by
  intro outcome
  have handles : session.Handles keystream key ref ciphertext outcome :=
    processFrame_wireFrame wf valid works nonempty fits notRequest
  have same : (session.boundFrame keystream key ref ciphertext).command = command := decoded
  have inUse : (session.contexts.context ref).valid = true := by rwa [contexts_context]
  have fate := handles.step.unlock_action wf (by rwa [boundFrame_ref])
    (by rw [boundFrame_ref, contexts_context]; rfl) (by rwa [same])
  rw [boundFrame_ref, same] at fate
  refine ⟨fate.1, fun accepted => ?_⟩
  have action := fate.2.resolve_left accepted
  exact ⟨action, (handles.delivers action).command.trans same⟩

/-- A recorded unlock replayed as it was is dropped. An altered copy of it decodes to the
same command, and it is dropped exactly when its own ciphertext is in the history or the
context is superseded and does not allow this unlock to arrive late; otherwise the copy is
accepted.
-/
theorem malleated_unlock_dropped_iff (keystream : Keystream) (ops : List SessionOp)
    (env : FrameEnv) (ref : ContextRef) (key : AesKey) (ciphertext altered : Bytes)
    (valid : (((sessionMachine keystream).run {} ops).context ref).valid = true)
    (works : env.psa.Works ((sessionMachine keystream).run {} ops).aesKey key)
    (unlock
      : (decodeLockCommand
          (ctrXor keystream key (((sessionMachine keystream).run {} ops).context ref).iv
            ciphertext)).type
        = .unlock)
    (recorded
      : (((sessionMachine keystream).run {} ops).context ref).isReplayedCiphertext ciphertext
        = true)
    (malleates : Malleates ciphertext altered)
    : let session := (sessionMachine keystream).run {} ops
      let iv := (session.context ref).iv
      let command := decodeLockCommand (ctrXor keystream key iv ciphertext)
      let replayed :=
        session.processFrame keystream env (wireFrame session.slotId iv ciphertext)
      let outcome := session.processFrame keystream env (wireFrame session.slotId iv altered)
      replayed.action = .none
      ∧ decodeLockCommand (ctrXor keystream key iv altered) = command
      ∧ (outcome.action = .none
          ↔ session.contexts.RefusesUnlock ref altered command)
      ∧ (outcome.action ≠ .none
          → outcome.action = .command ∧ outcome.session.command = command) := by
  intro session iv command replayed outcome
  have wf : session.contexts.WellFormed :=
    LockSession.run_wellFormed keystream LockSession.wellFormed_new ops
  have long : 8 ≤ ciphertext.length := by
    simpa using (decodeLockCommand_unlock unlock).1
  have fits : ciphertext.length ≤ maxPayload := by
    by_contra large
    simp [CryptoContext.isReplayedCiphertext, Nat.lt_of_not_le large] at recorded
  -- A recorded ciphertext came in a frame that was not taken for an IV request.
  have notRequest : isIvRequest (wireFrame session.slotId iv ciphertext) = false := by
    have run := sessionHistory_moves keystream ops
    rw [trackedMachine_run_session] at run
    change MoveRun _ session.contexts _ at run
    have inUse : (session.contexts.context ref).valid = true := by
      rwa [LockSession.contexts_context]
    have window := run.window inUse
    rw [LockSession.contexts_context] at window
    have member := (window.isReplayedCiphertext_iff (by omega) fits).mp recorded
    have clear := run.recorded_notRequest inUse (List.mem_of_mem_drop member)
    rwa [LockSession.contexts_context] at clear
  have alteredLong := malleates.long
  have original := LockSession.processFrame_unlock keystream env wf valid works
    (List.ne_nil_of_length_pos (by omega)) fits notRequest rfl unlock
  have copy := LockSession.processFrame_unlock keystream env wf valid works
    (List.ne_nil_of_length_pos (by omega)) malleates.fits
    ((malleates.isIvRequest_eq long _ _).trans notRequest)
    (malleates.command_eq unlock) unlock
  refine ⟨original.1.mpr (.inl ?_), malleates.command_eq unlock, copy.1, copy.2⟩
  rwa [LockSession.contexts_context]

/-- An unlock accepted under the first IV. -/
def acceptedUnlockOps : List SessionOp :=
  [.frame constantEnv (ivRequest 0xC6),
    .frame constantEnv ([0x57, 0xC6, 0x00, 0x00] ++ pinUnlock)]

def acceptedUnlock : LockSession := (sessionMachine clearStream).run {} acceptedUnlockOps

/-- The accepted unlock with its ignored byte 7 flipped. -/
def flippedUnlock : Bytes := [0x0F, 0x4E, 0x01, 0x03, 0x04, 0x80, 0x0A, 0x01]

theorem malleates_flippedUnlock : Malleates pinUnlock flippedUnlock where
  agrees := by decide
  long := by decide
  fits := by decide

/-- After the accepted unlock its flipped copy is refused by no condition. -/
theorem malleated_unlock_dropped_iff_flipped
    : (acceptedUnlock.processFrame clearStream constantEnv
        (wireFrame acceptedUnlock.slotId (acceptedUnlock.context .active).iv
          flippedUnlock)).action
        = .none
      ↔ acceptedUnlock.contexts.RefusesUnlock .active flippedUnlock
        (decodeLockCommand
          (ctrXor clearStream (Vector.replicate 16 0) (acceptedUnlock.context .active).iv
            pinUnlock)) :=
  (malleated_unlock_dropped_iff clearStream acceptedUnlockOps constantEnv .active
    (Vector.replicate 16 0) pinUnlock flippedUnlock (by decide +kernel)
    ⟨rfl, rfl, rfl, rfl, rfl⟩ (by decide +kernel) (by decide +kernel)
    malleates_flippedUnlock).2.2.1

/-- The replay filter can be bypassed without the key: an altered copy of a recorded unlock
is accepted.
-/
theorem malleated_unlock_accepted
    : ¬ ∀ (keystream : Keystream) (ops : List SessionOp) (env : FrameEnv)
        (ref : ContextRef) (key : AesKey) (ciphertext altered : Bytes),
          let session := (sessionMachine keystream).run {} ops
          let iv := (session.context ref).iv
          (session.context ref).valid = true
          → env.psa.Works session.aesKey key
          → (decodeLockCommand (ctrXor keystream key iv ciphertext)).type = .unlock
          → (session.context ref).isReplayedCiphertext ciphertext = true
          → Malleates ciphertext altered
          → (session.processFrame keystream env
              (wireFrame session.slotId iv altered)).action = .none := by
  intro dropped
  have refused := dropped clearStream acceptedUnlockOps constantEnv .active
    (Vector.replicate 16 0) pinUnlock flippedUnlock (by decide +kernel)
    ⟨rfl, rfl, rfl, rfl, rfl⟩ (by decide +kernel) (by decide +kernel) malleates_flippedUnlock
  revert refused
  decide +kernel

end KeypadBridge
