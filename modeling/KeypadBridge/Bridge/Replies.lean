import KeypadBridge.Bridge.SwitchbotKeypadBridge
import KeypadBridge.Session.Service

/-! Every keypad command gets its own reply. A frame that the session accepts causes exactly
one notification, encrypted under the IV that decrypted the frame, and the state it reports
is the one the last accepted action left behind.
-/

namespace KeypadBridge
open KeypadBridge.Foundation
open LockSession (OpenedFrame Opens Delivers FrameOutcome isIvRequest)

-----------------------------------------------------------------------------------------
-- Accepted frames
-----------------------------------------------------------------------------------------

namespace LockSession

variable {keystream : Keystream} {env : FrameEnv} {session : LockSession} {frame : Bytes}

/-- An accepted frame was opened, and everything a caller reads is about that frame. -/
theorem processFrame_command (wf : session.contexts.WellFormed)
    (accepted : (session.processFrame keystream env frame).action = .command)
    : ∃ opened,
        Opens keystream env session frame opened
        ∧ Delivers session frame opened (session.processFrame keystream env frame).session
        ∧ (session.processFrame keystream env frame).session.aesKey = session.aesKey := by
  have processed := LockSession.processFrame_processed keystream env wf frame
  generalize session.processFrame keystream env frame = outcome at processed accepted
  cases processed with
  | request => simp at accepted
  | ignored => simp at accepted
  | opened _ opens _ aesKey _ delivers => exact ⟨_, opens, delivers accepted, aesKey⟩

/-- A frame opens to its payload, decrypted under the key that PSA holds. -/
theorem Opens.plaintext_eq {opened : OpenedFrame} {key : AesKey}
    (opens : Opens keystream env session frame opened)
    (works : env.psa.Works session.aesKey key)
    : opened.plaintext
      = ctrXor keystream key (session.context opened.ref).iv (frame.drop headerLen) := by
  have decrypted := opens.decrypted
  rw [xcrypt, aesCtrXcrypt_of_works keystream works, Option.some.injEq] at decrypted
  rw [← decrypted, opens.ciphertext]

end LockSession

-----------------------------------------------------------------------------------------
-- What is notified
-----------------------------------------------------------------------------------------

/-- The notifications among the effects, in their order. -/
def notifications (effects : List BridgeEffect) : List Bytes :=
  effects.filterMap fun
    | .notify data => some data
    | _ => none

@[simp] theorem notifications_append (first second : List BridgeEffect)
    : notifications (first ++ second) = notifications first ++ notifications second :=
  List.filterMap_append

/-- The plaintext of the local reply, empty for a bare acknowledgement. -/
def replyPayload (state : LockState) : CommandType → Bytes
  | .lock => responseLock
  | .unlock => responseUnlock
  | .statePoll => state.byte :: statePayloadTail
  | .doorbell => []
  | .unknown => []

theorem length_replyPayload_le (state : LockState) (type : CommandType)
    : (replyPayload state type).length ≤ maxPayload := by
  cases type <;> simp [replyPayload, responseLock, responseUnlock, statePayloadTail, maxPayload]

/-- The lock state that a command leaves behind. -/
def LockState.after (state : LockState) : CommandType → LockState
  | .lock => .locked
  | .unlock => .unlocked
  | _ => state

namespace SwitchbotKeypadBridge

section

variable (bridge : SwitchbotKeypadBridge)

@[simp] theorem notifications_triggerKeypadEvent (name : String)
    : notifications (bridge.triggerKeypadEvent name) = [] := by
  unfold triggerKeypadEvent
  split <;> rfl

/-- Publishing a command sets the state and notifies nobody. -/
theorem publishCommand_spec (command : DecodedCommand)
    : (bridge.publishCommand command).1
        = { bridge with lockState := bridge.lockState.after command.type }
      ∧ notifications (bridge.publishCommand command).2 = [] := by
  have quiet (effect : BridgeEffect) (other : ∀ data, effect ≠ .notify data)
      : notifications [effect] = [] := by
    cases effect <;> simp_all [notifications]
  cases type : command.type
    <;> simp [publishCommand, type, LockState.after, publishLock, publishUnlock,
      publishDoorbell, quiet]
    <;> rfl

theorem notifications_stopBatteryScan (isScanning : Bool)
    : notifications (bridge.stopBatteryScan isScanning).2 = [] := by
  unfold stopBatteryScan
  cases bridge.batteryScan.active <;> cases isScanning <;> rfl

/-- The relay leaves the session and the state alone, and never notifies the keypad. -/
theorem relayToLockAsync_spec (env : RxEnv) (header : FrameHeader)
    (command : DecodedCommand)
    : (bridge.relayToLockAsync env header command).2.1.session = bridge.session
      ∧ (bridge.relayToLockAsync env header command).2.1.lockState = bridge.lockState
      ∧ notifications (bridge.relayToLockAsync env header command).2.2 = [] := by
  have stopped := notifications_stopBatteryScan { bridge with lockRelayBusy := true }
    env.isScanning
  unfold relayToLockAsync
  split
  · exact ⟨rfl, rfl, rfl⟩
  split
  · exact ⟨rfl, rfl, rfl⟩
  dsimp only
  split
  · refine ⟨rfl, rfl, ?_⟩
    rw [notifications_append, stopped]
    rfl
  · exact ⟨rfl, rfl, stopped⟩

end

section

variable {keystream : Keystream} {env : RxEnv}

/-- Linked or not, a command is answered locally, after its effect on the state. -/
theorem handleCommand_spec (keystream : Keystream) (env : RxEnv)
    (bridge : SwitchbotKeypadBridge) (header : FrameHeader) (command : DecodedCommand)
    : (bridge.handleCommand keystream env header command).1.session = bridge.session
      ∧ (bridge.handleCommand keystream env header command).1.lockState
        = bridge.lockState.after command.type
      ∧ notifications (bridge.handleCommand keystream env header command).2
        = notifications
            ({ bridge with lockState := bridge.lockState.after command.type }.sendLocalResponse
              keystream env header command) := by
  obtain ⟨state, quiet⟩ := bridge.publishCommand_spec command
  unfold handleCommand
  dsimp only
  rw [state]
  generalize after : { bridge with lockState := bridge.lockState.after command.type } = updated
  have session : updated.session = bridge.session := after ▸ rfl
  have lockState : updated.lockState = bridge.lockState.after command.type := after ▸ rfl
  obtain ⟨sameSession, sameState, silent⟩ := updated.relayToLockAsync_spec env header command
  split
  · split <;> simp [quiet, silent, sameSession, sameState, session, lockState]
  · simp [quiet, session, lockState]

/-- A notification sent while the session holds a delivered frame: the frame's header, and
the payload under the IV that decrypted the frame.
-/
theorem sendLocalResponse_eq {bridge : SwitchbotKeypadBridge} {before : LockSession}
    {frame : Bytes} {opened : OpenedFrame} {key : AesKey}
    (delivers : Delivers before frame opened bridge.session)
    (opens : Opens keystream env.toFrameEnv before frame opened)
    (works : env.psa.Works bridge.session.aesKey key) (command : DecodedCommand)
    : bridge.sendLocalResponse keystream env bridge.session.header command
      = [.notify
          ([0x01, frame.getD 1 0, frame.getD 2 0, frame.getD 3 0]
            ++ ctrXor keystream key (before.context opened.ref).iv
                (replyPayload bridge.lockState command.type))] := by
  have encrypted (plaintext : Bytes) (fits : plaintext.length ≤ maxPayload) :=
    delivers.encryptResponse opens works fits
  have fits := length_replyPayload_le bridge.lockState command.type
  unfold sendLocalResponse
  cases type : command.type with
  | lock | unlock | statePoll =>
      rw [type] at fits
      simp only [replyPayload] at fits ⊢
      simp only [handleStatePoll, sendEncryptedResponse, encrypted _ fits]
  | doorbell | unknown =>
      simp [sendAck, delivers.header, frameHeader, replyPayload, ctrXor, applyStream]

end

end SwitchbotKeypadBridge

-----------------------------------------------------------------------------------------
-- Runs
-----------------------------------------------------------------------------------------

/-- The action that a step accepted, if it accepted one. -/
def BridgeStep.acceptedAction (step : BridgeStep) : Option CommandType :=
  step.outcome.bind fun outcome =>
    if outcome.action = .command && outcome.session.command.isAction then
      some outcome.session.command.type
    else none

/-- The last LOCK or UNLOCK that was accepted. -/
def lastAction (steps : List BridgeStep) : Option CommandType :=
  (steps.filterMap BridgeStep.acceptedAction).getLast?

/-- Reported as unlocked exactly after an UNLOCK. -/
def stateAfter (last : Option CommandType) : LockState :=
  if last = some .unlock then .unlocked else .locked

theorem lastAction_snoc (steps : List BridgeStep) (step : BridgeStep)
    : lastAction (steps ++ [step]) = step.acceptedAction.or (lastAction steps) := by
  unfold lastAction
  rw [List.filterMap_append, List.getLast?_append]
  cases accepted : step.acceptedAction <;> simp [accepted]

/-- Only an action moves the state, and it moves it to its own. -/
theorem after_eq_stateAfter (state : LockState) (command : DecodedCommand)
    : state.after command.type
      = if command.isAction then stateAfter (some command.type) else state := by
  cases type : command.type <;> simp [LockState.after, stateAfter, DecodedCommand.isAction, type]

namespace SwitchbotKeypadBridge

variable {keystream : Keystream} {bridge : SwitchbotKeypadBridge}

/-- Between events the session moves by session operations only. -/
theorem afterInterlude_wellFormed (wf : bridge.session.contexts.WellFormed)
    (interlude : Interlude)
    : (bridge.afterInterlude interlude).session.contexts.WellFormed := by
  unfold afterInterlude
  cases interlude.rekeyed with
  | none => exact wf
  | some aesKey => exact .blank 0

/-- A new key resets the session, and the header stays in front of the IV to come. -/
theorem afterInterlude_responseHeader (header : bridge.session.ResponseHeader)
    (interlude : Interlude)
    : (bridge.afterInterlude interlude).session.ResponseHeader := by
  unfold afterInterlude
  cases interlude.rekeyed with
  | none => exact header
  | some aesKey => exact header.congr rfl

/-- What a frame does to the members that later replies depend on. -/
theorem onRxFrame_spec (keystream : Keystream) (env : RxEnv) (bridge : SwitchbotKeypadBridge)
    (frame : Bytes)
    : let outcome := bridge.session.processFrame keystream env.toFrameEnv frame
      let handled := bridge.onRxFrame keystream env frame
      handled.1.session = outcome.session
      ∧ (outcome.action = .command
          → handled.1.lockState = bridge.lockState.after outcome.session.command.type
            ∧ notifications handled.2
              = notifications
                  ({ bridge with
                    session := outcome.session
                    lockState :=
                      bridge.lockState.after outcome.session.command.type
                    }.sendLocalResponse keystream env outcome.session.header
                    outcome.session.command))
      ∧ (outcome.action = .sendIv
          → handled.1.lockState = bridge.lockState
            ∧ notifications handled.2 = [outcome.session.ivResponse.toList])
      ∧ (outcome.action = .none
          → handled.1.lockState = bridge.lockState ∧ notifications handled.2 = []) := by
  intro outcome handled
  simp only [handled]
  unfold onRxFrame
  dsimp only
  rw [show bridge.session.processFrame keystream env.toFrameEnv frame = outcome from rfl]
  cases action : outcome.action with
  | none => simp [notifications]
  | sendIv => simp [notifications]
  | command =>
      have handled := handleCommand_spec keystream env
        { bridge with session := outcome.session } outcome.session.header
        outcome.session.command
      dsimp only at handled ⊢
      exact ⟨handled.1, fun _ => handled.2, by simp, by simp⟩

/-- One step keeps the session's contexts well formed. -/
theorem step_wellFormed (wf : bridge.session.contexts.WellFormed) (op : BridgeOp)
    : ((bridgeMachine keystream).step bridge op).1.session.contexts.WellFormed := by
  cases op with
  | between interlude => exact afterInterlude_wellFormed wf interlude
  | drained event env =>
      cases event with
      | connect | disconnect => exact wf.boundary
      | rx frame =>
          have session := (onRxFrame_spec keystream env bridge frame).1
          have processed := LockSession.processFrame_processed keystream env.toFrameEnv wf frame
          simp only [bridgeMachine, drainEvent]
          rw [session]
          exact processed.wellFormed wf

/-- One step moves the reported state to the action it accepts, and to nothing else. -/
theorem step_lockState (op : BridgeOp)
    : ((bridgeMachine keystream).step bridge op).1.lockState
      = match ((bridgeMachine keystream).step bridge op).2.acceptedAction with
        | some type => stateAfter (some type)
        | none => bridge.lockState := by
  cases op with
  | between => rfl
  | drained event env =>
      cases event with
      | connect | disconnect => rfl
      | rx frame =>
          obtain ⟨_, onCommand, onRequest, onDrop⟩ :=
            onRxFrame_spec keystream env bridge frame
          simp only [bridgeMachine, drainEvent, QueuedEvent.outcome, BridgeStep.acceptedAction,
            Option.bind_some]
          cases action : (bridge.session.processFrame keystream env.toFrameEnv frame).action with
          | none => simp [(onDrop action).1]
          | sendIv => simp [(onRequest action).1]
          | command =>
              rw [(onCommand action).1, after_eq_stateAfter]
              generalize
                (bridge.session.processFrame keystream env.toFrameEnv frame).session.command
                  = command
              cases isAction : command.isAction <;> simp

/-- One step leaves the header in front of the advertised IV alone. -/
theorem step_responseHeader (header : bridge.session.ResponseHeader)
    (wf : bridge.session.contexts.WellFormed) (op : BridgeOp)
    : ((bridgeMachine keystream).step bridge op).1.session.ResponseHeader := by
  cases op with
  | between interlude => exact afterInterlude_responseHeader header interlude
  | drained event env =>
      cases event with
      | connect | disconnect => exact header.congr rfl
      | rx frame =>
          have session := (onRxFrame_spec keystream env bridge frame).1
          simp only [bridgeMachine, drainEvent]
          rw [session]
          exact header.perform wf (.frame env.toFrameEnv frame)

/-- Along every run from set-up the contexts are well formed, the IV responses keep their
header, and the reported state is that of the last accepted action.
-/
theorem run_invariant (keystream : Keystream) (aesKey : PsaKeyId) (sharedKey : AesKey)
    (linkedLockInfo : LinkedLockInfo) (hasKeypadEvent : Bool) (ops : List BridgeOp)
    : let booted := afterSetup aesKey sharedKey linkedLockInfo hasKeypadEvent
      ((bridgeMachine keystream).run booted ops).session.contexts.WellFormed
      ∧ ((bridgeMachine keystream).run booted ops).session.ResponseHeader
      ∧ ((bridgeMachine keystream).run booted ops).lockState
        = stateAfter (lastAction ((bridgeMachine keystream).history booted ops)) := by
  refine (bridgeMachine keystream).history_invariant
    (fun steps bridge =>
      bridge.session.contexts.WellFormed
      ∧ bridge.session.ResponseHeader
      ∧ bridge.lockState = stateAfter (lastAction steps))
    ⟨LockSession.wellFormed_new, ⟨rfl, rfl, rfl, rfl⟩, rfl⟩ ?_ ops
  rintro steps bridge op ⟨wf, header, lockState⟩
  refine ⟨step_wellFormed wf op, step_responseHeader header wf op, ?_⟩
  rw [step_lockState, lastAction_snoc, lockState]
  cases ((bridgeMachine keystream).step bridge op).2.acceptedAction <;> rfl

end SwitchbotKeypadBridge

/-- Every received frame gets its own notification: exactly one reply for an accepted
command, under the IV that decrypted it and about the last accepted action, exactly one IV
response for an IV request, with the IV that is on offer behind it, and nothing for a dropped
frame or a connection event.
-/
theorem own_reply_for_every_command (keystream : Keystream) (aesKey : PsaKeyId)
    (sharedKey : AesKey) (linkedLockInfo : LinkedLockInfo) (hasKeypadEvent : Bool)
    (earlier : List BridgeOp) (env : RxEnv) (key : AesKey)
    (works
      : env.psa.Works
          ((bridgeMachine keystream).run
            (.afterSetup aesKey sharedKey linkedLockInfo hasKeypadEvent)
            earlier).session.aesKey
          key)
    : let machine := bridgeMachine keystream
      let booted := SwitchbotKeypadBridge.afterSetup aesKey sharedKey linkedLockInfo
        hasKeypadEvent
      let bridge := machine.run booted earlier
      let reported := if lastAction (machine.history booted earlier) = some .unlock then
        (0x91 : UInt8) else 0x81
      let notified (event : QueuedEvent) :=
        notifications (machine.step bridge (.drained event env)).2.effects
      notified .connect = []
      ∧ notified .disconnect = []
      ∧ ∀ frame,
          let outcome := bridge.session.processFrame keystream env.toFrameEnv frame
          (outcome.action = .command
            → ∃ ref reply,
                notified (.rx frame) = [reply]
                ∧ (bridge.session.context ref).seqMatches (frameHeader frame) = true
                ∧ outcome.session.plaintextBytes
                  = ctrXor keystream key (bridge.session.context ref).iv (frame.drop 4)
                ∧ reply.take 4 = [0x01, frame.getD 1 0, frame.getD 2 0, frame.getD 3 0]
                ∧ let answer :=
                    ctrXor keystream key (bridge.session.context ref).iv (reply.drop 4)
                  (outcome.session.command.type = .lock
                    → answer = [0x90, 0x0A, 0x7F, 0x7F, 0x00])
                  ∧ (outcome.session.command.type = .unlock
                    → answer = [0x98, 0x08, 0x7F, 0x7F, 0x00])
                  ∧ (outcome.session.command.type = .statePoll
                    → answer.length = 14 ∧ answer = reported :: statePayloadTail))
          ∧ (isIvRequest frame = true
            → ∃ response,
                notified (.rx frame) = [response]
                ∧ response.length = 20
                ∧ outcome.action = .sendIv
                ∧ outcome.session.pending.valid = true
                ∧ response
                  = [0x01, 0x00, 0x00, 0x00] ++ outcome.session.pending.iv.toList)
          ∧ (outcome.action = .none → notified (.rx frame) = []) := by
  intro machine booted bridge reported notified
  obtain ⟨wf, header, lockState⟩ := SwitchbotKeypadBridge.run_invariant keystream aesKey sharedKey
    linkedLockInfo hasKeypadEvent earlier
  have reportedByte : bridge.lockState.byte = reported := by
    rw [lockState]
    simp only [reported, stateAfter, machine, booted]
    split <;> rfl
  refine ⟨rfl, rfl, ?_⟩
  intro frame outcome
  obtain ⟨_, onCommand, onRequest, onDrop⟩ :=
    SwitchbotKeypadBridge.onRxFrame_spec keystream env bridge frame
  refine ⟨?_, ?_, fun drop => (onDrop drop).2⟩
  · intro accepted
    obtain ⟨opened, opens, delivers, aesKey⟩ :=
      LockSession.processFrame_command wf accepted
    have replied := (onCommand accepted).2
    rw [SwitchbotKeypadBridge.sendLocalResponse_eq delivers opens (aesKey ▸ works)] at replied
    refine ⟨opened.ref, _, replied, opens.bound_matches,
      delivers.plaintext.trans (opens.plaintext_eq works), rfl, ?_⟩
    intro answer
    -- Masking the reply again under the same IV gives back what was encrypted.
    have payload : answer = replyPayload
        (bridge.lockState.after outcome.session.command.type) outcome.session.command.type :=
      ctrXor_ctrXor _ _ _ _
    refine ⟨?_, ?_, ?_⟩ <;> intro type <;> rw [payload, type]
    · rfl
    · rfl
    · exact ⟨rfl, congrArg (· :: statePayloadTail) reportedByte⟩
  · intro isRequest
    have answer := LockSession.processFrame_request keystream env.toFrameEnv bridge.session
      isRequest
    have action : outcome.action = .sendIv := congrArg FrameOutcome.action answer
    have offers := (LockSession.answerIvRequest_answered bridge.session.clearTransient
      env.random (frame.getD 7 0)).offers
    have session : outcome.session = _ := congrArg FrameOutcome.session answer
    dsimp only at session
    rw [← session] at offers
    have held : outcome.session.ResponseHeader :=
      header.perform wf (.frame env.toFrameEnv frame)
    refine ⟨_, (onRequest action).2, by simp, action, offers.valid, ?_⟩
    exact held.toList_eq.trans
      (congrArg (fun iv => [0x01, 0x00, 0x00, 0x00] ++ iv.toList) offers.iv_eq.symm)

/-- An environment in which no scan runs and tasks start. -/
def constantRxEnv : RxEnv := { constantEnv with isScanning := false, relayTaskCreated := true }

def linkedLock : LinkedLockInfo := { valid := 1, model := 1, slotId := 0xC6 }

/-- A keypad negotiates and unlocks. -/
def unlockOps : List BridgeOp :=
  [.drained (.rx (ivRequest 0xC6)) constantRxEnv,
    .drained (.rx (wireFrame 0xC6 (Vector.replicate 16 0) pinUnlock)) constantRxEnv]

def unlockedBridge : SwitchbotKeypadBridge :=
  (bridgeMachine clearStream).run (.afterSetup 1 (Vector.replicate 16 0) linkedLock true)
    unlockOps

/-- The poll after an unlock, with a lock linked, is answered as unlocked. -/
theorem own_reply_for_every_command_polled
    : ∃ reply,
        notifications
            ((bridgeMachine clearStream).step unlockedBridge
              (.drained
                (.rx (wireFrame 0xC6 (Vector.replicate 16 0) [0x0F, 0x4F, 0x81, 0x01]))
                constantRxEnv)).2.effects
          = [reply]
        ∧ reply.take 4 = [0x01, 0xC6, 0x00, 0x00]
        ∧ ∃ ref,
            ctrXor clearStream (Vector.replicate 16 0)
                (unlockedBridge.session.context ref).iv (reply.drop 4)
              = 0x91 :: statePayloadTail := by
  have every := own_reply_for_every_command clearStream 1 (Vector.replicate 16 0) linkedLock
    true unlockOps constantRxEnv (Vector.replicate 16 0) ⟨rfl, rfl, rfl, rfl, rfl⟩
  obtain ⟨ref, reply, notified, _, _, header, _, _, poll⟩ :=
    (every.2.2 (wireFrame 0xC6 (Vector.replicate 16 0) [0x0F, 0x4F, 0x81, 0x01])).1
      (by decide +kernel)
  have unlocked : lastAction ((bridgeMachine clearStream).history
      (.afterSetup 1 (Vector.replicate 16 0) linkedLock true) unlockOps) = some .unlock := by
    decide +kernel
  obtain ⟨_, state⟩ := poll (by decide +kernel)
  rw [if_pos unlocked] at state
  exact ⟨reply, notified, header, ref, state⟩

end KeypadBridge
