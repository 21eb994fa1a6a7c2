import KeypadBridge.Bridge.Scanning

/-! The relay to the linked lock, as seen from outside: which steps start a relay task, what
they hand to it, and when a relay is in flight.
-/

namespace KeypadBridge
open KeypadBridge.Foundation
open LockSession (isIvRequest)

/-- What one relay task is started with. -/
structure RelayTask where
  config : PhysicalLockClient.Config
  plaintext : Bytes
  command : DecodedCommand
  deriving DecidableEq

/-- The relay tasks among the effects, in their order. -/
def relayTasks (effects : List BridgeEffect) : List RelayTask :=
  effects.filterMap fun
    | .relayTask config plaintext command => some ⟨config, plaintext, command⟩
    | _ => none

@[simp] theorem relayTasks_nil : relayTasks [] = [] := rfl

@[simp] theorem relayTasks_append (first second : List BridgeEffect)
    : relayTasks (first ++ second) = relayTasks first ++ relayTasks second :=
  List.filterMap_append

/-- The commands whose plaintext `handle_command_` passes on to a linked lock. -/
def CommandType.isRelayed : CommandType → Bool
  | .lock | .unlock | .unknown => true
  | .statePoll | .doorbell => false

namespace SwitchbotKeypadBridge

section

variable (bridge : SwitchbotKeypadBridge)

theorem relayTasks_publishCommand (command : DecodedCommand)
    : relayTasks (bridge.publishCommand command).2 = [] := by
  have event (name : String) : relayTasks (bridge.triggerKeypadEvent name) = [] := by
    unfold triggerKeypadEvent
    split <;> rfl
  unfold publishCommand
  split <;>
    simp only [publishLock, publishUnlock, publishDoorbell, relayTasks_append, event,
      List.nil_append] <;>
    rfl

theorem relayTasks_sendLocalResponse (keystream : Keystream) (env : RxEnv)
    (header : FrameHeader) (command : DecodedCommand)
    : relayTasks (bridge.sendLocalResponse keystream env header command) = [] := by
  have encrypted (plaintext : Bytes)
      : relayTasks (bridge.sendEncryptedResponse keystream env header plaintext) = [] := by
    unfold sendEncryptedResponse
    split <;> rfl
  unfold sendLocalResponse handleStatePoll
  split
  · exact encrypted _
  · exact encrypted _
  · exact encrypted _
  · rfl
  · rfl

theorem relayTasks_stopBatteryScan (isScanning : Bool)
    : relayTasks (bridge.stopBatteryScan isScanning).2 = [] := by
  unfold stopBatteryScan
  cases bridge.batteryScan.active <;> cases isScanning <;> rfl

/-- A relay task is started unless there is no plaintext, a relay is in flight, or FreeRTOS
has no task to give.
-/
def startsRelay (env : RxEnv) : Bool :=
  bridge.session.plaintextSize ≠ 0 && !bridge.lockRelayBusy && env.relayTaskCreated

/-- What a call of the relay hands over, and the busy flag it leaves. -/
theorem relayToLockAsync_tasks (env : RxEnv) (header : FrameHeader)
    (command : DecodedCommand)
    : relayTasks (bridge.relayToLockAsync env header command).2.2
        = (if bridge.startsRelay env then
            [⟨bridge.physicalLockConfig header.keyId, bridge.session.plaintextBytes, command⟩]
          else [])
      ∧ (bridge.relayToLockAsync env header command).2.1.lockRelayBusy
        = (bridge.lockRelayBusy || bridge.startsRelay env) := by
  have stopped := relayTasks_stopBatteryScan { bridge with lockRelayBusy := true }
    env.isScanning
  unfold relayToLockAsync startsRelay
  split
  · rename_i empty
    simp [empty]
  rename_i some
  split
  · rename_i busy
    simp [busy]
  rename_i free
  dsimp only
  split
  · rename_i created
    refine ⟨?_, by simp [stopBatteryScan, some, free, created]⟩
    have config
        : ({ bridge with lockRelayBusy := true }.stopBatteryScan
            env.isScanning).1.physicalLockConfig header.keyId
          = bridge.physicalLockConfig header.keyId :=
      rfl
    rw [relayTasks_append, stopped, config]
    simp [some, free, created, relayTasks, stopBatteryScan]
  · rename_i refused
    refine ⟨?_, by simp [refused, free]⟩
    rw [stopped]
    simp [refused]

end

section

variable (keystream : Keystream) (env : RxEnv) (bridge : SwitchbotKeypadBridge)

/-- A command calls the relay if a lock is linked and its type is one that is passed on. -/
def callsRelay (command : DecodedCommand) : Bool :=
  bridge.lockLinked && command.type.isRelayed

/-- What a command hands to the relay, and the busy flag it leaves. -/
theorem handleCommand_tasks (header : FrameHeader) (command : DecodedCommand)
    : let starts := bridge.callsRelay command && bridge.startsRelay env
      relayTasks (bridge.handleCommand keystream env header command).2
        = (if starts then
            [⟨bridge.physicalLockConfig header.keyId, bridge.session.plaintextBytes, command⟩]
          else [])
      ∧ (bridge.handleCommand keystream env header command).1.lockRelayBusy
        = (bridge.lockRelayBusy || starts) := by
  have published := (bridge.publishCommand_spec command).1
  have quiet := bridge.relayTasks_publishCommand command
  unfold handleCommand
  dsimp only
  rw [published]
  generalize after : { bridge with lockState := bridge.lockState.after command.type } = updated
  have linked : updated.lockLinked = bridge.lockLinked := after ▸ rfl
  have busy : updated.lockRelayBusy = bridge.lockRelayBusy := after ▸ rfl
  have starts : updated.startsRelay env = bridge.startsRelay env := after ▸ rfl
  have config : updated.physicalLockConfig header.keyId = bridge.physicalLockConfig header.keyId :=
    after ▸ rfl
  have session : updated.session = bridge.session := after ▸ rfl
  have replied := updated.relayTasks_sendLocalResponse keystream env header command
  obtain ⟨tasks, flag⟩ := updated.relayToLockAsync_tasks env header command
  rw [starts, config, session] at tasks
  rw [starts, busy] at flag
  split
  · rename_i isLinked
    rw [linked] at isLinked
    split <;> rename_i type <;>
      simp [callsRelay, isLinked, type, CommandType.isRelayed, quiet, replied, tasks, flag, busy]
  · rename_i unlinked
    rw [linked] at unlinked
    simp [callsRelay, unlinked, quiet, replied, busy]

/-- The relay task that a received frame starts, if it starts one. -/
def relayOf (frame : Bytes) : Option RelayTask :=
  let outcome := bridge.session.processFrame keystream env.toFrameEnv frame
  let delivered := { bridge with session := outcome.session }
  if outcome.action = .command && delivered.callsRelay outcome.session.command
      && delivered.startsRelay env then
    some
      ⟨bridge.physicalLockConfig outcome.session.header.keyId, outcome.session.plaintextBytes,
        outcome.session.command⟩
  else none

/-- What a received frame hands to the relay, and the busy flag it leaves. -/
theorem onRxFrame_tasks (frame : Bytes)
    : relayTasks (bridge.onRxFrame keystream env frame).2
        = (bridge.relayOf keystream env frame).toList
      ∧ (bridge.onRxFrame keystream env frame).1.lockRelayBusy
        = (bridge.lockRelayBusy || (bridge.relayOf keystream env frame).isSome) := by
  unfold onRxFrame relayOf
  dsimp only
  generalize bridge.session.processFrame keystream env.toFrameEnv frame = outcome
  cases action : outcome.action with
  | none => simp
  | sendIv => simp [relayTasks]
  | command =>
      have handled := handleCommand_tasks keystream env
        { bridge with session := outcome.session } outcome.session.header
        outcome.session.command
      dsimp only at handled ⊢
      rw [handled.1, handled.2]
      split <;> rename_i starts <;> simp only [Bool.and_eq_true] at starts <;>
        simp [starts, physicalLockConfig]

end

end SwitchbotKeypadBridge

-----------------------------------------------------------------------------------------
-- The whole component
-----------------------------------------------------------------------------------------

def DeviceEffect.ofBridge : DeviceEffect → Option BridgeEffect
  | .bridge effect => some effect
  | _ => none

/-- The relay tasks that a step starts. -/
def StationStep.tasks (step : StationStep) : List RelayTask :=
  relayTasks (step.effects.filterMap DeviceEffect.ofBridge)

theorem Plain.tasks {effects : List DeviceEffect} (plain : Plain effects)
    : relayTasks (effects.filterMap DeviceEffect.ofBridge) = [] := by
  rw [relayTasks, List.filterMap_filterMap, List.filterMap_eq_nil_iff]
  intro effect member
  have isPlain := plain effect member
  cases effect with
  | bridge effect =>
      cases effect with
      | relayTask => exact isPlain.elim
      | _ => rfl
  | _ => rfl

/-- What the receive path keeps between frames, the key it works under, and whether the
component loops at all.
-/
structure ReceiveState where
  session : LockSession
  lockState : LockState
  lockRelayBusy : Bool
  sharedKey : AesKey
  aesKeyHandle : PsaKeyId
  failed : Bool

namespace Device

def receiveState (device : Device) : ReceiveState where
  session := device.bridge.session
  lockState := device.bridge.lockState
  lockRelayBusy := device.bridge.lockRelayBusy
  sharedKey := device.bridge.sharedKey
  aesKeyHandle := device.aesKeyHandle
  failed := device.failed

variable (device : Device)

theorem scheduleScan_receiveState (due : UInt32)
    : (device.scheduleScan due).receiveState = device.receiveState :=
  rfl

theorem publishKeypadBattery_receiveState (value : Nat)
    : (device.publishKeypadBattery value).1.receiveState = device.receiveState := by
  unfold publishKeypadBattery
  split <;> rfl

theorem publishLockBattery_receiveState (value : Nat)
    : (device.publishLockBattery value).1.receiveState = device.receiveState := by
  unfold publishLockBattery
  split <;> rfl

theorem maybeStartBatteryScan_receiveState (env : ScanEnv)
    : (device.maybeStartBatteryScan env).1.receiveState = device.receiveState := by
  unfold maybeStartBatteryScan
  dsimp only
  split
  · split
    · rfl
    · exact scheduleScan_receiveState _ _
  split
  · rfl
  split
  · exact scheduleScan_receiveState _ _
  split
  · exact scheduleScan_receiveState _ _
  split
  · rfl
  · exact scheduleScan_receiveState _ _

/-- A call of `loop()` that drains nothing leaves the receive path alone. -/
theorem performLoop_receiveState (keystream : Keystream) {op : LoopOp}
    (undrained : (StationOp.loop op).drains = false)
    : (device.performLoop keystream op).1.receiveState = device.receiveState := by
  cases op with
  | paired => rfl
  | lockLinked => rfl
  | applyPairing millis accepts =>
      simp only [performLoop, applyPendingPairing]
      split <;> rfl
  | applyLockLink millis accepts =>
      simp only [performLoop, applyPendingLockLink]
      split <;> rfl
  | drained => cases undrained
  | keypadBattery env =>
      simp only [performLoop, applyPendingKeypadBattery]
      split
      · rfl
      · rw [publishKeypadBattery_receiveState]
        unfold learnKeypad
        dsimp only
        split <;> rfl
  | lockBattery =>
      simp only [performLoop, applyPendingLockBattery]
      split
      · rfl
      · rw [publishLockBattery_receiveState]
        rfl
  | finishScan env =>
      simp only [performLoop, maybeFinishBatteryScan]
      split
      · rfl
      split
      · rfl
      split
      · rfl
      · exact scheduleScan_receiveState _ _
  | startScan env => exact device.maybeStartBatteryScan_receiveState env

/-- A callback step leaves the receive path alone. -/
theorem stepScanCallback_receiveState (callback : ScanCallback)
    : (device.stepScanCallback callback).2.receiveState = device.receiveState := by
  obtain ⟨_, _, parked⟩ := device.stepScanCallback_parks callback
  rw [parked]
  rfl

/-- A reset draws a new key, and gives it to the session or leaves the session without one.
Once the key is imported the session starts over.
-/
theorem resetPairing_receiveState (env : ResetEnv)
    : (device.resetPairing env).1.receiveState
      = { device.receiveState with
          sharedKey := env.randomKey
          aesKeyHandle :=
            match env.keyImport with
            | none => psaKeyIdNull
            | some id => id
          session :=
            match env.keyImport with
            | none => device.bridge.session
            | some id => (device.bridge.session.setAesKey id).reset.forgetSlot } := by
  cases keyImport : env.keyImport with
  | none =>
      rw [resetPairing_aborted keyImport]
      simp [rotated, importAesKey, keyImport, receiveState, destroyAesKey, createSharedKey,
        saveAndSync, save, sync]
  | some id =>
      rw [resetPairing_completed (by simp [keyImport])]
      simp [rotated, importAesKey, keyImport]
      rfl

end Device

/-- The relay task that an operation starts, if it starts one. -/
def Station.relayOf (keystream : Keystream) (station : Station) : StationOp → Option RelayTask
  | .loop (.drained (.rx frame) env) =>
      if station.device.failed then none
      else station.device.bridge.relayOf keystream (station.device.rxEnv env) frame
  | _ => none

namespace Station

variable (keystream : Keystream) (station : Station)

/-- Draining is no business of the battery sensors. -/
theorem loops_drained (event : QueuedEvent) (env : RxEnv)
    : station.device.loops (.drained event env) = !station.device.failed := by
  simp [Device.loops, LoopOp.isBattery]

theorem filterMap_ofBridge (effects : List BridgeEffect)
    : (effects.map DeviceEffect.bridge).filterMap DeviceEffect.ofBridge = effects := by
  rw [List.filterMap_map]
  exact List.filterMap_some

/-- The calls that show a parked level start no relay. -/
theorem tasks_showsParked {op : StationOp} (parked : op.showsParked = true)
    : (station.perform keystream op).2.tasks = [] := by
  unfold StationOp.showsParked at parked
  split at parked
  · simp only [perform]
    split
    · simp only [Device.performLoop, Device.applyPendingKeypadBattery,
        Device.publishKeypadBattery]
      split
      · rfl
      · split <;> rfl
    · rfl
  · simp only [perform]
    split
    · simp only [Device.performLoop, Device.applyPendingLockBattery, Device.publishLockBattery]
      split
      · rfl
      · split <;> rfl
    · rfl
  · cases parked

/-- Only a drained frame starts a relay. -/
theorem perform_tasks (op : StationOp)
    : (station.perform keystream op).2.tasks = (station.relayOf keystream op).toList := by
  cases parked : op.showsParked with
  | true =>
      rw [station.tasks_showsParked keystream parked]
      unfold StationOp.showsParked at parked
      split at parked
      · rfl
      · rfl
      · cases parked
  | false =>
      cases drains : op.drains with
      | false =>
          rw [StationStep.tasks, (station.perform_plain keystream parked drains).tasks]
          unfold relayOf
          split
          · cases drains
          · rfl
      | true =>
          unfold StationOp.drains at drains
          split at drains
          · rename_i event env
            simp only [perform, loops_drained, StationStep.tasks]
            cases working : station.device.failed with
            | true => cases event <;> simp [relayOf, working]
            | false =>
                simp only [Device.performLoop, Device.drainEvent, Bool.not_false, if_true,
                  filterMap_ofBridge]
                cases event with
                | connect => rfl
                | disconnect => rfl
                | rx frame =>
                    have tasks :=
                      (station.device.bridge.onRxFrame_tasks keystream
                        (station.device.rxEnv env) frame).1
                    simpa [relayOf, working, SwitchbotKeypadBridge.drainEvent] using tasks
          · cases drains

end Station

end KeypadBridge
