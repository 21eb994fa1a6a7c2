import KeypadBridge.Bridge.Relay
import KeypadBridge.Bridge.Reboot

/-! The key slot of the relay. A relay talks to the lock under the slot that the keypad's frame
named, which is the slot of the last IV request, whatever slot the lock was linked in.
-/

namespace KeypadBridge
open KeypadBridge.Foundation
open LockSession (isIvRequest)

-----------------------------------------------------------------------------------------
-- The slot of the session
-----------------------------------------------------------------------------------------

/-- An answered request leaves its slot behind. -/
theorem RequestStep.slotId {held after : Contexts} {requestedSlot : UInt8} {iv : Iv}
    {drawn : Bool} (step : RequestStep held requestedSlot after iv drawn)
    : after.slotId = requestedSlot := by
  cases step with
  | resent same => exact same.symm
  | restarted => rfl
  | rotated same => exact same.symm

/-- A request moves the session to its slot, and no other frame moves it. -/
theorem LockSession.Processed.slotId {keystream : Keystream} {env : FrameEnv}
    {session : LockSession} {frame : Bytes} {outcome : LockSession.FrameOutcome}
    (processed : Processed keystream env session frame outcome)
    : outcome.session.slotId
      = if isIvRequest frame then frame.getD 7 0 else session.slotId := by
  cases processed with
  | request isRequest =>
      rw [if_pos isRequest]
      have answered :=
        answerIvRequest_answered session.clearTransient env.random (frame.getD 7 0)
      exact answered.step.slotId
  | ignored notRequest _ header drop =>
      cases drop <;> simp [notRequest, dropRetiredIf, clearTransient]
  | opened notRequest _ step =>
      rw [if_neg (by simp [notRequest])]
      exact step.slotId_eq

/-- The slot that an operation leaves behind. -/
def StationOp.requestedSlot (slot : UInt8) : StationOp → UInt8
  | .loop (.drained (.rx frame) _) => if isIvRequest frame then frame.getD 7 0 else slot
  | .reset env => if env.keyImport.isSome then 0 else slot
  | .reboot _ => 0
  | _ => slot

/-- The slot byte of the last IV request since the last start or completed reset, and zero
before the first one.
-/
def lastRequestedSlot (ops : List StationOp) : UInt8 := ops.foldl StationOp.requestedSlot 0

@[simp] theorem lastRequestedSlot_snoc (ops : List StationOp) (op : StationOp)
    : lastRequestedSlot (ops ++ [op]) = op.requestedSlot (lastRequestedSlot ops) :=
  List.foldl_append ..

/-- A started session has no slot. -/
theorem Device.setup_slotId (config : DeviceConfig) (preferences : Preferences) (env : BootEnv)
    : (setup config preferences env).1.bridge.session.slotId = 0 :=
  congrArg Contexts.slotId (setup_keeps config preferences env).contexts

namespace Station

/-- On a component that loops the session is in the slot of the last request. -/
structure SlotKnown (ops : List StationOp) (station : Station) : Prop where
  links : station.device.LinkInvariant
  slot
    : station.device.failed = false
      → station.device.bridge.session.slotId = lastRequestedSlot ops

theorem booted_slotKnown (config : DeviceConfig) (preferences : Preferences) (env : BootEnv)
    : SlotKnown [] (booted config preferences env) where
  links := Device.setup_linkInvariant config preferences env
  slot := fun _ => Device.setup_slotId config preferences env

/-- A step that leaves the session alone leaves its slot alone. -/
theorem SlotKnown.kept {ops : List StationOp} {before after : Station}
    (known : SlotKnown ops before) (links : after.device.LinkInvariant) {op : StationOp}
    (session : after.device.bridge.session = before.device.bridge.session)
    (failed : after.device.failed = before.device.failed)
    (unmoved : op.requestedSlot (lastRequestedSlot ops) = lastRequestedSlot ops)
    : SlotKnown (ops ++ [op]) after := by
  refine ⟨links, fun working => ?_⟩
  rw [lastRequestedSlot_snoc, unmoved, session]
  exact known.slot (failed ▸ working)

/-- A drained event moves the session to the slot that it requests. -/
theorem SlotKnown.drained {ops : List StationOp} {station : Station}
    (known : SlotKnown ops station) (keystream : Keystream) (event : QueuedEvent) (env : RxEnv)
    : SlotKnown (ops ++ [.loop (.drained event env)])
        (station.perform keystream (.loop (.drained event env))).1 := by
  have links := perform_linkInvariant known.links keystream (.loop (.drained event env))
  refine ⟨links, fun working => ?_⟩
  rw [lastRequestedSlot_snoc]
  cases failed : station.device.failed with
  | true => simp [Station.perform, loops_drained, failed] at working
  | false =>
      have slot := known.slot failed
      simp only [Station.perform, loops_drained, failed, Bool.not_false, if_true,
        Device.performLoop, Device.drainEvent]
      cases event with
      | connect => exact slot
      | disconnect => exact slot
      | rx frame =>
          have handled := SwitchbotKeypadBridge.onRxFrame_spec keystream
            (station.device.rxEnv env) station.device.bridge frame
          have processed := LockSession.processFrame_processed keystream
            (station.device.rxEnv env).toFrameEnv known.links.session frame
          simp only [SwitchbotKeypadBridge.drainEvent, StationOp.requestedSlot]
          rw [handled.1, processed.slotId, slot]

/-- Every operation moves the session to the slot it requests. -/
theorem SlotKnown.perform {ops : List StationOp} {station : Station}
    (known : SlotKnown ops station) (keystream : Keystream) (op : StationOp)
    : SlotKnown (ops ++ [op]) (station.perform keystream op).1 := by
  have links := perform_linkInvariant known.links keystream op
  have untouched {op : StationOp}
      (links : (station.perform keystream op).1.device.LinkInvariant)
      (same
        : (station.perform keystream op).1.device.receiveState = station.device.receiveState)
      (unmoved : op.requestedSlot (lastRequestedSlot ops) = lastRequestedSlot ops)
      : SlotKnown (ops ++ [op]) (station.perform keystream op).1 :=
    known.kept links (congrArg ReceiveState.session same) (congrArg ReceiveState.failed same)
      unmoved
  cases op with
  | loop op =>
      cases drains : (StationOp.loop op).drains with
      | false =>
          refine untouched links ?_ ?_
          · simp only [Station.perform]
            split
            · exact station.device.performLoop_receiveState keystream drains
            · rfl
          · cases op with
            | drained => cases drains
            | _ => rfl
      | true =>
          cases op with
          | drained event env => exact known.drained keystream event env
          | _ => cases drains
  | wizard => exact known.kept links rfl rfl rfl
  | relayDone => exact known.kept links rfl rfl rfl
  | advert adv =>
      refine untouched links ?_ rfl
      simp only [Station.perform]
      split <;> rfl
  | scanCallback => exact untouched links (station.device.stepScanCallback_receiveState _) rfl
  | reset env =>
      have after := station.device.resetPairing_receiveState env
      have failed : (station.device.resetPairing env).1.failed = station.device.failed :=
        congrArg ReceiveState.failed after
      have session := congrArg ReceiveState.session after
      cases keyImport : env.keyImport with
      | none =>
          rw [keyImport] at session
          exact known.kept links session failed (by simp [StationOp.requestedSlot, keyImport])
      | some id =>
          rw [keyImport] at session
          refine ⟨links, fun _ => ?_⟩
          rw [lastRequestedSlot_snoc]
          simp only [StationOp.requestedSlot, keyImport, Option.isSome_some, if_true]
          exact congrArg LockSession.slotId session
  | reboot env =>
      refine ⟨links, fun _ => ?_⟩
      rw [lastRequestedSlot_snoc]
      exact Device.setup_slotId _ _ env

theorem after_slotKnown (keystream : Keystream) (config : DeviceConfig)
    (preferences : Preferences) (env : BootEnv) (ops : List StationOp)
    : SlotKnown ops (after keystream config preferences env ops) :=
  (stationMachine keystream).inputs_invariant SlotKnown
    (booted_slotKnown config preferences env)
    (fun _ _ op known => known.perform keystream op) ops

end Station

-----------------------------------------------------------------------------------------
-- The slot of a relay
-----------------------------------------------------------------------------------------

/-- A relay runs on a component that loops and has a lock linked, under the slot of its
session.
-/
theorem Station.relayOf_config {keystream : Keystream} {station : Station} {op : StationOp}
    {task : RelayTask} (links : station.device.LinkInvariant)
    (relayed : station.relayOf keystream op = some task)
    : station.device.failed = false
      ∧ station.device.bridge.linkedLockInfo.valid ≠ 0
      ∧ task.config
        = station.device.bridge.physicalLockConfig station.device.bridge.session.slotId := by
  unfold Station.relayOf at relayed
  split at relayed
  · rename_i frame env
    split at relayed
    · cases relayed
    rename_i working
    unfold SwitchbotKeypadBridge.relayOf at relayed
    dsimp only at relayed
    split at relayed
    · rename_i starts
      obtain rfl := Option.some.inj relayed
      simp only [Bool.and_eq_true, decide_eq_true_eq, SwitchbotKeypadBridge.callsRelay] at starts
      obtain ⟨⟨accepted, linked, _⟩, _⟩ := starts
      obtain ⟨opened, opens, delivers, _⟩ :=
        LockSession.processFrame_command links.session accepted
      refine ⟨by simpa using working, ?_, ?_⟩
      · have valid := links.core.links.linked
        simp only [Device.linkCore] at valid
        rw [linked] at valid
        exact of_decide_eq_true valid.symm
      · dsimp only
        rw [delivers.header, opens.keyId]
    · cases relayed
  · cases relayed

/-- A relay addresses the lock in the slot it was linked in exactly when the slot byte of the
last IV request, since the last start or completed reset, is that slot.
-/
theorem relay_in_linked_slot_iff (keystream : Keystream) (config : DeviceConfig)
    (preferences : Preferences) (boot : BootEnv) (ops : List StationOp) (op : StationOp)
    (task : RelayTask)
    (relayed
      : let before := Station.after keystream config preferences boot ops
        task ∈ (before.perform keystream op).2.tasks)
    : let lock :=
        (Station.after keystream config preferences boot ops).device.bridge.linkedLockInfo
      task.config.keyId = lock.slotId ↔ lastRequestedSlot ops = lock.slotId := by
  intro lock
  obtain ⟨links, slot⟩ := Station.after_slotKnown keystream config preferences boot ops
  simp only [Station.perform_tasks, Option.mem_toList] at relayed
  obtain ⟨working, valid, taskConfig⟩ := Station.relayOf_config links relayed
  rw [taskConfig, ← slot working]
  simp [SwitchbotKeypadBridge.physicalLockConfig, valid]

/-- A keypad of the Vision family is paired, and a lock is linked in that family's slot. -/
def linkedOps : List StationOp :=
  pairedAs [0x4b]
    ++ [.loop (.lockLinked [0x4c]
          ("B1:B2:B3:B4:B5:B6".toList.map fun char => .ofNat char.toNat) .lock .vision),
        .loop (.applyLockLink 0 fun _ => true)]

/-- Everything that a frame finds outside works. -/
def workingRx : RxEnv where
  toFrameEnv := constantEnv
  isScanning := false
  relayTaskCreated := true

/-- A keypad asks for an IV in the given slot. -/
def askedIn (slot : UInt8) : StationOp := .loop (.drained (.rx (ivRequest slot)) workingRx)

/-- A lock command under the first IV, in the given slot. -/
def lockedIn (slot : UInt8) : StationOp :=
  .loop (.drained (.rx ([0x57, slot, 0x00, 0x00] ++ frameLock)) workingRx)

/-- The task that a lock command of the given slot starts. -/
def lockTask (slot : UInt8) : RelayTask where
  config :=
    { mac := "B1:B2:B3:B4:B5:B6"
      model := .lock
      keyId := slot
      key := Vector.replicate 16 0x11 }
  plaintext := frameLock
  command := { type := .lock }

theorem relay_in_linked_slot_vision
    : let lock :=
        (Station.after clearStream {} {} firstBoot
          (linkedOps ++ [askedIn sharedSlotVision])).device.bridge.linkedLockInfo
      (lockTask sharedSlotVision).config.keyId = lock.slotId
      ↔ lastRequestedSlot (linkedOps ++ [askedIn sharedSlotVision]) = lock.slotId :=
  relay_in_linked_slot_iff clearStream {} {} firstBoot (linkedOps ++ [askedIn sharedSlotVision])
    (lockedIn sharedSlotVision) (lockTask sharedSlotVision) (by decide +kernel)

/-- A frame in another slot is relayed under that slot. -/
theorem relay_in_requested_slot
    : ¬ ∀ (keystream : Keystream) (config : DeviceConfig) (preferences : Preferences)
        (boot : BootEnv) (ops : List StationOp) (op : StationOp) (task : RelayTask),
          let before := Station.after keystream config preferences boot ops
          task ∈ (before.perform keystream op).2.tasks
          → task.config.keyId = before.device.bridge.linkedLockInfo.slotId := by
  intro always
  have same := always clearStream {} {} firstBoot (linkedOps ++ [askedIn sharedSlotOriginal])
    (lockedIn sharedSlotOriginal) (lockTask sharedSlotOriginal) (by decide +kernel)
  exact absurd same (by decide +kernel)

end KeypadBridge
