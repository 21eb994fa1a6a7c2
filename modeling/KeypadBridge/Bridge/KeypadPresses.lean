import KeypadBridge.Bridge.RelayOrder
import KeypadBridge.Bridge.Sensors

/-! What Home Assistant hears of the keypad. Whatever is pressed is announced at once: to the
event entity where there is one, and to the automations. Nothing else that the component does
is announced.
-/

namespace KeypadBridge
open KeypadBridge.Foundation

-----------------------------------------------------------------------------------------
-- Presses and announcements
-----------------------------------------------------------------------------------------

/-- What somebody does at the keypad. -/
inductive KeypadPress where
  | lock
  | unlock (method : UnlockMethod) (credential : Int)
  | doorbell
  deriving DecidableEq

namespace KeypadPress

/-- The press behind a command. A poll is the keypad's own, and an unknown frame is none. -/
def ofCommand (command : DecodedCommand) : Option KeypadPress :=
  match command.type with
  | .lock => some .lock
  | .unlock => some (.unlock command.method command.credentialIndex)
  | .doorbell => some .doorbell
  | .statePoll => none
  | .unknown => none

/-- The event type by which the entity shows a press. -/
def eventType : KeypadPress → String
  | lock => "Lock"
  | unlock _ _ => "Unlock"
  | doorbell => "Doorbell"

/-- The automations that a press starts. -/
def trigger : KeypadPress → BridgeEffect
  | lock => .onLock
  | unlock method credential => .onUnlock method.name credential
  | doorbell => .onDoorbell

/-- A press as it is announced, with or without an event entity. -/
def announcement (entity : Bool) (press : KeypadPress) : List DeviceEffect :=
  (if entity then [.bridge (.keypadEvent press.eventType)] else []) ++ [.bridge press.trigger]

end KeypadPress

def BridgeEffect.isAnnouncement : BridgeEffect → Bool
  | keypadEvent _ | onLock | onUnlock _ _ | onDoorbell => true
  | _ => false

def DeviceEffect.isAnnouncement : DeviceEffect → Bool
  | bridge effect => effect.isAnnouncement
  | _ => false

/-- What a step announces. -/
def StationStep.announcements (step : StationStep) : List DeviceEffect :=
  step.effects.filter DeviceEffect.isAnnouncement

/-- The press that a frame brings, by the plaintext that the session accepted. -/
def LockSession.FrameOutcome.press (outcome : LockSession.FrameOutcome) : Option KeypadPress :=
  if outcome.action = .command then
    KeypadPress.ofCommand (decodeLockCommand outcome.session.plaintextBytes)
  else none

def StationStep.press (step : StationStep) : Option KeypadPress := step.outcome.bind (·.press)

/-- The announcements of a run are those of its presses, each made once and in order, and a step
announces before anything else: the reply to the keypad and the relay to the lock wait.
-/
structure PressesAnnounced (entity : Bool) (steps : List StationStep) : Prop where
  announced
    : steps.flatMap StationStep.announcements
      = (steps.filterMap StationStep.press).flatMap (KeypadPress.announcement entity)
  first : ∀ step ∈ steps, step.announcements <+: step.effects

-----------------------------------------------------------------------------------------
-- A frame
-----------------------------------------------------------------------------------------

/-- An accepted command is what its plaintext decodes to. -/
theorem LockSession.accepted_command {keystream : Keystream} {env : FrameEnv}
    {session : LockSession} {frame : Bytes} (wf : session.contexts.WellFormed)
    (accepted : (session.processFrame keystream env frame).action = .command)
    : let after := (session.processFrame keystream env frame).session
      after.command = decodeLockCommand after.plaintextBytes := by
  intro after
  obtain ⟨opened, _, delivers, _⟩ := processFrame_command wf accepted
  exact delivers.command.trans (congrArg decodeLockCommand delivers.plaintext.symm)

namespace SwitchbotKeypadBridge

section

variable (bridge : SwitchbotKeypadBridge)

/-- A command is announced as the press behind it. -/
theorem publishCommand_announces (command : DecodedCommand)
    : (bridge.publishCommand command).2.map DeviceEffect.bridge
      = (KeypadPress.ofCommand command).toList.flatMap
          (KeypadPress.announcement bridge.hasKeypadEvent) := by
  unfold publishCommand KeypadPress.ofCommand
  cases command.type with
  | lock | unlock | doorbell => cases entity : bridge.hasKeypadEvent <;> simp [publishLock,
      publishUnlock, publishDoorbell, triggerKeypadEvent, KeypadPress.announcement,
      KeypadPress.eventType, KeypadPress.trigger, entity]
  | statePoll | unknown => rfl

/-- No part of an answer to the keypad is an announcement. -/
theorem sendLocalResponse_unannounced (keystream : Keystream) (env : RxEnv)
    (header : FrameHeader) (command : DecodedCommand)
    : ∀ effect ∈ bridge.sendLocalResponse keystream env header command,
        effect.isAnnouncement = false := by
  have encrypted (plaintext : Bytes)
      : ∀ effect ∈ bridge.sendEncryptedResponse keystream env header plaintext,
          effect.isAnnouncement = false := by
    unfold sendEncryptedResponse
    split <;> simp [BridgeEffect.isAnnouncement]
  unfold sendLocalResponse handleStatePoll
  split
  · exact encrypted _
  · exact encrypted _
  · exact encrypted _
  · simp [sendAck, BridgeEffect.isAnnouncement]
  · simp [sendAck, BridgeEffect.isAnnouncement]

theorem stopBatteryScan_unannounced (isScanning : Bool)
    : ∀ effect ∈ (bridge.stopBatteryScan isScanning).2, effect.isAnnouncement = false := by
  unfold stopBatteryScan
  cases bridge.batteryScan.active <;> cases isScanning <;> simp [BridgeEffect.isAnnouncement]

/-- Nor is any part of a relay. -/
theorem relayToLockAsync_unannounced (env : RxEnv) (header : FrameHeader)
    (command : DecodedCommand)
    : ∀ effect ∈ (bridge.relayToLockAsync env header command).2.2,
        effect.isAnnouncement = false := by
  have stopped := stopBatteryScan_unannounced { bridge with lockRelayBusy := true } env.isScanning
  unfold relayToLockAsync
  split
  · simp
  split
  · simp
  dsimp only
  split
  · intro effect member
    rcases List.mem_append.mp member with ahead | task
    · exact stopped effect ahead
    · obtain rfl := List.mem_singleton.mp task
      rfl
  · exact stopped

end

section

variable (keystream : Keystream) (env : RxEnv) (bridge : SwitchbotKeypadBridge)

/-- A command is announced ahead of everything else, whether or not a lock is linked. -/
theorem handleCommand_announces (header : FrameHeader) (command : DecodedCommand)
    : ∃ rest : List BridgeEffect,
        (bridge.handleCommand keystream env header command).2
          = (bridge.publishCommand command).2 ++ rest
        ∧ ∀ effect ∈ rest, effect.isAnnouncement = false := by
  unfold handleCommand
  dsimp only
  generalize (bridge.publishCommand command).1 = updated
  have replied := updated.sendLocalResponse_unannounced keystream env header command
  have relayed := updated.relayToLockAsync_unannounced env header command
  have both (effect : BridgeEffect)
      (member
        : effect
          ∈ updated.sendLocalResponse keystream env header command
            ++ (updated.relayToLockAsync env header command).2.2)
      : effect.isAnnouncement = false :=
    (List.mem_append.mp member).elim (replied effect) (relayed effect)
  split
  · split
    · exact ⟨_, List.append_assoc .., both⟩
    · exact ⟨_, List.append_assoc .., both⟩
    · exact ⟨_, List.append_assoc .., both⟩
    · exact ⟨_, rfl, replied⟩
    · exact ⟨_, rfl, replied⟩
  · exact ⟨_, rfl, replied⟩

/-- A frame is announced as the press that it brings. -/
theorem onRxFrame_announces (wf : bridge.session.contexts.WellFormed) (frame : Bytes)
    : ∃ rest : List BridgeEffect,
        (bridge.onRxFrame keystream env frame).2.map DeviceEffect.bridge
          = (bridge.session.processFrame keystream env.toFrameEnv frame).press.toList.flatMap
              (KeypadPress.announcement bridge.hasKeypadEvent)
            ++ rest.map .bridge
        ∧ ∀ effect ∈ rest, effect.isAnnouncement = false := by
  have decoded := @LockSession.accepted_command keystream env.toFrameEnv _ frame wf
  unfold onRxFrame LockSession.FrameOutcome.press
  dsimp only at decoded ⊢
  generalize bridge.session.processFrame keystream env.toFrameEnv frame = outcome at decoded
  cases action : outcome.action with
  | none => exact ⟨[], by simp, by simp⟩
  | sendIv =>
      exact ⟨[.notify outcome.session.ivResponse.toList], by simp,
        by simp [BridgeEffect.isAnnouncement]⟩
  | command =>
      obtain ⟨rest, effects, unannounced⟩ := handleCommand_announces keystream env
        { bridge with session := outcome.session } outcome.session.header
        outcome.session.command
      refine ⟨rest, ?_, unannounced⟩
      dsimp only
      rw [effects, List.map_append, publishCommand_announces, decoded action, if_pos rfl]

end

end SwitchbotKeypadBridge

-----------------------------------------------------------------------------------------
-- Everything else
-----------------------------------------------------------------------------------------

/-- Effects among which nothing is announced. -/
def Unannounced (effects : List DeviceEffect) : Prop :=
  ∀ effect ∈ effects, effect.isAnnouncement = false

namespace Unannounced

variable {effects : List DeviceEffect}

theorem nil : Unannounced [] := by simp [Unannounced]

theorem append {more : List DeviceEffect} (hl : Unannounced effects) (hr : Unannounced more)
    : Unannounced (effects ++ more) := by
  intro effect member
  exact (List.mem_append.mp member).elim (hl effect) (hr effect)

theorem bridge {effects : List BridgeEffect}
    (unannounced : ∀ effect ∈ effects, effect.isAnnouncement = false)
    : Unannounced (effects.map .bridge) := by
  intro effect member
  obtain ⟨inner, isInner, rfl⟩ := List.mem_map.mp member
  exact unannounced inner isInner

theorem stopScan (device : Device) (isScanning : Bool)
    : Unannounced (device.stopBatteryScan isScanning).2 :=
  .bridge (device.bridge.stopBatteryScan_unannounced isScanning)

theorem text (present : Bool) {sensor : Bytes → DeviceEffect} (text : Bytes)
    (unannounced : ∀ text, (sensor text).isAnnouncement = false)
    : Unannounced (Device.publishTextOrUnlinked present sensor text) := by
  unfold Device.publishTextOrUnlinked
  split
  · simpa [Unannounced] using unannounced _
  · exact nil

theorem linkedLock (device : Device) : Unannounced device.publishLinkedLock :=
  text _ _ fun _ => rfl

theorem lockCleared (device : Device) : Unannounced device.clearLockBattery.2 := by
  unfold Device.clearLockBattery
  dsimp only
  split
  · simp [Unannounced, DeviceEffect.isAnnouncement]
  · exact nil

theorem lockClearedUnless (device : Device) (keep : Bool)
    : Unannounced (if keep = true then (device, []) else device.clearLockBattery).2 := by
  cases keep with
  | false => exact lockCleared device
  | true => exact nil

theorem keypadCleared (device : Device) : Unannounced device.resetKeypadBattery.2 := by
  unfold Device.resetKeypadBattery
  dsimp only
  split
  · simp [Unannounced, DeviceEffect.isAnnouncement]
  · exact nil

end Unannounced

namespace Device

variable (device : Device)

/-- What a step leaves if it announces nothing: no announcement, and the entity as it was. -/
structure Hushed (after : Device × List DeviceEffect) : Prop where
  entity : after.1.bridge.hasKeypadEvent = device.bridge.hasKeypadEvent
  unannounced : Unannounced after.2

theorem publishKeypadBattery_hushed (value : Nat)
    : device.Hushed (device.publishKeypadBattery value) := by
  unfold publishKeypadBattery
  split
  · exact ⟨rfl, by simp [Unannounced, DeviceEffect.isAnnouncement]⟩
  · exact ⟨rfl, .nil⟩

theorem publishLockBattery_hushed (value : Nat)
    : device.Hushed (device.publishLockBattery value) := by
  unfold publishLockBattery
  split
  · exact ⟨rfl, by simp [Unannounced, DeviceEffect.isAnnouncement]⟩
  · exact ⟨rfl, .nil⟩

theorem applyPendingKeypadBattery_hushed (env : ScanEnv)
    : device.Hushed (device.applyPendingKeypadBattery env) := by
  unfold applyPendingKeypadBattery
  split
  · exact ⟨rfl, .nil⟩
  · dsimp only
    refine ⟨(publishKeypadBattery_hushed _ _).entity.trans ?_,
      (publishKeypadBattery_hushed _ _).unannounced⟩
    unfold learnKeypad
    dsimp only
    split <;> rfl

theorem applyPendingLockBattery_hushed : device.Hushed device.applyPendingLockBattery := by
  unfold applyPendingLockBattery
  split
  · exact ⟨rfl, .nil⟩
  · exact ⟨(publishLockBattery_hushed _ _).entity, (publishLockBattery_hushed _ _).unannounced⟩

theorem scheduleScan_hushed (due : UInt32) : device.Hushed (device.scheduleScan due, []) :=
  ⟨rfl, .nil⟩

/-- Closing the window announces nothing. -/
theorem stopAndSchedule_hushed (isScanning : Bool) (due : UInt32)
    : device.Hushed
        ((device.stopBatteryScan isScanning).1.scheduleScan due,
          (device.stopBatteryScan isScanning).2) :=
  ⟨rfl, .stopScan _ _⟩

theorem openBatteryScan_entity (wantsKeypad wantsLock : Bool)
    : (device.openBatteryScan wantsKeypad wantsLock).bridge.hasKeypadEvent
      = device.bridge.hasKeypadEvent :=
  rfl

theorem maybeFinishBatteryScan_hushed (env : ScanEnv)
    : device.Hushed (device.maybeFinishBatteryScan env) := by
  unfold maybeFinishBatteryScan
  dsimp only
  split
  · exact ⟨rfl, .nil⟩
  split
  · exact ⟨rfl, .nil⟩
  split
  · exact ⟨rfl, .nil⟩
  · exact device.stopAndSchedule_hushed _ _

theorem maybeStartBatteryScan_hushed (env : ScanEnv)
    : device.Hushed (device.maybeStartBatteryScan env) := by
  unfold maybeStartBatteryScan
  dsimp only
  split
  · split
    · exact ⟨rfl, .nil⟩
    · exact device.stopAndSchedule_hushed _ _
  split
  · exact ⟨rfl, .nil⟩
  split
  · exact device.scheduleScan_hushed _
  split
  · exact device.scheduleScan_hushed _
  split
  · exact ⟨device.openBatteryScan_entity _ _,
      by simp [Unannounced, DeviceEffect.isAnnouncement]⟩
  · exact ⟨(stopAndSchedule_hushed _ _ _).entity.trans (device.openBatteryScan_entity _ _),
      (stopAndSchedule_hushed _ _ _).unannounced⟩

/-- A call of `loop()` that drains nothing announces nothing. -/
theorem performLoop_hushed (keystream : Keystream) {op : LoopOp}
    (undrained : (StationOp.loop op).drains = false)
    : device.Hushed
        ((device.performLoop keystream op).1, (device.performLoop keystream op).2.effects) := by
  cases op with
  | paired => exact ⟨rfl, .nil⟩
  | lockLinked => exact ⟨rfl, .nil⟩
  | applyPairing millis accepts =>
      simp only [performLoop, applyPendingPairing]
      split
      · exact ⟨rfl, .nil⟩
      · exact ⟨rfl, .text _ _ fun _ => rfl⟩
  | applyLockLink millis accepts =>
      simp only [performLoop, applyPendingLockLink]
      split
      · exact ⟨rfl, .nil⟩
      · exact ⟨rfl, .append (.linkedLock _) (.lockCleared _)⟩
  | drained => cases undrained
  | keypadBattery env => exact device.applyPendingKeypadBattery_hushed env
  | lockBattery => exact device.applyPendingLockBattery_hushed
  | finishScan env => exact device.maybeFinishBatteryScan_hushed env
  | startScan env => exact device.maybeStartBatteryScan_hushed env

theorem forgetLinks_hushed (env : ResetEnv) : device.Hushed (device.forgetLinks env) := by
  have entity
      : (device.forgetLinks env).1.bridge.hasKeypadEvent = device.bridge.hasKeypadEvent := rfl
  refine ⟨entity, ?_⟩
  unfold forgetLinks
  dsimp only
  refine .append (.append (.append (.append ?_ ?_) ?_) ?_) ?_
  · exact .stopScan _ _
  · exact .text _ _ fun _ => rfl
  · exact .linkedLock _
  · exact .lockCleared _
  · exact .keypadCleared _

theorem resetPairing_hushed (env : ResetEnv) : device.Hushed (device.resetPairing env) := by
  have rotated : (device.rotated env).bridge.hasKeypadEvent = device.bridge.hasKeypadEvent := by
    unfold rotated importAesKey
    split <;> rfl
  by_cases failed : env.keyImport = none
  · rw [resetPairing_aborted failed]
    exact ⟨rotated, .nil⟩
  · rw [resetPairing_completed failed]
    have forgotten := (device.rotated env).forgetLinks_hushed env
    exact ⟨forgotten.entity.trans rotated, forgotten.unannounced⟩

theorem restoreLock_hushed (env : BootEnv) : device.Hushed (device.restoreLock env) := by
  unfold restoreLock
  dsimp only
  refine ⟨?_, .append (.linkedLock _) (.lockClearedUnless _ _)⟩
  split <;> split <;> rfl

theorem bringUp_entity (env : BootEnv)
    : (device.bringUp env).bridge.hasKeypadEvent = device.bridge.hasKeypadEvent := by
  have imported
      : (device.importAesKey env.keyImport).1.bridge.hasKeypadEvent
        = device.bridge.hasKeypadEvent := by
    unfold importAesKey
    split <;> rfl
  unfold bringUp
  split
  · rfl
  · dsimp only
    generalize (device.importAesKey env.keyImport).1 = keyed at imported
    split
    · exact imported
    · split <;> exact imported

/-- A start announces nothing, and has the entity that is configured. -/
theorem setup_hushed (config : DeviceConfig) (preferences : Preferences) (env : BootEnv)
    : (powerOn config preferences).Hushed (setup config preferences env) := by
  have keyed
      : ((powerOn config preferences).restoreKey env).bridge.hasKeypadEvent
        = (powerOn config preferences).bridge.hasKeypadEvent := by
    unfold restoreKey
    split <;> rfl
  simp only [setup, restoreLinks]
  generalize (powerOn config preferences).restoreKey env = restored at keyed
  have locked := restored.restoreKeypad.1.restoreLock_hushed env
  refine ⟨(bringUp_entity _ env).trans (locked.entity.trans keyed), ?_⟩
  exact .append (.text _ _ fun _ => rfl) locked.unannounced

end Device

namespace Station

variable (keystream : Keystream) (station : Station)

/-- An operation that drains nothing announces nothing. -/
theorem perform_unannounced {op : StationOp} (undrained : op.drains = false)
    : Unannounced (station.perform keystream op).2.effects := by
  cases op with
  | loop op =>
      simp only [perform]
      split
      · exact (station.device.performLoop_hushed keystream undrained).unannounced
      · exact .nil
  | wizard => exact .nil
  | relayDone => exact .nil
  | advert adv =>
      simp only [perform]
      split <;> exact .nil
  | scanCallback => exact .nil
  | reset env => exact (station.device.resetPairing_hushed env).unannounced
  | reboot env => exact (Device.setup_hushed _ _ env).unannounced

/-- The bridge keeps the event entity that is configured. -/
theorem perform_entity (op : StationOp)
    (known
      : station.device.bridge.hasKeypadEvent = station.device.config.hasKeypadEvent)
    : (station.perform keystream op).1.device.bridge.hasKeypadEvent
      = station.device.config.hasKeypadEvent := by
  cases op with
  | loop op =>
      cases drains : (StationOp.loop op).drains with
      | false =>
          simp only [perform]
          split
          · exact (station.device.performLoop_hushed keystream drains).entity.trans known
          · exact known
      | true =>
          cases op with
          | drained event env =>
              simp only [perform, loops_drained]
              split
              · exact (station.device.bridge.drainEvent_sameLinks keystream
                  (station.device.rxEnv env) event).hasKeypadEvent.trans known
              · exact known
          | _ => cases drains
  | wizard => exact known
  | relayDone => exact known
  | advert adv =>
      simp only [perform]
      split <;> exact known
  | scanCallback =>
      obtain ⟨_, _, parked⟩ := station.device.stepScanCallback_parks station.scanCallback
      simp only [perform, parked]
      exact known
  | reset env => exact (station.device.resetPairing_hushed env).entity.trans known
  | reboot env => exact (Device.setup_hushed _ _ env).entity

/-- What stands behind a press is none of its announcement. -/
theorem announcements_append (entity : Bool) (press : Option KeypadPress)
    {rest : List DeviceEffect} (unannounced : Unannounced rest)
    : let announced := press.toList.flatMap (KeypadPress.announcement entity)
      (announced ++ rest).filter DeviceEffect.isAnnouncement = announced := by
  have nothing : rest.filter DeviceEffect.isAnnouncement = [] :=
    List.filter_eq_nil_iff.mpr fun effect member =>
      Bool.eq_false_iff.mp (unannounced effect member)
  intro announced
  rw [List.filter_append, nothing, List.append_nil, List.filter_eq_self]
  cases press with
  | none => simp [announced]
  | some press =>
      cases press <;> cases entity <;> simp [announced, KeypadPress.announcement,
        KeypadPress.trigger, DeviceEffect.isAnnouncement, BridgeEffect.isAnnouncement]

/-- The effects of a step begin with the announcement of the press that it brings. -/
theorem perform_effects (wf : station.device.bridge.session.contexts.WellFormed)
    (op : StationOp)
    : let step := (station.perform keystream op).2
      ∃ rest,
        step.effects
          = step.press.toList.flatMap
              (KeypadPress.announcement station.device.bridge.hasKeypadEvent)
            ++ rest
        ∧ Unannounced rest := by
  intro step
  cases drains : op.drains with
  | false =>
      have outcome : step.outcome = none := station.perform_outcome_undrained keystream drains
      refine ⟨step.effects, ?_, station.perform_unannounced keystream drains⟩
      simp [StationStep.press, outcome]
  | true =>
      obtain ⟨event, env, rfl⟩ : ∃ event env, op = .loop (.drained event env) := by
        unfold StationOp.drains at drains
        split at drains
        · exact ⟨_, _, rfl⟩
        · cases drains
      have outcome : step.outcome = _ := station.perform_outcome_drained keystream event env
      unfold StationStep.press
      rw [outcome]
      simp only [step, perform, loops_drained]
      cases station.device.failed with
      | true => exact ⟨[], rfl, .nil⟩
      | false =>
          simp only [Device.performLoop, Device.drainEvent, Bool.not_false, if_true,
            Bool.false_eq_true, if_false]
          cases event with
          | connect => exact ⟨[], rfl, .nil⟩
          | disconnect =>
              refine ⟨[.bridge .startAdvertising], rfl, ?_⟩
              simp [Unannounced, DeviceEffect.isAnnouncement, BridgeEffect.isAnnouncement]
          | rx frame =>
              obtain ⟨rest, effects, unannounced⟩ :=
                station.device.bridge.onRxFrame_announces keystream (station.device.rxEnv env)
                  wf frame
              exact ⟨_, effects, .bridge unannounced⟩

/-- A step announces the press that it brings, ahead of everything else. -/
theorem perform_announces (wf : station.device.bridge.session.contexts.WellFormed)
    (op : StationOp)
    : let step := (station.perform keystream op).2
      step.announcements
        = step.press.toList.flatMap
            (KeypadPress.announcement station.device.bridge.hasKeypadEvent)
      ∧ step.announcements <+: step.effects := by
  intro step
  obtain ⟨rest, effects, unannounced⟩ := station.perform_effects keystream wf op
  change step.effects = _ at effects
  have announcements : step.announcements = _ :=
    (congrArg (List.filter DeviceEffect.isAnnouncement) effects).trans
      (announcements_append _ step.press unannounced)
  exact ⟨announcements, by rw [announcements, effects]; exact List.prefix_append _ _⟩

end Station

/-- What the announcements of a run rest on. -/
structure Station.PressesKnown (entity : Bool) (steps : List StationStep) (station : Station)
    : Prop where
  links : station.device.LinkInvariant
  configured : station.device.config.hasKeypadEvent = entity
  present : station.device.bridge.hasKeypadEvent = entity
  announced : PressesAnnounced entity steps

/-- Every operation announces the press that it brings, and nothing else. -/
theorem Station.PressesKnown.perform {entity : Bool} {steps : List StationStep}
    {station : Station} (known : PressesKnown entity steps station) (keystream : Keystream)
    (op : StationOp)
    : let after := station.perform keystream op
      PressesKnown entity (steps ++ [after.2]) after.1 := by
  intro after
  obtain ⟨links, configured, same, ⟨announced, first⟩⟩ := known
  have config : after.1.device.config = station.device.config :=
    (station.perform_sensors keystream op).config
  have kept : after.1.device.bridge.hasKeypadEvent = station.device.config.hasKeypadEvent :=
    station.perform_entity keystream op (same.trans configured.symm)
  obtain ⟨announcements, ahead⟩ := station.perform_announces keystream links.session op
  change after.2.announcements = _ at announcements
  rw [same] at announcements
  refine ⟨perform_linkInvariant links keystream op, config ▸ configured, kept.trans configured,
    ?_, ?_⟩
  · rw [List.flatMap_append, List.filterMap_append, List.flatMap_append, announced,
      List.flatMap_singleton, announcements]
    cases press : after.2.press <;> simp [press]
  · intro step member
    rcases List.mem_append.mp member with earlier | last
    · exact first step earlier
    · obtain rfl := List.mem_singleton.mp last
      exact ahead

/-- In every run of the component, restarts and resets included, Home Assistant is told of
exactly the presses that the session accepted, once each and in order, by the credential that
the plaintext names, before the keypad is answered and whether or not a lock is linked.
-/
theorem presses_announced (keystream : Keystream) (config : DeviceConfig)
    (preferences : Preferences) (boot : BootEnv) (ops : List StationOp)
    : PressesAnnounced config.hasKeypadEvent
        ((stationMachine keystream).history (.booted config preferences boot) ops) := by
  have sensors := Device.setup_sensors config preferences boot
  have booted
      : Station.PressesKnown config.hasKeypadEvent [] (.booted config preferences boot) :=
    { links := Device.setup_linkInvariant config preferences boot
      configured := congrArg (DeviceConfig.hasKeypadEvent ∘ SensorView.config) sensors.1
      present := (Device.setup_hushed config preferences boot).entity
      announced := ⟨rfl, by simp⟩ }
  exact ((stationMachine keystream).history_invariant
    (Station.PressesKnown config.hasKeypadEvent) booted
    (fun _ _ op known => known.perform keystream op) ops).announced

end KeypadBridge
