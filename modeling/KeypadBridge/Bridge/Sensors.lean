import KeypadBridge.Bridge.Scanning
import KeypadBridge.Foundation.Gauge

/-! What Home Assistant sees on the sensors: the name of the linked lock and the two battery
levels. The lock's name is published whenever the link changes, a battery level only when it
is another one than the last.
-/

namespace KeypadBridge
open KeypadBridge.Foundation

-----------------------------------------------------------------------------------------
-- What is on the sensors
-----------------------------------------------------------------------------------------

/-- The text that stands for the lock link: the lock's name, or that there is none. -/
def Device.lockText (device : Device) : Bytes :=
  let name :=
    if device.bridge.lockLinked && device.bridge.linkedLockInfo.valid ≠ 0 then
      NameBuffer.text device.bridge.linkedLockInfo.name
    else []
  if name = [] then unlinkedText else name

/-- What the component remembers of its sensors. -/
structure SensorView where
  config : DeviceConfig
  lockText : Bytes
  lastKeypadBattery : Option Nat
  lastLockBattery : Option Nat

def Device.sensorView (device : Device) : SensorView where
  config := device.config
  lockText := device.lockText
  lastKeypadBattery := device.lastKeypadBattery
  lastLockBattery := device.lastLockBattery

namespace StationStep

/-- The texts a step publishes for the linked lock. -/
def lockTexts (step : StationStep) : List Bytes :=
  step.effects.filterMap fun
    | .linkedLockText text => some text
    | _ => none

/-- What a step shows on the keypad's battery sensor. A pairing, a reset and a restart make
the component forget what it showed.
-/
def keypadLevels (step : StationStep) : List (GaugeEvent Nat) :=
  (match step.milestone with
    | some (.pairingApplied _) | some .linksReset | some .booted => [.forgotten]
    | _ => [])
  ++ step.effects.filterMap fun
    | .keypadBattery percent => some (.shown percent)
    | _ => none

/-- What a step shows on the lock's battery sensor. -/
def lockLevels (step : StationStep) : List (GaugeEvent Nat) :=
  (match step.milestone with
    | some (.lockApplied _) | some .linksReset | some .booted => [.forgotten]
    | _ => [])
  ++ step.effects.filterMap fun
    | .lockBattery percent => some (.shown percent)
    | _ => none

end StationStep

-----------------------------------------------------------------------------------------
-- Steps that show nothing
-----------------------------------------------------------------------------------------

/-- An effect that is on none of these sensors. -/
def DeviceEffect.IsSilent : DeviceEffect → Prop
  | .linkedLockText _ | .keypadBattery _ | .lockBattery _ => False
  | _ => True

def Silent (effects : List DeviceEffect) : Prop := ∀ effect ∈ effects, effect.IsSilent

namespace Silent

variable {effects : List DeviceEffect}

theorem nil : Silent [] := by simp [Silent]

theorem bridge (effects : List BridgeEffect) : Silent (effects.map .bridge) := by
  intro effect member
  obtain ⟨_, _, rfl⟩ := List.mem_map.mp member
  trivial

theorem keypadText (present : Bool) (text : Bytes)
    : Silent (Device.publishTextOrUnlinked present .keypadText text) := by
  unfold Device.publishTextOrUnlinked
  split
  · simp [Silent, DeviceEffect.IsSilent]
  · exact nil

theorem append {more : List DeviceEffect} (hl : Silent effects) (hr : Silent more)
    : Silent (effects ++ more) := by
  intro effect member
  exact (List.mem_append.mp member).elim (hl effect) (hr effect)

/-- What is read of one sensor is not among silent effects. -/
theorem filterMap_append {Shown : Type} (silent : Silent effects) (more : List DeviceEffect)
    (read : DeviceEffect → Option Shown)
    (unread : ∀ effect, effect.IsSilent → read effect = none)
    : (effects ++ more).filterMap read = more.filterMap read := by
  rw [List.filterMap_append, List.filterMap_eq_nil_iff.mpr fun effect member =>
    unread effect (silent effect member), List.nil_append]

end Silent

-----------------------------------------------------------------------------------------
-- One step
-----------------------------------------------------------------------------------------

/-- What one step may do to the sensors: the lock's text is left alone or published as it is
now, and each battery sensor is written on change or cleared.
-/
structure SensorMove (before after : SensorView) (step : StationStep) : Prop where
  config : after.config = before.config
  text
    : (step.lockTexts = [] ∧ after.lockText = before.lockText)
      ∨ step.lockTexts = if before.config.hasLinkedLockText then [after.lockText] else []
  keypad
    : Gauge.Writes before.lastKeypadBattery step.keypadLevels after.lastKeypadBattery
  lock : Gauge.Writes before.lastLockBattery step.lockLevels after.lastLockBattery

namespace SensorMove

variable {before after : SensorView} {milestone : Option Milestone}

/-- Silent effects ahead of others change nothing on the sensors. -/
theorem behind {silent effects : List DeviceEffect}
    (move : SensorMove before after { effects, milestone }) (quiet : Silent silent)
    (outcome : Option LockSession.FrameOutcome)
    : SensorMove before after { outcome, effects := silent ++ effects, milestone } where
  config := move.config
  text := by
    have texts := quiet.filterMap_append effects (fun
      | .linkedLockText text => some text
      | _ => none) fun effect isSilent => by cases effect <;> first | rfl | exact isSilent.elim
    simpa only [StationStep.lockTexts, texts] using move.text
  keypad := by
    have levels := quiet.filterMap_append effects (fun
      | .keypadBattery percent => some (GaugeEvent.shown percent)
      | _ => none) fun effect isSilent => by cases effect <;> first | rfl | exact isSilent.elim
    simpa only [StationStep.keypadLevels, levels] using move.keypad
  lock := by
    have levels := quiet.filterMap_append effects (fun
      | .lockBattery percent => some (GaugeEvent.shown percent)
      | _ => none) fun effect isSilent => by cases effect <;> first | rfl | exact isSilent.elim
    simpa only [StationStep.lockLevels, levels] using move.lock

/-- A step that shows nothing and leaves the view alone. -/
theorem quiet {effects : List DeviceEffect} (same : after = before) (silent : Silent effects)
    (outcome : Option LockSession.FrameOutcome)
    : SensorMove before after { outcome, effects } := by
  subst same
  have still : SensorMove after after {} := ⟨rfl, .inl ⟨rfl, rfl⟩, .kept _, .kept _⟩
  simpa using still.behind silent outcome

/-- The lock's text and cleared levels, as they are published together. -/
theorem republished (before after : SensorView) (milestone : Option Milestone)
    (linked : after.config = before.config) (keypad lock : Bool)
    (keypadMove
      : Gauge.Writes before.lastKeypadBattery
          (StationStep.keypadLevels
            { effects := if keypad then [.keypadBattery none] else [], milestone })
          after.lastKeypadBattery)
    (lockMove
      : Gauge.Writes before.lastLockBattery
          (StationStep.lockLevels
            { effects := if lock then [.lockBattery none] else [], milestone })
          after.lastLockBattery)
    : SensorMove before after
        { effects :=
            (if before.config.hasLinkedLockText then [.linkedLockText after.lockText] else [])
            ++ ((if lock then [.lockBattery none] else [])
              ++ if keypad then [.keypadBattery none] else [])
          milestone } := by
  refine ⟨linked, .inr ?_, ?_, ?_⟩
  · cases before.config.hasLinkedLockText <;> cases keypad <;> cases lock <;> rfl
  · have same (before : SensorView)
        : StationStep.keypadLevels
            { effects :=
                (if before.config.hasLinkedLockText then [.linkedLockText after.lockText] else [])
                ++ ((if lock then [.lockBattery none] else [])
                  ++ if keypad then [.keypadBattery none] else [])
              milestone }
          = StationStep.keypadLevels
              { effects := if keypad then [.keypadBattery none] else [], milestone } := by
      cases before.config.hasLinkedLockText <;> cases keypad <;> cases lock <;> rfl
    rw [same]
    exact keypadMove
  · have same (before : SensorView)
        : StationStep.lockLevels
            { effects :=
                (if before.config.hasLinkedLockText then [.linkedLockText after.lockText] else [])
                ++ ((if lock then [.lockBattery none] else [])
                  ++ if keypad then [.keypadBattery none] else [])
              milestone }
          = StationStep.lockLevels
              { effects := if lock then [.lockBattery none] else [], milestone } := by
      cases before.config.hasLinkedLockText <;> cases keypad <;> cases lock <;> rfl
    rw [same]
    exact lockMove

end SensorMove

namespace Device

variable (device : Device)

/-- A component with the same configuration, lock link and remembered levels shows the same. -/
theorem sensorView_congr (before after : Device) (config : after.config = before.config)
    (linked : after.bridge.lockLinked = before.bridge.lockLinked)
    (info : after.bridge.linkedLockInfo = before.bridge.linkedLockInfo)
    (keypad : after.lastKeypadBattery = before.lastKeypadBattery)
    (lock : after.lastLockBattery = before.lastLockBattery)
    : after.sensorView = before.sensorView := by
  simp only [sensorView, lockText, config, linked, info, keypad, lock]

theorem publishLinkedLock_eq
    : device.publishLinkedLock
      = if device.config.hasLinkedLockText then [.linkedLockText device.lockText] else [] :=
  rfl

theorem stopBatteryScan_silent (isScanning : Bool)
    : Silent (device.stopBatteryScan isScanning).2 :=
  .bridge _

theorem drainEvent_sensors (keystream : Keystream) (event : QueuedEvent) (env : RxEnv)
    : SensorMove device.sensorView (device.drainEvent keystream event env).1.sensorView
        (device.drainEvent keystream event env).2 := by
  obtain ⟨_, linked, info, _⟩ :=
    device.bridge.drainEvent_sameLinks keystream (device.rxEnv env) event
  have same : (device.drainEvent keystream event env).1.sensorView = device.sensorView :=
    sensorView_congr device (device.drainEvent keystream event env).1 rfl linked info rfl rfl
  exact .quiet same (.bridge _) _

theorem scheduleScan_sensors (due : UInt32)
    : (device.scheduleScan due).sensorView = device.sensorView :=
  rfl

theorem maybeFinishBatteryScan_sensors (env : ScanEnv)
    : (device.maybeFinishBatteryScan env).1.sensorView = device.sensorView
      ∧ Silent (device.maybeFinishBatteryScan env).2 := by
  unfold maybeFinishBatteryScan
  dsimp only
  split
  · exact ⟨rfl, .nil⟩
  split
  · exact ⟨rfl, .nil⟩
  split
  · exact ⟨rfl, .nil⟩
  · exact ⟨rfl, device.stopBatteryScan_silent _⟩

theorem maybeStartBatteryScan_sensors (env : ScanEnv)
    : (device.maybeStartBatteryScan env).1.sensorView = device.sensorView
      ∧ Silent (device.maybeStartBatteryScan env).2 := by
  unfold maybeStartBatteryScan
  dsimp only
  split
  · split
    · exact ⟨rfl, .nil⟩
    · exact ⟨scheduleScan_sensors _ _, device.stopBatteryScan_silent _⟩
  split
  · exact ⟨rfl, .nil⟩
  split
  · exact ⟨scheduleScan_sensors _ _, .nil⟩
  split
  · exact ⟨scheduleScan_sensors _ _, .nil⟩
  split
  · exact ⟨rfl, by simp [Silent, DeviceEffect.IsSilent]⟩
  · dsimp only
    exact ⟨scheduleScan_sensors _ _, stopBatteryScan_silent _ _⟩

/-- A keypad's level is shown if it is another one than the last. -/
theorem applyPendingKeypadBattery_sensors (env : ScanEnv)
    : SensorMove device.sensorView (device.applyPendingKeypadBattery env).1.sensorView
        { effects := (device.applyPendingKeypadBattery env).2 } := by
  have learnt (device : Device) (advert : KeypadAdvert)
      : (device.learnKeypad advert env.accepts).sensorView = device.sensorView := by
    unfold learnKeypad
    dsimp only
    split <;> rfl
  unfold applyPendingKeypadBattery
  split
  · exact .quiet rfl .nil none
  rename_i advert parked
  dsimp only
  have same := learnt { device with keypadAdvert := none } advert
  generalize { device with keypadAdvert := none }.learnKeypad advert env.accepts = learned
    at same ⊢
  have view : learned.sensorView = device.sensorView := same
  rw [← view]
  unfold publishKeypadBattery
  split
  · rename_i changed
    exact ⟨rfl, .inl ⟨rfl, rfl⟩, .changed advert.value changed.2, .kept _⟩
  · exact .quiet rfl .nil none

/-- A lock's level likewise. -/
theorem applyPendingLockBattery_sensors
    : SensorMove device.sensorView device.applyPendingLockBattery.1.sensorView
        { effects := device.applyPendingLockBattery.2 } := by
  unfold applyPendingLockBattery
  split
  · exact .quiet rfl .nil none
  rename_i value parked
  dsimp only
  unfold publishLockBattery
  split
  · rename_i changed
    exact ⟨rfl, .inl ⟨rfl, rfl⟩, .kept _, .changed value changed.2⟩
  · exact .quiet rfl .nil none

theorem applyPendingPairing_sensors (millis : UInt32) (accepts : PrefKey → Bool)
    : SensorMove device.sensorView (device.applyPendingPairing millis accepts).1.sensorView
        { effects := (device.applyPendingPairing millis accepts).2
          milestone := device.pendingPairing.map .pairingApplied } := by
  cases waiting : device.pendingPairing with
  | none =>
      simp only [applyPendingPairing, waiting]
      exact .quiet rfl .nil none
  | some pending =>
      have silent :=
        Silent.keypadText device.config.hasKeypadText (cString pending.name)
      have shown
          : (device.applyPendingPairing millis accepts).2
            = publishTextOrUnlinked device.config.hasKeypadText .keypadText
                (cString pending.name) := by
        simp only [applyPendingPairing, waiting]
        rfl
      have view
          : (device.applyPendingPairing millis accepts).1.sensorView
            = { device.sensorView with lastKeypadBattery := none } := by
        simp only [applyPendingPairing, waiting]
        rfl
      have forgotten
          : SensorMove device.sensorView { device.sensorView with lastKeypadBattery := none }
              { milestone := some (.pairingApplied pending) } :=
        ⟨rfl, .inl ⟨rfl, rfl⟩, .forgotten _, .kept _⟩
      rw [shown, view]
      simpa using forgotten.behind silent none

/-- A new lock link is published by its name, and the lock's level is cleared. -/
theorem applyPendingLockLink_sensors (millis : UInt32) (accepts : PrefKey → Bool)
    : SensorMove device.sensorView (device.applyPendingLockLink millis accepts).1.sensorView
        { effects := (device.applyPendingLockLink millis accepts).2
          milestone := device.pendingLock.map .lockApplied } := by
  cases waiting : device.pendingLock with
  | none =>
      simp only [applyPendingLockLink, waiting]
      exact .quiet rfl .nil none
  | some pending =>
      generalize after : (device.applyPendingLockLink millis accepts).1 = linked
      have shown
          : (device.applyPendingLockLink millis accepts).2
            = linked.publishLinkedLock
              ++ if device.config.hasLockBattery then [.lockBattery none] else [] := by
        simp only [← after, applyPendingLockLink, waiting, publishLinkedLock_eq, lockText]
        rfl
      have view
          : linked.sensorView
            = { device.sensorView with lockText := linked.lockText, lastLockBattery := none } := by
        simp only [← after, applyPendingLockLink, waiting]
        rfl
      have config : linked.config = device.config := congrArg SensorView.config view
      rw [shown, view, publishLinkedLock_eq, config]
      have move :=
        SensorMove.republished device.sensorView
          { device.sensorView with lockText := linked.lockText, lastLockBattery := none }
          (some (.lockApplied pending)) rfl false device.config.hasLockBattery (.kept _)
          (by cases device.config.hasLockBattery <;> constructor)
      simp only [Bool.false_eq_true, if_false, List.append_nil] at move
      exact move

/-- A reset shows that nothing is linked and clears both levels; an aborted one shows
nothing.
-/
theorem resetPairing_sensors (env : ResetEnv)
    : SensorMove device.sensorView (device.resetPairing env).1.sensorView
        { effects := (device.resetPairing env).2
          milestone := some (if env.keyImport.isSome then .linksReset else .resetAborted) } := by
  have rotated : (device.rotated env).sensorView = device.sensorView := by
    unfold Device.rotated importAesKey
    split <;> rfl
  by_cases failed : env.keyImport = none
  · rw [resetPairing_aborted failed, failed, rotated]
    exact ⟨rfl, .inl ⟨rfl, rfl⟩, .kept _, .kept _⟩
  · have imported : env.keyImport.isSome = true := Option.isSome_iff_ne_none.mpr failed
    rw [resetPairing_completed failed, imported, ← rotated]
    generalize device.rotated env = device
    have shown
        : (device.forgetLinks env).2
          = (device.stopBatteryScan env.isScanning).2
            ++ publishTextOrUnlinked device.config.hasKeypadText .keypadText []
            ++ (if device.config.hasLinkedLockText then [.linkedLockText unlinkedText] else [])
            ++ (if device.config.hasLockBattery then [.lockBattery none] else [])
            ++ if device.config.hasKeypadBattery then [.keypadBattery none] else [] :=
      rfl
    have view
        : (device.forgetLinks env).1.sensorView
          = { device.sensorView with
              lockText := unlinkedText
              lastKeypadBattery := none
              lastLockBattery := none } :=
      rfl
    have quiet
        : Silent ((device.stopBatteryScan env.isScanning).2
          ++ publishTextOrUnlinked device.config.hasKeypadText .keypadText []) :=
      (device.stopBatteryScan_silent _).append (.keypadText _ _)
    have move :=
      SensorMove.republished device.sensorView
        { device.sensorView with
          lockText := unlinkedText
          lastKeypadBattery := none
          lastLockBattery := none }
        (some .linksReset) rfl device.config.hasKeypadBattery
        device.config.hasLockBattery
        (by cases device.config.hasKeypadBattery <;> constructor)
        (by cases device.config.hasLockBattery <;> constructor)
    rw [shown, view, List.append_assoc, List.append_assoc (_ ++ _)]
    exact move.behind quiet none

/-- What `setup` restores of the lock is published, and without a lock its level is cleared. -/
theorem restoreLock_shown (env : BootEnv) (blank : device.lastLockBattery = none)
    : let after := (device.restoreLock env).1
      after.sensorView = { device.sensorView with lockText := after.lockText }
      ∧ ∃ cleared : Bool,
          (device.restoreLock env).2
          = (if device.config.hasLinkedLockText then [.linkedLockText after.lockText] else [])
            ++ if cleared then [.lockBattery none] else [] := by
  have config (accepts : PrefKey → Bool)
      : (device.saveAndSync .linkedLock {} accepts).config = device.config := rfl
  unfold restoreLock
  dsimp only
  split <;> split
  · exact ⟨rfl, false, rfl⟩
  · exact ⟨congrArg (SensorView.mk _ _ _) blank.symm, device.config.hasLockBattery, rfl⟩
  · exact ⟨rfl, false, rfl⟩
  · exact ⟨congrArg (SensorView.mk _ _ _) blank.symm, device.config.hasLockBattery, rfl⟩

theorem bringUp_sensors (env : BootEnv)
    : (device.bringUp env).sensorView = device.sensorView := by
  have imported : (device.importAesKey env.keyImport).1.sensorView = device.sensorView := by
    unfold importAesKey
    split <;> rfl
  unfold bringUp
  split
  · rfl
  · dsimp only
    generalize (device.importAesKey env.keyImport).1 = keyed at imported
    split
    · exact imported
    · split <;> exact imported

/-- A start publishes the lock it restored and remembers no level. -/
theorem setup_sensors (config : DeviceConfig) (preferences : Preferences) (env : BootEnv)
    : let after := (setup config preferences env).1
      after.sensorView = ⟨config, after.lockText, none, none⟩
      ∧ ∃ silent, ∃ cleared : Bool,
          Silent silent
          ∧ (setup config preferences env).2
            = silent
              ++ ((if config.hasLinkedLockText then [.linkedLockText after.lockText] else [])
                ++ if cleared then [.lockBattery none] else []) := by
  have restored
      : ((powerOn config preferences).restoreKey env).sensorView
        = (powerOn config preferences).sensorView := by
    unfold restoreKey
    split <;> rfl
  simp only [setup, restoreLinks]
  generalize (powerOn config preferences).restoreKey env = keyed at restored
  have keypad : keyed.restoreKeypad.1.sensorView = keyed.sensorView := rfl
  have silent : Silent keyed.restoreKeypad.2 := .keypadText _ _
  generalize keyed.restoreKeypad.1 = device at keypad
  generalize keyed.restoreKeypad.2 = published at silent
  have view := keypad.trans restored
  obtain ⟨lock, cleared, shown⟩ :=
    device.restoreLock_shown env (congrArg SensorView.lastLockBattery view)
  have last := bringUp_sensors (device.restoreLock env).1 env
  have text
      : ((device.restoreLock env).1.bringUp env).lockText = (device.restoreLock env).1.lockText :=
    congrArg SensorView.lockText last
  have sameConfig : device.config = config := congrArg SensorView.config view
  refine ⟨?_, published, cleared, silent, ?_⟩
  · rw [last, lock, view, text]
    rfl
  · rw [shown, sameConfig, text]

/-- A start clears what the sensors showed before it. -/
theorem setup_move (config : DeviceConfig) (preferences : Preferences) (env : BootEnv)
    (before : SensorView) (same : before.config = config)
    : SensorMove before (setup config preferences env).1.sensorView
        { effects := (setup config preferences env).2, milestone := some .booted } := by
  obtain ⟨view, silent, cleared, quiet, shown⟩ := setup_sensors config preferences env
  rw [view, shown]
  generalize (setup config preferences env).1.lockText = text
  have move :=
    SensorMove.republished before ⟨config, text, none, none⟩ (some .booted) same.symm false
      cleared (.forgotten _) (by cases cleared <;> constructor)
  simp only [Bool.false_eq_true, if_false, List.append_nil, same] at move
  exact move.behind quiet none

/-- A restart is a start on the flash that the component leaves behind. -/
theorem reboot_sensors (env : BootEnv)
    : SensorMove device.sensorView (device.reboot env).1.sensorView
        { effects := (device.reboot env).2, milestone := some .booted } :=
  setup_move device.config device.preferences env _ rfl

end Device

-----------------------------------------------------------------------------------------
-- Every operation
-----------------------------------------------------------------------------------------

namespace Station

variable (keystream : Keystream) (station : Station)

/-- What any operation does to the sensors. -/
theorem perform_sensors (op : StationOp)
    : SensorMove station.device.sensorView (station.perform keystream op).1.device.sensorView
        (station.perform keystream op).2 := by
  cases op with
  | loop op =>
      simp only [perform]
      split
      case isFalse => exact .quiet rfl .nil none
      cases op with
      | paired | lockLinked => exact .quiet rfl .nil none
      | applyPairing millis accepts =>
          exact station.device.applyPendingPairing_sensors millis accepts
      | applyLockLink millis accepts =>
          exact station.device.applyPendingLockLink_sensors millis accepts
      | drained event env => exact station.device.drainEvent_sensors keystream event env
      | keypadBattery env => exact station.device.applyPendingKeypadBattery_sensors env
      | lockBattery => exact station.device.applyPendingLockBattery_sensors
      | finishScan env =>
          obtain ⟨same, silent⟩ := station.device.maybeFinishBatteryScan_sensors env
          exact .quiet same silent none
      | startScan env =>
          obtain ⟨same, silent⟩ := station.device.maybeStartBatteryScan_sensors env
          exact .quiet same silent none
  | wizard | relayDone => exact .quiet rfl .nil none
  | advert adv =>
      simp only [perform]
      split <;> exact .quiet rfl .nil none
  | scanCallback =>
      obtain ⟨_, _, parked⟩ := station.device.stepScanCallback_parks station.scanCallback
      simp only [perform, parked]
      exact .quiet rfl .nil none
  | reset env => exact station.device.resetPairing_sensors env
  | reboot env => exact station.device.reboot_sensors env

end Station

-----------------------------------------------------------------------------------------
-- Runs
-----------------------------------------------------------------------------------------

/-- All that a run shows, its start included. -/
def Station.steps (keystream : Keystream) (config : DeviceConfig) (preferences : Preferences)
    (boot : BootEnv) (ops : List StationOp)
    : List StationStep :=
  { effects := (Device.setup config preferences boot).2, milestone := some .booted }
    :: (stationMachine keystream).history (.booted config preferences boot) ops

/-- The sensors show what the component remembers of them. -/
structure SensorsShow (config : DeviceConfig) (steps : List StationStep) (view : SensorView)
    : Prop where
  configured : view.config = config
  text
    : (steps.flatMap StationStep.lockTexts).getLast?
      = if config.hasLinkedLockText then some view.lockText else none
  keypad : Gauge.Follows (steps.flatMap StationStep.keypadLevels) view.lastKeypadBattery
  lock : Gauge.Follows (steps.flatMap StationStep.lockLevels) view.lastLockBattery

theorem SensorsShow.after {config : DeviceConfig} {steps : List StationStep}
    {view next : SensorView} {step : StationStep} (shows : SensorsShow config steps view)
    (move : SensorMove view next step)
    : SensorsShow config (steps ++ [step]) next where
  configured := move.config.trans shows.configured
  text := by
    rw [List.flatMap_append, List.flatMap_singleton]
    rcases move.text with ⟨unshown, same⟩ | shown
    · rw [unshown, List.append_nil, same]
      exact shows.text
    · have before := shows.text
      rw [shown, shows.configured]
      cases has : config.hasLinkedLockText with
      | true => simp
      | false => simpa [has] using before
  keypad := by
    rw [List.flatMap_append, List.flatMap_singleton]
    exact shows.keypad.writes move.keypad
  lock := by
    rw [List.flatMap_append, List.flatMap_singleton]
    exact shows.lock.writes move.lock

/-- After a start the sensors show what was restored. -/
theorem setup_sensorsShow (config : DeviceConfig) (preferences : Preferences) (boot : BootEnv)
    : SensorsShow config
        [{ effects := (Device.setup config preferences boot).2, milestone := some .booted }]
        (Device.setup config preferences boot).1.sensorView := by
  generalize after : (Device.setup config preferences boot).1 = device
  have text
      : StationStep.lockTexts
          { effects := (Device.setup config preferences boot).2, milestone := some .booted }
        = if config.hasLinkedLockText then [device.lockText] else [] := by
    obtain ⟨_, silent, cleared, quiet, shown⟩ := Device.setup_sensors config preferences boot
    have read := quiet.filterMap_append
      ((if config.hasLinkedLockText then [.linkedLockText device.lockText] else [])
        ++ if cleared then [.lockBattery none] else []) (fun
      | .linkedLockText text => some text
      | _ => none) fun effect isSilent => by cases effect <;> first | rfl | exact isSilent.elim
    rw [StationStep.lockTexts, shown, after, read]
    cases config.hasLinkedLockText <;> cases cleared <;> rfl
  have move := Device.setup_move config preferences boot
    ⟨config, [], none, none⟩ rfl
  rw [after] at move
  refine ⟨move.config, ?_, ?_, ?_⟩
  · rw [List.flatMap_singleton, text]
    have same : device.sensorView.lockText = device.lockText := rfl
    cases config.hasLinkedLockText with
    | true => simp [same]
    | false => rfl
  · simpa using Gauge.Follows.nil.writes move.keypad
  · simpa using Gauge.Follows.nil.writes move.lock

/-- In every run the sensors show what the component remembers of them. -/
theorem Station.steps_sensorsShow (keystream : Keystream) (config : DeviceConfig)
    (preferences : Preferences) (boot : BootEnv) (ops : List StationOp)
    : SensorsShow config (Station.steps keystream config preferences boot ops)
        (Station.after keystream config preferences boot ops).device.sensorView := by
  have start := setup_sensorsShow config preferences boot
  exact (stationMachine keystream).history_invariant
    (fun seen station =>
      SensorsShow config
        ({ effects := (Device.setup config preferences boot).2, milestone := some .booted }
          :: seen)
        station.device.sensorView)
    start (fun seen station op shows => shows.after (station.perform_sensors keystream op)) ops

/-- A battery sensor is written on change: no level is published twice in a row on either
sensor unless it was cleared, linked anew or restarted in between, and the component remembers
exactly the level that the sensor shows.
-/
theorem levels_published_on_change (keystream : Keystream) (config : DeviceConfig)
    (preferences : Preferences) (boot : BootEnv) (ops : List StationOp)
    : let steps := Station.steps keystream config preferences boot ops
      let device := (Station.after keystream config preferences boot ops).device
      Gauge.NoRepeat (steps.flatMap StationStep.keypadLevels)
      ∧ Gauge.NoRepeat (steps.flatMap StationStep.lockLevels)
      ∧ device.lastKeypadBattery = Gauge.remembered (steps.flatMap StationStep.keypadLevels)
      ∧ device.lastLockBattery = Gauge.remembered (steps.flatMap StationStep.lockLevels) := by
  intro steps device
  have shows := Station.steps_sensorsShow keystream config preferences boot ops
  exact ⟨shows.keypad.noRepeat, shows.lock.noRepeat, shows.keypad.remembered,
    shows.lock.remembered⟩

end KeypadBridge
