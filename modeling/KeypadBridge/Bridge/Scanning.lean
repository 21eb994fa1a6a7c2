import KeypadBridge.Bridge.Links

/-! What the battery scan reads, parks and shows. A window wants a battery level only for a
sensor that is configured, on a component whose set-up went through, and only the two calls
that apply a parked advertisement show a level.
-/

namespace KeypadBridge
open KeypadBridge.Foundation

/-- The part of the component that the battery scan depends on. -/
structure ScanState where
  config : DeviceConfig
  failed : Bool
  keypadPaired : Bool
  keypadInfo : KeypadInfo
  lockLinked : Bool
  scan : BatteryScan
  targets : ScanTargets
  keypadAdvert : Option KeypadAdvert
  lockAdvert : Option Nat
  preferences : Preferences

def Device.scanState (device : Device) : ScanState where
  config := device.config
  failed := device.failed
  keypadPaired := device.keypadPaired
  keypadInfo := device.keypadInfo
  lockLinked := device.bridge.lockLinked
  scan := device.bridge.batteryScan
  targets := device.scanTargets
  keypadAdvert := device.keypadAdvert
  lockAdvert := device.lockAdvert
  preferences := device.preferences

-----------------------------------------------------------------------------------------
-- Frames
-----------------------------------------------------------------------------------------

namespace SwitchbotKeypadBridge

/-- The receive path leaves the scan window as it is, or closes it. -/
def ScanLeftOrClosed (before after : SwitchbotKeypadBridge) : Prop :=
  after.batteryScan = before.batteryScan ∨ after.batteryScan = {}

/-- The window stays as it is with no new relay, or it is closed. -/
def KeepsWindow (before after : SwitchbotKeypadBridge) : Prop :=
  after.batteryScan = before.batteryScan ∧ after.lockRelayBusy = before.lockRelayBusy
  ∨ after.batteryScan = {}

/-- A relay closes the window before its task is created. -/
theorem relayToLockAsync_keepsWindow (bridge : SwitchbotKeypadBridge) (env : RxEnv)
    (header : FrameHeader) (command : DecodedCommand)
    : KeepsWindow bridge (bridge.relayToLockAsync env header command).2.1 := by
  unfold relayToLockAsync
  split
  · exact .inl ⟨rfl, rfl⟩
  split
  · exact .inl ⟨rfl, rfl⟩
  dsimp only
  split <;> exact .inr rfl

theorem drainEvent_keepsWindow (keystream : Keystream) (env : RxEnv)
    (bridge : SwitchbotKeypadBridge) (event : QueuedEvent)
    : KeepsWindow bridge (bridge.drainEvent keystream env event).1 := by
  have handled (bridge : SwitchbotKeypadBridge) (header : FrameHeader) (command : DecodedCommand)
      : KeepsWindow bridge (bridge.handleCommand keystream env header command).1 := by
    have published := (bridge.publishCommand_spec command).1
    have relayed :=
      relayToLockAsync_keepsWindow
        { bridge with lockState := bridge.lockState.after command.type } env header command
    unfold handleCommand
    dsimp only
    rw [published]
    split
    · split
      · exact relayed
      · exact relayed
      · exact relayed
      · exact .inl ⟨rfl, rfl⟩
      · exact .inl ⟨rfl, rfl⟩
    · exact .inl ⟨rfl, rfl⟩
  cases event with
  | connect | disconnect => exact .inl ⟨rfl, rfl⟩
  | rx frame =>
      simp only [drainEvent, onRxFrame]
      split
      · exact .inl ⟨rfl, rfl⟩
      · exact handled _ _ _
      · exact .inl ⟨rfl, rfl⟩

theorem drainEvent_scan (keystream : Keystream) (env : RxEnv)
    (bridge : SwitchbotKeypadBridge) (event : QueuedEvent)
    : ScanLeftOrClosed bridge (bridge.drainEvent keystream env event).1 :=
  (drainEvent_keepsWindow keystream env bridge event).imp And.left id

end SwitchbotKeypadBridge

namespace Device

/-- A call that the battery scan does not notice, unless it closes the window. -/
def Unnoticed (before after : Device) : Prop :=
  after.scanState = before.scanState
  ∨ after.scanState = { before.scanState with scan := {} }

variable (device : Device)

theorem drainEvent_unnoticed (keystream : Keystream)
    (event : QueuedEvent) (env : RxEnv)
    : Unnoticed device (device.drainEvent keystream event env).1 := by
  have linked := (device.bridge.drainEvent_sameLinks keystream (device.rxEnv env) event).lockLinked
  rcases device.bridge.drainEvent_scan keystream (device.rxEnv env) event with same | closed
  · exact .inl (by simp [drainEvent, scanState, linked, same])
  · exact .inr (by simp [drainEvent, scanState, linked, closed])

theorem maybeFinishBatteryScan_unnoticed (env : ScanEnv)
    : Unnoticed device (device.maybeFinishBatteryScan env).1 := by
  unfold maybeFinishBatteryScan
  dsimp only
  split
  · exact .inl rfl
  split
  · exact .inl rfl
  split
  · exact .inl rfl
  · exact .inr rfl

/-- What taking a parked keypad advertisement changes. -/
theorem applyPendingKeypadBattery_scanState {env : ScanEnv} {advert : KeypadAdvert}
    (parked : device.keypadAdvert = some advert)
    : let learnt := device.learnKeypad advert env.accepts
      (device.applyPendingKeypadBattery env).1.scanState
        = { device.scanState with
            keypadInfo := learnt.keypadInfo
            preferences := learnt.preferences
            keypadAdvert := none
            scan := { device.bridge.batteryScan with keypadFound := true } } := by
  simp only [applyPendingKeypadBattery, parked, publishKeypadBattery, learnKeypad]
  by_cases unknown : device.keypadInfo.valid = 0 <;> simp only [unknown, if_true, if_false] <;>
    split <;> rfl

/-- What taking a parked level of the lock changes. -/
theorem applyPendingLockBattery_scanState {value : Nat} (parked : device.lockAdvert = some value)
    : device.applyPendingLockBattery.1.scanState
      = { device.scanState with
          lockAdvert := none
          scan := { device.bridge.batteryScan with lockFound := true } } := by
  simp only [applyPendingLockBattery, parked, publishLockBattery]
  split <;> rfl

theorem scheduleScan_scanState (due : UInt32)
    : (device.scheduleScan due).scanState = device.scanState :=
  rfl

/-- A window opens only for what is linked and has a sensor. -/
theorem maybeStartBatteryScan_cases (env : ScanEnv)
    : let wantsKeypad := device.config.hasKeypadBattery && device.keypadPaired
      let wantsLock :=
        device.config.hasLockBattery && device.bridge.lockLinked
          && device.bridge.linkedLockInfo.valid ≠ 0
      Unnoticed device (device.maybeStartBatteryScan env).1
      ∨ (device.maybeStartBatteryScan env).1.scanState
          = { (device.openBatteryScan wantsKeypad wantsLock).scanState with scan := {} }
        ∧ (wantsKeypad || wantsLock) = true
      ∨ (device.maybeStartBatteryScan env).1 = device.openBatteryScan wantsKeypad wantsLock
        ∧ (wantsKeypad || wantsLock) = true := by
  intro wantsKeypad wantsLock
  unfold maybeStartBatteryScan
  dsimp only
  split
  · split
    · exact .inl (.inl rfl)
    · exact .inl (.inr rfl)
  split
  · exact .inl (.inl rfl)
  split
  · exact .inl (.inl (device.scheduleScan_scanState _))
  · rename_i wants
    have wanted : (wantsKeypad || wantsLock) = true := by
      simpa [wantsKeypad, wantsLock, or_iff_not_imp_left, and_assoc] using wants
    split
    · exact .inl (.inl (device.scheduleScan_scanState _))
    split
    · exact .inr (.inr ⟨rfl, wanted⟩)
    · exact .inr (.inl ⟨rfl, wanted⟩)

/-- The key rotation touches no more than the store. -/
theorem rotated_scanState (env : ResetEnv)
    : (device.rotated env).scanState
      = { device.scanState with
          preferences :=
            (device.preferences.save .sharedKey env.randomKey).sync env.acceptsKey } := by
  unfold rotated importAesKey
  split <;> rfl

/-- What forgetting the links leaves for the battery scan. -/
theorem forgetLinks_scanState (env : ResetEnv)
    : (device.forgetLinks env).1.scanState
      = { device.scanState with
          keypadPaired := false
          keypadInfo := {}
          lockLinked := false
          scan := {}
          preferences := forgottenPreferences device.preferences env } :=
  rfl

/-- No scan window is open and nothing is parked. -/
structure ScanIdle (device : Device) : Prop where
  shut : device.bridge.batteryScan = {}
  keypadAdvert : device.keypadAdvert = none
  lockAdvert : device.lockAdvert = none

/-- A start begins with no scan window and nothing parked. -/
theorem setup_scanIdle (config : DeviceConfig) (preferences : Preferences) (env : BootEnv)
    : (setup config preferences env).1.ScanIdle :=
  have kept := setup_keeps config preferences env
  ⟨kept.batteryScan, kept.keypadAdvert, kept.lockAdvert⟩

end Device

-----------------------------------------------------------------------------------------
-- What is shown
-----------------------------------------------------------------------------------------

/-- The battery level that a published state shows; NAN shows none. -/
def DeviceEffect.level : DeviceEffect → Option Nat
  | .keypadBattery percent | .lockBattery percent => percent
  | _ => none

/-- An effect that shows no battery level and starts no relay. -/
def DeviceEffect.IsPlain : DeviceEffect → Prop
  | .keypadBattery percent | .lockBattery percent => percent = none
  | .bridge (.relayTask _ _ _) => False
  | _ => True

/-- Nothing but NAN is published on the battery sensors. -/
def ShowsNoLevel (effects : List DeviceEffect) : Prop :=
  ∀ effect ∈ effects, effect.level = none

def Plain (effects : List DeviceEffect) : Prop := ∀ effect ∈ effects, effect.IsPlain

namespace Plain

theorem nil : Plain [] := by simp [Plain]

theorem append {first second : List DeviceEffect} (hl : Plain first) (hr : Plain second)
    : Plain (first ++ second) := by
  intro effect member
  exact (List.mem_append.mp member).elim (hl effect) (hr effect)

theorem showsNoLevel {effects : List DeviceEffect} (plain : Plain effects)
    : ShowsNoLevel effects := by
  intro effect member
  have isPlain := plain effect member
  cases effect with
  | keypadBattery | lockBattery => exact isPlain
  | _ => rfl

theorem stopScan (device : Device) (isScanning : Bool)
    : Plain (device.stopBatteryScan isScanning).2 := by
  simp only [Device.stopBatteryScan, SwitchbotKeypadBridge.stopBatteryScan]
  cases device.bridge.batteryScan.active <;> cases isScanning <;>
    simp [Plain, DeviceEffect.IsPlain]

theorem text (present : Bool) (sensor : Bytes → DeviceEffect) (text : Bytes)
    (plain : ∀ text, (sensor text).IsPlain)
    : Plain (Device.publishTextOrUnlinked present sensor text) := by
  unfold Device.publishTextOrUnlinked
  split
  · simpa [Plain] using plain _
  · exact nil

theorem linkedLock (device : Device) : Plain device.publishLinkedLock :=
  text _ _ _ fun _ => trivial

theorem lockCleared (device : Device) : Plain device.clearLockBattery.2 := by
  simp only [Device.clearLockBattery]
  split
  · simp [Plain, DeviceEffect.IsPlain]
  · exact nil

theorem lockClearedUnless (device : Device) (keep : Bool)
    : Plain (if keep = true then (device, []) else device.clearLockBattery).2 := by
  cases keep with
  | false => exact lockCleared device
  | true => exact nil

theorem keypadCleared (device : Device) : Plain device.resetKeypadBattery.2 := by
  simp only [Device.resetKeypadBattery]
  split
  · simp [Plain, DeviceEffect.IsPlain]
  · exact nil

end Plain

namespace Device

variable (device : Device)

theorem maybeFinishBatteryScan_plain (env : ScanEnv)
    : Plain (device.maybeFinishBatteryScan env).2 := by
  unfold maybeFinishBatteryScan
  dsimp only
  split
  · exact .nil
  split
  · exact .nil
  split
  · exact .nil
  · exact .stopScan _ _

theorem maybeStartBatteryScan_plain (env : ScanEnv)
    : Plain (device.maybeStartBatteryScan env).2 := by
  unfold maybeStartBatteryScan
  dsimp only
  split
  · split
    · exact .nil
    · exact .stopScan _ _
  split
  · exact .nil
  split
  · exact .nil
  split
  · exact .nil
  split
  · simp [Plain, DeviceEffect.IsPlain]
  · dsimp only
    exact .stopScan _ _

theorem resetPairing_plain (env : ResetEnv) : Plain (device.resetPairing env).2 := by
  by_cases failed : env.keyImport = none
  · rw [resetPairing_aborted failed]
    exact .nil
  · rw [resetPairing_completed failed]
    unfold forgetLinks
    dsimp only
    refine .append (.append (.append (.append ?_ ?_) ?_) ?_) ?_
    · exact .stopScan _ _
    · exact .text _ _ _ fun _ => trivial
    · exact .linkedLock _
    · exact .lockCleared _
    · exact .keypadCleared _

theorem reboot_plain (env : BootEnv) : Plain (device.reboot env).2 := by
  unfold reboot setup restoreLinks restoreLock
  dsimp only
  exact .append (.text _ _ _ fun _ => trivial)
    (.append (.linkedLock _) (.lockClearedUnless _ _))

end Device

/-- The two calls that show what was parked. -/
def StationOp.showsParked : StationOp → Bool
  | .loop (.keypadBattery _) | .loop .lockBattery => true
  | _ => false

/-- A turn of the loop that drains the queue. -/
def StationOp.drains : StationOp → Bool
  | .loop (.drained _ _) => true
  | _ => false

/-- Every other operation shows no battery level and starts no relay. -/
theorem Station.perform_plain (keystream : Keystream) (station : Station) {op : StationOp}
    (unparked : op.showsParked = false) (undrained : op.drains = false)
    : Plain (station.perform keystream op).2.effects := by
  cases op with
  | loop op =>
      simp only [perform]
      split
      · cases op with
        | paired => exact .nil
        | lockLinked => exact .nil
        | applyPairing millis accepts =>
            simp only [Device.performLoop, Device.applyPendingPairing]
            split
            · exact .nil
            · exact .text _ _ _ fun _ => trivial
        | applyLockLink millis accepts =>
            simp only [Device.performLoop, Device.applyPendingLockLink]
            split
            · exact .nil
            · exact .append (.linkedLock _) (.lockCleared _)
        | drained => cases undrained
        | keypadBattery => cases unparked
        | lockBattery => cases unparked
        | finishScan env => exact station.device.maybeFinishBatteryScan_plain env
        | startScan env => exact station.device.maybeStartBatteryScan_plain env
      · exact .nil
  | wizard => exact .nil
  | relayDone => exact .nil
  | advert adv =>
      simp only [perform]
      split <;> exact .nil
  | scanCallback => exact .nil
  | reset env => exact station.device.resetPairing_plain env
  | reboot env => exact station.device.reboot_plain env

/-- A level is shown only by the calls that apply a parked one. -/
theorem Station.perform_showsNoLevel (keystream : Keystream) (station : Station)
    {op : StationOp} (unparked : op.showsParked = false)
    : ShowsNoLevel (station.perform keystream op).2.effects := by
  cases drains : op.drains with
  | false => exact (station.perform_plain keystream unparked drains).showsNoLevel
  | true =>
      obtain ⟨event, env, rfl⟩ : ∃ event env, op = .loop (.drained event env) := by
        unfold StationOp.drains at drains
        split at drains
        · exact ⟨_, _, rfl⟩
        · cases drains
      simp only [perform]
      split <;> simp [Device.performLoop, Device.drainEvent, ShowsNoLevel, DeviceEffect.level]

-----------------------------------------------------------------------------------------
-- What is sought
-----------------------------------------------------------------------------------------

/-- The callback may yet park the keypad's advertisement. -/
def ScanCallback.seeksKeypad : ScanCallback → Bool
  | .keypadWanted _ | .keypadMissing _ | .keypadSought _ _ | .keypadParsed _ _ => true
  | _ => false

/-- The callback may yet park the lock's advertisement. -/
def ScanCallback.seeksLock : ScanCallback → Bool
  | .lockWanted _ | .lockMissing _ | .lockParsed _ => true
  | _ => false

/-- What is sought or parked has its sensor, and the component loops. -/
structure ScanState.SeeksShown (state : ScanState) (callback : ScanCallback) : Prop where
  keypad
    : state.scan.wantsKeypad = true ∨ state.keypadAdvert ≠ none ∨ callback.seeksKeypad = true
      → state.config.hasKeypadBattery = true ∧ state.failed = false
  lock
    : state.scan.wantsLock = true ∨ state.lockAdvert ≠ none ∨ callback.seeksLock = true
      → state.config.hasLockBattery = true ∧ state.failed = false

def Station.SeeksShown (station : Station) : Prop :=
  station.device.scanState.SeeksShown station.scanCallback

namespace ScanState.SeeksShown

variable {state : ScanState} {callback : ScanCallback}

/-- A closed window seeks nothing. -/
theorem closed (seeks : state.SeeksShown callback) (targets : ScanTargets)
    : ScanState.SeeksShown { state with scan := {}, targets } callback := by
  refine ⟨?_, ?_⟩
  · rintro (wants | sought)
    · cases wants
    · exact seeks.keypad (.inr sought)
  · rintro (wants | sought)
    · cases wants
    · exact seeks.lock (.inr sought)

/-- With nothing parked and no callback in flight a closed window has nothing to show. -/
theorem idle (shut : state.scan = {}) (keypad : state.keypadAdvert = none)
    (lock : state.lockAdvert = none)
    : state.SeeksShown .idle := by
  refine ⟨?_, ?_⟩ <;> rintro (wants | parked | seeks)
  · simp [shut] at wants
  · exact absurd keypad parked
  · cases seeks
  · simp [shut] at wants
  · exact absurd lock parked
  · cases seeks

theorem unnoticed {before after : Device} (seeks : before.scanState.SeeksShown callback)
    (unnoticed : before.Unnoticed after)
    : after.scanState.SeeksShown callback := by
  rcases unnoticed with same | closed
  · rw [same]
    exact seeks
  · rw [closed]
    exact seeks.closed _

variable {device : Device}

/-- Opening a window seeks what has a sensor. -/
theorem startScan (seeks : device.scanState.SeeksShown callback)
    (working : device.failed = false) (env : ScanEnv)
    : (device.maybeStartBatteryScan env).1.scanState.SeeksShown callback := by
  rcases device.maybeStartBatteryScan_cases env with quiet | ⟨closed, _⟩ | ⟨opened, _⟩
  · exact seeks.unnoticed quiet
  · rw [closed]
    exact seeks.closed _
  · rw [opened]
    refine ⟨?_, ?_⟩
    · rintro (wants | sought)
      · exact ⟨(Bool.and_eq_true_iff.mp wants).1, working⟩
      · exact seeks.keypad (.inr sought)
    · rintro (wants | sought)
      · exact ⟨(Bool.and_eq_true_iff.mp (Bool.and_eq_true_iff.mp wants).1).1, working⟩
      · exact seeks.lock (.inr sought)

/-- Taking a parked keypad advertisement seeks nothing new. -/
theorem keypadBattery (seeks : device.scanState.SeeksShown callback) (env : ScanEnv)
    : (device.applyPendingKeypadBattery env).1.scanState.SeeksShown callback := by
  cases parked : device.keypadAdvert with
  | none => simpa [Device.applyPendingKeypadBattery, parked] using seeks
  | some advert =>
      rw [device.applyPendingKeypadBattery_scanState parked]
      have shown := seeks.keypad (.inr (.inl (by simp [Device.scanState, parked])))
      exact ⟨fun _ => shown, seeks.lock⟩

/-- Taking a parked level of the lock seeks nothing new. -/
theorem lockBattery (seeks : device.scanState.SeeksShown callback)
    : device.applyPendingLockBattery.1.scanState.SeeksShown callback := by
  cases parked : device.lockAdvert with
  | none => simpa [Device.applyPendingLockBattery, parked] using seeks
  | some value =>
      rw [device.applyPendingLockBattery_scanState parked]
      have shown := seeks.lock (.inr (.inl (by simp [Device.scanState, parked])))
      exact ⟨seeks.keypad, fun _ => shown⟩

/-- The callback seeks what its window wants. -/
theorem scanCallback (seeks : device.scanState.SeeksShown callback)
    : (device.stepScanCallback callback).2.scanState.SeeksShown
        (device.stepScanCallback callback).1 := by
  obtain ⟨keypad, lock⟩ := seeks
  cases callback with
  | idle => exact ⟨keypad, lock⟩
  | gated adv =>
      simp only [Device.stepScanCallback]
      split
      · rename_i wants
        exact ⟨fun _ => keypad (.inl wants), by simpa [ScanCallback.seeksLock] using lock⟩
      · exact ⟨keypad, lock⟩
  | keypadWanted adv =>
      have shown := keypad (.inr (.inr rfl))
      simp only [Device.stepScanCallback]
      split <;> exact ⟨fun _ => shown, lock⟩
  | keypadMissing adv =>
      have shown := keypad (.inr (.inr rfl))
      exact ⟨fun _ => shown, lock⟩
  | keypadSought adv known =>
      have shown := keypad (.inr (.inr rfl))
      simp only [Device.stepScanCallback]
      split <;> exact ⟨fun _ => shown, lock⟩
  | keypadParsed adv advert =>
      have shown := keypad (.inr (.inr rfl))
      exact ⟨fun _ => shown, lock⟩
  | lockNext adv =>
      simp only [Device.stepScanCallback]
      split
      · rename_i wants
        exact ⟨by simpa [ScanCallback.seeksKeypad] using keypad, fun _ => lock (.inl wants)⟩
      · exact ⟨keypad, lock⟩
  | lockWanted adv =>
      have shown := lock (.inr (.inr rfl))
      simp only [Device.stepScanCallback]
      split <;> exact ⟨keypad, fun _ => shown⟩
  | lockMissing adv =>
      have shown := lock (.inr (.inr rfl))
      simp only [Device.stepScanCallback]
      split <;> exact ⟨keypad, fun _ => shown⟩
  | lockParsed value =>
      have shown := lock (.inr (.inr rfl))
      exact ⟨keypad, fun _ => shown⟩

end ScanState.SeeksShown

namespace Station

theorem booted_seeksShown (config : DeviceConfig) (preferences : Preferences) (env : BootEnv)
    : (booted config preferences env).SeeksShown := by
  obtain ⟨shut, keypad, lock⟩ := Device.setup_scanIdle config preferences env
  exact .idle shut keypad lock

/-- A call of `loop()` seeks only what has a sensor. -/
theorem SeeksShown.performLoop {station : Station} (seeks : station.SeeksShown)
    (keystream : Keystream) {op : LoopOp} (loops : station.device.loops op = true)
    : (station.device.performLoop keystream op).1.scanState.SeeksShown
        station.scanCallback := by
  have working : station.device.failed = false := by
    simpa using (Bool.and_eq_true_iff.mp loops).1
  cases op with
  | paired => exact seeks
  | lockLinked => exact seeks
  | applyPairing millis accepts =>
      simp only [Device.performLoop, Device.applyPendingPairing]
      split <;> exact ⟨seeks.keypad, seeks.lock⟩
  | applyLockLink millis accepts =>
      simp only [Device.performLoop, Device.applyPendingLockLink]
      split <;> exact ⟨seeks.keypad, seeks.lock⟩
  | drained event env =>
      exact ScanState.SeeksShown.unnoticed seeks
        (station.device.drainEvent_unnoticed keystream event env)
  | keypadBattery env => exact ScanState.SeeksShown.keypadBattery seeks env
  | lockBattery => exact ScanState.SeeksShown.lockBattery seeks
  | finishScan env =>
      exact ScanState.SeeksShown.unnoticed seeks
        (station.device.maybeFinishBatteryScan_unnoticed env)
  | startScan env => exact ScanState.SeeksShown.startScan seeks working env

/-- A reset seeks nothing new. -/
theorem SeeksShown.resetPairing {station : Station} (seeks : station.SeeksShown)
    (env : ResetEnv)
    : (station.device.resetPairing env).1.scanState.SeeksShown station.scanCallback := by
  have rotated : (station.device.rotated env).scanState.SeeksShown station.scanCallback := by
    rw [Device.rotated_scanState]
    exact ⟨seeks.keypad, seeks.lock⟩
  by_cases failed : env.keyImport = none
  · rw [Device.resetPairing_aborted failed]
    exact rotated
  · rw [Device.resetPairing_completed failed, Device.forgetLinks_scanState]
    exact ⟨(rotated.closed (station.device.rotated env).scanState.targets).keypad,
      (rotated.closed (station.device.rotated env).scanState.targets).lock⟩

/-- Every operation seeks only what has a sensor. -/
theorem perform_seeksShown {station : Station} (seeks : station.SeeksShown)
    (keystream : Keystream) (op : StationOp)
    : (station.perform keystream op).1.SeeksShown := by
  cases op with
  | loop op =>
      simp only [perform]
      split
      · rename_i loops
        exact seeks.performLoop keystream loops
      · exact seeks
  | wizard => exact seeks
  | relayDone => exact seeks
  | advert adv =>
      simp only [perform]
      split
      · rename_i resting
        simp only [SeeksShown, resting] at seeks
        simp only [SeeksShown, Device.receiveAdvert]
        split <;> exact ⟨seeks.keypad, seeks.lock⟩
      · exact seeks
  | scanCallback => exact ScanState.SeeksShown.scanCallback seeks
  | reset env => exact seeks.resetPairing env
  | reboot env => exact booted_seeksShown _ _ env

end Station

end KeypadBridge
