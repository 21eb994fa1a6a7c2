import KeypadBridge.Firmware.Tasks

/-! What the wizard and the linking calls of `loop()` work on, and what the other calls of the
main task leave of it.
-/

namespace KeypadBridge

/-- The wizard, and what it has confirmed and `loop()` has yet to apply. -/
structure LinkingState where
  pairingUi : PairingUi
  pendingPairing : Option PendingPairing
  pendingLock : Option PendingLock

namespace Device

def linkingState (device : Device) : LinkingState where
  pairingUi := device.pairingUi
  pendingPairing := device.pendingPairing
  pendingLock := device.pendingLock

variable (device : Device)

theorem publishKeypadBattery_linkingState (value : Nat)
    : (device.publishKeypadBattery value).1.linkingState = device.linkingState := by
  unfold publishKeypadBattery
  split <;> rfl

theorem publishLockBattery_linkingState (value : Nat)
    : (device.publishLockBattery value).1.linkingState = device.linkingState := by
  unfold publishLockBattery
  split <;> rfl

theorem learnKeypad_linkingState (advert : KeypadAdvert) (accepts : PrefKey → Bool)
    : (device.learnKeypad advert accepts).linkingState = device.linkingState := by
  unfold learnKeypad
  split <;> rfl

theorem scheduleScan_linkingState (due : UInt32)
    : (device.scheduleScan due).linkingState = device.linkingState :=
  rfl

theorem maybeFinishBatteryScan_linkingState (env : ScanEnv)
    : (device.maybeFinishBatteryScan env).1.linkingState = device.linkingState := by
  unfold maybeFinishBatteryScan
  dsimp only
  split
  · rfl
  split
  · rfl
  split
  · rfl
  · exact scheduleScan_linkingState _ _

theorem maybeStartBatteryScan_linkingState (env : ScanEnv)
    : (device.maybeStartBatteryScan env).1.linkingState = device.linkingState := by
  unfold maybeStartBatteryScan
  dsimp only
  split
  · split
    · rfl
    · exact scheduleScan_linkingState _ _
  split
  · rfl
  split
  · exact scheduleScan_linkingState _ _
  split
  · exact scheduleScan_linkingState _ _
  split
  · rfl
  · exact scheduleScan_linkingState _ _

/-- Calls that link nothing leave the wizard and its confirmations alone. -/
theorem performLoop_linkingState (keystream : Keystream) {op : LoopOp}
    (notLinking : op.isLinking = false)
    : (device.performLoop keystream op).1.linkingState = device.linkingState := by
  cases op with
  | paired | lockLinked | applyPairing | applyLockLink => cases notLinking
  | drained => rfl
  | keypadBattery env =>
      simp only [performLoop, applyPendingKeypadBattery]
      split
      · rfl
      · rw [publishKeypadBattery_linkingState]
        exact learnKeypad_linkingState _ _ _
  | lockBattery =>
      simp only [performLoop, applyPendingLockBattery]
      split
      · rfl
      · exact publishLockBattery_linkingState _ _
  | finishScan env => exact device.maybeFinishBatteryScan_linkingState env
  | startScan env => exact device.maybeStartBatteryScan_linkingState env

/-- A completed reset unlinks both devices in the wizard and starts its server; an aborted one
leaves the wizard alone.
-/
theorem resetPairing_linkingState (env : ResetEnv)
    : (device.resetPairing env).1.linkingState
      = if env.keyImport.isSome then
          { device.linkingState with
            pairingUi :=
              ((((device.pairingUi.setLockLinked false).setKeypadPaired false).setKeypadFamily
                .original).setSharedKey env.randomKey |>.start env.httpdStarts env.millis).1 }
        else device.linkingState := by
  cases keyImport : env.keyImport with
  | none =>
      unfold resetPairing importAesKey
      simp only [keyImport]
      rfl
  | some id =>
      unfold resetPairing importAesKey
      simp only [keyImport]
      rfl

end Device

/-- The jobs of the wizard, and what it keeps about them. -/
structure JobBooks where
  pairer : KeypadPairer
  linker : LockLinker
  pairingKeypadName : Bytes
  pairingJobId : Option JobId
  successNotified : Bool
  linkJobId : Option JobId
  linkNotified : Bool

def PairingUi.jobBooks (ui : PairingUi) : JobBooks where
  pairer := ui.pairer
  linker := ui.linker
  pairingKeypadName := ui.pairingKeypadName
  pairingJobId := ui.pairingJobId
  successNotified := ui.successNotified
  linkJobId := ui.linkJobId
  linkNotified := ui.linkNotified

/-- A reset leaves the jobs alone. -/
theorem Device.resetPairing_jobBooks (device : Device) (env : ResetEnv)
    : (device.resetPairing env).1.pairingUi.jobBooks = device.pairingUi.jobBooks := by
  have same := congrArg LinkingState.pairingUi (device.resetPairing_linkingState env)
  simp only [linkingState] at same
  rw [same]
  split
  · obtain ⟨_, _, started⟩ :=
      (((device.pairingUi.setLockLinked false).setKeypadPaired false).setKeypadFamily
        .original |>.setSharedKey env.randomKey).start_eq env.httpdStarts env.millis
    rw [started]
    rfl
  · rfl

/-- Nothing was started and nothing confirmed. -/
structure LinkingState.Unstarted (state : LinkingState) : Prop where
  pairer : state.pairingUi.pairer = { payload := {} }
  linker : state.pairingUi.linker = { payload := {} }
  pairingJobId : state.pairingUi.pairingJobId = none
  linkJobId : state.pairingUi.linkJobId = none
  pendingPairing : state.pendingPairing = none
  pendingLock : state.pendingLock = none

namespace Device

/-- The wizard before its server is started, with its gate as the keypad's link is. -/
structure WizardIdle (device : Device) : Prop where
  unstarted : device.linkingState.Unstarted
  server : device.pairingUi.server = false
  gate : device.pairingUi.keypadPaired = device.keypadPaired

theorem WizardIdle.restoreKey {device : Device} (idle : device.WizardIdle) (env : BootEnv)
    : (device.restoreKey env).WizardIdle := by
  unfold Device.restoreKey
  split <;> exact ⟨idle.unstarted, idle.server, idle.gate⟩

theorem WizardIdle.restoreKeypad {device : Device} (idle : device.WizardIdle)
    : device.restoreKeypad.1.WizardIdle := by
  obtain ⟨⟨pairer, linker, pairingJobId, linkJobId, pairing, lock⟩, server, _⟩ := idle
  unfold Device.restoreKeypad
  dsimp only
  split <;> exact ⟨⟨pairer, linker, pairingJobId, linkJobId, pairing, lock⟩, server, rfl⟩

theorem WizardIdle.restoreLock {device : Device} (idle : device.WizardIdle) (env : BootEnv)
    : (device.restoreLock env).1.WizardIdle := by
  obtain ⟨⟨pairer, linker, pairingJobId, linkJobId, pairing, lock⟩, server, gate⟩ := idle
  unfold Device.restoreLock
  dsimp only
  split <;> split <;>
    exact ⟨⟨pairer, linker, pairingJobId, linkJobId, pairing, lock⟩, server, gate⟩

/-- A start leaves the server up only without a keypad. -/
theorem WizardIdle.bringUp {device : Device} (idle : device.WizardIdle) (env : BootEnv)
    : (device.bringUp env).linkingState.Unstarted
      ∧ ((device.bringUp env).pairingUi.server = true
        → (device.bringUp env).pairingUi.keypadPaired = false) := by
  have imported : (device.importAesKey env.keyImport).1.WizardIdle := by
    unfold importAesKey
    split <;> exact ⟨idle.unstarted, idle.server, idle.gate⟩
  unfold Device.bringUp
  split
  · refine ⟨idle.unstarted, fun up => ?_⟩
    exact absurd (idle.server.symm.trans up) (by decide)
  obtain ⟨⟨pairer, linker, pairingJobId, linkJobId, pairing, lock⟩, server, gate⟩ := imported
  have closed {ui : PairingUi} (server : ui.server = false) {paired : Bool}
      (up : ui.server = true)
      : paired = false :=
    absurd (server.symm.trans up) (by decide)
  dsimp only
  split
  · exact ⟨⟨pairer, linker, pairingJobId, linkJobId, pairing, lock⟩, closed server⟩
  split
  · exact ⟨⟨pairer, linker, pairingJobId, linkJobId, pairing, lock⟩, closed server⟩
  · rename_i unpaired
    obtain ⟨_, _, started⟩ :=
      ((device.importAesKey env.keyImport).1.pairingUi.setSharedKey
        (device.importAesKey env.keyImport).1.bridge.sharedKey).start_eq env.httpdStarts
          env.millis
    simp only [linkingState, started]
    refine ⟨⟨pairer, linker, pairingJobId, linkJobId, pairing, lock⟩, fun _ => ?_⟩
    simpa [gate] using unpaired

/-- After a start nothing is under way, and the server is up only without a keypad. -/
theorem setup_linkingState (config : DeviceConfig) (preferences : Preferences) (env : BootEnv)
    : (setup config preferences env).1.linkingState.Unstarted
      ∧ ((setup config preferences env).1.pairingUi.server = true
        → (setup config preferences env).1.pairingUi.keypadPaired = false) := by
  have powered : (powerOn config preferences).WizardIdle :=
    ⟨⟨rfl, rfl, rfl, rfl, rfl, rfl⟩, rfl, rfl⟩
  unfold setup restoreLinks
  exact ((powered.restoreKey env).restoreKeypad.restoreLock env).bringUp env

/-- What loading the links leaves of the component. -/
theorem restoreLinks_device (device : Device) (env : BootEnv)
    : (device.restoreLinks env).1
      = ((device.restoreKey env).restoreKeypad.1.restoreLock env).1 := by
  unfold restoreLinks
  generalize (device.restoreKey env).restoreKeypad = restored
  obtain ⟨keypadRestored, _⟩ := restored
  dsimp only

/-- `setup` loads the links, and brings the component up. -/
theorem setup_device (config : DeviceConfig) (preferences : Preferences) (env : BootEnv)
    : (setup config preferences env).1
      = ((powerOn config preferences).restoreLinks env).1.bringUp env := by
  unfold setup
  generalize (powerOn config preferences).restoreLinks env = restored
  rfl

end Device

end KeypadBridge
