import KeypadBridge.Firmware.Gates
import KeypadBridge.Firmware.IdleClock
import KeypadBridge.Firmware.LostJobs

/-! Set-up mode. The wizard's flags follow the links of the component, whatever the tasks do in
between, and without a linked keypad the wizard is up.
-/

namespace KeypadBridge
open KeypadBridge.Foundation

/-- A start that `httpd_start` allows leaves the server up. -/
theorem PairingUi.start_server (ui : PairingUi) {httpdStarts : Bool}
    (starts : httpdStarts = true) (millis : UInt32)
    : (ui.start httpdStarts millis).1.server = true := by
  unfold start
  split
  · rename_i up
    exact up
  · rfl

-----------------------------------------------------------------------------------------
-- The component's own flags
-----------------------------------------------------------------------------------------

/-- What the component itself holds to be linked. -/
structure LinkFlags where
  keypadPaired : Bool
  lockLinked : Bool
  failed : Bool

namespace Device

def linkFlags (device : Device) : LinkFlags where
  keypadPaired := device.keypadPaired
  lockLinked := device.bridge.lockLinked
  failed := device.failed

variable (device : Device)

theorem scheduleScan_linkFlags (due : UInt32)
    : (device.scheduleScan due).linkFlags = device.linkFlags :=
  rfl

theorem maybeFinishBatteryScan_linkFlags (env : ScanEnv)
    : (device.maybeFinishBatteryScan env).1.linkFlags = device.linkFlags := by
  unfold maybeFinishBatteryScan
  dsimp only
  split
  · rfl
  split
  · rfl
  split
  · rfl
  · exact scheduleScan_linkFlags _ _

theorem maybeStartBatteryScan_linkFlags (env : ScanEnv)
    : (device.maybeStartBatteryScan env).1.linkFlags = device.linkFlags := by
  unfold maybeStartBatteryScan
  dsimp only
  split
  · split
    · rfl
    · exact scheduleScan_linkFlags _ _
  split
  · rfl
  split
  · exact scheduleScan_linkFlags _ _
  split
  · exact scheduleScan_linkFlags _ _
  split
  · rfl
  · exact scheduleScan_linkFlags _ _

/-- Calls that link nothing leave the component's flags alone. -/
theorem performLoop_linkFlags (keystream : Keystream) {op : LoopOp}
    (notLinking : op.isLinking = false)
    : (device.performLoop keystream op).1.linkFlags = device.linkFlags := by
  cases op with
  | paired | lockLinked | applyPairing | applyLockLink => cases notLinking
  | drained event env =>
      have same := device.bridge.drainEvent_sameLinks keystream (device.rxEnv env) event
      simp [performLoop, drainEvent, linkFlags, same.lockLinked]
  | keypadBattery env =>
      simp only [performLoop, applyPendingKeypadBattery, learnKeypad, publishKeypadBattery]
      split
      · rfl
      · split <;> split <;> rfl
  | lockBattery =>
      simp only [performLoop, applyPendingLockBattery, publishLockBattery]
      split
      · rfl
      · split <;> rfl
  | finishScan env => exact device.maybeFinishBatteryScan_linkFlags env
  | startScan env => exact device.maybeStartBatteryScan_linkFlags env

/-- A completed reset unlinks both devices, an aborted one none. -/
theorem resetPairing_linkFlags (env : ResetEnv)
    : (device.resetPairing env).1.linkFlags
      = if env.keyImport.isSome then
          { device.linkFlags with keypadPaired := false, lockLinked := false }
        else device.linkFlags := by
  unfold resetPairing importAesKey
  cases env.keyImport <;> rfl

/-- What `setup` restores from flash goes to the component and to the wizard alike. -/
theorem restoreLinks_flags (boot : BootEnv)
    : (device.restoreLinks boot).1.pairingUi.keypadPaired
        = (device.restoreLinks boot).1.keypadPaired
      ∧ (device.restoreLinks boot).1.pairingUi.lockLinked
        = (device.restoreLinks boot).1.bridge.lockLinked := by
  have keypad (device : Device)
      : device.restoreKeypad.1.pairingUi.keypadPaired = device.restoreKeypad.1.keypadPaired := by
    unfold restoreKeypad
    dsimp only
    split <;> rfl
  have lock (device : Device)
      : (device.restoreLock boot).1.pairingUi.lockLinked
          = (device.restoreLock boot).1.bridge.lockLinked
        ∧ (device.restoreLock boot).1.pairingUi.keypadPaired = device.pairingUi.keypadPaired
        ∧ (device.restoreLock boot).1.keypadPaired = device.keypadPaired := by
    unfold restoreLock
    dsimp only
    split <;> split <;> exact ⟨rfl, rfl, rfl⟩
  obtain ⟨linked, shown, paired⟩ := lock (device.restoreKey boot).restoreKeypad.1
  rw [restoreLinks_device]
  exact ⟨shown.trans ((keypad _).trans paired.symm), linked⟩

/-- Bringing up the component changes no flag of a link, and the wizard is up without a keypad
if its server starts.
-/
theorem bringUp_flags (boot : BootEnv)
    : (device.bringUp boot).pairingUi.keypadPaired = device.pairingUi.keypadPaired
      ∧ (device.bringUp boot).pairingUi.lockLinked = device.pairingUi.lockLinked
      ∧ (device.bringUp boot).keypadPaired = device.keypadPaired
      ∧ (device.bringUp boot).bridge.lockLinked = device.bridge.lockLinked
      ∧ (boot.httpdStarts = true
        → (device.bringUp boot).failed = false
        → device.keypadPaired = false
        → (device.bringUp boot).pairingUi.server = true) := by
  have imported
      : (device.importAesKey boot.keyImport).1.pairingUi = device.pairingUi
        ∧ (device.importAesKey boot.keyImport).1.keypadPaired = device.keypadPaired
        ∧ (device.importAesKey boot.keyImport).1.bridge.lockLinked
          = device.bridge.lockLinked := by
    unfold importAesKey
    split <;> exact ⟨rfl, rfl, rfl⟩
  unfold bringUp
  split
  · exact ⟨rfl, rfl, rfl, rfl, fun _ working => by simp at working⟩
  dsimp only
  generalize (device.importAesKey boot.keyImport).1 = keyed at imported ⊢
  obtain ⟨same, paired, linked⟩ := imported
  split
  · exact ⟨same ▸ rfl, same ▸ rfl, paired, linked, fun _ working => by simp at working⟩
  split
  · rename_i found
    exact ⟨same ▸ rfl, same ▸ rfl, paired, linked, fun _ _ unpaired =>
      absurd (paired.symm.trans found) (by simp [unpaired])⟩
  · obtain ⟨_, _, started⟩ :=
      (keyed.pairingUi.setSharedKey keyed.bridge.sharedKey).start_eq boot.httpdStarts boot.millis
    refine ⟨?_, ?_, paired, linked, fun starts _ _ => PairingUi.start_server _ starts _⟩
    · simp only [started, ← same]
      rfl
    · simp only [started, ← same]
      rfl

/-- After a start the wizard's flags are those that were restored. -/
theorem setup_flags (config : DeviceConfig) (preferences : Preferences) (boot : BootEnv)
    : let device := (setup config preferences boot).1
      device.pairingUi.keypadPaired = device.keypadPaired
      ∧ device.pairingUi.lockLinked = device.bridge.lockLinked := by
  intro device
  obtain ⟨keypad, lock⟩ := (powerOn config preferences).restoreLinks_flags boot
  obtain ⟨shown, shownLock, paired, linked, _⟩ :=
    ((powerOn config preferences).restoreLinks boot).1.bringUp_flags boot
  rw [← setup_device] at shown shownLock paired linked
  exact ⟨shown.trans (keypad.trans paired.symm), shownLock.trans (lock.trans linked.symm)⟩

end Device

-----------------------------------------------------------------------------------------
-- The tasks
-----------------------------------------------------------------------------------------

/-- What the step of `loop()` at a place makes of the component's flags. -/
def LinkFlags.behind (flags : LinkFlags) : MainTask → LinkFlags
  | .storePaired _ => { flags with keypadPaired := true }
  | .storeLinked pending => { flags with lockLinked := (parseMacPretty pending.mac).isSome }
  | _ => flags

/-- Only a pairing or a lock link in hand changes them. -/
theorem LinkFlags.behind_emptyHanded (flags : LinkFlags) {main : MainTask}
    (empty : main.EmptyHanded)
    : flags.behind main = flags := by
  cases main with
  | storePaired => cases empty.family
  | storeLinked => cases empty.lock
  | _ => rfl

theorem MainTask.EmptyHanded.ne_storeFamily {main : MainTask} (empty : main.EmptyHanded)
    (pending : PendingPairing)
    : main ≠ .storeFamily pending := by
  rintro rfl
  cases empty.family

namespace Firmware

/-- The wizard's flags are those of the component, ahead of it by what is confirmed and not
stored yet.
-/
structure Mirrored (firmware : Firmware) : Prop where
  keypad
    : firmware.gates.keypadPaired
      = (firmware.device.linkFlags.keypadPaired || firmware.unstoredFamily.isSome)
  lock
    : firmware.gates.lockLinked
      = (firmware.device.linkFlags.lockLinked || firmware.hasUnstoredLock)
  /-- The family comes behind the flags. -/
  storing
    : ∀ pending,
        firmware.main = .storeFamily pending
        → firmware.device.linkFlags.keypadPaired = true

/-- A confirmed job sets the wizard's flag and is in hand; storing it sets the component's flag,
and then it is not in hand anymore.
-/
theorem Mirrored.loop {watch : GateWatch} {before after : Firmware}
    {events : List WizardEvent} (mirrored : before.Mirrored) (gated : Gated watch before)
    (move : MainMove before.gates before.http before.main events after.main after.gates)
    (flags : after.device.linkFlags = before.device.linkFlags.behind before.main)
    : after.Mirrored := by
  obtain ⟨keypad, lock, storing⟩ := mirrored
  rw [unstoredFamily] at keypad
  rw [hasUnstoredLock] at lock
  generalize before.device.linkFlags = held at keypad lock storing flags
  generalize sameMain : after.main = next at move
  generalize sameGates : after.gates = gates at move
  generalize here : before.main = main at move keypad lock storing flags
  suffices kept : gates.keypadPaired
        = ((held.behind main).keypadPaired
          || (next.familyInHand.or (gates.pendingPairing.map PendingPairing.family)).isSome)
      ∧ gates.lockLinked
        = ((held.behind main).lockLinked || (next.hasLockInHand || gates.pendingLock.isSome))
      ∧ ∀ pending, next = .storeFamily pending → (held.behind main).keypadPaired = true by
    rw [← sameMain, ← sameGates, ← flags] at kept
    exact ⟨kept.1, kept.2.1, kept.2.2⟩
  cases move with
  | look _ empty emptyNext =>
      rw [empty.family] at keypad
      rw [empty.lock] at lock
      rw [held.behind_emptyHanded empty, emptyNext.family, emptyNext.lock]
      exact ⟨keypad, lock, fun pending same => absurd same (emptyNext.ne_storeFamily pending)⟩
  | pairingConfirmed => exact ⟨(Bool.or_true _).symm, lock, by simp⟩
  | @pairingNotified _ _ link =>
      have emptyNext := MainTask.emptyHanded_pollLink link
      rw [emptyNext.family, emptyNext.lock]
      exact ⟨keypad, lock, fun pending same => absurd same (emptyNext.ne_storeFamily pending)⟩
  | lockConfirmed => exact ⟨keypad, (Bool.or_true _).symm, by simp⟩
  | lockNotified => exact ⟨keypad, lock, by simp⟩
  | pairingTaken waiting =>
      rw [waiting] at keypad
      exact ⟨keypad, lock, by simp⟩
  | pairedStored => exact ⟨rfl, lock, fun _ _ => rfl⟩
  | familyStored =>
      have paired := storing _ rfl
      rw [paired] at keypad
      exact ⟨by simpa [LinkFlags.behind, paired] using keypad, lock, by simp⟩
  | lockTaken waiting =>
      rw [waiting] at lock
      exact ⟨keypad, lock, by simp⟩
  | linkedStored =>
      have unparked := gated.noLock (by rw [here]; rfl)
      refine ⟨keypad, ?_, by simp⟩
      simp [LinkFlags.behind, MainTask.hasLockInHand, unparked]
  | pairingIdle | lockIdle | stopped => exact ⟨keypad, lock, by simp⟩

variable (firmware : Firmware)

/-- Only the steps that store a pairing or a lock link change the component's flags. -/
theorem performMain_linkFlags (env : MainEnv)
    : (firmware.performMain env).1.device.linkFlags
      = firmware.device.linkFlags.behind firmware.main := by
  obtain ⟨device, main, http⟩ := firmware
  cases main with
  | outside =>
      simp only [performMain]
      split
      · rfl
      · split <;> rfl
  | pairConfirm =>
      simp only [performMain, confirmPairing, PairingUi.confirmPairing]
      split <;> rfl
  | linkConfirm =>
      simp only [performMain, confirmLink, PairingUi.confirmLink]
      split <;> rfl
  | applyPairing | applyLockLink | idlePairer | idleLinker | stopping =>
      simp only [performMain]
      split <;> rfl
  | storeLinked pending =>
      simp only [LinkFlags.behind, ← pending.lockInfo_valid]
      rfl
  | pairState | pairStatus | pairNotify | linkState | linkStatus | linkNotify | storePaired
  | storeFamily | idleCheck | tail => rfl

/-- `loop()` unlinks no keypad and does not fail. -/
theorem performMain_keypad (env : MainEnv)
    : (firmware.device.keypadPaired = true
        → (firmware.performMain env).1.device.keypadPaired = true)
      ∧ (firmware.performMain env).1.device.failed = firmware.device.failed := by
  have flags := firmware.performMain_linkFlags env
  have paired := congrArg LinkFlags.keypadPaired flags
  have failed := congrArg LinkFlags.failed flags
  refine ⟨fun linked => paired.trans ?_, failed.trans ?_⟩
  · cases firmware.main <;> first | rfl | exact linked
  · cases firmware.main <;> rfl

/-- A handler works on the wizard. -/
theorem performHandler_linkFlags (env : HttpEnv)
    : (firmware.performHandler env).1.device.linkFlags = firmware.device.linkFlags := by
  obtain ⟨device, main, http⟩ := firmware
  cases http with
  | resting | pairLaunched | linkLaunched => rfl
  | pairAsked | pairAllowed | pairReady | pairOccupied | linkAsked | linkGated | linkAllowed
  | linkReady | linkOccupied =>
      simp only [performHandler]
      split <;> rfl

/-- The idle check goes on to the stop only with a keypad linked. -/
theorem performMain_closing (env : MainEnv)
    (closing : firmware.main.isClosing = true → firmware.device.keypadPaired = true)
    (next : (firmware.performMain env).1.main.isClosing = true)
    : (firmware.performMain env).1.device.keypadPaired = true := by
  refine (firmware.performMain_keypad env).1 ?_
  by_cases checking : firmware.main = .idleCheck
  · simp only [performMain, checking] at next
    split at next
    · rename_i found
      simp only [Bool.and_eq_true] at found
      exact found.1.1
    · cases next
  · exact closing (firmware.performMain_isClosing env checking next)

/-- What holds of the links between any two steps. -/
structure SetUp (firmware : Firmware) : Prop where
  mirrored : firmware.Mirrored
  closing : firmware.main.isClosing = true → firmware.device.keypadPaired = true

/-- The wizard is up while no keypad is linked. -/
def Reachable (firmware : Firmware) : Prop :=
  firmware.device.failed = false
  → firmware.device.keypadPaired = false
  → firmware.device.pairingUi.server = true

end Firmware

/-- The HTTP server starts wherever it is asked to. -/
def FirmwareOp.startsServer : FirmwareOp → Bool
  | .reset env => env.httpdStarts
  | _ => true

namespace Firmware

variable {firmware next : Firmware}

/-- A step that moves no flag and leaves `loop()` where it is. -/
theorem SetUp.of_same (setUp : firmware.SetUp) (gates : next.gates = firmware.gates)
    (flags : next.device.linkFlags = firmware.device.linkFlags)
    (main : next.main = firmware.main)
    : next.SetUp := by
  have paired : next.device.keypadPaired = firmware.device.keypadPaired :=
    congrArg LinkFlags.keypadPaired flags
  refine ⟨⟨?_, ?_, ?_⟩, ?_⟩
  · rw [unstoredFamily, gates, flags, main]
    exact setUp.mirrored.keypad
  · rw [hasUnstoredLock, gates, flags, main]
    exact setUp.mirrored.lock
  · rw [flags, main]
    exact setUp.mirrored.storing
  · rw [main, paired]
    exact setUp.closing

theorem Reachable.of_same (reachable : firmware.Reachable)
    (gates : next.gates = firmware.gates)
    (flags : next.device.linkFlags = firmware.device.linkFlags)
    : next.Reachable := by
  intro working unpaired
  have server : next.device.pairingUi.server = firmware.device.pairingUi.server :=
    congrArg GateState.server gates
  rw [server]
  exact reachable ((congrArg LinkFlags.failed flags).symm.trans working)
    ((congrArg LinkFlags.keypadPaired flags).symm.trans unpaired)

/-- Other tasks than the main one link and unlink nothing. -/
theorem perform_same (keystream : Keystream) (firmware : Firmware) {op : FirmwareOp}
    (notMain : ∀ env, op ≠ .main env) (notReset : ∀ env, op ≠ .reset env)
    : (firmware.perform keystream op).1.gates = firmware.gates
      ∧ (firmware.perform keystream op).1.device.linkFlags = firmware.device.linkFlags
      ∧ (firmware.perform keystream op).1.main = firmware.main := by
  cases op with
  | main env => exact absurd rfl (notMain env)
  | reset env => exact absurd rfl (notReset env)
  | serve op =>
      simp only [perform]
      split
      · rename_i allowed
        exact ⟨congrArg LinkingState.gates
            (firmware.device.performLoop_linkingState keystream allowed.2.1),
          firmware.device.performLoop_linkFlags keystream allowed.2.1, rfl⟩
      · exact ⟨rfl, rfl, rfl⟩
  | request request millis =>
      simp only [perform, receiveRequest]
      split
      · cases request <;> exact ⟨rfl, rfl, rfl⟩
      · exact ⟨rfl, rfl, rfl⟩
  | handle env =>
      obtain ⟨_, gates, main⟩ := firmware.performHandler_moves env
      exact ⟨gates, firmware.performHandler_linkFlags env, main⟩
  | pairJob move =>
      obtain ⟨pairer, same⟩ := firmware.performPairJob_ui move
      simp only [perform, same]
      exact ⟨rfl, rfl, rfl⟩
  | linkJob move =>
      obtain ⟨linker, same⟩ := firmware.performLinkJob_ui move
      simp only [perform, same]
      exact ⟨rfl, rfl, rfl⟩

/-- A reset comes when nothing waits; one that completes unlinks on both sides and starts the
server.
-/
theorem performReset_setUp
    (idle
      : firmware.main = .outside
        → firmware.unstoredFamily = none ∧ firmware.hasUnstoredLock = false)
    (env : ResetEnv)
    : (firmware.SetUp → (firmware.performReset env).1.SetUp)
      ∧ (env.httpdStarts = true
        → firmware.Reachable
        → (firmware.performReset env).1.Reachable) := by
  unfold Firmware.performReset
  split
  case isFalse => exact ⟨id, fun _ => id⟩
  rename_i allowed
  obtain ⟨noFamily, noLock⟩ := idle allowed.1
  have same := firmware.device.resetPairing_linkingState env
  have flags := firmware.device.resetPairing_linkFlags env
  cases keyImport : env.keyImport with
  | none =>
      simp only [keyImport, Option.isSome_none, Bool.false_eq_true, if_false] at same flags
      have gates := congrArg LinkingState.gates same
      exact ⟨fun setUp => setUp.of_same gates flags rfl,
        fun _ reachable => reachable.of_same gates flags⟩
  | some id =>
      simp only [keyImport, Option.isSome_some, if_true] at same flags ⊢
      generalize (firmware.device.resetPairing env).1 = after at same flags ⊢
      obtain ⟨ui, pairing, lock⟩ := LinkingState.mk.inj same
      have unstored : Firmware.unstoredFamily { firmware with device := after } = none := by
        have waits
            : (Firmware.gates { firmware with device := after }).pendingPairing
              = firmware.gates.pendingPairing :=
          pairing
        rw [unstoredFamily, waits]
        exact noFamily
      have unstoredLock : Firmware.hasUnstoredLock { firmware with device := after } = false := by
        have waits
            : (Firmware.gates { firmware with device := after }).pendingLock
              = firmware.gates.pendingLock :=
          lock
        rw [hasUnstoredLock, waits]
        exact noLock
      have shown
          : after.pairingUi.keypadPaired = false ∧ after.pairingUi.lockLinked = false := by
        obtain ⟨_, _, started⟩ :=
          ((((firmware.device.pairingUi.setLockLinked false).setKeypadPaired
            false).setKeypadFamily .original).setSharedKey env.randomKey).start_eq
              env.httpdStarts env.millis
        rw [ui, started]
        exact ⟨rfl, rfl⟩
      refine ⟨fun _ => ⟨⟨?_, ?_, fun pending storing => ?_⟩, fun closing => ?_⟩,
        fun starts _ _ _ => ?_⟩
      · rw [unstored, flags]
        exact shown.1
      · rw [unstoredLock, flags]
        exact shown.2
      · cases allowed.1.symm.trans storing
      · simp [allowed.1, MainTask.isClosing] at closing
      · simp only [ui]
        exact PairingUi.start_server _ starts _

/-- Between two turns of `loop()` nothing waits to be stored. -/
theorem nothing_waits {watch : GateWatch} (gated : Gated watch firmware)
    (outside : firmware.main = .outside)
    : firmware.unstoredFamily = none ∧ firmware.hasUnstoredLock = false := by
  have noPairing := gated.noPairing (by rw [outside]; rfl)
  have noLock := gated.noLock (by rw [outside]; rfl)
  refine ⟨?_, ?_⟩
  · rw [unstoredFamily, outside, noPairing]
    rfl
  · rw [hasUnstoredLock, outside, noLock]
    rfl

/-- Every step keeps what holds of the links, and keeps the wizard reachable if servers start.
-/
theorem SetUp.perform {watch : GateWatch} (gated : Gated watch firmware)
    (setUp : firmware.SetUp) (keystream : Keystream) (op : FirmwareOp)
    : (firmware.perform keystream op).1.SetUp
      ∧ (op.startsServer = true
        → firmware.Reachable
        → (firmware.perform keystream op).1.Reachable) := by
  by_cases mainOp : ∃ env, op = .main env
  · obtain ⟨env, rfl⟩ := mainOp
    have mirrored :=
      setUp.mirrored.loop gated (firmware.performMain_moves env).1
        (firmware.performMain_linkFlags env)
    refine ⟨⟨mirrored, firmware.performMain_closing env setUp.closing⟩,
      fun _ reachable working unpaired => ?_⟩
    obtain ⟨stays, failed⟩ := firmware.performMain_keypad env
    have before : firmware.device.keypadPaired = false := by
      by_contra linked
      exact absurd ((stays (by simpa using linked)).symm.trans unpaired) (by decide)
    have serving : firmware.main ≠ .stopping := by
      intro stopping
      exact absurd ((setUp.closing (by rw [stopping]; rfl)).symm.trans before) (by decide)
    have up := reachable (failed.symm.trans working) before
    exact (congrArg ActivityClock.server (firmware.performMain_activity env serving)).trans up
  by_cases resetOp : ∃ env, op = .reset env
  · obtain ⟨env, rfl⟩ := resetOp
    obtain ⟨kept, opened⟩ := performReset_setUp (nothing_waits gated) env
    exact ⟨kept setUp, opened⟩
  · obtain ⟨gates, flags, main⟩ :=
      firmware.perform_same keystream (fun env same => mainOp ⟨env, same⟩)
        (fun env same => resetOp ⟨env, same⟩)
    exact ⟨setUp.of_same gates flags main, fun _ reachable => reachable.of_same gates flags⟩

theorem booted_setUp (config : DeviceConfig) (preferences : Preferences) (boot : BootEnv)
    : (booted config preferences boot).SetUp
      ∧ (boot.httpdStarts = true → (booted config preferences boot).Reachable) := by
  obtain ⟨keypad, lock⟩ := Device.setup_flags config preferences boot
  obtain ⟨noFamily, noLock⟩ := nothing_waits (booted_gated config preferences boot) rfl
  refine ⟨⟨⟨?_, ?_, nofun⟩, fun closing => ?_⟩, ?_⟩
  · rw [noFamily]
    exact keypad.trans (Bool.or_false _).symm
  · rw [noLock]
    exact lock.trans (Bool.or_false _).symm
  · cases closing
  · intro starts working unpaired
    obtain ⟨_, _, paired, _, up⟩ :=
      ((Device.powerOn config preferences).restoreLinks boot).1.bringUp_flags boot
    rw [← Device.setup_device] at paired up
    exact up starts working (paired.symm.trans unpaired)

/-- After every run. -/
theorem after_setUp (keystream : Keystream) (config : DeviceConfig)
    (preferences : Preferences) (boot : BootEnv) (ops : List FirmwareOp)
    : (after keystream config preferences boot ops).SetUp
      ∧ (boot.httpdStarts = true ∧ (∀ op ∈ ops, op.startsServer = true)
        → (after keystream config preferences boot ops).Reachable) := by
  generalize servers : (boot.httpdStarts = true ∧ ∀ op ∈ ops, op.startsServer = true) = starts
  have booted := booted_setUp config preferences boot
  have run :=
    (firmwareMachine keystream).history_invariant_of
      (fun outputs firmware =>
        Gated (gateWatch outputs.flatten) firmware
        ∧ firmware.SetUp
        ∧ (starts → firmware.Reachable))
      (fun op => starts → op.startsServer = true)
      ⟨booted_gated config preferences boot, booted.1, fun all => booted.2 (servers ▸ all).1⟩
      (fun outputs firmware op allowed ⟨gated, setUp, reachable⟩ => by
        have next := setUp.perform gated keystream op
        rw [List.flatten_append, gateWatch_append, List.flatten_singleton]
        exact ⟨gated.step (firmware.perform_moves keystream op), next.1,
          fun all => next.2 (allowed all) (reachable all)⟩)
      ops (fun op member all => (servers ▸ all).2 op member)
  exact run.2

/-- The server is stopped at the last step of the idle check. -/
theorem stops_closing {keystream : Keystream} {op : FirmwareOp}
    (shown : .serverStopped ∈ (firmware.perform keystream op).2)
    : firmware.main = .stopping := by
  have move := firmware.perform_moves keystream op
  generalize (firmware.perform keystream op).2 = events at shown move
  cases move with
  | handler move =>
      generalize firmware.http = http at move
      generalize (firmware.perform keystream op).1.http = next at move
      cases move <;> simp at shown
  | loop move =>
      generalize firmware.main = main at move ⊢
      generalize (firmware.perform keystream op).1.main = next at move
      generalize (firmware.perform keystream op).1.gates = gates at move
      cases move with
      | look looks => exact absurd (looks _ shown) (by simp [WizardEvent.isLook])
      | stopped => rfl
      | _ => simp at shown
  | reset => simp at shown
  | requested => simp at shown
  | aside aside => exact absurd (aside _ shown) (by simp [WizardEvent.isAside])

end Firmware

/-- Whatever order the tasks run in, the wizard's flags are the component's links together with
what is confirmed and that `loop()` has yet to store, and between two turns of `loop()` nothing
waits: what gates the requests, and what a sign-in is told, is what is linked.
-/
theorem wizard_flags_current (keystream : Keystream) (config : DeviceConfig)
    (preferences : Preferences) (boot : BootEnv) (ops : List FirmwareOp)
    : let firmware := Firmware.after keystream config preferences boot ops
      let device := firmware.device
      device.pairingUi.keypadPaired = (device.keypadPaired || firmware.unstoredFamily.isSome)
      ∧ device.pairingUi.lockLinked
        = (device.bridge.lockLinked || firmware.hasUnstoredLock)
      ∧ (firmware.main = .outside
        → device.pairingUi.keypadPaired = device.keypadPaired
          ∧ device.pairingUi.lockLinked = device.bridge.lockLinked) := by
  intro firmware device
  obtain ⟨keypad, lock⟩ :=
    (Firmware.after_setUp keystream config preferences boot ops).1.mirrored
  refine ⟨keypad, lock, fun outside => ?_⟩
  obtain ⟨noFamily, noLock⟩ :=
    Firmware.nothing_waits (Firmware.after_gated keystream config preferences boot ops) outside
  rw [noFamily] at keypad
  rw [noLock] at lock
  exact ⟨keypad.trans (Bool.or_false _), lock.trans (Bool.or_false _)⟩

/-- Where the HTTP server starts, a working bridge without a linked keypad always has its wizard
up, in any order of the idle check, the jobs and the Reset button, and the server is only ever
stopped with a keypad linked.
-/
theorem wizard_up_without_keypad (keystream : Keystream) (config : DeviceConfig)
    (preferences : Preferences) (boot : BootEnv) (starts : boot.httpdStarts = true)
    (ops : List FirmwareOp) (restarts : ∀ op ∈ ops, op.startsServer = true)
    : let firmware := Firmware.after keystream config preferences boot ops
      (firmware.device.failed = false
        → firmware.device.keypadPaired = false
        → firmware.device.pairingUi.server = true)
      ∧ ∀ op,
          .serverStopped ∈ (firmware.perform keystream op).2
          → firmware.device.keypadPaired = true := by
  intro firmware
  obtain ⟨setUp, reachable⟩ := Firmware.after_setUp keystream config preferences boot ops
  refine ⟨reachable ⟨starts, restarts⟩, fun op stopped => setUp.closing ?_⟩
  rw [Firmware.stops_closing stopped]
  rfl

/-- A household that was left alone until its wizard closed, and is then reset. -/
def startedOverOps : List FirmwareOp :=
  leftAloneOps ++ loopOps 300002 2
    ++ [.reset {
          millis := 400000
          randomKey := Vector.replicate 16 0x22
          keyImport := some ⟨3, by decide⟩
          isScanning := false
          httpdStarts := true
          acceptsKey := fun _ => true
          acceptsLinks := fun _ => true }]

/-- Before the reset the server is down, behind it the wizard is up again. -/
theorem wizard_up_without_keypad_reset
    : (Firmware.after clearStream {} {} firstBoot
          (leftAloneOps ++ loopOps 300002 2)).device.pairingUi.server
        = false
      ∧ (Firmware.after clearStream {} {} firstBoot startedOverOps).device.pairingUi.server
        = true :=
  ⟨by decide +kernel,
    (wizard_up_without_keypad clearStream {} {} firstBoot rfl startedOverOps
      (by decide +kernel)).1 (by decide +kernel) (by decide +kernel)⟩

end KeypadBridge
