import KeypadBridge.Bridge.DeviceRuns

/-! The copies of the link state. The shared key, the keypad's identity and the linked lock each
exist in memory and in flash, and the key also behind a PSA handle and in the wizard. This
module says which operations touch them, and that the copies agree after every run.
-/

namespace KeypadBridge
open KeypadBridge.Foundation

-----------------------------------------------------------------------------------------
-- The receive path leaves the links alone
-----------------------------------------------------------------------------------------

/-- No frame changes the key handle. -/
theorem LockSession.Processed.aesKey {keystream : Keystream} {env : FrameEnv}
    {session : LockSession} {frame : Bytes} {outcome : LockSession.FrameOutcome}
    (processed : Processed keystream env session frame outcome)
    : outcome.session.aesKey = session.aesKey := by
  cases processed with
  | request =>
      exact (answerIvRequest_answered session.clearTransient env.random (frame.getD 7 0)).aesKey
  | ignored _ _ header drop =>
      exact (bookkept_dropRetiredIf { session.clearTransient with header := header } drop).aesKey
  | opened _ _ _ aesKey => exact aesKey

namespace SwitchbotKeypadBridge

/-- Two bridges with the same key, lock link and entities. -/
structure SameLinks (before after : SwitchbotKeypadBridge) : Prop where
  sharedKey : after.sharedKey = before.sharedKey
  lockLinked : after.lockLinked = before.lockLinked
  linkedLockInfo : after.linkedLockInfo = before.linkedLockInfo
  hasKeypadEvent : after.hasKeypadEvent = before.hasKeypadEvent

theorem SameLinks.refl (bridge : SwitchbotKeypadBridge) : SameLinks bridge bridge :=
  ⟨rfl, rfl, rfl, rfl⟩

theorem SameLinks.trans {first second third : SwitchbotKeypadBridge}
    (hl : SameLinks first second) (hr : SameLinks second third)
    : SameLinks first third :=
  ⟨hr.sharedKey.trans hl.sharedKey, hr.lockLinked.trans hl.lockLinked,
    hr.linkedLockInfo.trans hl.linkedLockInfo, hr.hasKeypadEvent.trans hl.hasKeypadEvent⟩

theorem relayToLockAsync_sameLinks (bridge : SwitchbotKeypadBridge) (env : RxEnv)
    (header : FrameHeader) (command : DecodedCommand)
    : SameLinks bridge (bridge.relayToLockAsync env header command).2.1 := by
  unfold relayToLockAsync
  split
  · exact .refl bridge
  split
  · exact .refl bridge
  dsimp only
  split <;> exact ⟨rfl, rfl, rfl, rfl⟩

variable (keystream : Keystream) (env : RxEnv) (bridge : SwitchbotKeypadBridge)

theorem handleCommand_sameLinks (header : FrameHeader) (command : DecodedCommand)
    : SameLinks bridge (bridge.handleCommand keystream env header command).1 := by
  have published := (bridge.publishCommand_spec command).1
  unfold handleCommand
  dsimp only
  rw [published]
  generalize after : { bridge with lockState := bridge.lockState.after command.type } = updated
  have same : SameLinks bridge updated := after ▸ ⟨rfl, rfl, rfl, rfl⟩
  have relayed := same.trans (updated.relayToLockAsync_sameLinks env header command)
  split
  · split <;> assumption
  · exact same

theorem onRxFrame_sameLinks (frame : Bytes)
    : SameLinks bridge (bridge.onRxFrame keystream env frame).1 := by
  unfold onRxFrame
  dsimp only
  generalize outcome : bridge.session.processFrame keystream env.toFrameEnv frame = processed
  have same : SameLinks bridge { bridge with session := processed.session } :=
    ⟨rfl, rfl, rfl, rfl⟩
  split
  · exact same
  · exact same.trans (handleCommand_sameLinks keystream env _ _ _)
  · exact same

theorem drainEvent_sameLinks (event : QueuedEvent)
    : SameLinks bridge (bridge.drainEvent keystream env event).1 := by
  cases event with
  | connect | disconnect => exact ⟨rfl, rfl, rfl, rfl⟩
  | rx frame => exact bridge.onRxFrame_sameLinks keystream env frame

/-- Draining an event keeps the key handle, and the session's contexts well formed. -/
theorem drainEvent_session (wf : bridge.session.contexts.WellFormed) (event : QueuedEvent)
    : (bridge.drainEvent keystream env event).1.session.aesKey = bridge.session.aesKey
      ∧ (bridge.drainEvent keystream env event).1.session.contexts.WellFormed := by
  cases event with
  | connect | disconnect => exact ⟨rfl, wf.boundary⟩
  | rx frame =>
      have session := (onRxFrame_spec keystream env bridge frame).1
      have processed := LockSession.processFrame_processed keystream env.toFrameEnv wf frame
      simp only [drainEvent, session]
      exact ⟨processed.aesKey, processed.wellFormed wf⟩

end SwitchbotKeypadBridge

-----------------------------------------------------------------------------------------
-- The link state
-----------------------------------------------------------------------------------------

/-- The copies of the shared key and the links, but for those in the wizard. -/
structure LinkCore where
  sharedKey : AesKey
  aesKeyHandle : PsaKeyId
  sessionKey : PsaKeyId
  psaKeys : PsaKeyId → Option AesKey
  keypadPaired : Bool
  keypadInfo : KeypadInfo
  lockLinked : Bool
  linkedLockInfo : LinkedLockInfo
  preferences : Preferences

namespace LinkCore

/-- Memory, flash and PSA Crypto agree on the shared key. Without a handle the session has no
usable key.
-/
structure KeyCoherent (core : LinkCore) : Prop where
  stored : core.preferences.load .sharedKey = some core.sharedKey
  usable
    : core.aesKeyHandle ≠ psaKeyIdNull
      → core.sessionKey = core.aesKeyHandle
        ∧ core.psaKeys core.aesKeyHandle = some core.sharedKey
  unusable : core.aesKeyHandle = psaKeyIdNull → core.psaKeys core.sessionKey = none

/-- Memory and flash agree on the links, and no record of an early build is kept. -/
structure LinksCoherent (core : LinkCore) : Prop where
  keypadInfo : (core.preferences.load .keypadInfo).getD {} = core.keypadInfo
  lockInfo : (core.preferences.load .linkedLock).getD {} = core.linkedLockInfo
  current : core.linkedLockInfo.isLegacy = false
  linked : core.lockLinked = decide (core.linkedLockInfo.valid ≠ 0)

structure Coherent (core : LinkCore) : Prop where
  key : core.KeyCoherent
  links : core.LinksCoherent

end LinkCore

/-- The record of a link in a shared slot is not one of an early build. -/
theorem PendingLock.lockInfo_current {pending : PendingLock}
    (shared : isSharedSlot pending.slotId = true)
    : pending.lockInfo.isLegacy = false := by
  unfold PendingLock.lockInfo
  split
  · simp [LinkedLockInfo.isLegacy, shared]
  · simp [LinkedLockInfo.isLegacy]

namespace Device

def linkCore (device : Device) : LinkCore where
  sharedKey := device.bridge.sharedKey
  aesKeyHandle := device.aesKeyHandle
  sessionKey := device.bridge.session.aesKey
  psaKeys := device.psaKeys
  keypadPaired := device.keypadPaired
  keypadInfo := device.keypadInfo
  lockLinked := device.bridge.lockLinked
  linkedLockInfo := device.bridge.linkedLockInfo
  preferences := device.preferences

-----------------------------------------------------------------------------------------
-- Calls that leave the link state alone
-----------------------------------------------------------------------------------------

section

variable (device : Device)

theorem drainEvent_linkCore (keystream : Keystream)
    (wf : device.bridge.session.contexts.WellFormed) (event : QueuedEvent) (env : RxEnv)
    : (device.drainEvent keystream event env).1.linkCore = device.linkCore := by
  obtain ⟨key, linked, info, _⟩ :=
    device.bridge.drainEvent_sameLinks keystream (device.rxEnv env) event
  have session :=
    (device.bridge.drainEvent_session keystream (device.rxEnv env) wf event).1
  simp [drainEvent, linkCore, key, linked, info, session]

/-- A call that has nothing to do with the links. -/
structure Aside (before after : Device) : Prop where
  linkCore : after.linkCore = before.linkCore
  session : after.bridge.session = before.bridge.session
  pendingPairing : after.pendingPairing = before.pendingPairing
  pendingLock : after.pendingLock = before.pendingLock

theorem Aside.refl : Aside device device := ⟨rfl, rfl, rfl, rfl⟩

variable {device} in
theorem Aside.trans {middle after : Device} (hl : Aside device middle)
    (hr : Aside middle after)
    : Aside device after :=
  ⟨hr.linkCore.trans hl.linkCore, hr.session.trans hl.session,
    hr.pendingPairing.trans hl.pendingPairing, hr.pendingLock.trans hl.pendingLock⟩

theorem stopBatteryScan_aside (isScanning : Bool)
    : Aside device (device.stopBatteryScan isScanning).1 :=
  ⟨rfl, rfl, rfl, rfl⟩

theorem openBatteryScan_aside (wantsKeypad wantsLock : Bool)
    : Aside device (device.openBatteryScan wantsKeypad wantsLock) :=
  ⟨rfl, rfl, rfl, rfl⟩

theorem scheduleScan_aside (due : UInt32) : Aside device (device.scheduleScan due) :=
  ⟨rfl, rfl, rfl, rfl⟩

/-- A scan window is closed, and the next scan is put off. -/
theorem stopAndSchedule_aside (isScanning : Bool) (due : UInt32)
    : Aside device ((device.stopBatteryScan isScanning).1.scheduleScan due) :=
  (device.stopBatteryScan_aside isScanning).trans (scheduleScan_aside _ due)

theorem publishKeypadBattery_aside (value : Nat)
    : Aside device (device.publishKeypadBattery value).1 := by
  unfold publishKeypadBattery
  split <;> exact ⟨rfl, rfl, rfl, rfl⟩

theorem applyPendingLockBattery_aside : Aside device device.applyPendingLockBattery.1 := by
  unfold applyPendingLockBattery publishLockBattery
  split
  · exact .refl device
  · dsimp only
    split <;> exact ⟨rfl, rfl, rfl, rfl⟩

theorem maybeFinishBatteryScan_aside (env : ScanEnv)
    : Aside device (device.maybeFinishBatteryScan env).1 := by
  unfold maybeFinishBatteryScan
  dsimp only
  split
  · exact .refl device
  split
  · exact .refl device
  split
  · exact .refl device
  · exact device.stopAndSchedule_aside _ _

theorem maybeStartBatteryScan_aside (env : ScanEnv)
    : Aside device (device.maybeStartBatteryScan env).1 := by
  unfold maybeStartBatteryScan
  dsimp only
  split
  · split
    · exact .refl device
    · exact device.stopAndSchedule_aside _ _
  split
  · exact .refl device
  split
  · exact device.scheduleScan_aside _
  split
  · exact device.scheduleScan_aside _
  split
  · exact device.openBatteryScan_aside _ _
  · exact (device.openBatteryScan_aside _ _).trans (stopAndSchedule_aside _ _ _)

/-- All that a callback step writes to the component is what it parks. -/
theorem stepScanCallback_parks (callback : ScanCallback)
    : ∃ keypadAdvert lockAdvert,
        (device.stepScanCallback callback).2 = { device with keypadAdvert, lockAdvert } := by
  cases callback with
  | keypadSought adv known =>
      simp only [stepScanCallback]
      split <;> exact ⟨_, _, rfl⟩
  | lockMissing adv =>
      simp only [stepScanCallback]
      split <;> exact ⟨_, _, rfl⟩
  | _ => exact ⟨_, _, rfl⟩

theorem stepScanCallback_aside (callback : ScanCallback)
    : Aside device (device.stepScanCallback callback).2 := by
  obtain ⟨_, _, parked⟩ := device.stepScanCallback_parks callback
  rw [parked]
  exact ⟨rfl, rfl, rfl, rfl⟩

end

-----------------------------------------------------------------------------------------
-- Calls that change it
-----------------------------------------------------------------------------------------

/-- What applying a pairing does to the link state. -/
theorem applyPendingPairing_linkCore {device : Device} {pending : PendingPairing}
    (waiting : device.pendingPairing = some pending) (millis : UInt32)
    (accepts : PrefKey → Bool)
    : (device.applyPendingPairing millis accepts).1.linkCore
      = { device.linkCore with
          keypadPaired := true
          keypadInfo := pending.keypadInfo
          preferences :=
            ((device.preferences.save .keypadName (.copy pending.name)).save .keypadInfo
              pending.keypadInfo).sync accepts } := by
  simp only [applyPendingPairing, waiting]
  rfl

/-- What adopting an advertised identity does to the link state. -/
theorem learnKeypad_linkCore {device : Device} (unknown : device.keypadInfo.valid = 0)
    (advert : KeypadAdvert) (accepts : PrefKey → Bool)
    : let info := { mac := advert.mac, family := advert.family, valid := 1 }
      (device.learnKeypad advert accepts).linkCore
      = { device.linkCore with
          keypadInfo := info
          preferences := (device.preferences.save .keypadInfo info).sync accepts } := by
  simp only [learnKeypad, unknown, if_true]
  rfl

/-- What applying a lock link does to the link state. -/
theorem applyPendingLockLink_linkCore {device : Device} {pending : PendingLock}
    (waiting : device.pendingLock = some pending) (millis : UInt32)
    (accepts : PrefKey → Bool)
    : (device.applyPendingLockLink millis accepts).1.linkCore
      = { device.linkCore with
          lockLinked := decide (pending.lockInfo.valid ≠ 0)
          linkedLockInfo := pending.lockInfo
          preferences := (device.preferences.save .linkedLock pending.lockInfo).sync accepts } := by
  simp only [applyPendingLockLink, waiting]
  rfl

/-- A record of the keypad that is in memory and in flash leaves the other copies alone. -/
theorem keypadStored_coherent {core : LinkCore} (coherent : core.Coherent) {info : KeypadInfo}
    {preferences : Preferences} (paired : Bool)
    (keypad : preferences.load .keypadInfo = some info)
    (others
      : ∀ key, key = .sharedKey ∨ key = .linkedLock
        → preferences.load key = core.preferences.load key)
    : LinkCore.Coherent
        { core with keypadPaired := paired, keypadInfo := info, preferences := preferences } := by
  obtain ⟨⟨stored, usable, unusable⟩, ⟨_, lockInfo, current, linked⟩⟩ := coherent
  refine ⟨⟨?_, usable, unusable⟩, ⟨?_, ?_, current, linked⟩⟩
  · rw [others .sharedKey (.inl rfl)]
    exact stored
  · rw [keypad]
    rfl
  · rw [others .linkedLock (.inr rfl)]
    exact lockInfo

/-- Applying a pairing stores what memory then holds. -/
theorem applyPendingPairing_coherent {device : Device} (coherent : device.linkCore.Coherent)
    (millis : UInt32) (accepts : PrefKey → Bool)
    : (device.applyPendingPairing millis accepts).1.linkCore.Coherent := by
  cases waiting : device.pendingPairing with
  | none =>
      simp only [applyPendingPairing, waiting]
      exact coherent
  | some pending =>
      rw [applyPendingPairing_linkCore waiting]
      refine keypadStored_coherent coherent true (by simp) ?_
      rintro key (rfl | rfl) <;> simp [linkCore, WriteBack.load_save_of_ne]

/-- An adopted identity is stored. -/
theorem learnKeypad_coherent {device : Device} (coherent : device.linkCore.Coherent)
    (advert : KeypadAdvert) (accepts : PrefKey → Bool)
    : (device.learnKeypad advert accepts).linkCore.Coherent := by
  by_cases unknown : device.keypadInfo.valid = 0
  · rw [learnKeypad_linkCore unknown]
    refine keypadStored_coherent coherent device.keypadPaired (by simp) ?_
    rintro key (rfl | rfl) <;> simp [linkCore, WriteBack.load_save_of_ne]
  · simp only [learnKeypad, unknown, if_false]
    exact coherent

/-- Applying a lock link stores what memory then holds. -/
theorem applyPendingLockLink_coherent {device : Device} (coherent : device.linkCore.Coherent)
    (shared : ∀ pending, device.pendingLock = some pending → isSharedSlot pending.slotId = true)
    (millis : UInt32) (accepts : PrefKey → Bool)
    : (device.applyPendingLockLink millis accepts).1.linkCore.Coherent := by
  cases waiting : device.pendingLock with
  | none =>
      simp only [applyPendingLockLink, waiting]
      exact coherent
  | some pending =>
      obtain ⟨⟨stored, usable, unusable⟩, ⟨keypadInfo, _, _, _⟩⟩ := coherent
      rw [applyPendingLockLink_linkCore waiting]
      refine ⟨⟨?_, usable, unusable⟩, ⟨?_, ?_, ?_, rfl⟩⟩
      · simpa [linkCore, WriteBack.load_save_of_ne] using stored
      · simpa [linkCore, WriteBack.load_save_of_ne] using keypadInfo
      · simp
      · exact PendingLock.lockInfo_current (shared pending waiting)

/-- Adopting an advertised identity stores it. -/
theorem applyPendingKeypadBattery_coherent {device : Device}
    (coherent : device.linkCore.Coherent) (env : ScanEnv)
    : (device.applyPendingKeypadBattery env).1.linkCore.Coherent := by
  unfold applyPendingKeypadBattery
  split
  · exact coherent
  · rename_i advert waiting
    rw [(publishKeypadBattery_aside _ _).linkCore]
    have handed : ({ device with keypadAdvert := none } : Device).linkCore.Coherent := coherent
    exact learnKeypad_coherent handed advert env.accepts

/-- Importing the key in memory makes it the session's, or leaves the session without one. -/
theorem importAesKey_keyCoherent {device : Device}
    (stored : device.preferences.load .sharedKey = some device.bridge.sharedKey)
    (named
      : device.aesKeyHandle ≠ psaKeyIdNull
        → device.bridge.session.aesKey = device.aesKeyHandle)
    (unusable
      : device.aesKeyHandle = psaKeyIdNull
        → device.psaKeys device.bridge.session.aesKey = none)
    (keyImport : KeyImport)
    : (device.importAesKey keyImport).1.linkCore.KeyCoherent := by
  cases keyImport with
  | none =>
      refine ⟨stored, fun held => absurd rfl held, fun _ => ?_⟩
      by_cases held : device.aesKeyHandle = psaKeyIdNull
      · simpa [importAesKey, destroyAesKey, linkCore, held] using unusable held
      · simp [importAesKey, destroyAesKey, linkCore, held, named held]
  | some id =>
      refine ⟨stored, fun _ => ⟨rfl, ?_⟩, fun null => absurd null id.2⟩
      simp [importAesKey, destroyAesKey, linkCore]

/-- Applying a keypad's advertisement touches neither the session nor a pending lock link. -/
theorem applyPendingKeypadBattery_rest (device : Device) (env : ScanEnv)
    : (device.applyPendingKeypadBattery env).1.bridge.session = device.bridge.session
      ∧ (device.applyPendingKeypadBattery env).1.pendingLock = device.pendingLock := by
  have learnt (device : Device) (advert : KeypadAdvert) (accepts : PrefKey → Bool)
      : (device.learnKeypad advert accepts).bridge.session = device.bridge.session
        ∧ (device.learnKeypad advert accepts).pendingLock = device.pendingLock := by
    unfold learnKeypad
    split <;> exact ⟨rfl, rfl⟩
  unfold applyPendingKeypadBattery
  split
  · exact ⟨rfl, rfl⟩
  · dsimp only
    rw [(publishKeypadBattery_aside _ _).session, (publishKeypadBattery_aside _ _).pendingLock]
    exact learnt _ _ _

-----------------------------------------------------------------------------------------
-- Start-up and reset
-----------------------------------------------------------------------------------------

theorem restoreKey_stored (device : Device) (env : BootEnv)
    : (device.restoreKey env).preferences.load .sharedKey
      = some (device.restoreKey env).bridge.sharedKey := by
  unfold restoreKey
  split
  · assumption
  · simp [createSharedKey, saveAndSync, save, sync]

theorem clearLockBattery_aside (device : Device) (keep : Bool)
    : Aside device (if keep = true then (device, []) else device.clearLockBattery).1 := by
  cases keep <;> exact ⟨rfl, rfl, rfl, rfl⟩

/-- What restoring the lock does to the link state. -/
theorem restoreLock_linkCore (device : Device) (env : BootEnv)
    : let stored := (device.preferences.load .linkedLock).getD {}
      let linkedLockInfo := if stored.isLegacy then {} else stored
      (device.restoreLock env).1.linkCore
        = { device.linkCore with
            preferences :=
              if stored.isLegacy then
                (device.preferences.save .linkedLock {}).sync env.acceptsLock
              else device.preferences
            linkedLockInfo
            lockLinked := decide (linkedLockInfo.valid ≠ 0) } := by
  intro stored linkedLockInfo
  simp only [restoreLock, (clearLockBattery_aside _ _).linkCore]
  cases legacy : ((device.preferences.load .linkedLock).getD {}).isLegacy <;>
    simp [stored, linkedLockInfo, legacy, linkCore, saveAndSync, save, sync]

/-- The restored links are what flash then holds. -/
theorem restoreLinks_links (device : Device) (env : BootEnv)
    : (device.restoreLinks env).1.linkCore.LinksCoherent := by
  unfold restoreLinks
  dsimp only
  rw [restoreLock_linkCore]
  have keypadInfo : ((device.restoreKey env).restoreKeypad.1.preferences.load .keypadInfo).getD {}
      = (device.restoreKey env).restoreKeypad.1.keypadInfo := rfl
  generalize (device.restoreKey env).restoreKeypad.1 = device at keypadInfo
  cases legacy : ((device.preferences.load .linkedLock).getD {}).isLegacy with
  | true =>
      refine ⟨?_, ?_, ?_, rfl⟩
      · simpa [linkCore, legacy, WriteBack.load_save_of_ne] using keypadInfo
      · simp
      · simp [LinkedLockInfo.isLegacy]
  | false =>
      refine ⟨?_, ?_, ?_, rfl⟩
      · simpa [linkCore, legacy] using keypadInfo
      · simp
      · simp [legacy]

/-- Restoring touches no key behind a handle, and leaves the loaded key in memory. -/
theorem restoreLinks_keys (device : Device) (env : BootEnv)
    : let restored := (device.restoreLinks env).1.linkCore
      restored.preferences.load .sharedKey = some restored.sharedKey
      ∧ restored.aesKeyHandle = device.aesKeyHandle
      ∧ restored.sessionKey = device.bridge.session.aesKey
      ∧ restored.psaKeys = device.psaKeys := by
  have kept
      : (device.restoreKey env).restoreKeypad.1.aesKeyHandle = device.aesKeyHandle
        ∧ (device.restoreKey env).restoreKeypad.1.bridge.session = device.bridge.session
        ∧ (device.restoreKey env).restoreKeypad.1.psaKeys = device.psaKeys := by
    simp only [restoreKeypad, restoreKey]
    split <;> exact ⟨rfl, rfl, rfl⟩
  have stored
      : (device.restoreKey env).restoreKeypad.1.preferences.load .sharedKey
        = some (device.restoreKey env).restoreKeypad.1.bridge.sharedKey :=
    restoreKey_stored device env
  unfold restoreLinks
  dsimp only
  rw [restoreLock_linkCore]
  generalize (device.restoreKey env).restoreKeypad.1 = restored at kept stored
  refine ⟨?_, kept.1, congrArg LockSession.aesKey kept.2.1, kept.2.2⟩
  dsimp only
  split
  · simpa [linkCore, WriteBack.load_save_of_ne] using stored
  · exact stored

/-- Bringing up imports the key in memory, or leaves the session without one. -/
theorem bringUp_coherent {device : Device} {env : BootEnv}
    (links : device.linkCore.LinksCoherent)
    (stored : device.preferences.load .sharedKey = some device.bridge.sharedKey)
    (noHandle : device.aesKeyHandle = psaKeyIdNull)
    (noKey : device.psaKeys device.bridge.session.aesKey = none)
    : (device.bringUp env).linkCore.Coherent := by
  have key := importAesKey_keyCoherent stored (absurd noHandle) (fun _ => noKey) env.keyImport
  have importedLinks : (device.importAesKey env.keyImport).1.linkCore.LinksCoherent := by
    unfold importAesKey
    split <;> exact ⟨links.keypadInfo, links.lockInfo, links.current, links.linked⟩
  unfold bringUp
  split
  · exact ⟨⟨stored, fun held => absurd noHandle held, fun _ => noKey⟩, links⟩
  · dsimp only
    split
    · exact ⟨key, importedLinks⟩
    · split <;> exact ⟨key, importedLinks⟩

/-- What start-up leaves as it finds it. -/
structure StartKeeps (before after : Device) : Prop where
  contexts : after.bridge.session.contexts = before.bridge.session.contexts
  lockState : after.bridge.lockState = before.bridge.lockState
  lockRelayBusy : after.bridge.lockRelayBusy = before.bridge.lockRelayBusy
  batteryScan : after.bridge.batteryScan = before.bridge.batteryScan
  keypadAdvert : after.keypadAdvert = before.keypadAdvert
  lockAdvert : after.lockAdvert = before.lockAdvert
  pendingPairing : after.pendingPairing = before.pendingPairing
  pendingLock : after.pendingLock = before.pendingLock

theorem StartKeeps.trans {first second third : Device} (hl : StartKeeps first second)
    (hr : StartKeeps second third)
    : StartKeeps first third where
  contexts := hr.contexts.trans hl.contexts
  lockState := hr.lockState.trans hl.lockState
  lockRelayBusy := hr.lockRelayBusy.trans hl.lockRelayBusy
  batteryScan := hr.batteryScan.trans hl.batteryScan
  keypadAdvert := hr.keypadAdvert.trans hl.keypadAdvert
  lockAdvert := hr.lockAdvert.trans hl.lockAdvert
  pendingPairing := hr.pendingPairing.trans hl.pendingPairing
  pendingLock := hr.pendingLock.trans hl.pendingLock

theorem restoreKey_keeps (device : Device) (env : BootEnv)
    : StartKeeps device (device.restoreKey env) := by
  unfold restoreKey
  split <;> exact ⟨rfl, rfl, rfl, rfl, rfl, rfl, rfl, rfl⟩

theorem restoreKeypad_keeps (device : Device) : StartKeeps device device.restoreKeypad.1 :=
  ⟨rfl, rfl, rfl, rfl, rfl, rfl, rfl, rfl⟩

theorem restoreLock_keeps (device : Device) (env : BootEnv)
    : StartKeeps device (device.restoreLock env).1 := by
  unfold restoreLock
  dsimp only
  split <;> split <;> exact ⟨rfl, rfl, rfl, rfl, rfl, rfl, rfl, rfl⟩

theorem bringUp_keeps (device : Device) (env : BootEnv)
    : StartKeeps device (device.bringUp env) := by
  have imported : StartKeeps device (device.importAesKey env.keyImport).1 := by
    unfold importAesKey
    split <;> exact ⟨rfl, rfl, rfl, rfl, rfl, rfl, rfl, rfl⟩
  unfold bringUp
  split
  · exact ⟨rfl, rfl, rfl, rfl, rfl, rfl, rfl, rfl⟩
  · dsimp only
    generalize (device.importAesKey env.keyImport).1 = keyed at imported
    split
    · exact imported.trans ⟨rfl, rfl, rfl, rfl, rfl, rfl, rfl, rfl⟩
    · split <;> exact imported.trans ⟨rfl, rfl, rfl, rfl, rfl, rfl, rfl, rfl⟩

/-- What memory holds at power-on and `setup` leaves alone. -/
theorem setup_keeps (config : DeviceConfig) (preferences : Preferences) (env : BootEnv)
    : StartKeeps (powerOn config preferences) (setup config preferences env).1 := by
  have keyed := (powerOn config preferences).restoreKey_keeps env
  have keypad := keyed.trans (restoreKeypad_keeps _)
  simp only [setup, restoreLinks]
  exact (keypad.trans (restoreLock_keeps _ env)).trans (bringUp_keeps _ env)

/-- After a start the copies agree, whatever flash held. -/
theorem setup_coherent (config : DeviceConfig) (preferences : Preferences) (env : BootEnv)
    : (setup config preferences env).1.linkCore.Coherent := by
  obtain ⟨stored, handle, session, keys⟩ :=
    restoreLinks_keys (powerOn config preferences) env
  have links := restoreLinks_links (powerOn config preferences) env
  have noKey : (powerOn config preferences).psaKeys psaKeyIdNull = none := rfl
  simp only [setup]
  generalize ((powerOn config preferences).restoreLinks env).1 = device at *
  refine bringUp_coherent links stored handle ?_
  exact (congrFun keys _).trans ((congrArg _ session).trans noKey)

/-- What is left in flash once the links are forgotten. -/
def forgottenPreferences (preferences : Preferences) (env : ResetEnv) : Preferences :=
  (((preferences.save .keypadName (Vector.replicate 48 0)).save .keypadInfo {}).save
    .linkedLock {}).sync env.acceptsLinks

/-- What forgetting the links does to the link state. -/
theorem forgetLinks_linkCore (device : Device) (env : ResetEnv)
    : (device.forgetLinks env).1.linkCore
      = { device.linkCore with
          keypadPaired := false
          keypadInfo := {}
          lockLinked := false
          linkedLockInfo := {}
          preferences := forgottenPreferences device.preferences env } := rfl

/-- A new key in memory is in flash as well. -/
theorem createSharedKey_stored (device : Device) (random : AesKey) (accepts : PrefKey → Bool)
    : (device.createSharedKey random accepts).preferences.load .sharedKey = some random := by
  simp [createSharedKey, saveAndSync, save, sync]

/-- The key rotation that a reset begins with. -/
def rotated (device : Device) (env : ResetEnv) : Device :=
  ((device.createSharedKey env.randomKey env.acceptsKey).importAesKey env.keyImport).1

/-- A reset whose import fails stops at the rotated key. -/
theorem resetPairing_aborted {device : Device} {env : ResetEnv}
    (failed : env.keyImport = none)
    : device.resetPairing env = (device.rotated env, []) := by
  simp [resetPairing, rotated, importAesKey, failed]

/-- A reset whose import succeeds forgets the links. -/
theorem resetPairing_completed {device : Device} {env : ResetEnv}
    (imported : env.keyImport ≠ none)
    : device.resetPairing env = (device.rotated env).forgetLinks env := by
  obtain ⟨id, imported⟩ := Option.ne_none_iff_exists'.mp imported
  simp [resetPairing, rotated, importAesKey, imported]

/-- The rotation leaves the copies in agreement, whether or not the import succeeds. -/
theorem rotated_coherent {device : Device} (coherent : device.linkCore.Coherent)
    (env : ResetEnv)
    : (device.rotated env).linkCore.Coherent := by
  obtain ⟨⟨_, usable, unusable⟩, ⟨keypadInfo, lockInfo, current, linked⟩⟩ := coherent
  have created := createSharedKey_stored device env.randomKey env.acceptsKey
  refine ⟨importAesKey_keyCoherent created (fun held => (usable held).1) unusable _, ?_⟩
  have links : (device.createSharedKey env.randomKey env.acceptsKey).linkCore.LinksCoherent := by
    refine ⟨?_, ?_, current, linked⟩
    · simpa [linkCore, createSharedKey, saveAndSync, save, sync, WriteBack.load_save_of_ne]
        using keypadInfo
    · simpa [linkCore, createSharedKey, saveAndSync, save, sync, WriteBack.load_save_of_ne]
        using lockInfo
  unfold rotated importAesKey
  split <;> exact ⟨links.keypadInfo, links.lockInfo, links.current, links.linked⟩

/-- Forgetting the links leaves the copies in agreement. -/
theorem forgetLinks_coherent {device : Device} (key : device.linkCore.KeyCoherent)
    (env : ResetEnv)
    : (device.forgetLinks env).1.linkCore.Coherent := by
  rw [forgetLinks_linkCore]
  refine ⟨⟨?_, key.usable, key.unusable⟩, ⟨?_, ?_, rfl, rfl⟩⟩
  · simpa [forgottenPreferences, linkCore, WriteBack.load_save_of_ne] using key.stored
  · simp [forgottenPreferences, WriteBack.load_save_of_ne]
  · simp [forgottenPreferences]

/-- A reset leaves the copies in agreement, whether or not it goes through. -/
theorem resetPairing_coherent {device : Device} (coherent : device.linkCore.Coherent)
    (env : ResetEnv)
    : (device.resetPairing env).1.linkCore.Coherent := by
  by_cases failed : env.keyImport = none
  · rw [resetPairing_aborted failed]
    exact rotated_coherent coherent env
  · rw [resetPairing_completed failed]
    exact forgetLinks_coherent (rotated_coherent coherent env).key env

end Device

-----------------------------------------------------------------------------------------
-- Every run
-----------------------------------------------------------------------------------------

/-- What the links rest on, for the component alone. -/
structure Device.LinkInvariant (device : Device) : Prop where
  session : device.bridge.session.contexts.WellFormed
  core : device.linkCore.Coherent
  pendingSlot
    : ∀ pending, device.pendingLock = some pending → isSharedSlot pending.slotId = true

theorem isSharedSlot_sharedSlotForFamily (family : KeypadFamily)
    : isSharedSlot (sharedSlotForFamily family) = true := by
  unfold sharedSlotForFamily
  split <;> rfl

namespace Device

theorem LinkInvariant.aside {before after : Device} (invariant : before.LinkInvariant)
    (aside : Aside before after)
    : after.LinkInvariant := by
  obtain ⟨core, session, _, pendingLock⟩ := aside
  exact ⟨session ▸ invariant.session, core ▸ invariant.core,
    pendingLock ▸ invariant.pendingSlot⟩

/-- A call of `loop()` keeps the copies in agreement. -/
theorem LinkInvariant.performLoop {device : Device} (invariant : device.LinkInvariant)
    (keystream : Keystream) (op : LoopOp)
    : (device.performLoop keystream op).1.LinkInvariant := by
  obtain ⟨session, core, pendingSlot⟩ := invariant
  cases op with
  | paired => exact ⟨session, core, pendingSlot⟩
  | lockLinked name mac model family =>
      refine ⟨session, core, ?_⟩
      intro pending same
      obtain rfl := Option.some.inj same
      exact isSharedSlot_sharedSlotForFamily family
  | applyPairing millis accepts =>
      refine ⟨?_, applyPendingPairing_coherent core millis accepts, ?_⟩ <;>
        simp only [Device.performLoop, applyPendingPairing] <;> split <;> assumption
  | applyLockLink millis accepts =>
      refine ⟨?_, applyPendingLockLink_coherent core pendingSlot millis accepts, ?_⟩ <;>
        simp only [Device.performLoop, applyPendingLockLink] <;> split
      · exact session
      · exact session
      · exact pendingSlot
      · simp [storeLinked, clearLockBattery, saveAndSync, save, sync]
  | drained event env =>
      have drained := device.bridge.drainEvent_session keystream (device.rxEnv env) session event
      exact ⟨drained.2, device.drainEvent_linkCore keystream session event env ▸ core, pendingSlot⟩
  | keypadBattery env =>
      have core := applyPendingKeypadBattery_coherent core env
      obtain ⟨sameSession, samePending⟩ := device.applyPendingKeypadBattery_rest env
      exact ⟨sameSession ▸ session, core, samePending ▸ pendingSlot⟩
  | lockBattery =>
      exact LinkInvariant.aside ⟨session, core, pendingSlot⟩ device.applyPendingLockBattery_aside
  | finishScan env =>
      exact LinkInvariant.aside ⟨session, core, pendingSlot⟩
        (device.maybeFinishBatteryScan_aside env)
  | startScan env =>
      exact LinkInvariant.aside ⟨session, core, pendingSlot⟩
        (device.maybeStartBatteryScan_aside env)

/-- A reset keeps what the links rest on. -/
theorem LinkInvariant.resetPairing {device : Device} (invariant : device.LinkInvariant)
    (env : ResetEnv)
    : (device.resetPairing env).1.LinkInvariant := by
  obtain ⟨session, core, pendingSlot⟩ := invariant
  have contexts
      : (device.rotated env).bridge.session.contexts = device.bridge.session.contexts := by
    unfold rotated importAesKey
    split <;> rfl
  have pending : (device.rotated env).pendingLock = device.pendingLock := by
    unfold rotated importAesKey
    split <;> rfl
  refine ⟨?_, resetPairing_coherent core env, ?_⟩ <;> by_cases failed : env.keyImport = none
  · rw [resetPairing_aborted failed, contexts]
    exact session
  · rw [resetPairing_completed failed]
    exact .blank 0
  · rw [resetPairing_aborted failed, pending]
    exact pendingSlot
  · rw [resetPairing_completed failed]
    exact pending ▸ pendingSlot

/-- What the links rest on holds after a start. -/
theorem setup_linkInvariant (config : DeviceConfig) (preferences : Preferences) (env : BootEnv)
    : (setup config preferences env).1.LinkInvariant := by
  have kept := setup_keeps config preferences env
  refine ⟨?_, setup_coherent config preferences env, ?_⟩
  · rw [kept.contexts]
    exact .blank 0
  · intro waiting same
    rw [kept.pendingLock] at same
    cases same

end Device

/-- Every operation keeps what the links rest on. -/
theorem Station.perform_linkInvariant {station : Station}
    (invariant : station.device.LinkInvariant) (keystream : Keystream) (op : StationOp)
    : (station.perform keystream op).1.device.LinkInvariant := by
  cases op with
  | loop op =>
      simp only [perform]
      split
      · exact invariant.performLoop keystream op
      · exact invariant
  | wizard ui => exact invariant.aside ⟨rfl, rfl, rfl, rfl⟩
  | relayDone => exact invariant.aside ⟨rfl, rfl, rfl, rfl⟩
  | advert adv =>
      simp only [perform]
      split <;> exact invariant
  | scanCallback => exact invariant.aside (station.device.stepScanCallback_aside _)
  | reset env => exact invariant.resetPairing env
  | reboot env => exact Device.setup_linkInvariant _ _ env

/-- The copies agree after every run, whatever flash held at the first start. -/
theorem Station.after_linkInvariant (keystream : Keystream) (config : DeviceConfig)
    (preferences : Preferences) (env : BootEnv) (ops : List StationOp)
    : (Station.after keystream config preferences env ops).device.LinkInvariant :=
  (stationMachine keystream).run_invariant (fun station => station.device.LinkInvariant)
    (Device.setup_linkInvariant config preferences env)
    (fun _ op invariant => Station.perform_linkInvariant invariant keystream op) ops

end KeypadBridge
