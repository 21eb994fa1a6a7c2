import KeypadBridge.Bridge.Reset

/-! What a restart restores. The links come back from the records that were stored when they
were made. The keypad's link is told from its stored name alone, so that a keypad linked
under an empty name does not come back.
-/

namespace KeypadBridge
open KeypadBridge.Foundation

-----------------------------------------------------------------------------------------
-- What setup restores
-----------------------------------------------------------------------------------------

/-- The stored keypad name is not empty. -/
def hasKeypadName (preferences : Preferences) : Bool :=
  ((preferences.load .keypadName).getD (Vector.replicate 48 0)).toList.getD 0 0 ≠ 0

/-- Flash takes every record that a start writes. -/
def BootEnv.Commits (env : BootEnv) : Prop :=
  WriteBack.AcceptsAll env.acceptsKey ∧ WriteBack.AcceptsAll env.acceptsLock

/-- The link state that `setup` makes of the preferences it finds. -/
structure Restored (preferences : Preferences) (env : BootEnv) (core : LinkCore) : Prop where
  sharedKey : core.sharedKey = (preferences.load .sharedKey).getD env.randomKey
  keypadPaired : core.keypadPaired = hasKeypadName preferences
  keypadInfo : core.keypadInfo = (preferences.load .keypadInfo).getD {}
  linkedLockInfo
    : let stored := (preferences.load .linkedLock).getD {}
      core.linkedLockInfo = if stored.isLegacy then {} else stored
  lockLinked : core.lockLinked = decide (core.linkedLockInfo.valid ≠ 0)
  name : core.preferences.load .keypadName = preferences.load .keypadName
  clean : env.Commits → preferences.Clean → core.preferences.Clean

namespace Device

/-- Bringing up leaves the restored links as they are. -/
theorem bringUp_restored {preferences : Preferences} {env : BootEnv} {device : Device}
    (restored : Restored preferences env device.linkCore)
    : Restored preferences env (device.bringUp env).linkCore := by
  have imported : Restored preferences env (device.importAesKey env.keyImport).1.linkCore := by
    obtain ⟨sharedKey, paired, info, lock, linked, name, clean⟩ := restored
    unfold importAesKey
    split <;> exact ⟨sharedKey, paired, info, lock, linked, name, clean⟩
  unfold bringUp
  split
  · exact restored
  · dsimp only
    split
    · exact imported
    · split <;> exact imported

/-- Loading the shared key leaves the other records as they are. -/
theorem restoreKey_load (device : Device) (env : BootEnv) {key : PrefKey}
    (other : key ≠ .sharedKey)
    : (device.restoreKey env).preferences.load key = device.preferences.load key := by
  unfold restoreKey
  split
  · rfl
  · simp [createSharedKey, saveAndSync, save, sync, WriteBack.load_save_of_ne, other]

theorem restoreKey_key (device : Device) (env : BootEnv)
    : (device.restoreKey env).bridge.sharedKey
      = (device.preferences.load .sharedKey).getD env.randomKey := by
  unfold restoreKey
  split
  · rename_i found
    simp [found]
  · rename_i missing
    rw [missing]
    rfl

theorem restoreKey_clean {device : Device} {env : BootEnv} (commits : env.Commits)
    (clean : device.preferences.Clean)
    : (device.restoreKey env).preferences.Clean := by
  unfold restoreKey
  split
  · exact clean
  · exact WriteBack.clean_sync commits.1

/-- What a start restores from the flash it finds. -/
theorem setup_restored (config : DeviceConfig) (preferences : Preferences) (env : BootEnv)
    : Restored preferences.restarted env (setup config preferences env).1.linkCore := by
  suffices restored
      : Restored preferences.restarted env
          ((powerOn config preferences).restoreLinks env).1.linkCore by
    exact bringUp_restored restored
  have flash : (powerOn config preferences).preferences = preferences.restarted := rfl
  have key := restoreKey_key (powerOn config preferences) env
  have other (key : PrefKey) (apart : key ≠ .sharedKey)
      : ((powerOn config preferences).restoreKey env).preferences.load key
        = preferences.restarted.load key :=
    restoreKey_load _ env apart
  have clean := @restoreKey_clean (powerOn config preferences) env
  rw [flash] at key clean
  unfold restoreLinks
  dsimp only
  rw [restoreLock_linkCore]
  generalize (powerOn config preferences).restoreKey env = device at key other clean
  have load (key : PrefKey)
      : device.restoreKeypad.1.preferences.load key = device.preferences.load key := rfl
  refine {
    sharedKey := key
    keypadPaired := ?_
    keypadInfo := ?_
    linkedLockInfo := ?_
    lockLinked := rfl
    name := ?_
    clean := ?_
  }
  · simp only [hasKeypadName, ← other .keypadName (by decide)]
    rfl
  · simp only [← other .keypadInfo (by decide)]
    rfl
  · simp only [← other .linkedLock (by decide), load]
  · dsimp only
    split
    · simpa [WriteBack.load_save_of_ne, load] using other .keypadName (by decide)
    · exact other .keypadName (by decide)
  · intro commits stored
    dsimp only
    split
    · exact WriteBack.clean_sync commits.2
    · exact clean commits stored

end Device

-----------------------------------------------------------------------------------------
-- The keypad's name along a run
-----------------------------------------------------------------------------------------

/-- Flash takes every record that an operation writes. -/
def StationOp.Commits : StationOp → Prop
  | .loop (.applyPairing _ accepts) | .loop (.applyLockLink _ accepts) =>
      WriteBack.AcceptsAll accepts
  | .loop (.keypadBattery env) => WriteBack.AcceptsAll env.accepts
  | .reset env => WriteBack.AcceptsAll env.acceptsKey ∧ WriteBack.AcceptsAll env.acceptsLinks
  | .reboot env => env.Commits
  | _ => True

/-- The pairing that stands after a milestone. -/
def Milestone.pairing (last : Option PendingPairing) : Option Milestone → Option PendingPairing
  | some (.pairingApplied pending) => some pending
  | some .linksReset | some .booted => none
  | _ => last

/-- The last pairing applied since the last start or completed reset. -/
def lastPairing (steps : List StationStep) : Option PendingPairing :=
  steps.foldl (fun last step => Milestone.pairing last step.milestone) none

@[simp] theorem lastPairing_snoc (steps : List StationStep) (step : StationStep)
    : lastPairing (steps ++ [step]) = Milestone.pairing (lastPairing steps) step.milestone :=
  List.foldl_append ..

/-- How the keypad's link and its stored name hang together: a pairing links the keypad and
stores its name, whatever that is, and without one the stored name alone decides.
-/
structure NamedAfter (last : Option PendingPairing) (core : LinkCore) : Prop where
  clean : core.preferences.Clean
  unpaired : last = none → core.keypadPaired = hasKeypadName core.preferences
  paired
    : ∀ pending,
        last = some pending
        → core.keypadPaired = true
          ∧ core.preferences.load .keypadName = some (NameBuffer.copy pending.name)

/-- A change of other records leaves the keypad's link and name as they were. -/
theorem NamedAfter.other {last : Option PendingPairing} {before after : LinkCore}
    (named : NamedAfter last before) (paired : after.keypadPaired = before.keypadPaired)
    (name : after.preferences.load .keypadName = before.preferences.load .keypadName)
    (clean : after.preferences.Clean)
    : NamedAfter last after := by
  refine ⟨clean, ?_, ?_⟩
  · simpa only [paired, hasKeypadName, name] using named.unpaired
  · simpa only [paired, name] using named.paired

namespace Device

/-- Adopting an advertised identity leaves the keypad's link and name as they were. -/
theorem learnKeypad_named {device : Device} {last : Option PendingPairing}
    (named : NamedAfter last device.linkCore) (advert : KeypadAdvert)
    {accepts : PrefKey → Bool} (commits : WriteBack.AcceptsAll accepts)
    : NamedAfter last (device.learnKeypad advert accepts).linkCore := by
  unfold learnKeypad
  split
  · refine named.other rfl ?_ (WriteBack.clean_sync commits)
    simp [linkCore, saveAndSync, save, sync, WriteBack.load_save_of_ne]
  · exact named

/-- A call of `loop()` keeps link and name together. -/
theorem performLoop_named {device : Device} {last : Option PendingPairing}
    (named : NamedAfter last device.linkCore) (keystream : Keystream)
    (wf : device.bridge.session.contexts.WellFormed) (op : LoopOp)
    (commits : (StationOp.loop op).Commits)
    : NamedAfter (Milestone.pairing last (device.performLoop keystream op).2.milestone)
        (device.performLoop keystream op).1.linkCore := by
  have aside {after : Device} (aside : Aside device after) : NamedAfter last after.linkCore :=
    aside.linkCore ▸ named
  cases op with
  | paired => exact named
  | lockLinked => exact named
  | applyPairing millis accepts =>
      simp only [performLoop, applyPendingPairing]
      split
      · rename_i waiting
        simpa [waiting, Milestone.pairing] using named
      · rename_i pending waiting
        simp only [waiting, Option.map_some, Milestone.pairing]
        refine ⟨WriteBack.clean_sync commits, by simp, ?_⟩
        intro other same
        obtain rfl := Option.some.inj same
        exact ⟨rfl, by simp [linkCore, storePaired, storeFamily, saveAndSync, save, sync,
          WriteBack.load_save_of_ne]⟩
  | applyLockLink millis accepts =>
      simp only [performLoop, applyPendingLockLink]
      split
      · rename_i waiting
        simpa [waiting, Milestone.pairing] using named
      · rename_i pending waiting
        simp only [waiting, Option.map_some, Milestone.pairing]
        refine named.other rfl ?_ (WriteBack.clean_sync commits)
        simp [linkCore, storeLinked, saveAndSync, save, sync, clearLockBattery,
          WriteBack.load_save_of_ne]
  | drained event env =>
      exact (device.drainEvent_linkCore keystream wf event env).symm ▸ named
  | keypadBattery env =>
      simp only [performLoop, Milestone.pairing, applyPendingKeypadBattery]
      split
      · exact named
      · rw [(publishKeypadBattery_aside _ _).linkCore]
        have handed
            : NamedAfter last ({ device with keypadAdvert := none } : Device).linkCore := named
        exact learnKeypad_named handed _ commits
  | lockBattery => exact aside device.applyPendingLockBattery_aside
  | finishScan env => exact aside (device.maybeFinishBatteryScan_aside env)
  | startScan env => exact aside (device.maybeStartBatteryScan_aside env)

/-- A reset keeps link and name together. -/
theorem resetPairing_named {device : Device} {last : Option PendingPairing}
    (named : NamedAfter last device.linkCore) {env : ResetEnv}
    (commits : (StationOp.reset env).Commits)
    : NamedAfter
        (Milestone.pairing last
          (some (if env.keyImport.isSome then .linksReset else .resetAborted)))
        (device.resetPairing env).1.linkCore := by
  have rotated : NamedAfter last (device.rotated env).linkCore := by
    have created
        : NamedAfter last (device.createSharedKey env.randomKey env.acceptsKey).linkCore := by
      refine named.other rfl ?_ (WriteBack.clean_sync commits.1)
      simp [linkCore, createSharedKey, saveAndSync, save, sync, WriteBack.load_save_of_ne]
    unfold Device.rotated importAesKey
    split <;> exact created.other rfl rfl created.clean
  by_cases failed : env.keyImport = none
  · rw [resetPairing_aborted failed]
    simpa [failed, Milestone.pairing] using rotated
  · rw [resetPairing_completed failed, forgetLinks_linkCore]
    simp only [Option.isSome_iff_ne_none.mpr failed, if_true, Milestone.pairing]
    refine ⟨WriteBack.clean_sync commits.2, fun _ => ?_, by simp⟩
    simp [hasKeypadName, forgottenPreferences, WriteBack.load_save_of_ne]

end Device

/-- What a run keeps, next to its history. -/
structure Restorable (steps : List StationStep) (station : Station) : Prop where
  links : station.device.LinkInvariant
  named : NamedAfter (lastPairing steps) station.device.linkCore

/-- A start leaves link and name together. -/
theorem Restored.named {preferences : Preferences} {env : BootEnv} {core : LinkCore}
    (restored : Restored preferences env core) (commits : env.Commits)
    (clean : preferences.Clean)
    : NamedAfter none core := by
  refine ⟨restored.clean commits clean, fun _ => ?_, by simp⟩
  simpa only [hasKeypadName, restored.name] using restored.keypadPaired

theorem Station.booted_restorable (config : DeviceConfig) (preferences : Preferences)
    {env : BootEnv} (commits : env.Commits)
    : Restorable [] (booted config preferences env) where
  links := Device.setup_linkInvariant config preferences env
  named :=
    (Device.setup_restored config preferences env).named commits
      (WriteBack.clean_restarted preferences)

/-- Every operation that flash goes along with keeps link and name together. -/
theorem Restorable.perform {steps : List StationStep} {station : Station}
    (restorable : Restorable steps station) (keystream : Keystream) (op : StationOp)
    (commits : op.Commits)
    : Restorable (steps ++ [(station.perform keystream op).2])
        (station.perform keystream op).1 := by
  refine ⟨Station.perform_linkInvariant restorable.links keystream op, ?_⟩
  rw [lastPairing_snoc]
  obtain ⟨⟨session, core, _⟩, named⟩ := restorable
  cases op with
  | loop op =>
      simp only [Station.perform]
      split
      · exact Device.performLoop_named named keystream session op commits
      · exact named
  | wizard ui => exact named
  | relayDone => exact named
  | advert adv =>
      simp only [Station.perform]
      split <;> exact named
  | scanCallback =>
      exact (station.device.stepScanCallback_aside station.scanCallback).linkCore.symm ▸ named
  | reset env => exact Device.resetPairing_named named commits
  | reboot env =>
      exact (Device.setup_restored _ _ env).named commits (WriteBack.clean_restarted _)

theorem Station.after_restorable (keystream : Keystream) (config : DeviceConfig)
    (preferences : Preferences) {env : BootEnv} (bootCommits : env.Commits)
    {ops : List StationOp} (commits : ∀ op ∈ ops, op.Commits)
    : let booted := booted config preferences env
      Restorable ((stationMachine keystream).history booted ops)
        ((stationMachine keystream).run booted ops) :=
  (stationMachine keystream).history_invariant_of Restorable StationOp.Commits
    (booted_restorable config preferences bootCommits)
    (fun _ _ op commits restorable => restorable.perform keystream op commits) ops commits

-----------------------------------------------------------------------------------------
-- A restart
-----------------------------------------------------------------------------------------

/-- The links and the key are the same on both sides of a restart. -/
structure SameLinksAs (before after : Device) : Prop where
  keypadPaired : after.keypadPaired = before.keypadPaired
  keypadInfo : after.keypadInfo = before.keypadInfo
  lockLinked : after.bridge.lockLinked = before.bridge.lockLinked
  linkedLockInfo : after.bridge.linkedLockInfo = before.bridge.linkedLockInfo
  sharedKey : after.bridge.sharedKey = before.bridge.sharedKey

/-- The stored copy of a name is empty exactly when the name is, or starts with a NUL. -/
theorem NameBuffer.copy_first (name : Bytes)
    : (NameBuffer.copy name).toList.getD 0 0 = name.getD 0 0 := by
  simp [NameBuffer.copy, keypadNameMax]

/-- The keypad's link comes back exactly when it was not made under an empty name. -/
theorem NamedAfter.hasKeypadName_iff {last : Option PendingPairing} {core : LinkCore}
    (named : NamedAfter last core)
    : hasKeypadName core.preferences = core.keypadPaired
      ↔ ∀ pending, last = some pending → pending.name.getD 0 0 ≠ 0 := by
  cases last with
  | none => simp [named.unpaired rfl]
  | some pending =>
      obtain ⟨paired, name⟩ := named.paired pending rfl
      have stored : hasKeypadName core.preferences = decide (pending.name.getD 0 0 ≠ 0) := by
        rw [← NameBuffer.copy_first, hasKeypadName, name, Option.getD_some]
      rw [stored, paired, decide_eq_true_iff]
      constructor
      · rintro named other ⟨⟩
        exact named
      · intro named
        exact named pending rfl

/-- A restart restores everything but a keypad's link under an empty name. -/
theorem Device.reboot_sameLinks_iff {device : Device} {last : Option PendingPairing}
    (links : device.LinkInvariant) (named : NamedAfter last device.linkCore) (env : BootEnv)
    : SameLinksAs device (device.reboot env).1
      ↔ ∀ pending, last = some pending → pending.name.getD 0 0 ≠ 0 := by
  have restored := Device.setup_restored device.config device.preferences env
  have load (key : PrefKey)
      : device.preferences.restarted.load key = device.linkCore.preferences.load key :=
    named.clean.load_restarted key
  obtain ⟨key, keypad, info, lock, linked, _, _⟩ := restored
  obtain ⟨stored, _, _⟩ := links.core.key
  obtain ⟨keypadInfo, lockInfo, current, lockLinked⟩ := links.core.links
  rw [load, stored] at key
  rw [load, keypadInfo] at info
  simp only [load, lockInfo, current, Bool.false_eq_true, if_false] at lock
  rw [lock, ← lockLinked] at linked
  simp only [hasKeypadName, load] at keypad
  rw [← named.hasKeypadName_iff]
  constructor
  · intro same
    exact keypad.symm.trans same.keypadPaired
  · intro same
    exact ⟨keypad.trans same, info, linked, lock, key⟩

/-- Along every run of which flash takes all records, a restart brings back the links and the
key exactly when the pairing that stands, if one was applied since the last start or reset,
was made under a name that is not empty.
-/
theorem reboot_restores_links_iff (keystream : Keystream) (config : DeviceConfig)
    (preferences : Preferences) (boot : BootEnv) (bootCommits : boot.Commits)
    (ops : List StationOp) (commits : ∀ op ∈ ops, op.Commits) (env : BootEnv)
    : let before := (Station.after keystream config preferences boot ops).device
      let steps := (stationMachine keystream).history (.booted config preferences boot) ops
      SameLinksAs before (before.reboot env).1
      ↔ ∀ pending, lastPairing steps = some pending → pending.name.getD 0 0 ≠ 0 := by
  intro before steps
  have restorable := Station.after_restorable keystream config preferences bootCommits commits
  exact Device.reboot_sameLinks_iff restorable.links restorable.named env

/-- A pairing of a keypad under the given name, up to its apply. -/
def pairedAs (name : Bytes) : List StationOp :=
  [.loop (.paired name ("A1:B2:C3:D4:E5:F6".toList.map fun char => .ofNat char.toNat) .vision),
    .loop (.applyPairing 0 fun _ => true)]

theorem reboot_restores_named_keypad
    : let before := (Station.after clearStream {} {} firstBoot (pairedAs [0x4b])).device
      let steps := (stationMachine clearStream).history (.booted {} {} firstBoot)
        (pairedAs [0x4b])
      SameLinksAs before (before.reboot firstBoot).1
      ↔ ∀ pending, lastPairing steps = some pending → pending.name.getD 0 0 ≠ 0 :=
  reboot_restores_links_iff clearStream {} {} firstBoot
    ⟨fun _ => rfl, fun _ => rfl⟩ (pairedAs [0x4b])
    (by simp [pairedAs, StationOp.Commits, WriteBack.AcceptsAll])
    firstBoot

/-- A keypad paired under an empty name is forgotten by the next start. -/
theorem reboot_forgets_unnamed_keypad
    : ¬ ∀ (keystream : Keystream) (config : DeviceConfig) (preferences : Preferences)
        (boot : BootEnv) (ops : List StationOp) (env : BootEnv),
          boot.Commits
          → (∀ op ∈ ops, op.Commits)
          → let before := (Station.after keystream config preferences boot ops).device
            before.pendingPairing = none
            → before.pendingLock = none
            → SameLinksAs before (before.reboot env).1 := by
  intro always
  have same : SameLinksAs _ _ :=
    always clearStream {} {} firstBoot (pairedAs []) firstBoot
      ⟨fun _ => rfl, fun _ => rfl⟩
      (by simp [pairedAs, StationOp.Commits, WriteBack.AcceptsAll])
      (by decide +kernel) (by decide +kernel)
  exact absurd same.keypadPaired (by decide +kernel)

end KeypadBridge
