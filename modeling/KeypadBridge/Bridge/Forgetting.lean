import KeypadBridge.Bridge.Reboot
import KeypadBridge.Bridge.Scanning

/-! Whether a reset stays a reset. Behind it no scan window opens until something is linked, so
that the keypad and the levels can only come back from what the scan had parked before, or
from a scan callback that was past the checks of the window.
-/

namespace KeypadBridge
open KeypadBridge.Foundation

-----------------------------------------------------------------------------------------
-- Forgotten
-----------------------------------------------------------------------------------------

/-- No link is left in the records. -/
structure ForgottenRecords (preferences : Preferences) : Prop where
  name : hasKeypadName preferences = false
  keypad : ((preferences.load .keypadInfo).getD {}).valid = 0
  lock : ((preferences.load .linkedLock).getD {}).valid = 0

/-- The callback goes on to park an advertisement even though its window has been closed. -/
def ScanCallback.ParksLate (device : Device) : ScanCallback → Prop
  | .keypadWanted adv | .keypadMissing adv => (device.matchKeypad adv false).isSome
  | .keypadSought adv known => (device.matchKeypad adv known).isSome
  | .keypadParsed _ _ | .lockParsed _ => True
  | _ => False

/-- Nothing is linked, known, sought or parked. `committed` says that flash has taken what the
reset wrote, so that a restart finds nothing either.
-/
structure ScanState.Forgotten (committed : Prop) (state : ScanState) : Prop where
  keypadPaired : state.keypadPaired = false
  keypadInfo : state.keypadInfo.valid = 0
  lockLinked : state.lockLinked = false
  shut : state.scan = {}
  keypadAdvert : state.keypadAdvert = none
  lockAdvert : state.lockAdvert = none
  records : ForgottenRecords state.preferences
  medium : committed → ForgottenRecords state.preferences.restarted

structure Station.Forgotten (committed : Prop) (station : Station) : Prop where
  state : station.device.scanState.Forgotten committed
  callback : ¬ station.scanCallback.ParksLate station.device

/-- What the callback parks depends on the targets of its window only. -/
theorem ScanCallback.parksLate_congr {before after : Device}
    (same : after.scanTargets = before.scanTargets) (callback : ScanCallback)
    : callback.ParksLate after ↔ callback.ParksLate before := by
  cases callback <;> simp [ParksLate, Device.matchKeypad, same]

-----------------------------------------------------------------------------------------
-- The records
-----------------------------------------------------------------------------------------

/-- Each record of two empty stores is empty, and so is every mix of both. -/
theorem ForgottenRecords.mixed {first second after : Preferences}
    (hl : ForgottenRecords first) (hr : ForgottenRecords second)
    (mixed
      : ∀ key,
          key ≠ .sharedKey
          → after.load key = first.load key ∨ after.load key = second.load key)
    : ForgottenRecords after := by
  refine ⟨?_, ?_, ?_⟩
  · rcases mixed .keypadName (by decide) with same | same
    · simpa only [hasKeypadName, same] using hl.name
    · simpa only [hasKeypadName, same] using hr.name
  · rcases mixed .keypadInfo (by decide) with same | same
    · simpa only [same] using hl.keypad
    · simpa only [same] using hr.keypad
  · rcases mixed .linkedLock (by decide) with same | same
    · simpa only [same] using hl.lock
    · simpa only [same] using hr.lock

/-- What a restart finds after a synchronisation is empty if the store was, before and after
its last changes.
-/
theorem ForgottenRecords.synced {store : Preferences} (loaded : ForgottenRecords store)
    (kept : ForgottenRecords store.restarted) (accepts : PrefKey → Bool)
    : ForgottenRecords (store.sync accepts).restarted := by
  refine loaded.mixed kept fun key _ => ?_
  rw [WriteBack.load_restarted_sync]
  split
  · exact .inl rfl
  · exact .inr rfl

/-- A new key leaves the other records empty. -/
theorem ForgottenRecords.rekeyed {preferences : Preferences}
    (loaded : ForgottenRecords preferences) (key : AesKey)
    : ForgottenRecords (preferences.save .sharedKey key) :=
  loaded.mixed loaded fun _ different => .inl (WriteBack.load_save_of_ne _ _ different)

/-- A reset empties the records, in the store and, once flash has taken them or had none
before, on the medium.
-/
theorem forgottenPreferences_forgotten (preferences : Preferences) (env : ResetEnv)
    : ForgottenRecords (Device.forgottenPreferences preferences env)
      ∧ (WriteBack.AcceptsAll env.acceptsLinks ∨ ForgottenRecords preferences.restarted
        → ForgottenRecords (Device.forgottenPreferences preferences env).restarted) := by
  have saved
      : ForgottenRecords
          (((preferences.save .keypadName (Vector.replicate 48 0)).save .keypadInfo {}).save
            .linkedLock {}) := by
    refine ⟨?_, ?_, ?_⟩ <;> simp [hasKeypadName, WriteBack.load_save_of_ne]
  have synced : ForgottenRecords (Device.forgottenPreferences preferences env) :=
    saved.mixed saved fun key _ => .inl (WriteBack.load_sync _ _ key)
  refine ⟨synced, ?_⟩
  rintro (commits | kept)
  · exact synced.mixed synced fun key _ =>
      .inl ((WriteBack.clean_sync commits).load_restarted key)
  · exact saved.synced kept env.acceptsLinks

/-- The records after a start: those that flash held, and a key if it held none. -/
theorem Device.setup_preferences {preferences : Preferences} (config : DeviceConfig)
    (env : BootEnv)
    (current : ((preferences.restarted.load .linkedLock).getD {}).isLegacy = false)
    : (setup config preferences env).1.preferences = preferences.restarted
      ∨ (setup config preferences env).1.preferences
        = (preferences.restarted.save .sharedKey env.randomKey).sync env.acceptsKey := by
  have up (device : Device) : (device.bringUp env).preferences = device.preferences := by
    unfold bringUp importAesKey
    split
    · rfl
    · cases env.keyImport <;> dsimp only <;> split
      · rfl
      · split <;> rfl
      · rfl
      · split <;> rfl
  have key
      : ((powerOn config preferences).restoreKey env).preferences = preferences.restarted
        ∨ ((powerOn config preferences).restoreKey env).preferences
          = (preferences.restarted.save .sharedKey env.randomKey).sync env.acceptsKey := by
    unfold restoreKey
    split
    · exact .inl rfl
    · exact .inr rfl
  have lock
      : ((powerOn config preferences).restoreKey env).preferences.load .linkedLock
        = preferences.restarted.load .linkedLock :=
    restoreKey_load (powerOn config preferences) env (by decide)
  have kept
      : ((powerOn config preferences).restoreLinks env).1.preferences
        = ((powerOn config preferences).restoreKey env).preferences := by
    have core :=
      restoreLock_linkCore ((powerOn config preferences).restoreKey env).restoreKeypad.1 env
    refine (congrArg LinkCore.preferences core).trans ?_
    dsimp only
    rw [if_neg]
    · rfl
    · rw [show (((powerOn config preferences).restoreKey env).restoreKeypad.1.preferences.load
        .linkedLock) = preferences.restarted.load .linkedLock from lock, current]
      decide
  simp only [setup, up, kept]
  exact key

-----------------------------------------------------------------------------------------
-- One step
-----------------------------------------------------------------------------------------

/-- A step that applies no link, and that restarts the component only if flash has taken what
the reset wrote.
-/
def StationStep.LinksNothing (committed : Prop) (step : StationStep) : Prop :=
  match step.milestone with
  | some (.pairingApplied _) | some (.lockApplied _) => False
  | some .booted => committed
  | _ => True

namespace ScanState.Forgotten

variable {committed : Prop}

/-- A call that the scan does not notice leaves everything forgotten as it is. -/
theorem unnoticed {before after : Device} (forgotten : before.scanState.Forgotten committed)
    (unnoticed : before.Unnoticed after)
    : after.scanState = before.scanState := by
  rcases unnoticed with same | closed
  · exact same
  · rw [closed, ← forgotten.shut]

/-- No window opens while nothing is linked. -/
theorem startScan {device : Device} (forgotten : device.scanState.Forgotten committed)
    (env : ScanEnv)
    : (device.maybeStartBatteryScan env).1.scanState = device.scanState := by
  have keypad : device.keypadPaired = false := forgotten.keypadPaired
  have lock : device.bridge.lockLinked = false := forgotten.lockLinked
  rcases device.maybeStartBatteryScan_cases env with quiet | ⟨_, wanted⟩ | ⟨_, wanted⟩
  · exact forgotten.unnoticed quiet
  · simp [keypad, lock] at wanted
  · simp [keypad, lock] at wanted

/-- A call of `loop()` that applies no link changes nothing, and shows no level. -/
theorem performLoop {device : Device} (forgotten : device.scanState.Forgotten committed)
    (keystream : Keystream) {op : LoopOp}
    (linksNothing : (device.performLoop keystream op).2.LinksNothing committed)
    : (device.performLoop keystream op).1.scanState = device.scanState
      ∧ ((StationOp.loop op).showsParked = true
        → (device.performLoop keystream op).2.effects = []) := by
  cases op with
  | paired => exact ⟨rfl, by simp [StationOp.showsParked]⟩
  | lockLinked => exact ⟨rfl, by simp [StationOp.showsParked]⟩
  | applyPairing millis accepts =>
      refine ⟨?_, by simp [StationOp.showsParked]⟩
      cases waiting : device.pendingPairing with
      | none => simp [Device.performLoop, Device.applyPendingPairing, waiting]
      | some pending =>
          simp [Device.performLoop, waiting, StationStep.LinksNothing] at linksNothing
  | applyLockLink millis accepts =>
      refine ⟨?_, by simp [StationOp.showsParked]⟩
      cases waiting : device.pendingLock with
      | none => simp [Device.performLoop, Device.applyPendingLockLink, waiting]
      | some pending =>
          simp [Device.performLoop, waiting, StationStep.LinksNothing] at linksNothing
  | drained event env =>
      exact ⟨forgotten.unnoticed (device.drainEvent_unnoticed keystream event env),
        by simp [StationOp.showsParked]⟩
  | keypadBattery env =>
      have parked : device.keypadAdvert = none := forgotten.keypadAdvert
      simp [Device.performLoop, Device.applyPendingKeypadBattery, parked]
  | lockBattery =>
      have parked : device.lockAdvert = none := forgotten.lockAdvert
      simp [Device.performLoop, Device.applyPendingLockBattery, parked]
  | finishScan env =>
      exact ⟨forgotten.unnoticed (device.maybeFinishBatteryScan_unnoticed env),
        by simp [StationOp.showsParked]⟩
  | startScan env => exact ⟨forgotten.startScan env, by simp [StationOp.showsParked]⟩

/-- A callback that parks nothing late finds a closed window and nothing to park. -/
theorem scanCallback {device : Device} (forgotten : device.scanState.Forgotten committed)
    {callback : ScanCallback} (harmless : ¬ callback.ParksLate device)
    : (device.stepScanCallback callback).2 = device
      ∧ ¬ (device.stepScanCallback callback).1.ParksLate device := by
  have shut : device.bridge.batteryScan = {} := forgotten.shut
  cases callback with
  | idle => exact ⟨rfl, harmless⟩
  | gated adv => simp [Device.stepScanCallback, shut, ScanCallback.ParksLate]
  | keypadWanted adv =>
      simpa [Device.stepScanCallback, shut, ScanCallback.ParksLate] using harmless
  | keypadMissing adv =>
      simpa [Device.stepScanCallback, shut, ScanCallback.ParksLate] using harmless
  | keypadSought adv known =>
      have unmatched : device.matchKeypad adv known = none := by
        simpa [ScanCallback.ParksLate] using harmless
      simp [Device.stepScanCallback, unmatched, ScanCallback.ParksLate]
  | keypadParsed adv advert => exact absurd trivial harmless
  | lockNext adv => simp [Device.stepScanCallback, shut, ScanCallback.ParksLate]
  | lockWanted adv => simp [Device.stepScanCallback, shut, ScanCallback.ParksLate]
  | lockMissing adv =>
      have unmatched : device.matchLock adv = none := by
        simp [Device.matchLock, shut, parseLockBattery_unknown]
      simp [Device.stepScanCallback, unmatched, ScanCallback.ParksLate]
  | lockParsed value => exact absurd trivial harmless

end ScanState.Forgotten

namespace Station

variable {committed : Prop}

theorem Forgotten.of_state {before after : Station} (forgotten : before.Forgotten committed)
    (state : after.device.scanState = before.device.scanState)
    (callback : after.scanCallback = before.scanCallback)
    : after.Forgotten committed := by
  refine ⟨state ▸ forgotten.state, ?_⟩
  rw [callback, ScanCallback.parksLate_congr (congrArg ScanState.targets state)]
  exact forgotten.callback

/-- A completed reset forgets everything, if nothing is parked and the callback in flight
parks nothing late.
-/
theorem reset_forgotten {station : Station} {env : ResetEnv} (imported : env.keyImport ≠ none)
    (keypad : station.device.keypadAdvert = none) (lock : station.device.lockAdvert = none)
    (harmless : ¬ station.scanCallback.ParksLate station.device)
    (medium
      : committed
        → WriteBack.AcceptsAll env.acceptsLinks
          ∨ ForgottenRecords (station.device.rotated env).preferences.restarted)
    : Forgotten committed { station with device := (station.device.resetPairing env).1 } := by
  have state := (station.device.rotated env).forgetLinks_scanState env
  rw [Device.resetPairing_completed imported]
  have rotated := station.device.rotated_scanState env
  have targets
      : ((station.device.rotated env).forgetLinks env).1.scanTargets
        = station.device.scanTargets :=
    (congrArg ScanState.targets state).trans (congrArg ScanState.targets rotated)
  refine ⟨?_, fun late => harmless ((ScanCallback.parksLate_congr targets _).mp late)⟩
  obtain ⟨records, kept⟩ :=
    forgottenPreferences_forgotten (station.device.rotated env).preferences env
  rw [state]
  refine {
    keypadPaired := rfl
    keypadInfo := rfl
    lockLinked := rfl
    shut := rfl
    keypadAdvert := (congrArg ScanState.keypadAdvert rotated).trans keypad
    lockAdvert := (congrArg ScanState.lockAdvert rotated).trans lock
    records := records
    medium := fun commits => kept (medium commits)
  }

/-- The key rotation keeps everything forgotten. -/
theorem Forgotten.rotated {station : Station} (forgotten : station.Forgotten committed)
    (env : ResetEnv)
    : Forgotten committed { station with device := station.device.rotated env } := by
  obtain ⟨state, callback⟩ := forgotten
  have rotated := station.device.rotated_scanState env
  have targets : (station.device.rotated env).scanTargets = station.device.scanTargets :=
    congrArg ScanState.targets rotated
  refine ⟨?_, fun late => callback ((ScanCallback.parksLate_congr targets _).mp late)⟩
  have rekeyed := state.records.rekeyed env.randomKey
  rw [rotated]
  exact {
    state with
    records := rekeyed.mixed rekeyed fun key _ => .inl (WriteBack.load_sync _ _ key)
    medium := fun commits => rekeyed.synced (state.medium commits) env.acceptsKey
  }

/-- A reset on a component that has forgotten its links keeps them forgotten. -/
theorem Forgotten.resetPairing {station : Station} (forgotten : station.Forgotten committed)
    (env : ResetEnv)
    : Forgotten committed
        { station with device := (station.device.resetPairing env).1 } := by
  have rotated := forgotten.rotated env
  by_cases failed : env.keyImport = none
  · rw [Device.resetPairing_aborted failed]
    exact rotated
  · exact reset_forgotten failed forgotten.state.keypadAdvert forgotten.state.lockAdvert
      forgotten.callback fun commits => .inr (rotated.state.medium commits)

/-- A restart on flash that has taken the reset finds no link. -/
theorem Forgotten.reboot {station : Station} (forgotten : station.Forgotten committed)
    (commits : committed) (env : BootEnv)
    : (booted station.device.config station.device.preferences env).Forgotten committed := by
  have found : ForgottenRecords station.device.preferences.restarted :=
    forgotten.state.medium commits
  have restored :=
    Device.setup_restored station.device.config station.device.preferences env
  obtain ⟨shut, keypadAdvert, lockAdvert⟩ :=
    Device.setup_scanIdle station.device.config station.device.preferences env
  have notLegacy
      : ((station.device.preferences.restarted.load .linkedLock).getD {}).isLegacy = false := by
    simp [LinkedLockInfo.isLegacy, found.lock]
  obtain ⟨_, paired, info, lock, linked, _, _⟩ := restored
  simp only [notLegacy, Bool.false_eq_true, if_false] at lock
  have rekeyed := found.rekeyed env.randomKey
  have kept
      : let preferences :=
          (Device.setup station.device.config station.device.preferences env).1.preferences
        ForgottenRecords preferences ∧ ForgottenRecords preferences.restarted := by
    rcases Device.setup_preferences station.device.config env notLegacy with same | saved
    · rw [same]
      exact ⟨found, found⟩
    · rw [saved]
      exact ⟨rekeyed.mixed rekeyed fun key _ => .inl (WriteBack.load_sync _ _ key),
        rekeyed.synced found env.acceptsKey⟩
  refine ⟨?_, id⟩
  refine {
    keypadPaired := paired.trans found.name
    keypadInfo := (congrArg KeypadInfo.valid info).trans found.keypad
    lockLinked := ?_
    shut := shut
    keypadAdvert := keypadAdvert
    lockAdvert := lockAdvert
    records := kept.1
    medium := fun _ => kept.2
  }
  refine linked.trans ?_
  rw [lock, found.lock]
  decide

/-- One step that links nothing keeps everything forgotten, and shows no level. -/
theorem Forgotten.perform {station : Station} (forgotten : station.Forgotten committed)
    (keystream : Keystream) {op : StationOp}
    (linksNothing : (station.perform keystream op).2.LinksNothing committed)
    : (station.perform keystream op).1.Forgotten committed
      ∧ ShowsNoLevel (station.perform keystream op).2.effects := by
  cases op with
  | loop op =>
      simp only [Station.perform] at linksNothing ⊢
      split
      · rename_i loops
        simp only [loops, if_true] at linksNothing
        obtain ⟨state, shown⟩ := forgotten.state.performLoop keystream linksNothing
        refine ⟨forgotten.of_state state rfl, ?_⟩
        cases parked : (StationOp.loop op).showsParked with
        | true =>
            rw [shown parked]
            exact Plain.nil.showsNoLevel
        | false =>
            have quiet := perform_showsNoLevel keystream station parked
            simpa only [Station.perform, loops, if_true] using quiet
      · exact ⟨forgotten, Plain.nil.showsNoLevel⟩
  | wizard ui => exact ⟨forgotten.of_state rfl rfl, Plain.nil.showsNoLevel⟩
  | relayDone => exact ⟨forgotten.of_state rfl rfl, Plain.nil.showsNoLevel⟩
  | advert adv =>
      refine ⟨?_, perform_showsNoLevel keystream station rfl⟩
      have shut : station.device.bridge.batteryScan = {} := forgotten.state.shut
      simp only [Station.perform]
      split
      · exact ⟨forgotten.state, by simp [Device.receiveAdvert, shut, ScanCallback.ParksLate]⟩
      · exact forgotten
  | scanCallback =>
      obtain ⟨same, harmless⟩ := forgotten.state.scanCallback forgotten.callback
      refine ⟨⟨?_, ?_⟩, Plain.nil.showsNoLevel⟩
      · simpa only [Station.perform, same] using forgotten.state
      · simpa only [Station.perform, same] using harmless
  | reset env =>
      exact ⟨forgotten.resetPairing env, (station.device.resetPairing_plain env).showsNoLevel⟩
  | reboot env =>
      exact ⟨forgotten.reboot linksNothing env, (station.device.reboot_plain env).showsNoLevel⟩

end Station

-----------------------------------------------------------------------------------------
-- Runs behind a reset
-----------------------------------------------------------------------------------------

/-- The reset lasts. Until a pairing or a lock link is applied the keypad's identity stays
invalid in memory, in the store and, if flash took what the reset wrote, on the medium as
well; and nothing but NAN is published on the battery sensors. If flash took it, this
includes restarts.
-/
def StaysForgotten (keystream : Keystream) (env : ResetEnv) (station : Station) : Prop :=
  ∀ later : List StationOp,
    let committed := WriteBack.AcceptsAll env.acceptsLinks
    let steps := (stationMachine keystream).history station later
    let after := ((stationMachine keystream).run station later).device
    (∀ step ∈ steps, step.LinksNothing committed)
    → after.keypadInfo.valid = 0
      ∧ ((after.preferences.load .keypadInfo).getD {}).valid = 0
      ∧ (committed → ((after.preferences.restarted.load .keypadInfo).getD {}).valid = 0)
      ∧ ∀ step ∈ steps, ShowsNoLevel step.effects

/-- What is forgotten stays so. -/
theorem Station.Forgotten.stays {keystream : Keystream} {env : ResetEnv} {station : Station}
    (forgotten : station.Forgotten (WriteBack.AcceptsAll env.acceptsLinks))
    : StaysForgotten keystream env station := by
  intro later committed steps after linksNothing
  obtain ⟨⟨state, _⟩, quiet⟩ :=
    (stationMachine keystream).run_invariant_while (Station.Forgotten committed)
      (StationStep.LinksNothing committed) (fun step => ShowsNoLevel step.effects) forgotten
      (fun _ _ forgotten linksNothing => forgotten.perform keystream linksNothing) later
      linksNothing
  exact ⟨state.keypadInfo, state.records.keypad,
    fun commits => (state.medium commits).keypad, quiet⟩

/-- A turn of the loop in which no scan is going on and none starts. -/
def scanEnv : ScanEnv where
  millis := 0
  isScanning := false
  scanStarts := false
  connected := false
  accepts _ := true

namespace StaysForgotten

variable {keystream : Keystream} {env : ResetEnv} {station : Station}

/-- It lasts over every single step that links nothing. -/
theorem perform (stays : StaysForgotten keystream env station) {op : StationOp}
    (linksNothing
      : (station.perform keystream op).2.LinksNothing (WriteBack.AcceptsAll env.acceptsLinks))
    : StaysForgotten keystream env (station.perform keystream op).1 := by
  intro later committed steps after rest
  obtain ⟨info, stored, medium, quiet⟩ :=
    stays (op :: later) (List.forall_mem_cons.mpr ⟨linksNothing, rest⟩)
  exact ⟨info, stored, medium, (List.forall_mem_cons.mp quiet).2⟩

/-- A parked keypad is adopted by the next turn of the loop. -/
theorem noKeypadParked (stays : StaysForgotten keystream env station)
    (seeks : station.SeeksShown)
    (unknown : station.device.keypadInfo.valid = 0)
    : station.device.keypadAdvert = none := by
  by_contra parked
  obtain ⟨shown, working⟩ := seeks.keypad (.inr (.inl parked))
  obtain ⟨advert, parked⟩ := Option.ne_none_iff_exists'.mp parked
  have loops : station.device.loops (.keypadBattery scanEnv) = true := by
    simp only [Device.scanState] at shown working
    simp [Device.loops, working, shown]
  obtain ⟨info, _⟩ := stays [.loop (.keypadBattery scanEnv)] (by
    simp [stationMachine, Machine.history, Station.perform, loops, Device.performLoop,
      StationStep.LinksNothing])
  have learnt := @Device.applyPendingKeypadBattery_scanState station.device scanEnv advert parked
  have adopted
      : (station.device.applyPendingKeypadBattery scanEnv).1.keypadInfo.valid = 1 := by
    refine (congrArg (fun state => state.keypadInfo.valid) learnt).trans ?_
    simp [Device.learnKeypad, unknown, Device.saveAndSync, Device.save, Device.sync]
  simp [stationMachine, Machine.run, Station.perform, loops, Device.performLoop, adopted] at info

/-- A parked level of the lock is shown by the next turn of the loop. -/
theorem noLockParked (stays : StaysForgotten keystream env station)
    (seeks : station.SeeksShown) (blank : station.device.lastLockBattery = none)
    : station.device.lockAdvert = none := by
  by_contra parked
  obtain ⟨shown, working⟩ := seeks.lock (.inr (.inl parked))
  obtain ⟨value, parked⟩ := Option.ne_none_iff_exists'.mp parked
  simp only [Device.scanState] at shown working
  have loops : station.device.loops .lockBattery = true := by
    simp [Device.loops, working, shown]
  obtain ⟨_, _, _, quiet⟩ := stays [.loop .lockBattery] (by
    simp [stationMachine, Machine.history, Station.perform, loops, Device.performLoop,
      StationStep.LinksNothing])
  simp [stationMachine, Machine.history, Station.perform, loops, Device.performLoop,
    Device.applyPendingLockBattery, parked, Device.publishLockBattery, shown, blank,
    ShowsNoLevel, DeviceEffect.level] at quiet

/-- A callback that parks late parks what the loop then shows. -/
theorem harmless (stays : StaysForgotten keystream env station) (seeks : station.SeeksShown)
    (shut : station.device.bridge.batteryScan = {})
    (unknown : station.device.keypadInfo.valid = 0)
    (blank : station.device.lastLockBattery = none)
    : ¬ station.scanCallback.ParksLate station.device := by
  obtain ⟨device, callback⟩ := station
  replace shut : device.bridge.batteryScan = {} := shut
  -- The callback goes on alone, up to the step that parks.
  have onward {callback next : ScanCallback} {after : Device}
      (stays : StaysForgotten keystream env ⟨device, callback⟩)
      (seeks : Station.SeeksShown ⟨device, callback⟩)
      (step : device.stepScanCallback callback = (next, after))
      : StaysForgotten keystream env ⟨after, next⟩ ∧ Station.SeeksShown ⟨after, next⟩ := by
    have stepped
        : (Station.perform keystream ⟨device, callback⟩ .scanCallback).1 = ⟨after, next⟩ := by
      simp [Station.perform, step]
    have noLink
        : (Station.perform keystream ⟨device, callback⟩ .scanCallback).2.LinksNothing
            (WriteBack.AcceptsAll env.acceptsLinks) := trivial
    exact ⟨stepped ▸ stays.perform noLink,
      stepped ▸ Station.perform_seeksShown seeks keystream .scanCallback⟩
  have parsed {adv : AdvertisedDevice} {advert : KeypadAdvert}
      (now : StaysForgotten keystream env ⟨device, .keypadParsed adv advert⟩
        ∧ Station.SeeksShown ⟨device, .keypadParsed adv advert⟩)
      : False := by
    obtain ⟨stays, seeks⟩ := onward now.1 now.2 rfl
    exact Option.some_ne_none _ (stays.noKeypadParked seeks unknown)
  have sought {adv : AdvertisedDevice} {known : Bool}
      (now : StaysForgotten keystream env ⟨device, .keypadSought adv known⟩
        ∧ Station.SeeksShown ⟨device, .keypadSought adv known⟩)
      (found : (device.matchKeypad adv known).isSome)
      : False := by
    obtain ⟨advert, found⟩ := Option.isSome_iff_exists.mp found
    have step
        : device.stepScanCallback (.keypadSought adv known)
          = (.keypadParsed adv advert, device) := by
      simp [Device.stepScanCallback, found]
    exact parsed (onward now.1 now.2 step)
  have missing {adv : AdvertisedDevice}
      (now : StaysForgotten keystream env ⟨device, .keypadMissing adv⟩
        ∧ Station.SeeksShown ⟨device, .keypadMissing adv⟩)
      (found : (device.matchKeypad adv false).isSome)
      : False := by
    have step
        : device.stepScanCallback (.keypadMissing adv)
          = (.keypadSought adv false, device) := by
      simp [Device.stepScanCallback, shut]
    exact sought (onward now.1 now.2 step) found
  cases callback with
  | keypadWanted adv =>
      have step
          : device.stepScanCallback (.keypadWanted adv) = (.keypadMissing adv, device) := by
        simp [Device.stepScanCallback, shut]
      exact missing (onward stays seeks step)
  | keypadMissing adv => exact missing ⟨stays, seeks⟩
  | keypadSought adv known => exact sought ⟨stays, seeks⟩
  | keypadParsed adv advert => exact fun _ => parsed ⟨stays, seeks⟩
  | lockParsed value =>
      intro _
      obtain ⟨stays, seeks⟩ := onward stays seeks rfl
      exact Option.some_ne_none _ (stays.noLockParked seeks blank)
  | _ => exact id

end StaysForgotten

/-- A reset that goes through. -/
def grantedReset : ResetEnv := { refusedReset with keyImport := some ⟨2, by decide⟩ }

end KeypadBridge
