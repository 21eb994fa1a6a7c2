import KeypadBridge.Bridge.Forgetting

/-! The battery levels that are published. A level of the lock is checked where it is parsed,
a level of the keypad is not: it is a percentage as long as the battery bytes of the keypad's
advertisements are.
-/

namespace KeypadBridge
open KeypadBridge.Foundation

-----------------------------------------------------------------------------------------
-- The levels of an advertisement
-----------------------------------------------------------------------------------------

/-- The byte in which a keypad of the family advertises its battery level. -/
def keypadLevelByte (family : KeypadFamily) (serviceData manufacturerData : Bytes)
    : Option UInt8 :=
  if family = .original then serviceData[2]?
  else if manufacturerData.take 2 = [0x69, 0x09] then manufacturerData[9]?
  else none

/-- The byte in which a lock of the model advertises its battery level. -/
def lockLevelByte (model : PhysicalLockModel) (serviceData manufacturerPayload : Bytes)
    : Option UInt8 :=
  if model = .lock ∨ model = .lockLite ∨ model = .lockVision then serviceData[2]?
  else if model = .lockPro ∨ model = .lockProWifi ∨ model = .lockUltra
      ∨ model = .lockVisionPro then
    manufacturerPayload[9]?
  else none

theorem validPercent_le {raw : UInt8} {value : Nat} (valid : validPercent raw = some value)
    : value ≤ 100 := by
  simp only [validPercent] at valid
  split at valid
  · cases valid
    assumption
  · cases valid

/-- A read behind a check of the length. -/
theorem checkedRead_eq (bytes : Bytes) (i : Nat) (read : UInt8 → Option Nat)
    : (if bytes.length < i + 1 then none else read (bytes.getD i 0)) = bytes[i]?.bind read := by
  split
  · rw [List.getElem?_eq_none (by omega)]
    rfl
  · rw [List.getElem?_eq_getElem (by omega)]
    simp [List.getD, show i < bytes.length by omega]

/-- The keypad's byte is taken as it is. -/
theorem parseKeypadBattery_eq (family : KeypadFamily) (serviceData manufacturerData : Bytes)
    : parseKeypadBattery family serviceData manufacturerData
      = (keypadLevelByte family serviceData manufacturerData).map fun raw =>
          (raw &&& 0x7F).toNat := by
  rw [Option.map_eq_bind]
  unfold parseKeypadBattery keypadLevelByte
  split
  · exact checkedRead_eq serviceData 2 fun raw => some (raw &&& 0x7F).toNat
  · match manufacturerData with
    | [] | [_] => simp
    | first :: second :: rest =>
        simp only [List.getD_cons_zero, List.getD_cons_succ, List.take_succ_cons,
          List.take_zero, List.cons.injEq, and_true]
        by_cases company : first = 0x69 ∧ second = 0x09
        · have known : ¬ (first ≠ 0x69 ∨ second ≠ 0x09) := by
            rintro (other | other)
            · exact other company.1
            · exact other company.2
          rw [if_neg known, if_pos company]
          exact checkedRead_eq (first :: second :: rest) 9 fun raw =>
            some (raw &&& 0x7F).toNat
        · have unknown : first ≠ 0x69 ∨ second ≠ 0x09 := Decidable.not_and_iff_or_not.mp company
          rw [if_pos unknown, if_neg company, ite_self]
          rfl

/-- The lock's byte is checked. -/
theorem parseLockBattery_eq (model : PhysicalLockModel)
    (serviceData manufacturerPayload : Bytes)
    : parseLockBattery model serviceData manufacturerPayload
      = (lockLevelByte model serviceData manufacturerPayload).bind validPercent := by
  unfold parseLockBattery lockLevelByte
  split
  · exact checkedRead_eq serviceData 2 validPercent
  split
  · exact checkedRead_eq manufacturerPayload 9 validPercent
  · rfl

namespace Device

/-- The byte in which an advertisement carries the level of the keypad that is looked for. -/
def keypadByte (device : Device) (adv : AdvertisedDevice) (known : Bool) : Option UInt8 :=
  let ident := identifyKeypad adv.serviceData
  if known then
    if adv.addrBytes = device.scanTargets.keypadMac then
      keypadLevelByte ⟨device.scanTargets.keypadFamily⟩ adv.serviceData
        (adv.manufacturerData.getD [])
    else none
  else if ident.isKeypad then
    keypadLevelByte ident.family adv.serviceData (adv.manufacturerData.getD [])
  else none

/-- The byte in which an advertisement carries the level of the lock that is looked for. -/
def lockByte (device : Device) (adv : AdvertisedDevice) : Option UInt8 :=
  if adv.addrBytes = device.scanTargets.lockMac then
    lockLevelByte device.bridge.batteryScan.lockModel adv.serviceData adv.manufacturerPayload
  else none

/-- The percentage that an advertisement carries for the keypad, if it is a valid one. -/
def keypadPercent (device : Device) (adv : AdvertisedDevice) (known : Bool) : Option Nat :=
  (device.keypadByte adv known).bind validPercent

/-- The percentage that an advertisement carries for the lock, if it is a valid one. -/
def lockPercent (device : Device) (adv : AdvertisedDevice) : Option Nat :=
  (device.lockByte adv).bind validPercent

/-- The keypad's advertisement is taken with whatever its byte says. -/
theorem matchKeypad_value (device : Device) (adv : AdvertisedDevice) (known : Bool)
    : (device.matchKeypad adv known).map KeypadAdvert.value
      = (device.keypadByte adv known).map fun raw => (raw &&& 0x7F).toNat := by
  cases known with
  | true =>
      simp only [matchKeypad, keypadByte, if_true, decide_eq_true_eq]
      split
      · rw [Option.map_map, parseKeypadBattery_eq, Option.map_map]
        rfl
      · rfl
  | false =>
      simp only [matchKeypad, keypadByte, Bool.false_eq_true, if_false]
      split
      · rw [Option.map_map, parseKeypadBattery_eq, Option.map_map]
        rfl
      · rfl

/-- The lock's advertisement is taken with the percentage it carries. -/
theorem matchLock_eq (device : Device) (adv : AdvertisedDevice)
    : device.matchLock adv = device.lockPercent adv := by
  unfold matchLock lockPercent lockByte
  split
  · exact parseLockBattery_eq _ _ _
  · rfl

end Device

-----------------------------------------------------------------------------------------
-- What the other operations leave alone
-----------------------------------------------------------------------------------------

/-- Nothing is parked, found or parsed that was not so before. -/
structure Station.ParksNothing (before after : Station) : Prop where
  keypadAdvert
    : after.device.keypadAdvert = before.device.keypadAdvert ∨ after.device.keypadAdvert = none
  lockAdvert
    : after.device.lockAdvert = before.device.lockAdvert ∨ after.device.lockAdvert = none
  keypadFound
    : after.device.bridge.batteryScan.keypadFound = true
      → before.device.bridge.batteryScan.keypadFound = true
  lockFound
    : after.device.bridge.batteryScan.lockFound = true
      → before.device.bridge.batteryScan.lockFound = true
  callback
    : after.scanCallback = before.scanCallback
      ∨ after.scanCallback = .idle
      ∨ ∃ adv, after.scanCallback = .gated adv

namespace Station.ParksNothing

/-- Only the scan state and the callback matter. -/
theorem of_scanState {before after : Station}
    (same : after.device.scanState = before.device.scanState)
    (callback : after.scanCallback = before.scanCallback)
    : ParksNothing before after where
  keypadAdvert := .inl (congrArg ScanState.keypadAdvert same)
  lockAdvert := .inl (congrArg ScanState.lockAdvert same)
  keypadFound found := (congrArg (·.scan.keypadFound) same).symm.trans found
  lockFound found := (congrArg (·.scan.lockFound) same).symm.trans found
  callback := .inl callback

/-- A window that is closed, or opened anew, has found nothing. -/
theorem of_fresh {before after : Station}
    (keypad : after.device.keypadAdvert = before.device.keypadAdvert)
    (lock : after.device.lockAdvert = before.device.lockAdvert)
    (keypadFound : after.device.bridge.batteryScan.keypadFound = false)
    (lockFound : after.device.bridge.batteryScan.lockFound = false)
    (callback : after.scanCallback = before.scanCallback)
    : ParksNothing before after where
  keypadAdvert := .inl keypad
  lockAdvert := .inl lock
  keypadFound found := by simp [keypadFound] at found
  lockFound found := by simp [lockFound] at found
  callback := .inl callback

/-- A closed window, and otherwise what was there. -/
theorem of_closed {before after : Station} {state : ScanState}
    (closed : after.device.scanState = { state with scan := {} })
    (keypad : state.keypadAdvert = before.device.keypadAdvert)
    (lock : state.lockAdvert = before.device.lockAdvert)
    (callback : after.scanCallback = before.scanCallback)
    : ParksNothing before after :=
  .of_fresh ((congrArg ScanState.keypadAdvert closed).trans keypad)
    ((congrArg ScanState.lockAdvert closed).trans lock)
    (congrArg (·.scan.keypadFound) closed) (congrArg (·.scan.lockFound) closed) callback

theorem of_unnoticed {device after : Device} (unnoticed : device.Unnoticed after)
    (callback : ScanCallback)
    : ParksNothing ⟨device, callback⟩ ⟨after, callback⟩ := by
  rcases unnoticed with same | closed
  · exact .of_scanState same rfl
  · exact .of_closed closed rfl rfl rfl

end Station.ParksNothing

/-- The operations by which a level comes to be parked or shown. -/
def StationOp.handlesLevels : StationOp → Bool
  | .scanCallback => true
  | op => op.showsParked

/-- Every other operation parks nothing, by its effect on the scan state. -/
theorem Station.perform_parksNothing (keystream : Keystream) (station : Station)
    {op : StationOp} (other : op.handlesLevels = false)
    : ParksNothing station (station.perform keystream op).1 := by
  cases op with
  | loop op =>
      simp only [perform]
      split
      case isFalse => exact .of_scanState rfl rfl
      cases op with
      | paired | lockLinked => exact .of_scanState rfl rfl
      | applyPairing millis accepts =>
          simp only [Device.performLoop, Device.applyPendingPairing]
          split <;> exact ⟨.inl rfl, .inl rfl, id, id, .inl rfl⟩
      | applyLockLink millis accepts =>
          simp only [Device.performLoop, Device.applyPendingLockLink]
          split <;> exact ⟨.inl rfl, .inl rfl, id, id, .inl rfl⟩
      | drained event env =>
          exact .of_unnoticed (station.device.drainEvent_unnoticed keystream event env) _
      | keypadBattery | lockBattery => cases other
      | finishScan env =>
          exact .of_unnoticed (station.device.maybeFinishBatteryScan_unnoticed env) _
      | startScan env =>
          rcases station.device.maybeStartBatteryScan_cases env with
            quiet | ⟨closed, _⟩ | ⟨opened, _⟩
          · exact .of_unnoticed quiet _
          · exact .of_closed closed rfl rfl rfl
          · simp only [Device.performLoop, opened]
            exact .of_fresh rfl rfl rfl rfl rfl
  | wizard | relayDone => exact .of_scanState rfl rfl
  | advert adv =>
      simp only [perform]
      split
      · refine ⟨.inl rfl, .inl rfl, id, id, ?_⟩
        simp only [Device.receiveAdvert]
        split
        · exact .inr (.inr ⟨adv, rfl⟩)
        · exact .inr (.inl rfl)
      · exact .of_scanState rfl rfl
  | scanCallback => cases other
  | reset env =>
      have rotated := station.device.rotated_scanState env
      have keypad := congrArg ScanState.keypadAdvert rotated
      have lock := congrArg ScanState.lockAdvert rotated
      have scan := congrArg ScanState.scan rotated
      simp only [perform]
      by_cases failed : env.keyImport = none
      · rw [Device.resetPairing_aborted failed]
        exact ⟨.inl keypad, .inl lock, (congrArg BatteryScan.keypadFound scan).symm.trans,
          (congrArg BatteryScan.lockFound scan).symm.trans, .inl rfl⟩
      · rw [Device.resetPairing_completed failed]
        exact .of_fresh keypad lock rfl rfl rfl
  | reboot env =>
      obtain ⟨shut, keypad, lock⟩ :=
        Device.setup_scanIdle station.device.config station.device.preferences env
      refine ⟨.inr keypad, .inr lock, ?_, ?_, .inr (.inl rfl)⟩ <;> intro found
      · simp [perform, Device.reboot, shut] at found
      · simp [perform, Device.reboot, shut] at found

-----------------------------------------------------------------------------------------
-- Where a level came from
-----------------------------------------------------------------------------------------

/-- A step of a run: the component before it, the operation, and what it showed. -/
abbrev StationMove := Station × StationOp × StationStep

/-- Among the steps the callback parsed an advertisement that carries this percentage for
the keypad.
-/
def KeypadLevelSeen (steps : List StationMove) (value : Nat) : Prop :=
  ∃ step ∈ steps,
    step.2.1 = .scanCallback
    ∧ ∃ adv known,
        step.1.scanCallback = .keypadSought adv known
        ∧ step.1.device.keypadPercent adv known = some value

/-- Among the steps the callback parsed an advertisement that carries this percentage for
the lock.
-/
def LockLevelSeen (steps : List StationMove) (value : Nat) : Prop :=
  ∃ step ∈ steps,
    step.2.1 = .scanCallback
    ∧ ∃ adv,
        step.1.scanCallback = .lockMissing adv
        ∧ step.1.device.lockPercent adv = some value

theorem KeypadLevelSeen.append {steps : List StationMove} {value : Nat}
    (seen : KeypadLevelSeen steps value) (later : List StationMove)
    : KeypadLevelSeen (steps ++ later) value := by
  obtain ⟨step, member, carries⟩ := seen
  exact ⟨step, List.mem_append_left _ member, carries⟩

theorem LockLevelSeen.append {steps : List StationMove} {value : Nat}
    (seen : LockLevelSeen steps value) (later : List StationMove)
    : LockLevelSeen (steps ++ later) value := by
  obtain ⟨step, member, carries⟩ := seen
  exact ⟨step, List.mem_append_left _ member, carries⟩

theorem KeypadLevelSeen.le {steps : List StationMove} {value : Nat}
    (seen : KeypadLevelSeen steps value)
    : value ≤ 100 := by
  obtain ⟨_, _, _, _, _, _, carries⟩ := seen
  obtain ⟨_, _, valid⟩ := Option.bind_eq_some_iff.mp carries
  exact validPercent_le valid

theorem LockLevelSeen.le {steps : List StationMove} {value : Nat}
    (seen : LockLevelSeen steps value)
    : value ≤ 100 := by
  obtain ⟨_, _, _, _, _, carries⟩ := seen
  obtain ⟨_, _, valid⟩ := Option.bind_eq_some_iff.mp carries
  exact validPercent_le valid

/-- Every level that was parsed or parked was seen in a valid advertisement. -/
structure LevelsSeen (steps : List StationMove) (station : Station) : Prop where
  keypadParsed
    : ∀ adv advert,
        station.scanCallback = .keypadParsed adv advert → KeypadLevelSeen steps advert.value
  keypadParked
    : ∀ advert, station.device.keypadAdvert = some advert → KeypadLevelSeen steps advert.value
  lockParsed : ∀ value, station.scanCallback = .lockParsed value → LockLevelSeen steps value
  lockParked : ∀ value, station.device.lockAdvert = some value → LockLevelSeen steps value

/-- If the callback is about to parse the keypad's battery byte, this holds a percentage. -/
def Station.KeypadByteValid (station : Station) : Prop :=
  ∀ adv known,
    station.scanCallback = .keypadSought adv known
    → ∀ raw, station.device.keypadByte adv known = some raw → (raw &&& 0x7F).toNat ≤ 100

namespace Device

/-- A valid byte is parsed as the percentage it holds. -/
theorem keypadPercent_of_valid {device : Device} {adv : AdvertisedDevice} {known : Bool}
    (valid
      : ∀ raw, device.keypadByte adv known = some raw → (raw &&& 0x7F).toNat ≤ 100)
    : device.keypadPercent adv known
      = (device.matchKeypad adv known).map KeypadAdvert.value := by
  rw [matchKeypad_value, keypadPercent]
  cases byte : device.keypadByte adv known with
  | none => rfl
  | some raw => exact if_pos (valid raw byte)

end Device

namespace LevelsSeen

variable {steps : List StationMove} {station : Station}

/-- What was seen stays seen. -/
theorem append (seen : LevelsSeen steps station) (later : List StationMove)
    : LevelsSeen (steps ++ later) station where
  keypadParsed adv advert parsed := (seen.keypadParsed adv advert parsed).append later
  keypadParked advert parked := (seen.keypadParked advert parked).append later
  lockParsed value parsed := (seen.lockParsed value parsed).append later
  lockParked value parked := (seen.lockParked value parked).append later

/-- What parks nothing leaves only levels that were seen. -/
theorem parksNothing {after : Station} (seen : LevelsSeen steps station)
    (nothing : station.ParksNothing after)
    : LevelsSeen steps after where
  keypadParsed adv advert parsed := by
    rcases nothing.callback with same | idle | ⟨gated, same⟩
    · exact seen.keypadParsed adv advert (same.symm.trans parsed)
    · simp [idle] at parsed
    · simp [same] at parsed
  keypadParked advert parked := by
    rcases nothing.keypadAdvert with same | cleared
    · exact seen.keypadParked advert (same.symm.trans parked)
    · simp [cleared] at parked
  lockParsed value parsed := by
    rcases nothing.callback with same | idle | ⟨gated, same⟩
    · exact seen.lockParsed value (same.symm.trans parsed)
    · simp [idle] at parsed
    · simp [same] at parsed
  lockParked value parked := by
    rcases nothing.lockAdvert with same | cleared
    · exact seen.lockParked value (same.symm.trans parked)
    · simp [cleared] at parked

/-- The callback parses and parks only levels that it has seen, one case for each place. -/
theorem scanCallback (seen : LevelsSeen steps station) (valid : station.KeypadByteValid)
    (keystream : Keystream) (shown : StationStep)
    : LevelsSeen (steps ++ [(station, .scanCallback, shown)])
        (station.perform keystream .scanCallback).1 := by
  have held := seen.append [(station, .scanCallback, shown)]
  have moved (callback : ScanCallback)
      (notKeypad : ∀ adv advert, callback ≠ .keypadParsed adv advert)
      (notLock : ∀ value, callback ≠ .lockParsed value)
      : LevelsSeen (steps ++ [(station, .scanCallback, shown)]) ⟨station.device, callback⟩ :=
    ⟨fun adv advert parsed => absurd parsed (notKeypad adv advert), held.keypadParked,
      fun value parsed => absurd parsed (notLock value), held.lockParked⟩
  simp only [Station.perform]
  cases place : station.scanCallback with
  | idle | keypadMissing adv =>
      simp only [Device.stepScanCallback]
      exact moved _ (by simp) (by simp)
  | gated adv | keypadWanted adv | lockNext adv | lockWanted adv =>
      simp only [Device.stepScanCallback]
      split <;> exact moved _ (by simp) (by simp)
  | keypadSought adv known =>
      have percent := Device.keypadPercent_of_valid (valid adv known place)
      cases found : station.device.matchKeypad adv known with
      | none =>
          simp only [Device.stepScanCallback, found]
          exact moved _ (by simp) (by simp)
      | some advert =>
          rw [found] at percent
          simp only [Device.stepScanCallback, found]
          refine ⟨?_, held.keypadParked, by simp, held.lockParked⟩
          intro _ _ parsed
          cases parsed
          exact ⟨(station, .scanCallback, shown), by simp, rfl, adv, known, place, percent⟩
  | keypadParsed adv advert =>
      refine ⟨by simp [Device.stepScanCallback], ?_, by simp [Device.stepScanCallback],
        held.lockParked⟩
      intro _ parked
      cases parked
      exact held.keypadParsed adv advert place
  | lockMissing adv =>
      have percent := station.device.matchLock_eq adv
      cases found : station.device.matchLock adv with
      | none =>
          simp only [Device.stepScanCallback, found]
          exact moved _ (by simp) (by simp)
      | some value =>
          rw [found] at percent
          simp only [Device.stepScanCallback, found]
          refine ⟨by simp, held.keypadParked, ?_, held.lockParked⟩
          intro _ parsed
          cases parsed
          exact ⟨(station, .scanCallback, shown), by simp, rfl, adv, place, percent.symm⟩
  | lockParsed value =>
      refine ⟨by simp [Device.stepScanCallback], held.keypadParked,
        by simp [Device.stepScanCallback], ?_⟩
      intro _ parked
      cases parked
      exact held.lockParsed value place

/-- Taking the parked advertisement of the keypad leaves the lock's. -/
theorem keypadBattery (seen : LevelsSeen steps station) (env : ScanEnv)
    : LevelsSeen steps
        ⟨(station.device.applyPendingKeypadBattery env).1, station.scanCallback⟩ := by
  cases parked : station.device.keypadAdvert with
  | none =>
      simp only [Device.applyPendingKeypadBattery, parked]
      exact seen
  | some advert =>
      have state :=
        @Device.applyPendingKeypadBattery_scanState station.device env advert parked
      have keypad := congrArg ScanState.keypadAdvert state
      have lock := congrArg ScanState.lockAdvert state
      exact ⟨seen.keypadParsed, fun _ held => absurd (keypad.symm.trans held) (by simp),
        seen.lockParsed, fun value held => seen.lockParked value (lock.symm.trans held)⟩

/-- Taking the parked level of the lock leaves the keypad's advertisement. -/
theorem lockBattery (seen : LevelsSeen steps station)
    : LevelsSeen steps ⟨station.device.applyPendingLockBattery.1, station.scanCallback⟩ := by
  cases parked : station.device.lockAdvert with
  | none =>
      simp only [Device.applyPendingLockBattery, parked]
      exact seen
  | some value =>
      have state := station.device.applyPendingLockBattery_scanState parked
      have keypad := congrArg ScanState.keypadAdvert state
      have lock := congrArg ScanState.lockAdvert state
      exact ⟨seen.keypadParsed,
        fun advert held => seen.keypadParked advert (keypad.symm.trans held),
        seen.lockParsed, fun _ held => absurd (lock.symm.trans held) (by simp)⟩

/-- Every operation parks only levels that were seen. -/
theorem perform (seen : LevelsSeen steps station) (keystream : Keystream) (op : StationOp)
    (valid : op = .scanCallback → station.KeypadByteValid)
    : LevelsSeen (steps ++ [(station, op, (station.perform keystream op).2)])
        (station.perform keystream op).1 := by
  cases handles : op.handlesLevels with
  | false => exact (seen.parksNothing (station.perform_parksNothing keystream handles)).append _
  | true =>
      cases op with
      | scanCallback => exact seen.scanCallback (valid rfl) keystream _
      | loop op =>
          refine LevelsSeen.append ?_ _
          simp only [Station.perform]
          split
          case isFalse => exact seen
          cases op with
          | keypadBattery env => exact seen.keypadBattery env
          | lockBattery => exact seen.lockBattery
          | _ => cases handles
      | _ => cases handles

end LevelsSeen

-----------------------------------------------------------------------------------------
-- What is published
-----------------------------------------------------------------------------------------

/-- What the step behind `before` publishes on the battery sensors, or marks as found, was
parsed from an advertisement with a valid percentage; one without is passed over.
-/
structure LevelsArePercentages (keystream : Keystream) (before : List StationMove)
    (move : StationMove) : Prop where
  keypadShown
    : ∀ value,
        .keypadBattery (some value) ∈ move.2.2.effects
        → value ≤ 100 ∧ KeypadLevelSeen before value
  lockShown
    : ∀ value,
        .lockBattery (some value) ∈ move.2.2.effects
        → value ≤ 100 ∧ LockLevelSeen before value
  keypadFound
    : (move.1.perform keystream move.2.1).1.device.bridge.batteryScan.keypadFound = true
      → move.1.device.bridge.batteryScan.keypadFound = true
        ∨ ∃ advert,
            move.1.device.keypadAdvert = some advert ∧ KeypadLevelSeen before advert.value
  lockFound
    : (move.1.perform keystream move.2.1).1.device.bridge.batteryScan.lockFound = true
      → move.1.device.bridge.batteryScan.lockFound = true
        ∨ ∃ value, move.1.device.lockAdvert = some value ∧ LockLevelSeen before value
  keypadPassed
    : ∀ adv known,
        move.2.1 = .scanCallback
        → move.1.scanCallback = .keypadSought adv known
        → move.1.device.keypadPercent adv known = none
        → (move.1.perform keystream .scanCallback).1 = { move.1 with scanCallback := .lockNext adv }
  lockPassed
    : ∀ adv,
        move.2.1 = .scanCallback
        → move.1.scanCallback = .lockMissing adv
        → move.1.device.lockPercent adv = none
        → (move.1.perform keystream .scanCallback).1 = { move.1 with scanCallback := .idle }

namespace Device

/-- The keypad's sensor shows the parked level, or nothing new. -/
theorem applyPendingKeypadBattery_shown (device : Device) (env : ScanEnv)
    : ∀ effect ∈ (device.applyPendingKeypadBattery env).2,
        ∃ advert,
          device.keypadAdvert = some advert
          ∧ effect = .keypadBattery (some advert.value) := by
  intro effect member
  cases parked : device.keypadAdvert with
  | none => simp [applyPendingKeypadBattery, parked] at member
  | some advert =>
      simp only [applyPendingKeypadBattery, parked, publishKeypadBattery] at member
      split at member
      · exact ⟨advert, rfl, by simpa using member⟩
      · simp at member

/-- The lock's sensor shows the parked level, or nothing new. -/
theorem applyPendingLockBattery_shown (device : Device)
    : ∀ effect ∈ device.applyPendingLockBattery.2,
        ∃ value, device.lockAdvert = some value ∧ effect = .lockBattery (some value) := by
  intro effect member
  cases parked : device.lockAdvert with
  | none => simp [applyPendingLockBattery, parked] at member
  | some value =>
      simp only [applyPendingLockBattery, parked, publishLockBattery] at member
      split at member
      · exact ⟨value, rfl, by simpa using member⟩
      · simp at member

/-- Applying the keypad's advertisement marks no lock as found. -/
theorem applyPendingKeypadBattery_found (device : Device) (env : ScanEnv)
    : let after := (device.applyPendingKeypadBattery env).1.bridge.batteryScan
      (after.keypadFound = true
        → device.bridge.batteryScan.keypadFound = true
          ∨ ∃ advert, device.keypadAdvert = some advert)
      ∧ after.lockFound = device.bridge.batteryScan.lockFound := by
  intro after
  cases parked : device.keypadAdvert with
  | none =>
      have same : after = device.bridge.batteryScan := by
        simp [after, applyPendingKeypadBattery, parked]
      rw [same]
      exact ⟨.inl, rfl⟩
  | some advert =>
      exact ⟨fun _ => .inr ⟨advert, rfl⟩,
        congrArg (·.scan.lockFound) (device.applyPendingKeypadBattery_scanState parked)⟩

/-- Applying the lock's level marks no keypad as found. -/
theorem applyPendingLockBattery_found (device : Device)
    : let after := device.applyPendingLockBattery.1.bridge.batteryScan
      (after.lockFound = true
        → device.bridge.batteryScan.lockFound = true ∨ ∃ value, device.lockAdvert = some value)
      ∧ after.keypadFound = device.bridge.batteryScan.keypadFound := by
  intro after
  cases parked : device.lockAdvert with
  | none =>
      have same : after = device.bridge.batteryScan := by
        simp [after, applyPendingLockBattery, parked]
      rw [same]
      exact ⟨.inl, rfl⟩
  | some value =>
      exact ⟨fun _ => .inr ⟨value, rfl⟩,
        congrArg (·.scan.keypadFound) (device.applyPendingLockBattery_scanState parked)⟩

end Device

namespace Station

variable (keystream : Keystream) (station : Station)

/-- A level is shown by the call that applies it, and it was parked. -/
theorem perform_shown {op : StationOp} {effect : DeviceEffect}
    (member : effect ∈ (station.perform keystream op).2.effects) (level : effect.level ≠ none)
    : (∃ advert,
        station.device.keypadAdvert = some advert
        ∧ effect = .keypadBattery (some advert.value))
      ∨ ∃ value,
          station.device.lockAdvert = some value ∧ effect = .lockBattery (some value) := by
  cases shows : op.showsParked with
  | false => exact absurd (station.perform_showsNoLevel keystream shows effect member) level
  | true =>
      cases op with
      | loop op =>
          simp only [perform] at member
          split at member
          case isFalse => cases member
          cases op with
          | keypadBattery env =>
              exact .inl (station.device.applyPendingKeypadBattery_shown env effect member)
          | lockBattery =>
              exact .inr (station.device.applyPendingLockBattery_shown effect member)
          | _ => cases shows
      | _ => cases shows

/-- The keypad and the lock are found by applying what was parked of them. -/
theorem perform_found (op : StationOp)
    : let before := station.device.bridge.batteryScan
      let after := (station.perform keystream op).1.device.bridge.batteryScan
      (after.keypadFound = true
        → before.keypadFound = true ∨ ∃ advert, station.device.keypadAdvert = some advert)
      ∧ (after.lockFound = true
        → before.lockFound = true ∨ ∃ value, station.device.lockAdvert = some value) := by
  intro before after
  cases handles : op.handlesLevels with
  | false =>
      have nothing := station.perform_parksNothing keystream handles
      exact ⟨fun found => .inl (nothing.keypadFound found),
        fun found => .inl (nothing.lockFound found)⟩
  | true =>
      cases op with
      | scanCallback =>
          obtain ⟨_, _, parked⟩ := station.device.stepScanCallback_parks station.scanCallback
          have same : after = before := by simp only [after, before, perform, parked]
          rw [same]
          exact ⟨.inl, .inl⟩
      | loop op =>
          simp only [after, perform]
          split
          case isFalse => exact ⟨.inl, .inl⟩
          cases op with
          | keypadBattery env =>
              obtain ⟨keypad, lock⟩ := station.device.applyPendingKeypadBattery_found env
              exact ⟨keypad, fun found => .inl (lock.symm.trans found)⟩
          | lockBattery =>
              obtain ⟨lock, keypad⟩ := station.device.applyPendingLockBattery_found
              exact ⟨fun found => .inl (keypad.symm.trans found), lock⟩
          | _ => cases handles
      | _ => cases handles

end Station

/-- As long as the keypad's bytes are valid, every level was seen in a valid advertisement. By
induction on the operations.
-/
theorem LevelsSeen.of_run (keystream : Keystream) (config : DeviceConfig)
    (preferences : Preferences) (env : BootEnv) (ops : List StationOp)
    (valid
      : ∀ move ∈ (stationMachine keystream).traced.history (.booted config preferences env) ops,
          move.2.1 = .scanCallback → move.1.KeypadByteValid)
    : LevelsSeen
        ((stationMachine keystream).traced.history (.booted config preferences env) ops)
        ((stationMachine keystream).run (.booted config preferences env) ops) := by
  have idle := Device.setup_scanIdle config preferences env
  have fresh : LevelsSeen [] (.booted config preferences env) :=
    ⟨by simp [Station.booted], fun _ held => by simp [Station.booted, idle.keypadAdvert] at held,
      by simp [Station.booted], fun _ held => by simp [Station.booted, idle.lockAdvert] at held⟩
  have kept :=
    (stationMachine keystream).traced.history_invariant
      (fun moves station =>
        (∀ move ∈ moves, move.2.1 = .scanCallback → move.1.KeypadByteValid)
        → LevelsSeen moves station)
      (fun _ => fresh)
      (fun moves station op seen all =>
        (seen fun move member => all move (List.mem_append_left _ member)).perform keystream op
          (all _ (List.mem_append_right _ (List.mem_singleton_self _))))
      ops
  rw [Machine.traced_run] at kept
  exact kept valid

/-- What a step publishes and finds, from what was seen before it. -/
theorem LevelsSeen.arePercentages {before : List StationMove} {station : Station}
    (seen : LevelsSeen before station) (keystream : Keystream) (op : StationOp)
    (valid : op = .scanCallback → station.KeypadByteValid)
    : LevelsArePercentages keystream before
        (station, op, (station.perform keystream op).2) where
  keypadShown value member := by
    rcases station.perform_shown keystream member (by simp [DeviceEffect.level]) with
      ⟨advert, parked, shown⟩ | ⟨_, _, shown⟩
    · cases shown
      have source := seen.keypadParked advert parked
      exact ⟨source.le, source⟩
    · cases shown
  lockShown value member := by
    rcases station.perform_shown keystream member (by simp [DeviceEffect.level]) with
      ⟨_, _, shown⟩ | ⟨_, parked, shown⟩
    · cases shown
    · cases shown
      have source := seen.lockParked value parked
      exact ⟨source.le, source⟩
  keypadFound found :=
    ((station.perform_found keystream op).1 found).imp_right fun ⟨advert, parked⟩ =>
      ⟨advert, parked, seen.keypadParked advert parked⟩
  lockFound found :=
    ((station.perform_found keystream op).2 found).imp_right fun ⟨value, parked⟩ =>
      ⟨value, parked, seen.lockParked value parked⟩
  keypadPassed adv known isCallback place none := by
    have percent := Device.keypadPercent_of_valid (valid isCallback adv known place)
    have unmatched : station.device.matchKeypad adv known = .none := by
      rw [none] at percent
      exact Option.map_eq_none_iff.mp percent.symm
    simp only at place
    simp only [Station.perform, place, Device.stepScanCallback, unmatched]
  lockPassed adv _ place none := by
    have unmatched := (station.device.matchLock_eq adv).trans none
    simp only at place
    simp only [Station.perform, place, Device.stepScanCallback, unmatched]

/-- If an advertisement without a valid percentage is passed over, its byte was not taken. -/
theorem LevelsArePercentages.keypadByteValid {keystream : Keystream}
    {before : List StationMove} {move : StationMove}
    (percentages : LevelsArePercentages keystream before move)
    (isCallback : move.2.1 = .scanCallback)
    : move.1.KeypadByteValid := by
  intro adv known place raw byte
  by_contra invalid
  have none : move.1.device.keypadPercent adv known = .none := by
    rw [Device.keypadPercent, byte]
    exact if_neg invalid
  have passed := percentages.keypadPassed adv known isCallback place none
  have value := move.1.device.matchKeypad_value adv known
  rw [byte] at value
  obtain ⟨advert, matched, _⟩ := Option.map_eq_some_iff.mp value
  simp only [Station.perform, place, Device.stepScanCallback, matched] at passed
  cases congrArg Station.scanCallback passed

/-- Along every run: the battery levels that are published are percentages, and stem from
advertisements that carry them, exactly as long as the battery bytes that the callback parses
for the keypad hold percentages.
-/
theorem battery_levels_iff (keystream : Keystream) (config : DeviceConfig)
    (preferences : Preferences) (env : BootEnv) (ops : List StationOp)
    : let moves :=
        (stationMachine keystream).traced.history (.booted config preferences env) ops
      (∀ before move after,
          moves = before ++ move :: after → LevelsArePercentages keystream before move)
      ↔ ∀ move ∈ moves, move.2.1 = .scanCallback → move.1.KeypadByteValid := by
  intro moves
  constructor
  · intro percentages move member
    obtain ⟨before, after, split⟩ := List.append_of_mem member
    exact (percentages before move after split).keypadByteValid
  · intro valid before move after split
    have member : move ∈ moves := by
      rw [split]
      exact List.mem_append_right _ (.head _)
    have validHere := valid move member
    obtain ⟨first, op, second, rfl, rfl, rfl, -⟩ :=
      (stationMachine keystream).traced.history_split_at split
    simp only [Machine.traced_run] at validHere ⊢
    have seen := LevelsSeen.of_run keystream config preferences env first fun earlier among =>
      valid earlier (by
        rw [split]
        exact List.mem_append_left _ among)
    exact seen.arePercentages keystream op validHere

/-- A keypad is linked, a scan window opens, and the keypad advertises the battery byte. -/
def advertisedByte (raw : UInt8) : List StationOp :=
  pairedAs [0x4b]
    ++ [.wizard {}, .loop (.startScan { scanEnv with
          millis := 10000
          scanStarts := true }),
        .advert {
          address := #v[0xF6, 0xE5, 0xD4, 0xC3, 0xB2, 0xA1]
          manufacturerData := some [0x69, 0x09, 0, 0, 0, 0, 0, 0, 0, raw] },
        .scanCallback, .scanCallback, .scanCallback, .scanCallback, .scanCallback,
        .loop (.keypadBattery scanEnv)]

/-- A keypad that advertises `0x7F` is published at 127 %. -/
theorem battery_level_above_100
    : ¬ ∀ (keystream : Keystream) (config : DeviceConfig) (preferences : Preferences)
        (env : BootEnv) (ops : List StationOp),
        ∀ step ∈ (stationMachine keystream).history (.booted config preferences env) ops,
        ∀ value,
          .keypadBattery (some value) ∈ step.effects ∨ .lockBattery (some value) ∈ step.effects
          → value ≤ 100 := by
  intro always
  have shown
      : ∃ step ∈ (stationMachine clearStream).history (.booted {} {} firstBoot)
          (advertisedByte 0x7F), .keypadBattery (some 127) ∈ step.effects := by
    decide +kernel
  obtain ⟨step, member, published⟩ := shown
  exact absurd (always clearStream {} {} firstBoot _ step member 127 (.inl published)) (by decide)

end KeypadBridge
