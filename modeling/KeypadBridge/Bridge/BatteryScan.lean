import KeypadBridge.Bridge.Device

/-! The battery refresh. The main task opens and closes scan windows and applies what they
found; the scan callback runs on the NimBLE task, reads the window's flags one at a time and
parks what it parsed.
-/

namespace KeypadBridge
open KeypadBridge.Foundation

def batteryScanRetryMs : UInt32 := 30000

/-- What the battery functions of `loop()` find outside the component. -/
structure ScanEnv where
  millis : UInt32
  isScanning : Bool
  scanStarts : Bool
  connected : Bool
  accepts : PrefKey → Bool

namespace Device

-----------------------------------------------------------------------------------------
-- Applying what was parked
-----------------------------------------------------------------------------------------

/-- `publish_battery_if_changed_` on the keypad's sensor. -/
def publishKeypadBattery (device : Device) (value : Nat) : Device × List DeviceEffect :=
  if device.config.hasKeypadBattery ∧ device.lastKeypadBattery ≠ some value then
    ({ device with lastKeypadBattery := some value }, [.keypadBattery (some value)])
  else (device, [])

/-- `publish_battery_if_changed_` on the lock's sensor. -/
def publishLockBattery (device : Device) (value : Nat) : Device × List DeviceEffect :=
  if device.config.hasLockBattery ∧ device.lastLockBattery ≠ some value then
    ({ device with lastLockBattery := some value }, [.lockBattery (some value)])
  else (device, [])

/-- An advertised identity is adopted when none is known. -/
def learnKeypad (device : Device) (advert : KeypadAdvert) (accepts : PrefKey → Bool)
    : Device :=
  if device.keypadInfo.valid = 0 then
    let device :=
      { device with
        keypadInfo := { mac := advert.mac, family := advert.family, valid := 1 } }
    device.saveAndSync .keypadInfo device.keypadInfo accepts
  else device

/-- `apply_pending_keypad_battery_`. -/
def applyPendingKeypadBattery (device : Device) (env : ScanEnv)
    : Device × List DeviceEffect :=
  match device.keypadAdvert with
  | none => (device, [])
  | some advert =>
      let device := { device with keypadAdvert := none }.learnKeypad advert env.accepts
      let scan := { device.bridge.batteryScan with keypadFound := true }
      { device with bridge := { device.bridge with batteryScan := scan } }.publishKeypadBattery
        advert.value

/-- `apply_pending_lock_battery_`. -/
def applyPendingLockBattery (device : Device) : Device × List DeviceEffect :=
  match device.lockAdvert with
  | none => (device, [])
  | some value =>
      let scan := { device.bridge.batteryScan with lockFound := true }
      { device with
        lockAdvert := none
        bridge := { device.bridge with batteryScan := scan } }.publishLockBattery value

-----------------------------------------------------------------------------------------
-- Scan windows
-----------------------------------------------------------------------------------------

/-- The next scan is due at `due`. -/
def scheduleScan (device : Device) (due : UInt32) : Device :=
  { device with nextBatteryScanAt := due }

/-- `maybe_finish_battery_scan_`. -/
def maybeFinishBatteryScan (device : Device) (env : ScanEnv) : Device × List DeviceEffect :=
  let scan := device.bridge.batteryScan
  if !scan.active then (device, [])
  else if scan.wantsKeypad && !scan.keypadFound then (device, [])
  else if scan.wantsLock && !scan.lockFound then (device, [])
  else
    let (device, effects) := device.stopBatteryScan env.isScanning
    (device.scheduleScan (env.millis + device.config.batteryScanIntervalMs), effects)

/-- `background_ble_busy_`. -/
def backgroundBleBusy (device : Device) (connected : Bool) : Bool :=
  device.pairingUi.server || device.bridge.lockRelayBusy || connected

/-- The window that `maybe_start_battery_scan_` opens. -/
def openBatteryScan (device : Device) (wantsKeypad wantsLock : Bool) : Device :=
  let keypadKnown : Bool := device.keypadInfo.valid ≠ 0
  { device with
    bridge :=
      { device.bridge with
        batteryScan :=
          { active := true
            wantsKeypad
            wantsLock
            keypadFound := false
            lockFound := false
            keypadKnown
            lockModel :=
              if wantsLock then ⟨device.bridge.linkedLockInfo.model⟩ else .unknown } }
    scanTargets :=
      { keypadMac :=
          if keypadKnown then device.keypadInfo.mac else device.scanTargets.keypadMac
        keypadFamily :=
          if keypadKnown then device.keypadInfo.family else device.scanTargets.keypadFamily
        lockMac :=
          if wantsLock then device.bridge.linkedLockInfo.mac
          else device.scanTargets.lockMac } }

/-- `maybe_start_battery_scan_`. -/
def maybeStartBatteryScan (device : Device) (env : ScanEnv) : Device × List DeviceEffect :=
  let retry := env.millis + batteryScanRetryMs
  let wantsKeypad := device.config.hasKeypadBattery && device.keypadPaired
  let wantsLock :=
    device.config.hasLockBattery && device.bridge.lockLinked
      && device.bridge.linkedLockInfo.valid ≠ 0
  if device.bridge.batteryScan.active then
    if env.isScanning then (device, [])
    else
      let (device, effects) := device.stopBatteryScan env.isScanning
      (device.scheduleScan (env.millis + device.config.batteryScanIntervalMs), effects)
  else if (env.millis - device.nextBatteryScanAt).toInt32 < 0 then (device, [])
  else if !wantsKeypad && !wantsLock then (device.scheduleScan retry, [])
  else if device.backgroundBleBusy env.connected || env.isScanning then (device.scheduleScan retry, [])
  else
    let device := device.openBatteryScan wantsKeypad wantsLock
    if env.scanStarts then (device, [.openScan])
    else
      let (device, effects) := device.stopBatteryScan env.isScanning
      (device.scheduleScan retry, effects)

end Device

-----------------------------------------------------------------------------------------
-- The scan callback
-----------------------------------------------------------------------------------------

/-- How far `handle_battery_advert_` is. Each of its steps reads one flag of the window, or
parks what it parsed.
-/
inductive ScanCallback where
  | idle
  /-- The window was found open. -/
  | gated (adv : AdvertisedDevice)
  /-- The window was found to want the keypad. -/
  | keypadWanted (adv : AdvertisedDevice)
  /-- And not to have found it yet. -/
  | keypadMissing (adv : AdvertisedDevice)
  /-- Whether the keypad's identity is known was read. -/
  | keypadSought (adv : AdvertisedDevice) (known : Bool)
  /-- A keypad's battery level was parsed. -/
  | keypadParsed (adv : AdvertisedDevice) (advert : KeypadAdvert)
  /-- The keypad is dealt with, and the lock comes next. -/
  | lockNext (adv : AdvertisedDevice)
  | lockWanted (adv : AdvertisedDevice)
  | lockMissing (adv : AdvertisedDevice)
  | lockParsed (value : Nat)
  deriving DecidableEq

namespace Device

/-- The keypad's advertisement, if this is one: the known keypad's by its address, else the
first one with a keypad's signature.
-/
def matchKeypad (device : Device) (adv : AdvertisedDevice) (known : Bool)
    : Option KeypadAdvert :=
  let ident := identifyKeypad adv.serviceData
  let isMatch : Bool :=
    if known then adv.addrBytes = device.scanTargets.keypadMac else ident.isKeypad
  let family := if known then ⟨device.scanTargets.keypadFamily⟩ else ident.family
  if isMatch then
    (parseKeypadBattery family adv.serviceData (adv.manufacturerData.getD [])).map fun value =>
      { value, mac := adv.addrBytes, family := family.value }
  else none

/-- The lock's battery level, if this is the lock's advertisement. -/
def matchLock (device : Device) (adv : AdvertisedDevice) : Option Nat :=
  if adv.addrBytes = device.scanTargets.lockMac then
    parseLockBattery device.bridge.batteryScan.lockModel adv.serviceData
      adv.manufacturerPayload
  else none

/-- One step of `handle_battery_advert_`. -/
def stepScanCallback (device : Device) : ScanCallback → ScanCallback × Device
  | .idle => (.idle, device)
  | .gated adv =>
      (if device.bridge.batteryScan.wantsKeypad then .keypadWanted adv else .lockNext adv,
        device)
  | .keypadWanted adv =>
      (if device.bridge.batteryScan.keypadFound then .lockNext adv else .keypadMissing adv,
        device)
  | .keypadMissing adv =>
      (.keypadSought adv device.bridge.batteryScan.keypadKnown, device)
  | .keypadSought adv known =>
      match device.matchKeypad adv known with
      | some advert => (.keypadParsed adv advert, device)
      | none => (.lockNext adv, device)
  | .keypadParsed adv advert => (.lockNext adv, { device with keypadAdvert := some advert })
  | .lockNext adv =>
      (if device.bridge.batteryScan.wantsLock then .lockWanted adv else .idle, device)
  | .lockWanted adv =>
      (if device.bridge.batteryScan.lockFound then .idle else .lockMissing adv, device)
  | .lockMissing adv =>
      match device.matchLock adv with
      | some value => (.lockParsed value, device)
      | none => (.idle, device)
  | .lockParsed value => (.idle, { device with lockAdvert := some value })

/-- A new advertisement: dropped unless the scan window is open. -/
def receiveAdvert (device : Device) (adv : AdvertisedDevice) : ScanCallback :=
  if device.bridge.batteryScan.active then .gated adv else .idle

end Device

end KeypadBridge
