import KeypadBridge.Bridge.SwitchbotKeypadBridge
import KeypadBridge.Foundation.WriteBack
import KeypadBridge.Wizard.PairingUi

/-! The whole component on the main task: what it keeps in memory, what it keeps in flash, and
the functions that link, reset and restart it. Preferences are written back to flash when
they are synchronised; PSA Crypto holds the imported keys.
-/

namespace KeypadBridge
open KeypadBridge.Foundation

-----------------------------------------------------------------------------------------
-- Persisted records
-----------------------------------------------------------------------------------------

def keypadNameMax : Nat := 48

/-- A persisted name: what `std::string::copy` leaves in a zeroed buffer, with the last byte
kept for the terminator.
-/
abbrev NameBuffer := Vector UInt8 48

def NameBuffer.copy (name : Bytes) : NameBuffer :=
  Vector.ofFn fun i => if i.val < keypadNameMax - 1 then name.getD i 0 else 0

/-- The text of a persisted name. -/
def NameBuffer.text (buffer : NameBuffer) : Bytes := cString buffer.toList

/-- The text of a restored keypad name, terminated in its last byte at the latest. -/
def NameBuffer.terminated (buffer : NameBuffer) : Bytes :=
  cString (buffer.toList.take (keypadNameMax - 1))

/-- Identity of the linked keypad, in its persisted layout. -/
structure KeypadInfo where
  mac : MacBytes := Vector.replicate 6 0
  family : UInt8 := 0
  valid : UInt8 := 0
  deriving DecidableEq

/-- The four preference objects. -/
inductive PrefKey where
  | sharedKey
  | keypadName
  | keypadInfo
  | linkedLock
  deriving DecidableEq

/-- What each preference object stores. -/
abbrev PrefRecord : PrefKey → Type
  | .sharedKey => AesKey
  | .keypadName => NameBuffer
  | .keypadInfo => KeypadInfo
  | .linkedLock => LinkedLockInfo

abbrev Preferences := WriteBack PrefRecord

/-- `is_shared_slot`. -/
def isSharedSlot (slot : UInt8) : Bool := slot = sharedSlotOriginal || slot = sharedSlotVision

/-- A lock record of an early build: it held secret bytes, or another slot. -/
def LinkedLockInfo.isLegacy (info : LinkedLockInfo) : Bool :=
  info.valid ≠ 0 && (info.reserved.toList.any (· ≠ 0) || !isSharedSlot info.slotId)

-----------------------------------------------------------------------------------------
-- Data
-----------------------------------------------------------------------------------------

/-- A keypad pairing that the wizard has confirmed and `loop()` has yet to apply. -/
structure PendingPairing where
  name : Bytes
  mac : Bytes
  family : KeypadFamily
  deriving DecidableEq

/-- A lock link that the wizard has confirmed and `loop()` has yet to apply. -/
structure PendingLock where
  name : Bytes
  mac : Bytes
  model : PhysicalLockModel
  slotId : UInt8
  deriving DecidableEq

/-- The identity that a pairing leaves behind, blank when its MAC does not parse. -/
def PendingPairing.keypadInfo (pending : PendingPairing) : KeypadInfo :=
  match parseMacPretty pending.mac with
  | some mac => { mac, family := pending.family.value, valid := 1 }
  | none => {}

/-- The record that a lock link leaves behind, blank when its MAC does not parse. -/
def PendingLock.lockInfo (pending : PendingLock) : LinkedLockInfo :=
  match parseMacPretty pending.mac with
  | some mac =>
      { mac
        valid := 1
        model := pending.model.value
        slotId := pending.slotId
        name := NameBuffer.copy pending.name }
  | none => {}

/-- The identities that the open scan window looks for. -/
structure ScanTargets where
  keypadMac : MacBytes := Vector.replicate 6 0
  keypadFamily : UInt8 := 0
  lockMac : MacBytes := Vector.replicate 6 0
  deriving DecidableEq

/-- A keypad advertisement that the scan callback parsed. -/
structure KeypadAdvert where
  value : Nat
  mac : MacBytes
  family : UInt8
  deriving DecidableEq

/-- Which entities the configuration has, and how often the battery scan runs. -/
structure DeviceConfig where
  hasKeypadEvent : Bool := true
  hasKeypadText : Bool := true
  hasLinkedLockText : Bool := true
  hasKeypadBattery : Bool := true
  hasLockBattery : Bool := true
  batteryScanIntervalMs : UInt32 := 900000
  deriving DecidableEq

/-- The component. A pending apply or a parked advertisement of `none` is its cleared flag; a
last battery level of `none` is the -1 before anything was published.
-/
structure Device where
  config : DeviceConfig := {}
  bridge : SwitchbotKeypadBridge := {}
  aesKeyHandle : PsaKeyId := psaKeyIdNull
  keypadPaired : Bool := false
  keypadInfo : KeypadInfo := {}
  pairingUi : PairingUi := {}
  pendingPairing : Option PendingPairing := none
  pendingLock : Option PendingLock := none
  scanTargets : ScanTargets := {}
  nextBatteryScanAt : UInt32 := 0
  lastKeypadBattery : Option Nat := none
  lastLockBattery : Option Nat := none
  keypadAdvert : Option KeypadAdvert := none
  lockAdvert : Option Nat := none
  failed : Bool := false
  preferences : Preferences := {}
  psaKeys : PsaKeyId → Option AesKey := fun _ => none

/-- What is published, and what else leaves the component. A battery level of `none` is
published as NAN.
-/
inductive DeviceEffect where
  | bridge (effect : BridgeEffect)
  | keypadText (text : Bytes)
  | linkedLockText (text : Bytes)
  | keypadBattery (percent : Option Nat)
  | lockBattery (percent : Option Nat)
  | openScan
  deriving DecidableEq

/-- The outcome of `psa_import_key`: an id, which is never the null id, or a failure. -/
abbrev KeyImport := Option { id : PsaKeyId // id ≠ psaKeyIdNull }

/-- What `reset_pairing` finds outside the component. The first synchronisation of the
preferences follows the new key, the second one everything else.
-/
structure ResetEnv where
  millis : UInt32
  randomKey : AesKey
  keyImport : KeyImport
  isScanning : Bool
  httpdStarts : Bool
  acceptsKey : PrefKey → Bool
  acceptsLinks : PrefKey → Bool

/-- What `setup` finds outside the component. -/
structure BootEnv where
  millis : UInt32
  randomKey : AesKey
  cryptoInit : PsaStatus
  keyImport : KeyImport
  bleReady : Bool
  httpdStarts : Bool
  acceptsKey : PrefKey → Bool
  acceptsLock : PrefKey → Bool

namespace Device

-----------------------------------------------------------------------------------------
-- Publishing
-----------------------------------------------------------------------------------------

def unlinkedText : Bytes := "Unlinked".toList.map fun char => .ofNat char.toNat

/-- `publish_text_or_unlinked_`. -/
def publishTextOrUnlinked (present : Bool) (sensor : Bytes → DeviceEffect) (text : Bytes)
    : List DeviceEffect :=
  if present then [sensor (if text = [] then unlinkedText else text)] else []

/-- `publish_linked_lock_`. -/
def publishLinkedLock (device : Device) : List DeviceEffect :=
  publishTextOrUnlinked device.config.hasLinkedLockText .linkedLockText
    (if device.bridge.lockLinked && device.bridge.linkedLockInfo.valid ≠ 0 then
      NameBuffer.text device.bridge.linkedLockInfo.name
    else [])

/-- `reset_battery_sensor_` on the keypad's sensor. -/
def resetKeypadBattery (device : Device) : Device × List DeviceEffect :=
  ({ device with lastKeypadBattery := none },
    if device.config.hasKeypadBattery then [.keypadBattery none] else [])

/-- `clear_lock_battery_`. -/
def clearLockBattery (device : Device) : Device × List DeviceEffect :=
  ({ device with lastLockBattery := none },
    if device.config.hasLockBattery then [.lockBattery none] else [])

-----------------------------------------------------------------------------------------
-- Preferences and keys
-----------------------------------------------------------------------------------------

def save (device : Device) (key : PrefKey) (record : PrefRecord key) : Device :=
  { device with preferences := device.preferences.save key record }

def sync (device : Device) (accepts : PrefKey → Bool) : Device :=
  { device with preferences := device.preferences.sync accepts }

/-- `save_and_sync_`. -/
def saveAndSync (device : Device) (key : PrefKey) (record : PrefRecord key)
    (accepts : PrefKey → Bool)
    : Device :=
  (device.save key record).sync accepts

/-- `create_shared_key_`. -/
def createSharedKey (device : Device) (random : AesKey) (accepts : PrefKey → Bool) : Device :=
  let device := { device with bridge := { device.bridge with sharedKey := random } }
  device.saveAndSync .sharedKey device.bridge.sharedKey accepts

/-- The handle imported earlier is dropped, so that the slot can be re-keyed in place. -/
def destroyAesKey (device : Device) : Device :=
  { device with
    psaKeys :=
      if device.aesKeyHandle ≠ psaKeyIdNull then
        Function.update device.psaKeys device.aesKeyHandle none
      else device.psaKeys
    aesKeyHandle := psaKeyIdNull }

/-- `import_aes_key_`. -/
def importAesKey (device : Device) (keyImport : KeyImport) : Device × Bool :=
  let device := device.destroyAesKey
  match keyImport with
  | none => (device, false)
  | some id =>
      ({ device with
          psaKeys := Function.update device.psaKeys id (some device.bridge.sharedKey)
          aesKeyHandle := id
          bridge := { device.bridge with session := device.bridge.session.setAesKey id } },
        true)

-----------------------------------------------------------------------------------------
-- Start-up
-----------------------------------------------------------------------------------------

/-- `setup` loads the shared key, or creates one on first boot. -/
def restoreKey (device : Device) (env : BootEnv) : Device :=
  match device.preferences.load .sharedKey with
  | some key => { device with bridge := { device.bridge with sharedKey := key } }
  | none => device.createSharedKey env.randomKey env.acceptsKey

/-- `setup` restores the linked keypad: it is linked if its stored name is not empty. -/
def restoreKeypad (device : Device) : Device × List DeviceEffect :=
  let name : NameBuffer :=
    (device.preferences.load .keypadName).getD (Vector.replicate 48 0)
  let haveKeypad : Bool := name.toList.getD 0 0 ≠ 0
  let keypadInfo := (device.preferences.load .keypadInfo).getD {}
  let ui := device.pairingUi.setKeypadPaired haveKeypad
  ({ device with
      keypadPaired := haveKeypad
      keypadInfo
      pairingUi :=
        if keypadInfo.valid ≠ 0 then ui.setKeypadFamily ⟨keypadInfo.family⟩ else ui },
    publishTextOrUnlinked device.config.hasKeypadText .keypadText name.terminated)

/-- `setup` restores the linked lock; a record of an early build is overwritten. -/
def restoreLock (device : Device) (env : BootEnv) : Device × List DeviceEffect :=
  let stored := (device.preferences.load .linkedLock).getD {}
  let device :=
    if stored.isLegacy then device.saveAndSync .linkedLock {} env.acceptsLock else device
  let linkedLockInfo := if stored.isLegacy then {} else stored
  let lockLinked : Bool := linkedLockInfo.valid ≠ 0
  let device :=
    { device with
      bridge := { device.bridge with linkedLockInfo, lockLinked }
      pairingUi := device.pairingUi.setLockLinked lockLinked
      nextBatteryScanAt := env.millis + 30000 }
  let published := device.publishLinkedLock
  let (device, cleared) := if lockLinked then (device, []) else device.clearLockBattery
  (device, published ++ cleared)

/-- The first part of `setup`: what is loaded from flash, or created on first boot. -/
def restoreLinks (device : Device) (env : BootEnv) : Device × List DeviceEffect :=
  let (device, keypadShown) := (device.restoreKey env).restoreKeypad
  let (device, lockShown) := device.restoreLock env
  (device, keypadShown ++ lockShown)

/-- The second part of `setup`: keys, Bluetooth and, with no keypad linked, the wizard. The
wizard's callbacks are registered here, on the paths on which `loop()` will run.
-/
def bringUp (device : Device) (env : BootEnv) : Device :=
  if env.cryptoInit ≠ psaSuccess then { device with failed := true }
  else
    let (device, imported) := device.importAesKey env.keyImport
    if !imported || !env.bleReady then { device with failed := true }
    else
      let device :=
        { device with pairingUi := device.pairingUi.setSharedKey device.bridge.sharedKey }
      if device.keypadPaired then device
      else { device with pairingUi := (device.pairingUi.start env.httpdStarts env.millis).1 }

/-- Memory as a start leaves it, before `setup` runs: the configuration and the flash. -/
def powerOn (config : DeviceConfig) (preferences : Preferences) : Device where
  config := config
  bridge := { hasKeypadEvent := config.hasKeypadEvent }
  preferences := preferences.restarted

/-- `setup`. -/
def setup (config : DeviceConfig) (preferences : Preferences) (env : BootEnv)
    : Device × List DeviceEffect :=
  let (device, published) := (powerOn config preferences).restoreLinks env
  (device.bringUp env, published)

/-- A restart: memory is lost, flash stays, and `setup` runs. -/
def reboot (device : Device) (env : BootEnv) : Device × List DeviceEffect :=
  setup device.config device.preferences env

-----------------------------------------------------------------------------------------
-- Linking
-----------------------------------------------------------------------------------------

/-- The wizard's callback for a confirmed pairing. -/
def onPaired (device : Device) (name mac : Bytes) (family : KeypadFamily) : Device :=
  { device with pendingPairing := some { name, mac, family } }

/-- The wizard's callback for a confirmed lock link. -/
def onLockLinked (device : Device) (name mac : Bytes) (model : PhysicalLockModel)
    (slotId : UInt8)
    : Device :=
  { device with pendingLock := some { name, mac, model, slotId } }

/-- `apply_pending_pairing_` behind its flag, up to the wizard's flag for a paired keypad. -/
def storePaired (device : Device) (pending : PendingPairing) (accepts : PrefKey → Bool)
    : Device :=
  let device := device.save .keypadName (NameBuffer.copy pending.name)
  let device := { device with keypadInfo := pending.keypadInfo }
  let device := device.saveAndSync .keypadInfo device.keypadInfo accepts
  { device with
    keypadPaired := true
    pairingUi := device.pairingUi.setKeypadPaired true }

/-- The rest of `apply_pending_pairing_`, which gives the wizard the family. -/
def storeFamily (device : Device) (pending : PendingPairing) (millis : UInt32)
    : Device × List DeviceEffect :=
  ({ device with
      pairingUi := device.pairingUi.setKeypadFamily pending.family
      lastKeypadBattery := none
      nextBatteryScanAt := millis + 10000 },
    publishTextOrUnlinked device.config.hasKeypadText .keypadText (cString pending.name))

/-- `apply_pending_pairing_`. -/
def applyPendingPairing (device : Device) (millis : UInt32) (accepts : PrefKey → Bool)
    : Device × List DeviceEffect :=
  match device.pendingPairing with
  | none => (device, [])
  | some pending =>
      ({ device with pendingPairing := none }.storePaired pending accepts).storeFamily pending
        millis

/-- `apply_pending_lock_link_` behind its flag. -/
def storeLinked (device : Device) (pending : PendingLock) (millis : UInt32)
    (accepts : PrefKey → Bool)
    : Device × List DeviceEffect :=
  let info := pending.lockInfo
  let lockLinked : Bool := info.valid ≠ 0
  let device :=
    { device with
      bridge := { device.bridge with linkedLockInfo := info, lockLinked }
      pairingUi := device.pairingUi.setLockLinked lockLinked }
  let device := device.saveAndSync .linkedLock info accepts
  let published := device.publishLinkedLock
  let (device, cleared) := device.clearLockBattery
  ({ device with nextBatteryScanAt := millis + 5000 }, published ++ cleared)

/-- `apply_pending_lock_link_`. -/
def applyPendingLockLink (device : Device) (millis : UInt32) (accepts : PrefKey → Bool)
    : Device × List DeviceEffect :=
  match device.pendingLock with
  | none => (device, [])
  | some pending => { device with pendingLock := none }.storeLinked pending millis accepts

-----------------------------------------------------------------------------------------
-- Resetting
-----------------------------------------------------------------------------------------

/-- `stop_battery_scan_`, on the whole component. -/
def stopBatteryScan (device : Device) (isScanning : Bool) : Device × List DeviceEffect :=
  let (bridge, effects) := device.bridge.stopBatteryScan isScanning
  ({ device with bridge }, effects.map .bridge)

/-- The part of `reset_pairing` behind the key rotation. -/
def forgetLinks (device : Device) (env : ResetEnv) : Device × List DeviceEffect :=
  let (device, stopped) := device.stopBatteryScan env.isScanning
  let device := device.save .keypadName (Vector.replicate 48 0)
  let device := { device with keypadInfo := {} }
  let device := device.save .keypadInfo device.keypadInfo
  let device := { device with bridge := { device.bridge with linkedLockInfo := {} } }
  let device := device.save .linkedLock device.bridge.linkedLockInfo
  let device := device.sync env.acceptsLinks
  let unnamed := publishTextOrUnlinked device.config.hasKeypadText .keypadText []
  let device :=
    { device with
      bridge := { device.bridge with lockLinked := false }
      pairingUi := device.pairingUi.setLockLinked false }
  let unlinked := device.publishLinkedLock
  let (device, lockCleared) := device.clearLockBattery
  let device :=
    { device with
      keypadPaired := false
      pairingUi := (device.pairingUi.setKeypadPaired false).setKeypadFamily .original }
  let (device, keypadCleared) := device.resetKeypadBattery
  let device :=
    { device with
      bridge := { device.bridge with session := device.bridge.session.reset.forgetSlot }
      pairingUi :=
        ((device.pairingUi.setSharedKey device.bridge.sharedKey).start env.httpdStarts
          env.millis).1 }
  (device, stopped ++ unnamed ++ unlinked ++ lockCleared ++ keypadCleared)

/-- `reset_pairing`. A failed import leaves it halfway: the key has been rotated already. -/
def resetPairing (device : Device) (env : ResetEnv) : Device × List DeviceEffect :=
  let device := device.createSharedKey env.randomKey env.acceptsKey
  let (device, imported) := device.importAesKey env.keyImport
  if imported then device.forgetLinks env else (device, [])

end Device

end KeypadBridge
