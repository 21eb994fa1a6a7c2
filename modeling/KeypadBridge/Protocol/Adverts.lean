import KeypadBridge.Client.PhysicalLock
import KeypadBridge.Protocol.MacUtils

/-! What BLE advertisements of SwitchBot keypads and locks say: the keypad's protocol family
and the battery percentages.
-/

namespace KeypadBridge

/-- The pairing-protocol dialect, stored as one byte. Any byte can be stored; only two are
families.
-/
structure KeypadFamily where
  value : UInt8
  deriving DecidableEq, Repr

namespace KeypadFamily

def original : KeypadFamily := ⟨0⟩
def vision : KeypadFamily := ⟨1⟩

/-- `keypad_family_str`. -/
def name (family : KeypadFamily) : String := if family = vision then "vision" else "original"

/-- `keypad_family_from_str`: anything unrecognised is the Original family. -/
def ofName (text : String) : KeypadFamily := if text = "vision" then vision else original

end KeypadFamily

structure KeypadIdent where
  isKeypad : Bool := false
  family : KeypadFamily := .original
  deriving DecidableEq, Repr

def keypadTypeByte : UInt8 := 0x79

/-- `suffix_is`: a four-byte window that starts with either form of the encryption bit. -/
def suffixIs (window : Bytes) (b1 b2 b3 : UInt8) : Bool :=
  (window.getD 0 0xFF = 0x00 || window.getD 0 0xFF = 0x01) && window.getD 1 0 = b1
    && window.getD 2 0 = b2 && window.getD 3 0 = b3

/-- `identify_keypad`, from the service data of an advertisement. -/
def identifyKeypad (serviceData : Bytes) : KeypadIdent :=
  let visionAt (start : Nat) :=
    let window := serviceData.drop start
    suffixIs window 0x11 0x03 0x78 || suffixIs window 0x11 0x51 0x98
  if serviceData.length = 0 then {}
  else if serviceData.getD 0 0 &&& 0x7F = keypadTypeByte then ⟨true, .original⟩
  else if serviceData.length > 5
      && (visionAt (serviceData.length - 4) || visionAt (serviceData.length - 5)) then
    ⟨true, .vision⟩
  else {}

/-- `parse_keypad_battery`; `none` where the source returns -1. -/
def parseKeypadBattery (family : KeypadFamily) (serviceData manufacturerData : Bytes)
    : Option Nat :=
  if family = .original then
    if serviceData.length < 3 then none else some (serviceData.getD 2 0 &&& 0x7F).toNat
  else if manufacturerData.length < 10 then none
  else if manufacturerData.getD 0 0 ≠ 0x69 ∨ manufacturerData.getD 1 0 ≠ 0x09 then none
  else some (manufacturerData.getD 9 0 &&& 0x7F).toNat

/-- `valid_percent`; `none` where the source returns -1. -/
def validPercent (raw : UInt8) : Option Nat :=
  let value := (raw &&& 0x7F).toNat
  if value ≤ 100 then some value else none

/-- `parse_lock_battery`; `none` where the source returns -1. -/
def parseLockBattery (model : PhysicalLockModel) (serviceData manufacturerPayload : Bytes)
    : Option Nat :=
  if model = .lock ∨ model = .lockLite ∨ model = .lockVision then
    if serviceData.length < 3 then none else validPercent (serviceData.getD 2 0)
  else if model = .lockPro ∨ model = .lockProWifi ∨ model = .lockUltra
      ∨ model = .lockVisionPro then
    if manufacturerPayload.length < 10 then none
    else validPercent (manufacturerPayload.getD 9 0)
  else none

/-- A lock of unknown model shows no level. -/
theorem parseLockBattery_unknown (serviceData manufacturerPayload : Bytes)
    : parseLockBattery .unknown serviceData manufacturerPayload = none := by
  unfold parseLockBattery
  rw [if_neg (by decide), if_neg (by decide)]

/-- An advertisement as NimBLE delivers it. The address is little-endian; what its `toString` and
`isNull` say is NimBLE's, and any answer can be.
-/
structure AdvertisedDevice where
  address : MacBytes
  addressText : Bytes := MacBytes.text address.reverse
  addressIsNull : Bool := false
  serviceDataFd3d : Bytes := []
  serviceData0d00 : Bytes := []
  manufacturerData : Option Bytes := none
  deriving DecidableEq

namespace AdvertisedDevice

/-- `addr_bytes`. -/
def addrBytes (adv : AdvertisedDevice) : MacBytes := adv.address.reverse

/-- `switchbot_service_data`. -/
def serviceData (adv : AdvertisedDevice) : Bytes :=
  if adv.serviceDataFd3d.isEmpty then adv.serviceData0d00 else adv.serviceDataFd3d

/-- `switchbot_manufacturer_payload`: what follows SwitchBot's company id. -/
def manufacturerPayload (adv : AdvertisedDevice) : Bytes :=
  match adv.manufacturerData with
  | some (0x69 :: 0x09 :: payload) => payload
  | _ => []

end AdvertisedDevice

end KeypadBridge
