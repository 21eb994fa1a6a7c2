/-! SwitchBot keypad command decoding: what a decrypted keypad frame asks for. Pure byte
classification, without crypto or transport.
-/

namespace KeypadBridge

/-- Raw bytes as they travel in a frame. -/
abbrev Bytes := List UInt8

/-- How a credential presented itself at the keypad: the method byte of an unlock frame.
Any byte is representable, and only the named ones are known methods.
-/
structure UnlockMethod where
  value : UInt8
  deriving DecidableEq, Repr

namespace UnlockMethod

def unknown : UnlockMethod := ⟨0x00⟩
def pin : UnlockMethod := ⟨0x04⟩
def nfc : UnlockMethod := ⟨0x08⟩
def fingerprint : UnlockMethod := ⟨0x0C⟩
def face : UnlockMethod := ⟨0x18⟩

/-- `unlock_method_name`: the method's name as callbacks and logs report it. -/
def name (method : UnlockMethod) : String :=
  if method = fingerprint then "fingerprint"
  else if method = pin then "pin"
  else if method = nfc then "nfc"
  else if method = face then "face"
  else "unknown"

end UnlockMethod

/-- The command a decrypted keypad frame represents. -/
inductive CommandType where
  | unknown
  | lock
  | unlock
  | statePoll
  | doorbell
  deriving DecidableEq, Repr

/-- A classified frame; the defaults are those of a frame that matched nothing. -/
structure DecodedCommand where
  type : CommandType := .unknown
  method : UnlockMethod := .unknown
  credentialIndex : Int := -1
  deriving DecidableEq, Repr

/-- The two commands that change the lock's security state. -/
def DecodedCommand.isAction (command : DecodedCommand) : Bool :=
  command.type = .lock || command.type = .unlock

def frameLock : Bytes := [0x0F, 0x4E, 0x01, 0x03, 0x00, 0x00, 0x00, 0x00]
def frameAction : Bytes := [0x0F, 0x4E, 0x01, 0x03]
def frameStatePollPrefix : Bytes := [0x0F, 0x4F, 0x81]
def frameDoorbell : Bytes := [0x01, 0x03]

-- Unlock frame layout: header (4), method, marker, index.
def unlockMethodOffset : Nat := 4
def unlockMarkerOffset : Nat := 5
def unlockIndexOffset : Nat := 6
def unlockMarker : UInt8 := 0x80
def unlockIndexBase : UInt8 := 0x0A

/-- The credential slot named by an unlock frame's index byte: biased by `0x0A` for the
Original keypad, raw below that.
-/
def credentialIndexOf (indexByte : UInt8) : Int :=
  if indexByte ≥ unlockIndexBase then (indexByte.toNat : Int) - unlockIndexBase.toNat
  else indexByte.toNat

/-- `decode_lock_command`: classify a decrypted plaintext frame. -/
def decodeLockCommand (plaintext : Bytes) : DecodedCommand :=
  if plaintext.length = frameLock.length ∧ plaintext = frameLock then
    { type := .lock }
  else if plaintext.length = 4
      ∧ plaintext.take frameStatePollPrefix.length = frameStatePollPrefix then
    { type := .statePoll }
  else if plaintext.length = frameDoorbell.length ∧ plaintext = frameDoorbell then
    { type := .doorbell }
  else if plaintext.length ≥ 8 ∧ plaintext.take frameAction.length = frameAction
      ∧ plaintext.getD unlockMarkerOffset 0 = unlockMarker then
    { type := .unlock
      method := ⟨plaintext.getD unlockMethodOffset 0⟩
      credentialIndex := credentialIndexOf (plaintext.getD unlockIndexOffset 0) }
  else {}

end KeypadBridge
