import KeypadBridge.Client.PhysicalLock
import KeypadBridge.Foundation.Machine
import KeypadBridge.Session.LockSession

/-! The bridge's receive path: the queue that `loop()` drains, the dispatch of a processed
frame, the local reply to the keypad, and the relay to a linked physical lock. What leaves
the component is a list of effects, in the order in which the calls are made.
-/

namespace KeypadBridge
open KeypadBridge.Foundation

-----------------------------------------------------------------------------------------
-- Data
-----------------------------------------------------------------------------------------

inductive LockState where
  | locked
  | unlocked
  deriving DecidableEq, Repr

/-- The state byte as the keypad reads it. -/
def LockState.byte : LockState → UInt8
  | .locked => 0x81
  | .unlocked => 0x91

def responseLock : Bytes := [0x90, 0x0A, 0x7F, 0x7F, 0x00]
def responseUnlock : Bytes := [0x98, 0x08, 0x7F, 0x7F, 0x00]

def statePayloadTail : Bytes :=
  [0x08, 0x08, 0x41, 0x00, 0x00, 0x00, 0x00, 0x80, 0xF2, 0xFB, 0x00, 0x00, 0x00]

/-- The linked physical lock, in its persisted layout. -/
structure LinkedLockInfo where
  mac : Vector UInt8 6 := Vector.replicate 6 0
  reserved : Vector UInt8 16 := Vector.replicate 16 0
  slotId : UInt8 := 0
  model : UInt8 := 0
  valid : UInt8 := 0
  name : Vector UInt8 48 := Vector.replicate 48 0
  deriving DecidableEq

/-- The battery scan window, as far as stopping it touches it. -/
structure BatteryScan where
  active : Bool := false
  wantsKeypad : Bool := false
  wantsLock : Bool := false
  keypadFound : Bool := false
  lockFound : Bool := false
  keypadKnown : Bool := false
  lockModel : PhysicalLockModel := .unknown
  deriving DecidableEq

/-- The members that the receive path reads or writes. -/
structure SwitchbotKeypadBridge where
  session : LockSession := {}
  lockState : LockState := .locked
  lockLinked : Bool := false
  linkedLockInfo : LinkedLockInfo := {}
  sharedKey : AesKey := Vector.replicate 16 0
  lockRelayBusy : Bool := false
  batteryScan : BatteryScan := {}
  hasKeypadEvent : Bool := false
  deriving DecidableEq

inductive QueuedEvent where
  | connect
  | disconnect
  | rx (frame : Bytes)
  deriving DecidableEq

/-- What handling one event finds outside the component. -/
structure RxEnv extends FrameEnv where
  isScanning : Bool
  relayTaskCreated : Bool

/-- A call that leaves the component. -/
inductive BridgeEffect where
  | notify (data : Bytes)
  | keypadEvent (name : String)
  | onLock
  | onUnlock (method : String) (index : Int)
  | onDoorbell
  | relayTask (config : PhysicalLockClient.Config) (plaintext : Bytes)
    (command : DecodedCommand)
  | stopScan
  | clearScanResults
  | startAdvertising
  deriving DecidableEq

namespace SwitchbotKeypadBridge

-----------------------------------------------------------------------------------------
-- Eventing
-----------------------------------------------------------------------------------------

def triggerKeypadEvent (bridge : SwitchbotKeypadBridge) (name : String)
    : List BridgeEffect :=
  if bridge.hasKeypadEvent then [.keypadEvent name] else []

/-- `publish_lock_`. -/
def publishLock (bridge : SwitchbotKeypadBridge) : List BridgeEffect :=
  bridge.triggerKeypadEvent "Lock" ++ [.onLock]

/-- `publish_unlock_`. -/
def publishUnlock (bridge : SwitchbotKeypadBridge) (method : UnlockMethod) (index : Int)
    : List BridgeEffect :=
  bridge.triggerKeypadEvent "Unlock" ++ [.onUnlock method.name index]

/-- `publish_doorbell_`. -/
def publishDoorbell (bridge : SwitchbotKeypadBridge) : List BridgeEffect :=
  bridge.triggerKeypadEvent "Doorbell" ++ [.onDoorbell]

-----------------------------------------------------------------------------------------
-- The local reply
-----------------------------------------------------------------------------------------

/-- `send_ack_`: the bare header. -/
def sendAck (header : FrameHeader) : List BridgeEffect :=
  [.notify [0x01, header.keyId, header.seqA, header.seqB]]

section

variable (keystream : Keystream) (env : RxEnv)

/-- `send_encrypted_response_`: nothing is sent when the session could not encrypt. -/
def sendEncryptedResponse (bridge : SwitchbotKeypadBridge) (header : FrameHeader)
    (plaintext : Bytes)
    : List BridgeEffect :=
  match bridge.session.encryptResponse keystream env.toFrameEnv header plaintext with
  | none => []
  | some packet => [.notify packet]

/-- `handle_state_poll_`. -/
def handleStatePoll (bridge : SwitchbotKeypadBridge) (header : FrameHeader)
    : List BridgeEffect :=
  bridge.sendEncryptedResponse keystream env header
    (bridge.lockState.byte :: statePayloadTail)

/-- `send_local_response_`: the answer to the keypad, whether or not a lock is linked. -/
def sendLocalResponse (bridge : SwitchbotKeypadBridge) (header : FrameHeader)
    (command : DecodedCommand)
    : List BridgeEffect :=
  match command.type with
  | .lock => bridge.sendEncryptedResponse keystream env header responseLock
  | .unlock => bridge.sendEncryptedResponse keystream env header responseUnlock
  | .statePoll => bridge.handleStatePoll keystream env header
  | .doorbell => sendAck header
  | .unknown => sendAck header

end

-----------------------------------------------------------------------------------------
-- The relay to the physical lock
-----------------------------------------------------------------------------------------

/-- `stop_battery_scan_`. -/
def stopBatteryScan (bridge : SwitchbotKeypadBridge) (isScanning : Bool)
    : SwitchbotKeypadBridge × List BridgeEffect :=
  ({ bridge with batteryScan := {} },
    if bridge.batteryScan.active then
      (if isScanning then [.stopScan] else []) ++ [.clearScanResults]
    else [])

/-- The digits of `%02X`. -/
def hexByte (byte : UInt8) : String :=
  let digit (n : Nat) : Char := "0123456789ABCDEF".toList.getD n '0'
  String.ofList [digit (byte.toNat / 16), digit (byte.toNat % 16)]

/-- `physical_lock_config_`: blank unless a lock is linked. -/
def physicalLockConfig (bridge : SwitchbotKeypadBridge) (slotId : UInt8)
    : PhysicalLockClient.Config :=
  if bridge.linkedLockInfo.valid ≠ 0 then
    { mac := ":".intercalate (bridge.linkedLockInfo.mac.toList.map hexByte)
      model := ⟨bridge.linkedLockInfo.model⟩
      keyId := slotId
      key := bridge.sharedKey }
  else {}

/-- `relay_to_lock_async_`: hand the decrypted plaintext to a relay task, one at a time. -/
def relayToLockAsync (bridge : SwitchbotKeypadBridge) (env : RxEnv) (header : FrameHeader)
    (command : DecodedCommand)
    : Bool × SwitchbotKeypadBridge × List BridgeEffect :=
  if bridge.session.plaintextSize = 0 then (false, bridge, [])
  else if bridge.lockRelayBusy then (false, bridge, [])
  else
    let (bridge, stopped) :=
      { bridge with lockRelayBusy := true }.stopBatteryScan env.isScanning
    if env.relayTaskCreated then
      (true, bridge,
        stopped
          ++ [.relayTask (bridge.physicalLockConfig header.keyId)
                bridge.session.plaintextBytes command])
    else (false, { bridge with lockRelayBusy := false }, stopped)

-----------------------------------------------------------------------------------------
-- Dispatch
-----------------------------------------------------------------------------------------

/-- The first switch of `handle_command_`: the decoded command is published at once. -/
def publishCommand (bridge : SwitchbotKeypadBridge) (command : DecodedCommand)
    : SwitchbotKeypadBridge × List BridgeEffect :=
  match command.type with
  | .lock => ({ bridge with lockState := .locked }, bridge.publishLock)
  | .unlock =>
      ({ bridge with lockState := .unlocked },
        bridge.publishUnlock command.method command.credentialIndex)
  | .statePoll => (bridge, [])
  | .doorbell => (bridge, bridge.publishDoorbell)
  | .unknown => (bridge, [])

section

variable (keystream : Keystream) (env : RxEnv)

/-- `handle_command_`. -/
def handleCommand (bridge : SwitchbotKeypadBridge) (header : FrameHeader)
    (command : DecodedCommand)
    : SwitchbotKeypadBridge × List BridgeEffect :=
  let (bridge, published) := bridge.publishCommand command
  let replied := bridge.sendLocalResponse keystream env header command
  if bridge.lockLinked then
    match command.type with
    | .lock | .unlock | .unknown =>
        let (_, bridge, relayed) := bridge.relayToLockAsync env header command
        (bridge, published ++ replied ++ relayed)
    | .statePoll | .doorbell => (bridge, published ++ replied)
  else (bridge, published ++ replied)

/-- `on_rx_frame_`. -/
def onRxFrame (bridge : SwitchbotKeypadBridge) (frame : Bytes)
    : SwitchbotKeypadBridge × List BridgeEffect :=
  let outcome := bridge.session.processFrame keystream env.toFrameEnv frame
  let bridge := { bridge with session := outcome.session }
  match outcome.action with
  | .sendIv => (bridge, [.notify bridge.session.ivResponse.toList])
  | .command => bridge.handleCommand keystream env bridge.session.header bridge.session.command
  | .none => (bridge, [])

/-- One turn of the loop in which `loop()` drains its queue. -/
def drainEvent (bridge : SwitchbotKeypadBridge)
    : QueuedEvent → SwitchbotKeypadBridge × List BridgeEffect
  | .connect => ({ bridge with session := bridge.session.resetTransport }, [])
  | .disconnect =>
      ({ bridge with session := bridge.session.resetTransport }, [.startAdvertising])
  | .rx frame => bridge.onRxFrame keystream env frame

end

-----------------------------------------------------------------------------------------
-- Runs
-----------------------------------------------------------------------------------------

/-- The receive path's members as `setup()` leaves them: the imported key in the session,
and the lock link restored from flash.
-/
def afterSetup (aesKey : PsaKeyId) (sharedKey : AesKey) (linkedLockInfo : LinkedLockInfo)
    (hasKeypadEvent : Bool)
    : SwitchbotKeypadBridge where
  session := ({} : LockSession).setAesKey aesKey
  lockLinked := linkedLockInfo.valid ≠ 0
  linkedLockInfo := linkedLockInfo
  sharedKey := sharedKey
  hasKeypadEvent := hasKeypadEvent

/-- What the rest of `loop()`, the relay task, the wizard and the battery scan may leave in
the members the receive path reads. A completed `reset_pairing()` also gives the session a
new key handle, resets it and forgets its slot.
-/
structure Interlude where
  lockLinked : Bool
  linkedLockInfo : LinkedLockInfo
  sharedKey : AesKey
  lockRelayBusy : Bool
  batteryScan : BatteryScan
  rekeyed : Option PsaKeyId

def afterInterlude (bridge : SwitchbotKeypadBridge) (interlude : Interlude)
    : SwitchbotKeypadBridge :=
  { bridge with
    session :=
      match interlude.rekeyed with
      | none => bridge.session
      | some aesKey => (bridge.session.setAesKey aesKey).reset.forgetSlot
    lockLinked := interlude.lockLinked
    linkedLockInfo := interlude.linkedLockInfo
    sharedKey := interlude.sharedKey
    lockRelayBusy := interlude.lockRelayBusy
    batteryScan := interlude.batteryScan }

end SwitchbotKeypadBridge

/-- One drained event, or whatever happens between two of them. -/
inductive BridgeOp where
  | drained (event : QueuedEvent) (env : RxEnv)
  | between (interlude : SwitchbotKeypadBridge.Interlude)

/-- What one step shows: the session's outcome for a received frame, and the effects. -/
structure BridgeStep where
  outcome : Option LockSession.FrameOutcome := none
  effects : List BridgeEffect := []

/-- The outcome of `process_frame` for an event, if the event is a frame. -/
def QueuedEvent.outcome (keystream : Keystream) (env : RxEnv) (session : LockSession)
    : QueuedEvent → Option LockSession.FrameOutcome
  | .rx frame => some (session.processFrame keystream env.toFrameEnv frame)
  | _ => none

/-- The bridge as a machine over the events it drains. -/
def bridgeMachine (keystream : Keystream)
    : Machine SwitchbotKeypadBridge BridgeOp BridgeStep where
  step bridge
    | .drained event env =>
        let (after, effects) := bridge.drainEvent keystream env event
        (after, ⟨event.outcome keystream env bridge.session, effects⟩)
    | .between interlude => (bridge.afterInterlude interlude, {})

end KeypadBridge
