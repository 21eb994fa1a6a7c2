import KeypadBridge.Client.Answers
import KeypadBridge.Foundation.Machine
import KeypadBridge.Protocol.AddressText

/-! How the client finds its lock: straight to the address that it connected to last, or to one
rebuilt from the MAC, and by a scan when that fails. Over any calls, with any cached address,
the client talks to the lock that it is configured for.
-/

namespace KeypadBridge
open KeypadBridge.Foundation

/-- The bytes of an ASCII text. -/
def asciiBytes (text : String) : Bytes := text.toList.map fun char => .ofNat char.toNat

namespace PhysicalLockClient

-----------------------------------------------------------------------------------------
-- Addresses
-----------------------------------------------------------------------------------------

/-- `NimBLEAddress`, big-endian as printed, with its type. -/
structure BleAddress where
  value : MacBytes
  type : UInt8
  deriving DecidableEq

def BleAddress.null : BleAddress := ⟨Vector.replicate 6 0, 0⟩

def Config.macBytes (config : Config) : Bytes := asciiBytes config.mac

/-- The byte that `strtol` reads of at most two characters in base 16. -/
def strtolByte (text : Bytes) : UInt8 :=
  let unspaced := text.dropWhile isSpace
  let (negative, unsigned) :=
    match unspaced with
    | 0x2D :: rest => (true, rest)
    | 0x2B :: rest => (false, rest)
    | _ => (false, unspaced)
  let value :=
    (unsigned.takeWhile fun byte => (hexDigit byte).isSome).foldl
      (fun value byte => value * 16 + (hexDigit byte).getD 0) 0
  if negative then 0 - value else value

/-- What NimBLE does with addresses: the constructor of `NimBLEAddress` from a text and a type,
`toString` and `isNull`.
-/
structure NimbleAddresses where
  construct : Bytes → UInt8 → BleAddress
  toString : BleAddress → Bytes
  isNull : BleAddress → Bool

/-- NimBLE prints six bytes in hexadecimal digits and colons, and reads them back in upper case.
The address that was never set is null.
-/
structure NimbleAddresses.Documented (nimble : NimbleAddresses) : Prop where
  prints : ∀ address, nimble.toString address = address.value.text
  reads
    : ∀ (address : MacBytes) type, nimble.construct (upperMac address.text) type = ⟨address, type⟩
  null : nimble.isNull .null = true

/-- `address_from_mac`: the two highest bits of a static random address are set. -/
def addressFromMac (nimble : NimbleAddresses) (macPretty : Bytes) : BleAddress :=
  let mac := upperMac macPretty
  let msb := strtolByte (mac.take 2)
  nimble.construct mac (if msb &&& 0xC0 = 0xC0 then 1 else 0)

/-- `discover_target`, on the results of its scan. -/
def discoverTarget (nimble : NimbleAddresses) (results : List BleAddress) (macPretty : Bytes)
    : BleAddress :=
  (results.find? fun found => upperMac (nimble.toString found) = upperMac macPretty).getD .null

-----------------------------------------------------------------------------------------
-- The radio
-----------------------------------------------------------------------------------------

/-- `PhysicalLockClient::Phase`. -/
inductive Phase where
  | scan
  | connect
  | discover
  | session
  | command
  deriving DecidableEq

/-- What the client does on the radio, and the progress it reports meanwhile. -/
inductive RadioEvent where
  | progress (phase : Phase)
  /-- The command progress of a provisioning session. -/
  | commandProgress (index : Nat)
  /-- The progress of a verification session. -/
  | verifyProgress (phase : Phase)
  | attempted (target : BleAddress)
  /-- A frame on the connection that is open. -/
  | wrote (connection : Option BleAddress) (frame : Bytes)
  deriving DecidableEq

/-- What the radio and the memory give, by the moments of the client's steps. -/
structure RadioEnv where
  scan : Nat → List BleAddress
  clientCreated : Nat → Bool
  connects : Nat → BleAddress → Bool
  /-- The service and both of its characteristics are found. -/
  serviceFound : Nat → Bool
  semaphoreCreated : Nat → Bool
  subscribes : Nat → Bool
  writes : Nat → Bool
  notifies : Nat → Option Bytes
  psa : Nat → Psa

/-- The client's cache and its open connection. No MAC is the empty string. -/
structure LockRadio where
  cachedMac : String := ""
  cachedAddr : BleAddress := .null
  connection : Option BleAddress := none
  moment : Nat := 0
  events : List RadioEvent := []

namespace LockRadio

variable (env : RadioEnv) (radio : LockRadio)

def tick : LockRadio := { radio with moment := radio.moment + 1 }

def emit (event : RadioEvent) : LockRadio := { radio with events := radio.events ++ [event] }

def report (phase : Phase) : LockRadio := radio.emit (.progress phase)

/-- `connect_switchbot_service` for a lock. -/
def connectSwitchbotService (target : BleAddress) : Except String Unit × LockRadio :=
  let radio := radio.tick
  if env.clientCreated radio.moment = false then
    (.error "Could not allocate a BLE client for the physical lock.", radio)
  else
    let radio := radio.emit (.attempted target)
    if env.connects radio.moment target = false then
      (.error "Could not connect to the physical lock.", radio)
    else if env.serviceFound radio.moment = false then
      (.error "The physical lock does not expose the SwitchBot GATT service.", radio)
    else (.ok (), { radio with connection := some target })

/-- One attempt of `connect_`; an address that was reached is remembered. -/
def attempt (config : Config) (target : BleAddress) : Except String Unit × LockRadio :=
  match (radio.report .connect).connectSwitchbotService env target with
  | (.error err, radio) => (.error err, radio)
  | (.ok (), radio) =>
      (.ok (), { radio.report .discover with cachedAddr := target, cachedMac := config.mac })

/-- The address of the first attempt. -/
def directTarget (nimble : NimbleAddresses) (config : Config) : BleAddress :=
  if radio.cachedMac ≠ "" ∧ radio.cachedMac = config.mac then radio.cachedAddr
  else addressFromMac nimble config.macBytes

/-- `connect_`: the second attempt forgets the cached address and scans. -/
def connect (nimble : NimbleAddresses) (config : Config)
    : Except String Unit × LockRadio :=
  match radio.attempt env config (radio.directTarget nimble config) with
  | (.ok (), radio) => (.ok (), radio)
  | (.error _, radio) =>
      let radio := ({ radio with cachedMac := "" }.report .scan).tick
      let target := discoverTarget nimble (env.scan radio.moment) config.macBytes
      if nimble.isNull target then
        (.error "Could not see the lock over BLE. Keep it near the bridge and retry.", radio)
      else radio.attempt env config target

end LockRadio

/-- The link of a client to its lock, with the client's address cache. -/
def radioLink (nimble : NimbleAddresses) (env : RadioEnv) : Link LockRadio where
  connect config radio := radio.connect env nimble config
  createSemaphore radio := env.semaphoreCreated radio.moment
  subscribe radio := (env.subscribes radio.moment, radio.tick)
  writeValue frame radio :=
    (env.writes radio.moment, (radio.emit (.wrote radio.connection frame)).tick)
  waitNotify radio := (env.notifies radio.moment, radio.tick)
  disconnect radio := { radio with connection := none }
  psa radio := env.psa radio.moment

-----------------------------------------------------------------------------------------
-- What a session keeps
-----------------------------------------------------------------------------------------

section

variable (keystream : Keystream) (gcm : AesGcm)

/-- The frames of a session under a configuration: its IV request, and its commands encrypted
with its key for its slot.
-/
def SessionFrame (config : Config) (commands : List Bytes) (frame : Bytes) : Prop :=
  frame = ivRequestOf config
  ∨ ∃ cmd ∈ commands, ∃ psa session,
      encryptedFrame keystream gcm psa config session cmd = .ok frame

/-- Every call on an open connection keeps what holds of the peer, as long as only such frames
are written.
-/
structure Link.Keeps {Peer : Type} (link : Link Peer) (frames : Bytes → Prop)
    (holds : Peer → Prop)
    : Prop where
  subscribe : ∀ peer, holds peer → holds (link.subscribe peer).2
  writeValue : ∀ frame peer, frames frame → holds peer → holds (link.writeValue frame peer).2
  waitNotify : ∀ peer, holds peer → holds (link.waitNotify peer).2

variable {keystream gcm} {Peer : Type} {link : Link Peer} {frames : Bytes → Prop}
  {holds : Peer → Prop}

theorem Link.Keeps.sendEncrypted (keeps : link.Keeps frames holds) {config : Config}
    {session : Session} {cmd : Bytes} {peer : Peer} (before : holds peer)
    (framed
      : ∀ psa frame, encryptedFrame keystream gcm psa config session cmd = .ok frame → frames frame)
    : holds (PhysicalLockClient.sendEncrypted keystream gcm link config session cmd peer).2 := by
  unfold PhysicalLockClient.sendEncrypted
  split
  · exact before
  · rename_i frame made
    exact keeps.writeValue frame peer (framed _ frame made) before

/-- The command loop, by induction over the commands. -/
theorem Link.Keeps.sendCommands (keeps : link.Keeps frames holds) {config : Config}
    {session : Session} {commands : List Bytes} {peer : Peer} (before : holds peer)
    (framed : ∀ frame, SessionFrame keystream gcm config commands frame → frames frame)
    : holds (PhysicalLockClient.sendCommands keystream gcm link config session commands peer).2
    := by
  induction commands generalizing peer with
  | nil => exact before
  | cons cmd rest ih =>
      have later (frame : Bytes) (inRest : SessionFrame keystream gcm config rest frame)
          : frames frame :=
        framed frame (inRest.imp_right fun ⟨cmd, member, made⟩ => ⟨cmd, .tail _ member, made⟩)
      have sent :=
        keeps.sendEncrypted before fun psa frame
            (made : encryptedFrame keystream gcm psa config session cmd = .ok frame) =>
          framed frame (.inr ⟨cmd, by simp, psa, session, made⟩)
      rw [PhysicalLockClient.sendCommands]
      split
      · rename_i failed
        rw [failed] at sent
        exact sent
      rename_i next written
      rw [written] at sent
      have heard := keeps.waitNotify next sent
      split
      · rename_i silent
        rw [silent] at heard
        exact heard
      rename_i notified
      rw [notified] at heard
      split
      · exact heard
      · exact ih heard later

/-- A session behind its IV request. -/
theorem Link.Keeps.behindRequest (keeps : link.Keeps frames holds) {config : Config}
    {commands : List Bytes} {peer : Peer} (unwritten unopened : String) (before : holds peer)
    (framed : ∀ frame, SessionFrame keystream gcm config commands frame → frames frame)
    : holds
        (let (written, peer) := link.writeValue (ivRequestOf config) peer
          if !written then (Exchange.failed unwritten, peer)
          else
            match link.waitNotify peer with
            | (none, peer) => (.failed unopened, peer)
            | (some notify, peer) =>
                match parseSessionResponse notify {} with
                | .error error => (.failed error, peer)
                | .ok session =>
                    PhysicalLockClient.sendCommands keystream gcm link config session commands
                      peer).2 := by
  have written := keeps.writeValue _ peer (framed _ (.inl rfl)) before
  dsimp only
  split
  · exact written
  · have heard := keeps.waitNotify _ written
    split
    · rename_i silent
      rw [silent] at heard
      exact heard
    · rename_i notified
      rw [notified] at heard
      split
      · exact heard
      · exact keeps.sendCommands heard framed

theorem Link.Keeps.runSession (keeps : link.Keeps frames holds) {config : Config}
    {commands : List Bytes} {peer : Peer} (before : holds peer)
    (framed : ∀ frame, SessionFrame keystream gcm config commands frame → frames frame)
    : holds (PhysicalLockClient.runSession keystream gcm link config commands peer).2 :=
  keeps.behindRequest _ _ before framed

/-- Both sessions of a provisioning. -/
theorem Link.Keeps.provisionThenVerify (keeps : link.Keeps frames holds)
    {provisioning shared : Config} {commands : List Bytes} {verifyCmd : Bytes} {peer : Peer}
    (before : holds peer)
    (framed
      : ∀ frame,
          SessionFrame keystream gcm provisioning commands frame
            ∨ SessionFrame keystream gcm shared [verifyCmd] frame
          → frames frame)
    : holds
        (PhysicalLockClient.provisionThenVerify keystream gcm link provisioning shared commands
          verifyCmd peer).2 := by
  have provisioned
      : holds
          (runNamedSession keystream gcm link provisioning "lock provisioning" commands peer).2 :=
    keeps.behindRequest _ _ before fun frame inFirst => framed frame (.inl inFirst)
  have verified
      : holds
          (runNamedSession keystream gcm link shared "shared-key verification" [verifyCmd]
            (runNamedSession keystream gcm link provisioning "lock provisioning" commands
              peer).2).2 :=
    keeps.behindRequest _ _ provisioned fun frame inSecond => framed frame (.inr inSecond)
  unfold PhysicalLockClient.provisionThenVerify
  dsimp only
  split
  · exact provisioned
  · split
    · exact verified
    · exact verified

end

end PhysicalLockClient

end KeypadBridge
