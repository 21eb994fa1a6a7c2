import KeypadBridge.Protocol.AesCtr

/-! The client of a physical lock: it opens an encrypted session over BLE, sends plaintext
commands under the IV the lock advertised, and decrypts the notifications that answer them.
-/

namespace KeypadBridge
open KeypadBridge.Foundation

/-- A lock family, stored as one byte. Any byte can be stored; only these are models. -/
structure PhysicalLockModel where
  value : UInt8
  deriving DecidableEq, Repr

namespace PhysicalLockModel

def unknown : PhysicalLockModel := ⟨0⟩
def lock : PhysicalLockModel := ⟨1⟩
def lockLite : PhysicalLockModel := ⟨2⟩
def lockPro : PhysicalLockModel := ⟨3⟩
def lockUltra : PhysicalLockModel := ⟨4⟩
def lockVision : PhysicalLockModel := ⟨5⟩
def lockVisionPro : PhysicalLockModel := ⟨6⟩
def lockProWifi : PhysicalLockModel := ⟨7⟩

end PhysicalLockModel

abbrev GcmIv := Vector UInt8 12

/-- AES-128-GCM as mbedTLS provides it: ciphertext and tag, or a failure. The decryption of
the source does not look at the tag.
-/
structure AesGcm where
  encryptRawKey : AesKey → GcmIv → Bytes → Option (Bytes × Vector UInt8 16)
  decryptRawKey : AesKey → GcmIv → Bytes → Option Bytes

namespace PhysicalLockClient

/-- The lock to talk to, and the key and slot to talk under. -/
structure Config where
  mac : String := ""
  model : PhysicalLockModel := .unknown
  keyId : UInt8 := 0
  key : AesKey := Vector.replicate 16 0
  deriving DecidableEq

inductive CryptoMode where
  | ctr
  | gcm
  deriving DecidableEq, Repr

structure Session where
  mode : CryptoMode := .ctr
  ctrIv : Iv := Vector.replicate 16 0
  gcmIv : GcmIv := Vector.replicate 12 0
  deriving DecidableEq

def protocolMagic : UInt8 := 0x57
def wireHeaderLen : Nat := 4

/-- `normalize_mode_byte`: feature bits around the low mode bit are tolerated. -/
def normalizeModeByte (modeByte : UInt8) : UInt8 := modeByte &&& 0x01

/-- The loop of `increment_gcm_iv`, over the bytes below `count`. -/
def incrementBelow (iv : GcmIv) : (count : Nat) → count ≤ 12 → GcmIv
  | 0, _ => iv
  | i + 1, inside =>
      let byte := iv[i] + 1
      let iv := iv.set i byte
      if byte ≠ 0 then iv else incrementBelow iv i (Nat.le_of_succ_le inside)

/-- `increment_gcm_iv`: the IV as a big-endian counter. -/
def incrementGcmIv (iv : GcmIv) : GcmIv := incrementBelow iv 12 (Nat.le_refl 12)

/-- `parse_session_response_`: which cipher the lock chose, and its IV. -/
def parseSessionResponse (wire : Bytes) (session : Session) : Except String Session :=
  if wire.length < wireHeaderLen ∨ wire.getD 0 0 ≠ 0x01 then
    .error "Lock returned a malformed encryption-session response."
  else if normalizeModeByte (wire.getD 2 0) = 1 then
    if wire.length < 20 then .error "Lock returned a short AES-GCM IV."
    else
      .ok { session with
        mode := .gcm
        gcmIv := Vector.ofFn fun i => wire.getD (wireHeaderLen + i.val) 0 }
  else if wire.length < wireHeaderLen + 16 then .error "Lock returned a short AES-CTR IV."
  else
    .ok { session with
      mode := .ctr
      ctrIv := Vector.ofFn fun i => wire.getD (wireHeaderLen + i.val) 0 }

section

variable (keystream : Keystream) (gcm : AesGcm)

/-- The frame that `send_encrypted_` writes. Under GCM the tag's first two bytes stand where
CTR has the IV's.
-/
def encryptedFrame (psa : Psa) (config : Config) (session : Session) (plaintext : Bytes)
    : Except String Bytes :=
  match session.mode with
  | .gcm =>
      match gcm.encryptRawKey config.key session.gcmIv plaintext with
      | none => .error "Could not encrypt lock command with AES-GCM."
      | some (ciphertext, tag) =>
          .ok ([protocolMagic, config.keyId] ++ tag.toList.take 2 ++ ciphertext)
  | .ctr =>
      match aesCtrXcryptRawKey keystream psa config.key session.ctrIv plaintext with
      | none => .error "Could not encrypt lock command with AES-CTR."
      | some ciphertext =>
          .ok ([protocolMagic, config.keyId, session.ctrIv.seqA, session.ctrIv.seqB]
            ++ ciphertext)

/-- `decrypt_notify_`. -/
def decryptNotify (psa : Psa) (config : Config) (session : Session) (wire : Bytes)
    : Except String Bytes :=
  if wire.length < wireHeaderLen then .error "Lock returned a malformed notification."
  else
    let payload := wire.drop wireHeaderLen
    if payload.length = 0 then .ok []
    else
      match session.mode with
      | .gcm =>
          match gcm.decryptRawKey config.key (incrementGcmIv session.gcmIv) payload with
          | none => .error "Could not decrypt lock response with AES-GCM."
          | some plaintext => .ok plaintext
      | .ctr =>
          match aesCtrXcryptRawKey keystream psa config.key session.ctrIv payload with
          | none => .error "Could not decrypt lock response with AES-CTR."
          | some plaintext => .ok plaintext

end

/-- The BLE link to a lock and the tasks around it: every call moves the `Peer` behind it,
and PSA is as the peer's moment finds it.
-/
structure Link (Peer : Type) where
  connect : Config → Peer → Except String Unit × Peer
  createSemaphore : Peer → Bool
  subscribe : Peer → Bool × Peer
  writeValue : Bytes → Peer → Bool × Peer
  waitNotify : Peer → Option Bytes × Peer
  disconnect : Peer → Peer
  psa : Peer → Psa

/-- What a caller reads after an exchange: success or the error text, and the responses that
were collected until then.
-/
structure Exchange where
  result : Except String Unit
  responses : List Bytes

def Exchange.failed (error : String) : Exchange := ⟨.error error, []⟩

section

variable (keystream : Keystream) (gcm : AesGcm) {Peer : Type} (link : Link Peer)

/-- `send_encrypted_`. -/
def sendEncrypted (config : Config) (session : Session) (plaintext : Bytes) (peer : Peer)
    : Except String Unit × Peer :=
  match encryptedFrame keystream gcm (link.psa peer) config session plaintext with
  | .error error => (.error error, peer)
  | .ok frame =>
      let (written, peer) := link.writeValue frame peer
      (if written then .ok () else .error "Could not write encrypted command to the lock.",
        peer)

/-- The command loop of `send_plaintext_sequence`. -/
def sendCommands (config : Config) (session : Session) : List Bytes → Peer → Exchange × Peer
  | [], peer => (⟨.ok (), []⟩, peer)
  | cmd :: rest, peer =>
      match sendEncrypted keystream gcm link config session cmd peer with
      | (.error error, peer) => (.failed error, peer)
      | (.ok (), peer) =>
          match link.waitNotify peer with
          | (none, peer) => (.failed "Lock did not answer the forwarded command.", peer)
          | (some notify, peer) =>
              match decryptNotify keystream gcm (link.psa peer) config session notify with
              | .error error => (.failed error, peer)
              | .ok response =>
                  let (later, peer) := sendCommands config session rest peer
                  (⟨later.result, response :: later.responses⟩, peer)

def ivRequestOf (config : Config) : Bytes :=
  [protocolMagic, 0x00, 0x00, 0x00, 0x0F, 0x21, 0x03, config.keyId]

/-- `send_plaintext_sequence` between subscription and clean-up. -/
def runSession (config : Config) (commands : List Bytes) (peer : Peer) : Exchange × Peer :=
  let (written, peer) := link.writeValue (ivRequestOf config) peer
  if !written then (.failed "Could not request a lock encryption session.", peer)
  else
    match link.waitNotify peer with
    | (none, peer) => (.failed "Lock did not open an encryption session.", peer)
    | (some notify, peer) =>
        match parseSessionResponse notify {} with
        | .error error => (.failed error, peer)
        | .ok session => sendCommands keystream gcm link config session commands peer

/-- `send_plaintext_sequence`: several commands over one encrypted session. -/
def sendPlaintextSequence (config : Config) (commands : List Bytes) (peer : Peer)
    : Exchange × Peer :=
  if commands.isEmpty then (.failed "Empty lock command sequence.", peer)
  else if commands.any List.isEmpty then
    (.failed "Empty lock command in sequence.", peer)
  else
    match link.connect config peer with
    | (.error error, peer) => (.failed error, peer)
    | (.ok (), peer) =>
        if !link.createSemaphore peer then
          (.failed "Could not allocate lock notification semaphore.", link.disconnect peer)
        else
          let (subscribed, peer) := link.subscribe peer
          if !subscribed then
            (.failed "Could not subscribe to lock notifications.", link.disconnect peer)
          else
            let (exchange, peer) := runSession keystream gcm link config commands peer
            (exchange, link.disconnect peer)

end

end PhysicalLockClient

end KeypadBridge
