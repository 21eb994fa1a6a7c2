import KeypadBridge.Foundation.Buffers
import KeypadBridge.Protocol.AesCtr

/-! The encrypted-session state machine of the emulated lock: token-slot learning, IV
negotiation, frame validation, transport crypto and anti-replay. Bytes in, decoded commands
out. Member fields that the source mutates are threaded as an explicit state.
-/

namespace KeypadBridge
open KeypadBridge.Foundation

-----------------------------------------------------------------------------------------
-- Frames and crypto generations
-----------------------------------------------------------------------------------------

/-- The transport header echoed back on every encrypted exchange. -/
structure FrameHeader where
  keyId : UInt8 := 0
  seqA : UInt8 := 0
  seqB : UInt8 := 0
  deriving DecidableEq, Repr

def headerLen : Nat := 4
def maxPayload : Nat := 32
def replayHistorySize : Nat := 8
def protocolMagic : UInt8 := 0x57
def visionKeySlot : UInt8 := 0xC6
def sessionIvReqMin : Nat := 8
def ivResponseHeader : Nat := 4

/-- One replay slot: a fixed buffer of which the first `length` bytes are meaningful. -/
structure ReplayEntry where
  data : Vector UInt8 32 := Vector.replicate 32 0
  length : Nat := 0
  deriving DecidableEq

/-- An IV and its replay window, with the flags of the predecessor hand-off. -/
structure CryptoContext where
  iv : Iv := Vector.replicate 16 0
  replayHistory : Vector ReplayEntry 8 := Vector.replicate 8 {}
  replayHead : Nat := 0
  lateActionAllowed : Bool := false
  handoffPollSeen : Bool := false
  valid : Bool := false
  deriving DecidableEq

namespace CryptoContext

/-- `entry.length == length && memcmp(entry.data, ciphertext, length) == 0`. -/
def entryMatches (entry : ReplayEntry) (ciphertext : Bytes) : Bool :=
  entry.length = ciphertext.length
    && readBack entry.data 0 ciphertext.length = ciphertext

/-- `is_replayed_ciphertext_`: the replay history holds this very ciphertext. -/
def isReplayedCiphertext (context : CryptoContext) (ciphertext : Bytes) : Bool :=
  if ciphertext.length = 0 ∨ ciphertext.length > maxPayload then false
  else context.replayHistory.toList.any (entryMatches · ciphertext)

/-- `record_ciphertext_`: overwrite the slot at the head of the ring and advance the head. -/
def recordCiphertext (context : CryptoContext) (ciphertext : Bytes) : CryptoContext :=
  if ciphertext.length = 0 ∨ ciphertext.length > maxPayload then context
  else
    let slot := context.replayHistory.toList.getD context.replayHead {}
    let slot : ReplayEntry :=
      { data := overwrite slot.data 0 ciphertext, length := ciphertext.length }
    { context with
      replayHistory := context.replayHistory.setIfInBounds context.replayHead slot
      replayHead := (context.replayHead + 1) % replayHistorySize }

/-- `seq_matches_`: the context is valid and the frame's seq bytes are its IV's first two. -/
def seqMatches (context : CryptoContext) (header : FrameHeader) : Bool :=
  context.valid && header.seqA = context.iv.seqA && header.seqB = context.iv.seqB

end CryptoContext

/-- Outcome of feeding one received frame into the session. -/
inductive Action where
  | none
  | sendIv
  | command
  deriving DecidableEq, Repr

/-- The session's members. Everything below `responseIv` is transient per frame. -/
structure LockSession where
  aesKey : PsaKeyId := psaKeyIdNull
  slotId : UInt8 := 0x00
  active : CryptoContext := {}
  pending : CryptoContext := {}
  retired : CryptoContext := {}
  ivResponse : Vector UInt8 20 := Vector.ofFn fun i => if i.val = 0 then 0x01 else 0x00
  responseIv : Iv := Vector.replicate 16 0
  responseIvValid : Bool := false
  header : FrameHeader := {}
  command : DecodedCommand := {}
  plaintext : Vector UInt8 32 := Vector.replicate 32 0
  plaintextSize : Nat := 0
  deriving DecidableEq

/-- What one call of `process_frame` finds outside the session: the values `esp_random`
will return, in order, and PSA Crypto.
-/
structure FrameEnv where
  random : Nat → UInt32
  psa : Psa

/-- Which member the reference `CryptoContext &context` is bound to. -/
inductive ContextRef where
  | pending
  | active
  | retired
  deriving DecidableEq, Repr

namespace LockSession

def context (session : LockSession) : ContextRef → CryptoContext
  | .pending => session.pending
  | .active => session.active
  | .retired => session.retired

/-- Write through the context reference. -/
def mapContext (session : LockSession) (ref : ContextRef)
    (update : CryptoContext → CryptoContext)
    : LockSession :=
  match ref with
  | .pending => { session with pending := update session.pending }
  | .active => { session with active := update session.active }
  | .retired => { session with retired := update session.retired }

-----------------------------------------------------------------------------------------
-- Resets
-----------------------------------------------------------------------------------------

/-- `set_aes_key`. -/
def setAesKey (session : LockSession) (key : PsaKeyId) : LockSession :=
  { session with aesKey := key }

/-- `clear_transient_`. -/
def clearTransient (session : LockSession) : LockSession :=
  { session with plaintextSize := 0, header := {}, command := {}, responseIvValid := false }

/-- `reset_transport`: a BLE connection boundary. -/
def resetTransport (session : LockSession) : LockSession :=
  let session := session.clearTransient
  { session with
    retired := {}
    active :=
      { session.active with lateActionAllowed := false, handoffPollSeen := false } }

/-- `reset`: drop the crypto session state. -/
def reset (session : LockSession) : LockSession :=
  resetTransport { session with active := {}, pending := {}, retired := {} }

/-- `forget_slot`. -/
def forgetSlot (session : LockSession) : LockSession := { session with slotId := 0x00 }

-----------------------------------------------------------------------------------------
-- IV negotiation
-----------------------------------------------------------------------------------------

/-- `is_iv_request_`: the fixed seven-byte prefix, with at least the key id behind it. -/
def isIvRequest (frame : Bytes) : Bool :=
  frame.length ≥ sessionIvReqMin
    && frame.take 7 = [protocolMagic, 0x00, 0x00, 0x00, 0x0F, 0x21, 0x03]

/-- `fill_iv`: four `esp_random` words, starting with call number `calls`, stored in the
target's little-endian byte order.
-/
def fillIv (random : Nat → UInt32) (calls : Nat) : Iv :=
  Vector.ofFn fun i =>
    (random (calls + i.val / 4) >>> (8 * (i.val % 4)).toUInt32).toUInt8

/-- The loop condition of the redraw: the candidate shares the active IV's seq pair. -/
def seqCollides (active : CryptoContext) (iv : Iv) : Bool :=
  active.valid && iv.seqA = active.iv.seqA && iv.seqB = active.iv.seqB

/-- The bounded redraw loop; `retries` counts down what the source counts up to four.
Returns the IV and the number of `esp_random` calls made so far.
-/
def redrawIv (random : Nat → UInt32) (active : CryptoContext)
    : (retries calls : Nat) → Iv → Iv × Nat
  | 0, calls, iv => (iv, calls)
  | retries + 1, calls, iv =>
      if seqCollides active iv then
        redrawIv random active retries (calls + 4) (fillIv random calls)
      else (iv, calls)

/-- The IV of a fresh request: a first fill, the bounded redraw, and the final bit flip. -/
def drawIv (random : Nat → UInt32) (active : CryptoContext) : Iv × Nat :=
  let (iv, calls) := redrawIv random active 4 4 (fillIv random 0)
  (if seqCollides active iv then iv.setIfInBounds 1 (iv.seqB ^^^ 0x01) else iv, calls)

/-- Copy an IV behind the four header bytes of the IV response. -/
def storeIvResponse (session : LockSession) (iv : Iv) : LockSession :=
  { session with ivResponse := overwrite session.ivResponse ivResponseHeader iv.toList }

/-- `ensure_pending_iv_`: reuse the pending IV, or start the next hand-off with a fresh one.
Also returns the number of `esp_random` calls made.
-/
def ensurePendingIv (session : LockSession) (random : Nat → UInt32) : LockSession × Nat :=
  if session.pending.valid then (session.storeIvResponse session.pending.iv, 0)
  else
    let session := { session with retired := {} }
    let session :=
      if session.active.valid && session.slotId = visionKeySlot then
        { session with
          active :=
            { session.active with lateActionAllowed := true, handoffPollSeen := false } }
      else if session.active.valid then
        { session with
          active :=
            { session.active with lateActionAllowed := false, handoffPollSeen := false } }
      else session
    let (iv, calls) := drawIv random session.active
    let session := { session with pending := { iv := iv, valid := true } }
    (session.storeIvResponse iv, calls)

-----------------------------------------------------------------------------------------
-- Frame validation
-----------------------------------------------------------------------------------------

/-- A frame that passed every check before decoding: which contexts its seq bytes matched,
its two texts, and whether the replay history already held the ciphertext.
-/
structure OpenedFrame where
  usesPending : Bool
  usesActive : Bool
  usesRetired : Bool
  ciphertext : Bytes
  plaintext : Bytes
  ciphertextSeen : Bool
  deriving DecidableEq

/-- The context reference: pending first, then active, then the retired predecessor. -/
def OpenedFrame.ref (opened : OpenedFrame) : ContextRef :=
  if opened.usesPending then .pending else if opened.usesActive then .active else .retired

/-- `if (uses_retired) retired_ = CryptoContext{}`, made by every late drop. -/
def dropRetiredIf (session : LockSession) (usesRetired : Bool) : LockSession :=
  if usesRetired then { session with retired := {} } else session

section

variable (keystream : Keystream)

/-- `xcrypt_`. -/
def xcrypt (session : LockSession) (env : FrameEnv) (iv : Iv) (input : Bytes)
    : Option Bytes :=
  aesCtrXcrypt keystream env.psa session.aesKey iv input

/-- The part of `process_frame` between the IV-request test and the decoder: every early
drop, the choice of the context, the replay lookup and the decryption.
-/
def openFrame (env : FrameEnv) (session : LockSession) (frame : Bytes)
    : LockSession × Option OpenedFrame :=
  if frame.length ≤ headerLen ∨ frame.getD 0 0 ≠ protocolMagic then (session, none)
  else
    let header : FrameHeader := ⟨frame.getD 1 0, frame.getD 2 0, frame.getD 3 0⟩
    let session := { session with header := header }
    if header.keyId ≠ session.slotId then (session, none)
    else if !session.active.valid && !session.pending.valid then (session, none)
    else
      let usesPending := session.pending.seqMatches header
      let usesActive := session.active.seqMatches header
      let usesRetired := session.retired.seqMatches header
      if !usesPending && !usesActive && !usesRetired then (session, none)
      else
        -- Seeing the current generation first ends the predecessor hand-off.
        let session := session.dropRetiredIf (usesActive && session.retired.valid)
        let context :=
          if usesPending then session.pending
          else if usesActive then session.active
          else session.retired
        let ciphertext := frame.drop headerLen
        if ciphertext.length > maxPayload then (session.dropRetiredIf usesRetired, none)
        else
          let ciphertextSeen := context.isReplayedCiphertext ciphertext
          match session.xcrypt keystream env context.iv ciphertext with
          | none => (session.dropRetiredIf usesRetired, none)
          | some plaintext =>
              (session,
                some {
                  usesPending, usesActive, usesRetired, ciphertext, plaintext,
                  ciphertextSeen })

end

-----------------------------------------------------------------------------------------
-- Admission of a decrypted frame
-----------------------------------------------------------------------------------------

/-- The four methods a late unlock may carry. -/
def hasKnownUnlockMethod (command : DecodedCommand) : Bool :=
  command.method = .pin || command.method = .nfc || command.method = .fingerprint
    || command.method = .face

def isFastUnlockAction (command : DecodedCommand) : Bool :=
  command.type = .unlock && hasKnownUnlockMethod command

/-- While pending is uncommitted, one predecessor poll is tolerated and a second one closes
the late-action allowance.
-/
def noteHandoffPoll (session : LockSession) (opened : OpenedFrame) : LockSession :=
  if opened.usesActive && session.pending.valid && session.command.type = .statePoll
      && (session.context opened.ref).lateActionAllowed then
    if (session.context opened.ref).handoffPollSeen then
      session.mapContext opened.ref fun context =>
        { context with lateActionAllowed := false }
    else
      session.mapContext opened.ref fun context => { context with handoffPollSeen := true }
  else session

/-- Take over the decrypted frame and rotate the contexts it proves obsolete. -/
def commitFrame (session : LockSession) (opened : OpenedFrame) : LockSession :=
  let session :=
    { session with
      plaintext := overwrite session.plaintext 0 opened.plaintext
      plaintextSize := opened.ciphertext.length
      responseIv := (session.context opened.ref).iv
      responseIvValid := true }
  if opened.usesPending then
    let retainPredecessor :=
      session.command.type = .statePoll && session.active.valid
        && session.active.lateActionAllowed
    { session with
      retired := if retainPredecessor then session.active else {}
      active :=
        { session.pending with lateActionAllowed := false, handoffPollSeen := false }
      pending := {} }
  else session.dropRetiredIf opened.usesRetired

/-- The replay filter of the state-changing commands, and the commit of what passes it. -/
def filterReplay (session : LockSession) (opened : OpenedFrame) (usesPredecessor : Bool)
    : LockSession × Action :=
  if session.command.isAction then
    if opened.ciphertextSeen then (session.dropRetiredIf opened.usesRetired, .none)
    else
      let session := session.mapContext opened.ref fun context =>
        context.recordCiphertext opened.ciphertext
      let session :=
        if usesPredecessor then
          session.mapContext opened.ref fun context =>
            { context with lateActionAllowed := false }
        else session
      (session.commitFrame opened, .command)
  else (session.commitFrame opened, .command)

/-- The hand-off allowance of a decoded frame: a predecessor answers polls, and one unlock
by a known method.
-/
def admitDecoded (session : LockSession) (opened : OpenedFrame) : LockSession × Action :=
  let usesPredecessor :=
    opened.usesRetired || (opened.usesActive && session.pending.valid)
  let session := session.noteHandoffPoll opened
  if usesPredecessor && session.command.type ≠ .statePoll then
    -- The first non-poll predecessor attempt always consumes the capability.
    let acceptLateUnlock :=
      isFastUnlockAction session.command
        && (session.context opened.ref).lateActionAllowed
    let session := session.mapContext opened.ref fun context =>
      { context with lateActionAllowed := false }
    if !acceptLateUnlock then
      ({ session with command := {} }.dropRetiredIf opened.usesRetired, .none)
    else session.filterReplay opened usesPredecessor
  else session.filterReplay opened usesPredecessor

/-- `process_frame` from the decoder on. -/
def admitFrame (session : LockSession) (opened : OpenedFrame) : LockSession × Action :=
  { session with command := decodeLockCommand opened.plaintext }.admitDecoded opened

/-- What one call of `process_frame` did: the new members, the returned action, and the
number of `esp_random` calls.
-/
structure FrameOutcome where
  session : LockSession
  action : Action
  randomCalls : Nat

section

variable (keystream : Keystream)

/-- The IV-request branch of `process_frame`: a slot change is a hard session boundary. -/
def answerIvRequest (session : LockSession) (random : Nat → UInt32) (requestedSlot : UInt8)
    : LockSession × Nat :=
  let session :=
    if requestedSlot ≠ session.slotId then
      { session with active := {}, pending := {}, retired := {}, slotId := requestedSlot }
    else session
  session.ensurePendingIv random

/-- `process_frame`: validate, decrypt and decode one received frame. -/
def processFrame (env : FrameEnv) (session : LockSession) (frame : Bytes) : FrameOutcome :=
  let session := session.clearTransient
  if isIvRequest frame then
    let (session, calls) := session.answerIvRequest env.random (frame.getD 7 0)
    ⟨session, .sendIv, calls⟩
  else
    match session.openFrame keystream env frame with
    | (session, none) => ⟨session, .none, 0⟩
    | (session, some opened) =>
        let (session, action) := session.admitFrame opened
        ⟨session, action, 0⟩

/-- `encrypt_response`: a notify-ready packet, or `none` where the source returns length 0. -/
def encryptResponse (env : FrameEnv) (session : LockSession) (header : FrameHeader)
    (plaintext : Bytes)
    : Option Bytes :=
  if plaintext.length > maxPayload then none
  else if !session.responseIvValid || header.seqA ≠ session.responseIv.seqA
      || header.seqB ≠ session.responseIv.seqB then none
  else
    (session.xcrypt keystream env session.responseIv plaintext).map fun ciphertext =>
      [0x01, header.keyId, header.seqA, header.seqB] ++ ciphertext

end

-----------------------------------------------------------------------------------------
-- What a caller reads
-----------------------------------------------------------------------------------------

/-- The decrypted bytes behind `plaintext()` and `plaintext_size()`. -/
def plaintextBytes (session : LockSession) : Bytes :=
  readBack session.plaintext 0 session.plaintextSize

/-- The IV in the last sixteen bytes of `iv_response()`. -/
def advertisedIv (session : LockSession) : Iv :=
  Vector.ofFn fun i => session.ivResponse[i.val + 4]

end LockSession

end KeypadBridge
