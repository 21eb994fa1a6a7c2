import KeypadBridge.Client.PhysicalLock
import KeypadBridge.Session.Service

/-! The client of a physical lock and the session of the emulated lock speak the same
protocol: over a connection without other traffic every command arrives in order and every
reply comes back.
-/

namespace KeypadBridge
open KeypadBridge.Foundation
open LockSession (FrameOutcome isIvRequest)

namespace LockSession

/-- The IV response as the client reads it. -/
theorem ivResponse_getD {session : LockSession} (i : Nat) (inside : i < 20)
    : session.ivResponse.toList.getD i 0 = session.ivResponse[i] := by
  simp [inside]

/-- The client takes the advertised IV out of the IV response, for AES-CTR. -/
theorem ResponseHeader.parse {session : LockSession} (header : session.ResponseHeader)
    : PhysicalLockClient.parseSessionResponse session.ivResponse.toList {}
      = .ok { ctrIv := session.advertisedIv } := by
  have mode : PhysicalLockClient.normalizeModeByte (session.ivResponse.toList.getD 2 0) ≠ 1 := by
    rw [ivResponse_getD 2 (by decide), header.third]
    decide
  have iv : (Vector.ofFn fun i : Fin 16 =>
      session.ivResponse.toList.getD (PhysicalLockClient.wireHeaderLen + i.val) 0)
      = session.advertisedIv := by
    apply Vector.ext
    intro i inside
    simp only [advertisedIv, Vector.getElem_ofFn, PhysicalLockClient.wireHeaderLen]
    rw [ivResponse_getD (4 + i) (by omega)]
    simp only [Nat.add_comm 4 i]
  unfold PhysicalLockClient.parseSessionResponse
  rw [if_neg (by simp [header.first, PhysicalLockClient.wireHeaderLen]), if_neg mode,
    if_neg (by simp [PhysicalLockClient.wireHeaderLen]), iv]

end LockSession

/-- A lock that runs a session: what its calls find outside, the replies it gives, and what
the client's calls find outside, each by the number of frames handled so far.
-/
structure LockSide where
  env : Nat → FrameEnv
  reply : Nat → Bytes
  clientPsa : Nat → Psa

/-- The lock behind a connection: its session, what it made of the frames so far, and the
notification that waits for the client.
-/
structure LockPeer where
  session : LockSession
  handled : List FrameOutcome := []
  notification : Option Bytes := none

/-- One written frame: the session processes it, and the lock answers as the bridge does. -/
def LockPeer.receive (keystream : Keystream) (lock : LockSide) (frame : Bytes)
    (peer : LockPeer)
    : LockPeer :=
  let env := lock.env peer.handled.length
  let outcome := peer.session.processFrame keystream env frame
  { session := outcome.session
    handled := peer.handled ++ [outcome]
    notification :=
      match outcome.action with
      | .sendIv => some outcome.session.ivResponse.toList
      | .command =>
          outcome.session.encryptResponse keystream env outcome.session.header
            (lock.reply peer.handled.length)
      | .none => none }

/-- A connection to the lock, without loss and without other traffic. -/
def lockLink (keystream : Keystream) (lock : LockSide)
    : PhysicalLockClient.Link LockPeer where
  connect _ peer := (.ok (), peer)
  createSemaphore _ := true
  subscribe peer := (true, peer)
  writeValue frame peer := (true, peer.receive keystream lock frame)
  waitNotify peer := (peer.notification, { peer with notification := none })
  disconnect peer := peer
  psa peer := lock.clientPsa peer.handled.length

section

variable (keystream : Keystream) (lock : LockSide) (peer : LockPeer)

@[simp] theorem lockLink_writeValue (frame : Bytes)
    : (lockLink keystream lock).writeValue frame peer
      = (true, peer.receive keystream lock frame) := rfl

@[simp] theorem lockLink_waitNotify
    : (lockLink keystream lock).waitNotify peer
      = (peer.notification, { peer with notification := none }) := rfl

@[simp] theorem lockLink_psa
    : (lockLink keystream lock).psa peer = lock.clientPsa peer.handled.length := rfl

end

/-- What the session made of a frame: its action, and the plaintext it decrypted. -/
def LockSession.FrameOutcome.delivered (outcome : FrameOutcome) : Action × Bytes :=
  (outcome.action, outcome.session.plaintextBytes)

/-- A served command leaves its reply waiting for the client. -/
theorem LockSession.ServesCommand.receive {keystream : Keystream} {lock : LockSide}
    {peer : LockPeer} {slot : UInt8} {iv : Iv} {key : AesKey} {sent : List Bytes}
    {payload : Bytes} {aesKey : PsaKeyId} {frame : Bytes}
    (served
      : peer.session.ServesCommand keystream slot iv key sent payload
          (peer.session.processFrame keystream (lock.env peer.handled.length) frame))
    (keyed : peer.session.aesKey = aesKey)
    (works : (lock.env peer.handled.length).psa.Works aesKey key)
    (short : (lock.reply peer.handled.length).length ≤ maxPayload)
    : let outcome :=
        peer.session.processFrame keystream (lock.env peer.handled.length) frame
      peer.receive keystream lock frame
        = { session := outcome.session
            handled := peer.handled ++ [outcome]
            notification :=
              some ([0x01, slot, iv.seqA, iv.seqB]
                ++ ctrXor keystream key iv (lock.reply peer.handled.length)) } := by
  have replied := served.replies _ _ (keyed ▸ works) short
  simp only [LockPeer.receive, served.action, replied]

namespace PhysicalLockClient

section

variable {keystream : Keystream} (gcm : AesGcm) {config : Config} {session : Session}

/-- Under AES-CTR the client builds the wire frame of its IV. -/
theorem encryptedFrame_ctr {psa : Psa} (imports : psa.Imports) (mode : session.mode = .ctr)
    (plaintext : Bytes)
    : encryptedFrame keystream gcm psa config session plaintext
      = .ok (wireFrame config.keyId session.ctrIv
          (ctrXor keystream config.key session.ctrIv plaintext)) := by
  simp only [encryptedFrame, mode, aesCtrXcryptRawKey_of_imports keystream imports]
  rfl

/-- Under AES-CTR the client recovers what was encrypted under its IV behind any header. -/
theorem decryptNotify_ctr {psa : Psa} (imports : psa.Imports) (mode : session.mode = .ctr)
    (first second third fourth : UInt8) (reply : Bytes)
    : decryptNotify keystream gcm psa config session
        ([first, second, third, fourth]
          ++ ctrXor keystream config.key session.ctrIv reply)
      = .ok reply := by
  unfold decryptNotify
  rw [if_neg (by simp [wireHeaderLen])]
  have payload : ([first, second, third, fourth]
      ++ ctrXor keystream config.key session.ctrIv reply).drop wireHeaderLen
      = ctrXor keystream config.key session.ctrIv reply := rfl
  rw [payload]
  cases reply with
  | nil => rfl
  | cons byte rest => simp [mode, aesCtrXcryptRawKey_of_imports keystream imports]

end

/-- One turn of the command loop, when the lock answers under the IV of the session. -/
theorem sendCommands_cons {keystream : Keystream} (gcm : AesGcm) {lock : LockSide}
    {config : Config} {session : Session} {peer : LockPeer} {cmd : Bytes} (rest : List Bytes)
    {after : LockSession} {handled : List FrameOutcome} {reply : Bytes}
    (mode : session.mode = .ctr) (imports : ∀ n, (lock.clientPsa n).Imports)
    (received
      : peer.receive keystream lock
            (wireFrame config.keyId session.ctrIv
              (ctrXor keystream config.key session.ctrIv cmd))
        = { session := after
            handled := handled
            notification :=
              some ([0x01, config.keyId, session.ctrIv.seqA, session.ctrIv.seqB]
                ++ ctrXor keystream config.key session.ctrIv reply) })
    : let later := sendCommands keystream gcm (lockLink keystream lock) config session rest
        { session := after, handled := handled }
      sendCommands keystream gcm (lockLink keystream lock) config session (cmd :: rest) peer
        = (⟨later.1.result, reply :: later.1.responses⟩, later.2) := by
  have sent : sendEncrypted keystream gcm (lockLink keystream lock) config session cmd peer
      = (.ok (), peer.receive keystream lock
          (wireFrame config.keyId session.ctrIv
            (ctrXor keystream config.key session.ctrIv cmd))) := by
    simp only [sendEncrypted, lockLink_psa, encryptedFrame_ctr gcm (imports _) mode,
      lockLink_writeValue, if_true]
  simp only [sendCommands, sent, received, lockLink_waitNotify, lockLink_psa,
    decryptNotify_ctr gcm (imports _) mode]

/-- The command loop against a session that serves it: every command is delivered, in order,
and every reply comes back, by induction on the commands still to be sent.
-/
theorem sendCommands_served {keystream : Keystream} (gcm : AesGcm) {lock : LockSide}
    {config : Config} (session : Session) {aesKey : PsaKeyId} (nonzero : config.keyId ≠ 0)
    (mode : session.mode = .ctr) (holdsKey : ∀ n, (lock.env n).psa.Works aesKey config.key)
    (imports : ∀ n, (lock.clientPsa n).Imports) (short : ∀ n, (lock.reply n).length ≤ 32)
    (commands sent : List Bytes) (sized : ∀ cmd ∈ commands, 1 ≤ cmd.length ∧ cmd.length ≤ 32)
    (distinct : ((sent ++ commands).filter isActionPayload).Nodup) (peer : LockPeer)
    (keyed : peer.session.aesKey = aesKey)
    (serves
      : peer.session.Serves config.keyId session.ctrIv
          (LockSession.logged keystream config.key session.ctrIv sent))
    : ∃ later,
        sendCommands keystream gcm (lockLink keystream lock) config session commands peer
          = (⟨.ok (), (List.range' peer.handled.length commands.length).map lock.reply⟩, later)
        ∧ ∃ outcomes,
            later.handled = peer.handled ++ outcomes
            ∧ outcomes.map FrameOutcome.delivered = commands.map (Action.command, ·) := by
  induction commands generalizing sent peer with
  | nil => exact ⟨peer, rfl, [], by simp, rfl⟩
  | cons cmd rest ih =>
      obtain ⟨nonempty, fits⟩ := sized cmd List.mem_cons_self
      have fresh : isActionPayload cmd = true → cmd ∉ sent := by
        intro action member
        rw [List.filter_append, List.nodup_append] at distinct
        exact distinct.2.2 cmd (List.mem_filter.mpr ⟨member, action⟩) cmd
          (List.mem_filter.mpr ⟨List.mem_cons_self, action⟩) rfl
      have served := serves.command (lock.env peer.handled.length) nonzero
        (keyed ▸ holdsKey _) (List.ne_nil_of_length_pos nonempty) fits fresh
      have turn := sendCommands_cons gcm rest mode imports
        (served.receive keyed (holdsKey _) (short _))
      generalize peer.session.processFrame keystream (lock.env peer.handled.length)
        (wireFrame config.keyId session.ctrIv
          (ctrXor keystream config.key session.ctrIv cmd)) = outcome at served turn
      -- The command joins what was sent, as it joined what the ring has recorded.
      obtain ⟨later, done, outcomes, handled, delivered⟩ := ih (sent ++ [cmd])
        (fun later member => sized later (List.mem_cons_of_mem _ member))
        (by simpa using distinct)
        { session := outcome.session, handled := peer.handled ++ [outcome] }
        (served.aesKey.trans keyed) served.serves
      refine ⟨later, ?_, outcome :: outcomes, by simp [handled], ?_⟩
      · rw [turn, done]
        simp [List.range'_succ]
      · simp [delivered, FrameOutcome.delivered, served.action, served.plaintext]

/-- The request of the exchange: the session offers an IV and serves its first command. -/
theorem receive_ivRequestOf {keystream : Keystream} (lock : LockSide) (config : Config)
    {session : LockSession} (reachable : session.Reachable keystream)
    : let request := session.processFrame keystream (lock.env 0) (ivRequestOf config)
      LockPeer.receive keystream lock (ivRequestOf config) { session := session }
        = { session := request.session
            handled := [request]
            notification := some request.session.ivResponse.toList }
      ∧ request.action = .sendIv
      ∧ request.session.aesKey = session.aesKey
      ∧ request.session.ResponseHeader
      ∧ request.session.Offers config.keyId request.session.advertisedIv
      ∧ request.session.contexts.WellFormed := by
  intro request
  have isRequest : isIvRequest (ivRequestOf config) = true := rfl
  have asked : (ivRequestOf config).getD 7 0 = config.keyId := rfl
  have processed : request
      = ⟨(session.clearTransient.answerIvRequest (lock.env 0).random config.keyId).1, .sendIv,
          (session.clearTransient.answerIvRequest (lock.env 0).random config.keyId).2⟩ :=
    LockSession.processFrame_request keystream (lock.env 0) session isRequest
  have action : request.action = .sendIv := congrArg FrameOutcome.action processed
  have answered := LockSession.answerIvRequest_answered session.clearTransient
    (lock.env 0).random config.keyId
  have session_eq : request.session
      = (session.clearTransient.answerIvRequest (lock.env 0).random config.keyId).1 :=
    congrArg FrameOutcome.session processed
  have header : session.clearTransient.ResponseHeader := reachable.responseHeader.congr rfl
  have wf := LockSession.perform_wellFormed keystream session
    (.frame (lock.env 0) (ivRequestOf config)) reachable.wellFormed
  refine ⟨?_, action, ?_, ?_, ?_, wf⟩
  · simp only [LockPeer.receive, List.length_nil, List.nil_append]
    rw [show session.processFrame keystream (lock.env 0) (ivRequestOf config) = request from rfl,
      action]
  · rw [session_eq]
    exact answered.aesKey
  · rw [session_eq]
    exact header.answerIvRequest _ _
  · rw [session_eq]
    exact answered.offers

/-- Over a connection that comes up, the whole call is its session. -/
theorem sendPlaintextSequence_lockLink {keystream : Keystream} (gcm : AesGcm)
    {lock : LockSide} {config : Config} {commands : List Bytes} {peer : LockPeer}
    (nonempty : commands ≠ []) (noEmpty : ∀ cmd ∈ commands, cmd ≠ [])
    : sendPlaintextSequence keystream gcm (lockLink keystream lock) config commands peer
      = runSession keystream gcm (lockLink keystream lock) config commands peer := by
  have some : commands.isEmpty = false := by simpa using nonempty
  have all : commands.any List.isEmpty = false := by
    rw [List.any_eq_false]
    intro cmd member empty
    exact noEmpty cmd member (List.isEmpty_iff.mp empty)
  simp only [sendPlaintextSequence, some, all]
  rfl

end PhysicalLockClient

open PhysicalLockClient (ivRequestOf parseSessionResponse runSession sendPlaintextSequence
  sendCommands_served receive_ivRequestOf sendPlaintextSequence_lockLink)

/-- The two ends of the protocol agree. From any reachable session that holds the client's
key, the request yields the offered IV for AES-CTR, every command is delivered in order, and
every reply is recovered.
-/
theorem client_and_session_agree (keystream : Keystream) (gcm : AesGcm) (lock : LockSide)
    (config : PhysicalLockClient.Config) (nonzero : config.keyId ≠ 0) (session : LockSession)
    (reachable : session.Reachable keystream)
    (holdsKey : ∀ n, (lock.env n).psa.Works session.aesKey config.key)
    (imports : ∀ n, (lock.clientPsa n).Imports) (short : ∀ n, (lock.reply n).length ≤ 32)
    (commands : List Bytes) (sized : ∀ cmd ∈ commands, 1 ≤ cmd.length ∧ cmd.length ≤ 32)
    (distinct : (commands.filter isActionPayload).Nodup)
    : let link := lockLink keystream lock
      let peer : LockPeer := { session := session }
      let replies := (List.range' 1 commands.length).map lock.reply
      ∃ request agreed later outcomes,
        (peer.receive keystream lock (ivRequestOf config)).handled = [request]
        ∧ request.action = .sendIv
        ∧ parseSessionResponse request.session.ivResponse.toList {} = .ok agreed
        ∧ agreed.mode = .ctr
        ∧ agreed.ctrIv = request.session.advertisedIv
        ∧ request.session.pending.valid = true
        ∧ request.session.pending.iv = agreed.ctrIv
        ∧ runSession keystream gcm link config commands peer = (⟨.ok (), replies⟩, later)
        ∧ (commands ≠ []
            → sendPlaintextSequence keystream gcm link config commands peer
              = (⟨.ok (), replies⟩, later))
        ∧ later.handled = request :: outcomes
        ∧ outcomes.map FrameOutcome.delivered = commands.map (Action.command, ·) := by
  intro link peer replies
  obtain ⟨received, action, aesKey, header, offers, wf⟩ :=
    receive_ivRequestOf lock config reachable
  generalize session.processFrame keystream (lock.env 0) (ivRequestOf config) = request
    at received action aesKey header offers wf
  obtain ⟨later, done, outcomes, handled, delivered⟩ :=
    sendCommands_served gcm { ctrIv := request.session.advertisedIv } nonzero rfl holdsKey
      imports short commands [] sized distinct
      { session := request.session, handled := [request] } aesKey (offers.serves wf)
  have run : runSession keystream gcm link config commands peer = (⟨.ok (), replies⟩, later) := by
    simp only [runSession, link, peer, lockLink_writeValue, received, lockLink_waitNotify,
      header.parse]
    exact done
  refine ⟨request, _, later, outcomes, congrArg LockPeer.handled received, action, header.parse,
    rfl, rfl, offers.valid, offers.iv_eq, run, ?_, handled, delivered⟩
  intro nonempty
  rw [← run]
  exact sendPlaintextSequence_lockLink gcm nonempty fun cmd member =>
    List.ne_nil_of_length_pos (sized cmd member).1

/-- A lock that answers every command with its state, on a machine where nothing fails. -/
def statefulLock : LockSide where
  env _ := constantEnv
  reply _ := [0x81, 0x08]
  clientPsa _ := { keys := fun _ => none }

def visionConfig : PhysicalLockClient.Config := { keyId := visionKeySlot }

def noGcm : AesGcm where
  encryptRawKey _ _ _ := none
  decryptRawKey _ _ _ := none

/-- An unlock and a poll go through, and both replies come back. -/
theorem client_and_session_agree_unlock
    : ∃ later,
        sendPlaintextSequence clearStream noGcm (lockLink clearStream statefulLock) visionConfig
            [pinUnlock, [0x0F, 0x4F, 0x81, 0x01]] { session := {} }
          = (⟨.ok (), [[0x81, 0x08], [0x81, 0x08]]⟩, later) := by
  obtain ⟨_, _, later, _, _, _, _, _, _, _, _, _, sequence, _⟩ :=
    client_and_session_agree clearStream noGcm statefulLock visionConfig (by decide) {}
      ⟨[], rfl⟩ (fun _ => ⟨rfl, rfl, rfl, rfl, rfl⟩) (fun _ => ⟨rfl, rfl, rfl, rfl, rfl⟩)
      (fun _ => (by decide : 2 ≤ 32)) [pinUnlock, [0x0F, 0x4F, 0x81, 0x01]] (by decide) (by decide)
  exact ⟨later, sequence (by decide)⟩

end KeypadBridge
