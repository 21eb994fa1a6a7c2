import Mathlib.Data.List.Nodup
import KeypadBridge.Client.PhysicalLock

/-! The IVs of AES-GCM within one encrypted session of the client. The session's IV is set
once: every command is encrypted under it, and every answer is decrypted under its successor.
-/

namespace KeypadBridge
namespace PhysicalLockClient

-----------------------------------------------------------------------------------------
-- The successor of an IV
-----------------------------------------------------------------------------------------

/-- Incrementing the bytes below `count` leaves the others alone. -/
theorem getElem_incrementBelow (iv : GcmIv) (count : Nat) (inside : count ≤ 12) (i : Nat)
    (above : count ≤ i) (last : i < 12)
    : (incrementBelow iv count inside)[i] = iv[i] := by
  induction count generalizing iv with
  | zero => rfl
  | succ n ih =>
      have apart : n ≠ i := by omega
      simp only [incrementBelow]
      split
      · exact Vector.getElem_set_ne (by omega) last apart
      · rw [ih _ (by omega) (by omega), Vector.getElem_set_ne (by omega) last apart]

/-- The last byte always moves. -/
theorem getElem_incrementGcmIv_last (iv : GcmIv) : (incrementGcmIv iv)[11] = iv[11] + 1 := by
  simp only [incrementGcmIv, incrementBelow.eq_2 iv 11]
  split
  · exact Vector.getElem_set_self (by decide)
  · rw [getElem_incrementBelow _ 11 (by decide) 11 (Nat.le_refl 11) (by decide)]
    exact Vector.getElem_set_self (by decide)

/-- No IV is its own successor, whatever it carries. -/
theorem incrementGcmIv_ne (iv : GcmIv) : incrementGcmIv iv ≠ iv := by
  intro same
  have last := getElem_incrementGcmIv_last iv
  rw [same] at last
  have one : (1 : UInt8) = 0 := by
    have := congrArg (· - iv[11]) last
    simpa [UInt8.add_comm] using this.symm
  exact absurd one (by decide)

-----------------------------------------------------------------------------------------
-- The uses of AES-GCM
-----------------------------------------------------------------------------------------

inductive GcmOperation where
  | encrypt
  | decrypt
  deriving DecidableEq, Repr

/-- One call of AES-GCM. -/
structure GcmUse where
  operation : GcmOperation
  key : AesKey
  iv : GcmIv
  deriving DecidableEq

/-- The AES-GCM call that `send_encrypted_` makes before it writes. -/
def encryptionUse (config : Config) (session : Session) : List GcmUse :=
  match session.mode with
  | .gcm => [⟨.encrypt, config.key, session.gcmIv⟩]
  | .ctr => []

/-- The AES-GCM call that `decrypt_notify_` makes. -/
def decryptionUse (config : Config) (session : Session) (wire : Bytes) : List GcmUse :=
  if wire.length < wireHeaderLen then []
  else if (wire.drop wireHeaderLen).length = 0 then []
  else
    match session.mode with
    | .gcm => [⟨.decrypt, config.key, incrementGcmIv session.gcmIv⟩]
    | .ctr => []

section

variable (keystream : Keystream) (gcm : AesGcm) {Peer : Type} (link : Link Peer)

/-- `sendCommands` together with its AES-GCM calls, in order. -/
def sendCommandsTraced (config : Config) (session : Session)
    : List Bytes → Peer → (Exchange × Peer) × List GcmUse
  | [], peer => ((⟨.ok (), []⟩, peer), [])
  | cmd :: rest, peer =>
      let encryption := encryptionUse config session
      match sendEncrypted keystream gcm link config session cmd peer with
      | (.error error, peer) => ((.failed error, peer), encryption)
      | (.ok (), peer) =>
          match link.waitNotify peer with
          | (none, peer) =>
              ((.failed "Lock did not answer the forwarded command.", peer), encryption)
          | (some notify, peer) =>
              let uses := encryption ++ decryptionUse config session notify
              match decryptNotify keystream gcm (link.psa peer) config session notify with
              | .error error => ((.failed error, peer), uses)
              | .ok response =>
                  let ((later, peer), laterUses) :=
                    sendCommandsTraced config session rest peer
                  ((⟨later.result, response :: later.responses⟩, peer), uses ++ laterUses)

end

section

variable {keystream : Keystream} {gcm : AesGcm} {Peer : Type} {link : Link Peer}
  {config : Config} {session : Session}

/-- Without its calls the traced loop is the loop itself. -/
theorem sendCommandsTraced_fst (commands : List Bytes) (peer : Peer)
    : (sendCommandsTraced keystream gcm link config session commands peer).1
      = sendCommands keystream gcm link config session commands peer := by
  induction commands generalizing peer with
  | nil => rfl
  | cons cmd rest ih =>
      simp only [sendCommandsTraced, sendCommands]
      rcases sendEncrypted keystream gcm link config session cmd peer with ⟨_ | _, peer⟩
      · rfl
      dsimp only
      rcases link.waitNotify peer with ⟨_ | notify, peer⟩
      · rfl
      dsimp only
      cases decryptNotify keystream gcm (link.psa peer) config session notify with
      | error => rfl
      | ok response => simp only [← ih]

/-- Two providers that answer one call alike. -/
def GcmUse.SameAnswer (gcm other : AesGcm) (use : GcmUse) : Prop :=
  match use.operation with
  | .encrypt => gcm.encryptRawKey use.key use.iv = other.encryptRawKey use.key use.iv
  | .decrypt => gcm.decryptRawKey use.key use.iv = other.decryptRawKey use.key use.iv

/-- What is sent depends on AES-GCM at the listed call only. -/
theorem sendEncrypted_congr {other : AesGcm}
    (same : ∀ use ∈ encryptionUse config session, use.SameAnswer gcm other) (cmd : Bytes)
    (peer : Peer)
    : sendEncrypted keystream gcm link config session cmd peer
      = sendEncrypted keystream other link config session cmd peer := by
  unfold sendEncrypted encryptedFrame
  cases mode : session.mode with
  | ctr => rfl
  | gcm =>
      have answer : gcm.encryptRawKey config.key session.gcmIv
          = other.encryptRawKey config.key session.gcmIv :=
        same ⟨.encrypt, config.key, session.gcmIv⟩ (by simp [encryptionUse, mode])
      rw [answer]

/-- What is decrypted depends on AES-GCM at the listed call only. -/
theorem decryptNotify_congr {other : AesGcm} {wire : Bytes}
    (same : ∀ use ∈ decryptionUse config session wire, use.SameAnswer gcm other) (psa : Psa)
    : decryptNotify keystream gcm psa config session wire
      = decryptNotify keystream other psa config session wire := by
  unfold decryptNotify
  by_cases short : wire.length < wireHeaderLen
  · rw [if_pos short, if_pos short]
  by_cases empty : (wire.drop wireHeaderLen).length = 0
  · simp only [short, empty, if_true, if_false]
  simp only [short, empty, if_false]
  cases mode : session.mode with
  | ctr => rfl
  | gcm =>
      have answer : gcm.decryptRawKey config.key (incrementGcmIv session.gcmIv)
          = other.decryptRawKey config.key (incrementGcmIv session.gcmIv) :=
        same ⟨.decrypt, config.key, incrementGcmIv session.gcmIv⟩
          (by simp only [decryptionUse, short, empty, mode, if_false, List.mem_singleton])
      simp only [answer]

/-- No call is missing from the list: providers that agree on it give the same exchange. -/
theorem sendCommandsTraced_congr {other : AesGcm} (commands : List Bytes) (peer : Peer)
    (same : ∀ use ∈ (sendCommandsTraced keystream gcm link config session commands peer).2,
      use.SameAnswer gcm other)
    : sendCommandsTraced keystream gcm link config session commands peer
      = sendCommandsTraced keystream other link config session commands peer := by
  induction commands generalizing peer with
  | nil => rfl
  | cons cmd rest ih =>
      simp only [sendCommandsTraced] at same ⊢
      have encryption
          : ∀ use ∈ encryptionUse config session, use.SameAnswer gcm other := by
        intro use member
        apply same
        split
        · exact member
        · split
          · exact member
          · split <;> simp [member]
      rw [← sendEncrypted_congr encryption]
      rcases sent : sendEncrypted keystream gcm link config session cmd peer with
        ⟨_ | _, afterwards⟩
      · rfl
      simp only [sent] at same ⊢
      rcases answer : link.waitNotify afterwards with ⟨_ | notify, final⟩
      · rfl
      simp only [answer] at same ⊢
      have decryption
          : ∀ use ∈ decryptionUse config session notify, use.SameAnswer gcm other := by
        intro use member
        apply same
        split <;> simp [member]
      rw [← decryptNotify_congr decryption]
      cases decrypted : decryptNotify keystream gcm (link.psa final) config session notify with
      | error => rfl
      | ok response =>
          simp only [decrypted] at same ⊢
          rw [ih final fun use member =>
            same use (List.mem_append_right _ member)]

-----------------------------------------------------------------------------------------
-- The IVs of a session
-----------------------------------------------------------------------------------------

/-- The calls of one session: the encryptions under its IV, the decryptions under the
successor.
-/
structure SessionUses (config : Config) (session : Session) (uses : List GcmUse) : Prop where
  key : ∀ use ∈ uses, use.key = config.key
  encrypt : ∀ use ∈ uses, use.operation = .encrypt → use.iv = session.gcmIv
  decrypt : ∀ use ∈ uses, use.operation = .decrypt → use.iv = incrementGcmIv session.gcmIv

theorem SessionUses.append {uses later : List GcmUse}
    (first : SessionUses config session uses) (second : SessionUses config session later)
    : SessionUses config session (uses ++ later) where
  key := List.forall_mem_append.mpr ⟨first.key, second.key⟩
  encrypt := List.forall_mem_append.mpr ⟨first.encrypt, second.encrypt⟩
  decrypt := List.forall_mem_append.mpr ⟨first.decrypt, second.decrypt⟩

theorem SessionUses.nil : SessionUses config session [] := by
  constructor <;> exact fun use member => absurd member List.not_mem_nil

theorem sessionUses_encryptionUse (config : Config) (session : Session)
    : SessionUses config session (encryptionUse config session) := by
  unfold encryptionUse
  cases session.mode with
  | ctr => exact .nil
  | gcm => constructor <;> simp

theorem sessionUses_decryptionUse (wire : Bytes)
    : SessionUses config session (decryptionUse config session wire) := by
  unfold decryptionUse
  split
  · exact .nil
  split
  · exact .nil
  cases session.mode with
  | ctr => exact .nil
  | gcm => constructor <;> simp

/-- The encryptions, or the decryptions, of a list of calls. -/
def countUses (operation : GcmOperation) (uses : List GcmUse) : Nat :=
  uses.countP (·.operation = operation)

@[simp] theorem countUses_append {operation : GcmOperation} {uses later : List GcmUse}
    : countUses operation (uses ++ later) = countUses operation uses + countUses operation later :=
  List.countP_append

theorem countUses_encryptionUse (config : Config) (gcmMode : session.mode = .gcm)
    : countUses .encrypt (encryptionUse config session) = 1
      ∧ countUses .decrypt (encryptionUse config session) = 0 := by
  simp [encryptionUse, gcmMode, countUses]

theorem countUses_decryptionUse (config : Config) (gcmMode : session.mode = .gcm) (wire : Bytes)
    : countUses .encrypt (decryptionUse config session wire) = 0
      ∧ countUses .decrypt (decryptionUse config session wire) ≤ 1 := by
  unfold decryptionUse
  split
  · simp [countUses]
  split
  · simp [countUses]
  · simp [gcmMode, countUses]

/-- The calls of the command loop: each is one of the session, an answer is decrypted after
its command was encrypted, and each command is encrypted once.
-/
theorem sendCommandsTraced_uses (gcmMode : session.mode = .gcm) (commands : List Bytes)
    (peer : Peer)
    : let uses := (sendCommandsTraced keystream gcm link config session commands peer).2
      SessionUses config session uses
      ∧ countUses .decrypt uses ≤ countUses .encrypt uses
      ∧ countUses .encrypt uses ≤ commands.length := by
  induction commands generalizing peer with
  | nil => exact ⟨.nil, Nat.le_refl 0, Nat.le_refl 0⟩
  | cons cmd rest ih =>
      have encryption := countUses_encryptionUse config gcmMode
      have alone : SessionUses config session (encryptionUse config session)
          ∧ countUses .decrypt (encryptionUse config session)
            ≤ countUses .encrypt (encryptionUse config session)
          ∧ countUses .encrypt (encryptionUse config session) ≤ (cmd :: rest).length :=
        ⟨sessionUses_encryptionUse config session, by omega, by rw [encryption.1]; simp⟩
      simp only [sendCommandsTraced]
      rcases sendEncrypted keystream gcm link config session cmd peer with ⟨_ | _, peer⟩
      · exact alone
      dsimp only
      rcases link.waitNotify peer with ⟨_ | notify, peer⟩
      · exact alone
      dsimp only
      have decryption := countUses_decryptionUse config gcmMode notify
      have answered :=
        (sessionUses_encryptionUse config session).append (sessionUses_decryptionUse notify)
      cases decryptNotify keystream gcm (link.psa peer) config session notify with
      | error =>
          refine ⟨answered, ?_, ?_⟩ <;> simp only [countUses_append, List.length_cons] <;> omega
      | ok response =>
          obtain ⟨later, paired, bounded⟩ := ih peer
          refine ⟨answered.append later, ?_, ?_⟩ <;>
            simp only [countUses_append, List.length_cons] <;> omega

/-- How often an IV is used. -/
theorem SessionUses.count_iv {uses : List GcmUse} (of : SessionUses config session uses)
    (iv : GcmIv)
    : (uses.map GcmUse.iv).count iv
      = if iv = session.gcmIv then countUses .encrypt uses
        else if iv = incrementGcmIv session.gcmIv then countUses .decrypt uses
        else 0 := by
  have successor := incrementGcmIv_ne session.gcmIv
  induction uses with
  | nil => simp [countUses]
  | cons use rest ih =>
      have tail := ih ⟨fun u m => of.key u (.tail _ m), fun u m => of.encrypt u (.tail _ m),
        fun u m => of.decrypt u (.tail _ m)⟩
      rw [List.map_cons, List.count_cons, tail]
      cases operation : use.operation with
      | encrypt =>
          rw [of.encrypt use (.head _) operation]
          simp only [countUses, List.countP_cons, operation, beq_iff_eq]
          grind
      | decrypt =>
          rw [of.decrypt use (.head _) operation]
          simp only [countUses, List.countP_cons, operation, beq_iff_eq]
          grind

/-- The IVs are pairwise distinct exactly if one command was encrypted, or none. -/
theorem SessionUses.nodup_iff {uses : List GcmUse} (of : SessionUses config session uses)
    (paired : countUses .decrypt uses ≤ countUses .encrypt uses)
    : (uses.map GcmUse.iv).Nodup ↔ countUses .encrypt uses ≤ 1 := by
  rw [List.nodup_iff_count_le_one]
  constructor
  · intro distinct
    simpa [of.count_iv] using distinct session.gcmIv
  · intro single iv
    rw [of.count_iv]
    split
    · exact single
    split
    · omega
    · omega

/-- The IV that an AES-GCM response advertises. -/
theorem parseSessionResponse_gcmIv {wire : Bytes}
    (parsed : parseSessionResponse wire {} = .ok session) (gcmMode : session.mode = .gcm)
    : session.gcmIv = Vector.ofFn fun i => wire.getD (wireHeaderLen + i.val) 0 := by
  unfold parseSessionResponse at parsed
  split at parsed
  · cases parsed
  split at parsed
  · split at parsed
    · cases parsed
    · cases parsed
      rfl
  · split at parsed
    · cases parsed
    · cases parsed
      cases gcmMode

end

/-- In an AES-GCM session every command is encrypted under the IV the lock advertised, and
every answer is decrypted under its successor, which differs. So an IV is used twice exactly
if a second command is encrypted.
-/
theorem gcm_session_ivs (keystream : Keystream) (gcm : AesGcm) {Peer : Type}
    (link : Link Peer) (config : Config) (wire : Bytes) (session : Session)
    (parsed : parseSessionResponse wire {} = .ok session) (gcmMode : session.mode = .gcm)
    (commands : List Bytes) (peer : Peer)
    : let traced := sendCommandsTraced keystream gcm link config session commands peer
      traced.1 = sendCommands keystream gcm link config session commands peer
      ∧ session.gcmIv = Vector.ofFn (fun i => wire.getD (wireHeaderLen + i.val) 0)
      ∧ SessionUses config session traced.2
      ∧ incrementGcmIv session.gcmIv ≠ session.gcmIv
      ∧ ((traced.2.map GcmUse.iv).Nodup ↔ countUses .encrypt traced.2 ≤ 1)
      ∧ (commands.length ≤ 1 → (traced.2.map GcmUse.iv).Nodup) := by
  intro traced
  obtain ⟨uses, paired, bounded⟩ :=
    @sendCommandsTraced_uses keystream gcm Peer link config session gcmMode commands peer
  refine ⟨sendCommandsTraced_fst commands peer, parseSessionResponse_gcmIv parsed gcmMode, uses,
    incrementGcmIv_ne session.gcmIv, uses.nodup_iff paired, ?_⟩
  exact fun single => (uses.nodup_iff paired).mpr (Nat.le_trans bounded single)

/-- A lock that chooses AES-GCM. -/
def gcmResponse : Bytes := [0x01, 0x00, 0x01, 0x00] ++ List.replicate 16 0x00

/-- A cipher that hides nothing. -/
def clearGcm : AesGcm where
  encryptRawKey _ _ plaintext := some (plaintext, Vector.replicate 16 0)
  decryptRawKey _ _ ciphertext := some ciphertext

/-- A lock that answers every command with one byte. -/
def terseLink : Link Unit where
  connect _ peer := (.ok (), peer)
  createSemaphore _ := true
  subscribe peer := (true, peer)
  writeValue _ peer := (true, peer)
  waitNotify peer := (some [0x57, 0x00, 0x00, 0x00, 0x01], peer)
  disconnect peer := peer
  psa _ := { keys := fun _ => none }

/-- The session that the lock's choice leads to. -/
def gcmSession : Session := { mode := .gcm }

/-- A session of three commands uses its two IVs in turn, and the first one three times. -/
theorem gcm_session_ivs_three
    : let uses :=
        (sendCommandsTraced (fun _ _ _ => 0) clearGcm terseLink {} gcmSession
          [[0x01], [0x02], [0x03]] ()).2
      SessionUses {} gcmSession uses
      ∧ countUses .encrypt uses = 3
      ∧ ¬ (uses.map GcmUse.iv).Nodup := by
  obtain ⟨_, _, uses, _, repeats, _⟩ :=
    gcm_session_ivs (fun _ _ _ => 0) clearGcm terseLink {} gcmResponse gcmSession (by decide)
      rfl [[0x01], [0x02], [0x03]] ()
  exact ⟨uses, by decide +kernel,
    fun distinct => absurd (repeats.mp distinct) (by decide +kernel)⟩

/-- Two commands of one session are encrypted under one IV. -/
theorem gcm_iv_repeated
    : ¬ ∀ (keystream : Keystream) (gcm : AesGcm) (link : Link Unit) (config : Config)
        (wire : Bytes) (session : Session),
        parseSessionResponse wire {} = .ok session
        → session.mode = .gcm
        → ∀ commands,
            ((sendCommandsTraced keystream gcm link config session commands ()).2.map
              GcmUse.iv).Nodup := by
  intro always
  exact absurd
    (always (fun _ _ _ => 0) clearGcm terseLink {} gcmResponse gcmSession (by decide) rfl
      [[0x01], [0x02]])
    (by decide +kernel)

end PhysicalLockClient

end KeypadBridge
