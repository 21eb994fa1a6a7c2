import KeypadBridge.Session.Invariant

/-! Encrypted frames as they look on the wire: a frame that opens is exactly the header of
its context followed by the ciphertext, and every such frame under a valid context opens.
-/

namespace KeypadBridge
open KeypadBridge.Foundation
open LockSession (OpenedFrame FrameStep Opens FrameOutcome isIvRequest)

/-- A frame for the slot under an IV: magic, key id, the two seq bytes, the ciphertext. -/
def wireFrame (slotId : UInt8) (iv : Iv) (ciphertext : Bytes) : Bytes :=
  [protocolMagic, slotId, iv.seqA, iv.seqB] ++ ciphertext

/-- A frame for a slot other than zero is never taken for an IV request. -/
theorem isIvRequest_wireFrame {slotId : UInt8} (iv : Iv) (ciphertext : Bytes)
    (nonzero : slotId ≠ 0)
    : isIvRequest (wireFrame slotId iv ciphertext) = false := by
  have differs
      : (wireFrame slotId iv ciphertext).take 7
        ≠ [protocolMagic, 0x00, 0x00, 0x00, 0x0F, 0x21, 0x03] := by
    intro same
    simp only [wireFrame, List.cons_append, List.nil_append, List.take_succ_cons,
      List.cons.injEq] at same
    exact nonzero same.2.1
  simp [LockSession.isIvRequest, differs]

namespace LockSession

variable {keystream : Keystream} {env : FrameEnv} {session : LockSession}

/-- A frame that opens is the wire frame of the context it is bound to. -/
theorem Opens.frame_eq {frame : Bytes} {opened : OpenedFrame}
    (opens : Opens keystream env session frame opened)
    : frame
      = wireFrame session.slotId (session.context opened.ref).iv opened.ciphertext := by
  have seqs := (CryptoContext.seqMatches_iff.mp opens.bound_matches).2
  have magic := opens.magic
  have keyId := opens.keyId
  have nonempty := opens.nonempty
  rw [opens.ciphertext] at nonempty ⊢
  match frame, nonempty with
  | first :: second :: third :: fourth :: rest, _ =>
      simp only [CryptoContext.seqPair, frameHeader, List.getD_cons_succ, List.getD_cons_zero,
        Prod.mk.injEq] at seqs magic keyId
      simp [wireFrame, seqs, magic, keyId, headerLen]
  | [], nonempty | [_], nonempty | [_, _], nonempty | [_, _, _], nonempty =>
      simp [headerLen] at nonempty

/-- A reply to a delivered frame repeats the frame's key id and seq bytes, and is encrypted
under the IV that decrypted the frame, wherever that context has gone since.
-/
theorem Delivers.encryptResponse {frame : Bytes} {opened : OpenedFrame}
    {after : LockSession} (delivers : Delivers session frame opened after)
    (opens : Opens keystream env session frame opened) {replyEnv : FrameEnv} {key : AesKey}
    (works : replyEnv.psa.Works after.aesKey key) {plaintext : Bytes}
    (fits : plaintext.length ≤ maxPayload)
    : after.encryptResponse keystream replyEnv after.header plaintext
      = some
          ([0x01, frame.getD 1 0, frame.getD 2 0, frame.getD 3 0]
            ++ ctrXor keystream key (session.context opened.ref).iv plaintext) := by
  have seqs := (CryptoContext.seqMatches_iff.mp opens.bound_matches).2
  simp only [CryptoContext.seqPair, frameHeader, Prod.mk.injEq] at seqs
  have encrypted := aesCtrXcrypt_of_works keystream works
    (session.context opened.ref).iv plaintext
  unfold LockSession.encryptResponse
  rw [if_neg (Nat.not_lt.mpr fits)]
  simp only [delivers.responseIvValid, delivers.responseIv, delivers.header, frameHeader, seqs]
  simp [xcrypt, encrypted]

/-- What a wire frame of the context `ref` opens to. -/
def boundFrame (keystream : Keystream) (key : AesKey) (session : LockSession)
    (ref : ContextRef) (ciphertext : Bytes)
    : OpenedFrame where
  usesPending := ref = .pending
  usesActive := ref = .active
  usesRetired := ref = .retired
  ciphertext := ciphertext
  plaintext := ctrXor keystream key (session.context ref).iv ciphertext
  ciphertextSeen := (session.context ref).isReplayedCiphertext ciphertext

@[simp] theorem boundFrame_ref (key : AesKey) (ref : ContextRef) (ciphertext : Bytes)
    : (session.boundFrame keystream key ref ciphertext).ref = ref := by
  cases ref <;> rfl

/-- In a well-formed session exactly the addressed context matches a wire frame. -/
theorem seqMatches_wireFrame (wf : session.contexts.WellFormed) {ref : ContextRef}
    (valid : (session.context ref).valid = true) (ciphertext : Bytes) (other : ContextRef)
    : (session.context other).seqMatches
        (frameHeader (wireFrame session.slotId (session.context ref).iv ciphertext))
      = decide (ref = other) := by
  have addressed : (session.context ref).seqMatches
      (frameHeader (wireFrame session.slotId (session.context ref).iv ciphertext)) = true :=
    CryptoContext.seqMatches_iff.mpr ⟨valid, rfl⟩
  by_cases same : ref = other
  · subst same
    simpa using addressed
  · rw [decide_eq_false same, Bool.eq_false_iff]
    intro matched
    exact same (wf.match_unique (by rwa [contexts_context]) (by rwa [contexts_context]))

/-- Every wire frame of a valid context opens, as long as the cipher works. -/
theorem opens_wireFrame (keystream : Keystream) (wf : session.contexts.WellFormed) {ref : ContextRef}
    (valid : (session.context ref).valid = true) {key : AesKey}
    (works : env.psa.Works session.aesKey key) {ciphertext : Bytes}
    (nonempty : ciphertext ≠ []) (fits : ciphertext.length ≤ maxPayload)
    : Opens keystream env session
        (wireFrame session.slotId (session.context ref).iv ciphertext)
        (session.boundFrame keystream key ref ciphertext) where
  magic := rfl
  keyId := rfl
  negotiated := by
    cases ref with
    | pending => exact .inr valid
    | active => exact .inl valid
    | retired => exact .inl (wf.retiredNeeds valid).1
  usesPending := (seqMatches_wireFrame wf valid ciphertext .pending).symm
  usesActive := (seqMatches_wireFrame wf valid ciphertext .active).symm
  usesRetired := (seqMatches_wireFrame wf valid ciphertext .retired).symm
  matched := by cases ref <;> simp [boundFrame]
  ciphertext := rfl
  nonempty := nonempty
  fits := fits
  seen := by rw [boundFrame_ref]; rfl
  decrypted := by
    rw [boundFrame_ref]
    exact aesCtrXcrypt_of_works keystream works _ _

/-- The effect of a wire frame of a valid context, whatever the session makes of it. -/
structure Handles (keystream : Keystream) (session : LockSession) (key : AesKey)
    (ref : ContextRef) (ciphertext : Bytes) (outcome : FrameOutcome)
    : Prop where
  step
    : FrameStep session.contexts (session.boundFrame keystream key ref ciphertext)
        outcome.session.contexts outcome.action
  aesKey : outcome.session.aesKey = session.aesKey
  ivResponse : outcome.session.ivResponse = session.ivResponse
  randomCalls : outcome.randomCalls = 0
  delivers
    : outcome.action = .command
      → Delivers session (wireFrame session.slotId (session.context ref).iv ciphertext)
          (session.boundFrame keystream key ref ciphertext) outcome.session

theorem processFrame_wireFrame (wf : session.contexts.WellFormed) {ref : ContextRef}
    (valid : (session.context ref).valid = true) {key : AesKey}
    (works : env.psa.Works session.aesKey key) {ciphertext : Bytes}
    (nonempty : ciphertext ≠ []) (fits : ciphertext.length ≤ maxPayload)
    (notRequest
      : isIvRequest (wireFrame session.slotId (session.context ref).iv ciphertext) = false)
    : session.Handles keystream key ref ciphertext
        (session.processFrame keystream env
          (wireFrame session.slotId (session.context ref).iv ciphertext)) := by
  have opens := opens_wireFrame keystream wf valid works nonempty fits
  have processed := processFrame_processed keystream env wf
    (wireFrame session.slotId (session.context ref).iv ciphertext)
  generalize session.processFrame keystream env
    (wireFrame session.slotId (session.context ref).iv ciphertext) = outcome at processed
  cases processed with
  | request isRequest => simp [notRequest] at isRequest
  | ignored _ unopened => exact absurd opens (unopened _)
  | opened _ found step aesKey ivResponse delivers =>
      obtain rfl := found.unique opens
      exact ⟨step, aesKey, ivResponse, rfl, delivers⟩

end LockSession

/-- The cipher that leaves every byte as it is. -/
def clearStream : Keystream := fun _ _ _ => 0

/-- A random generator stuck at zero, and a key store that knows every handle. -/
def constantEnv : FrameEnv where
  random _ := 0
  psa := { keys := fun _ => some (Vector.replicate 16 0) }

/-- The IV request of a keypad that uses `slot`. -/
def ivRequest (slot : UInt8) : Bytes := [0x57, 0x00, 0x00, 0x00, 0x0F, 0x21, 0x03, slot]

/-- An unlock by PIN of the first credential. -/
def pinUnlock : Bytes := [0x0F, 0x4E, 0x01, 0x03, 0x04, 0x80, 0x0A, 0x00]

end KeypadBridge
