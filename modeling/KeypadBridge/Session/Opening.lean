import KeypadBridge.Session.LockSession

/-! What the early part of `process_frame` establishes: the checks an opened frame passed,
that these checks are the only ones, and what an early drop may change.
-/

namespace KeypadBridge
open KeypadBridge.Foundation

/-- The transport header of a frame. -/
def frameHeader (frame : Bytes) : FrameHeader :=
  ⟨frame.getD 1 0, frame.getD 2 0, frame.getD 3 0⟩

namespace LockSession

/-- The command a decrypted frame decodes to. -/
def OpenedFrame.command (opened : OpenedFrame) : DecodedCommand :=
  decodeLockCommand opened.plaintext

/-- Every check between the IV-request test and the decoder, passed by `frame`. -/
structure Opens (keystream : Keystream) (env : FrameEnv) (session : LockSession)
    (frame : Bytes) (opened : OpenedFrame)
    : Prop where
  magic : frame.getD 0 0 = protocolMagic
  keyId : (frameHeader frame).keyId = session.slotId
  negotiated : session.active.valid = true ∨ session.pending.valid = true
  usesPending : opened.usesPending = session.pending.seqMatches (frameHeader frame)
  usesActive : opened.usesActive = session.active.seqMatches (frameHeader frame)
  usesRetired : opened.usesRetired = session.retired.seqMatches (frameHeader frame)
  matched
    : opened.usesPending = true ∨ opened.usesActive = true ∨ opened.usesRetired = true
  ciphertext : opened.ciphertext = frame.drop headerLen
  nonempty : opened.ciphertext ≠ []
  fits : opened.ciphertext.length ≤ maxPayload
  seen
    : opened.ciphertextSeen
      = (session.context opened.ref).isReplayedCiphertext opened.ciphertext
  decrypted
    : session.xcrypt keystream env (session.context opened.ref).iv opened.ciphertext
      = some opened.plaintext

@[simp] theorem dropRetiredIf_false (session : LockSession)
    : session.dropRetiredIf false = session := rfl

theorem nonempty_drop_header {frame : Bytes} (long : ¬ frame.length ≤ headerLen)
    : frame.drop headerLen ≠ [] := by
  intro empty
  have := congrArg List.length empty
  simp only [List.length_drop, List.length_nil] at this
  omega

variable {keystream : Keystream} {env : FrameEnv} {session : LockSession} {frame : Bytes}

/-- A session after the early checks, when the frame was opened. -/
def afterOpening (session : LockSession) (frame : Bytes) (opened : OpenedFrame)
    : LockSession :=
  { session with header := frameHeader frame }.dropRetiredIf
    (opened.usesActive && session.retired.valid)

/-- Closing the retired context on sight of the active one never changes the context the
frame is bound to: a frame bound to the retired context did not match the active one.
-/
theorem bound_context (session : LockSession) (header : FrameHeader)
    (usesPending usesActive : Bool)
    : (let after :=
        { session with header := header }.dropRetiredIf (usesActive && session.retired.valid)
      if usesPending then after.pending
      else if usesActive then after.active
      else after.retired)
      = session.context
          (if usesPending then .pending else if usesActive then .active else .retired) := by
  cases usesPending <;> cases usesActive <;> cases session.retired.valid <;> rfl

/-- The cipher reads nothing of the session but its key handle. -/
theorem xcrypt_afterOpening (keystream : Keystream) (env : FrameEnv)
    (session : LockSession) (header : FrameHeader) (drop : Bool) (iv : Iv) (input : Bytes)
    : ({ session with header := header }.dropRetiredIf drop).xcrypt keystream env iv input
      = session.xcrypt keystream env iv input := by
  cases drop <;> rfl

/-- A frame that opens passed every check; the session keeps all but a retired context that
the current generation closes.
-/
theorem openFrame_eq_some {after : LockSession} {opened : OpenedFrame}
    (result : session.openFrame keystream env frame = (after, some opened))
    : Opens keystream env session frame opened
      ∧ after = session.afterOpening frame opened := by
  unfold openFrame at result
  split at result
  · simp at result
  rename_i framed
  simp only [not_or, Decidable.not_not] at framed
  dsimp only at result
  split at result
  · simp at result
  rename_i keyId
  split at result
  · simp at result
  rename_i negotiated
  split at result
  · simp at result
  rename_i matched
  split at result
  · simp at result
  rename_i fits
  split at result
  · simp at result
  rename_i plaintext decrypted
  simp only [Prod.mk.injEq, Option.some.injEq] at result
  obtain ⟨rfl, rfl⟩ := result
  rw [bound_context, xcrypt_afterOpening] at decrypted
  refine ⟨?_, rfl⟩
  exact {
    magic := framed.2
    keyId := Decidable.not_not.mp keyId
    negotiated := by simpa [Classical.or_iff_not_imp_left] using negotiated
    usesPending := rfl
    usesActive := rfl
    usesRetired := rfl
    matched := by simpa [or_assoc, Classical.or_iff_not_imp_left] using matched
    ciphertext := rfl
    nonempty := nonempty_drop_header framed.1
    fits := Nat.le_of_not_gt fits
    seen := by rw [bound_context]; rfl
    decrypted := decrypted
  }

/-- The checks determine the opened frame. -/
theorem Opens.unique {left right : OpenedFrame}
    (hl : Opens keystream env session frame left)
    (hr : Opens keystream env session frame right)
    : left = right := by
  have pending := hl.usesPending.trans hr.usesPending.symm
  have active := hl.usesActive.trans hr.usesActive.symm
  have retired := hl.usesRetired.trans hr.usesRetired.symm
  have ciphertext := hl.ciphertext.trans hr.ciphertext.symm
  have ref : left.ref = right.ref := by simp only [OpenedFrame.ref, pending, active]
  have seen := hl.seen
  have decrypted := hl.decrypted
  rw [ref, ciphertext] at seen decrypted
  have plaintext := Option.some.inj (decrypted.symm.trans hr.decrypted)
  have same := seen.trans hr.seen.symm
  cases left
  cases right
  simp only [OpenedFrame.mk.injEq]
  exact ⟨pending, active, retired, ciphertext, plaintext, same⟩

@[simp] theorem dropRetiredIf_dropRetiredIf (session : LockSession) (first second : Bool)
    : (session.dropRetiredIf first).dropRetiredIf second
      = session.dropRetiredIf (first || second) := by
  cases first <;> cases second <;> rfl

/-- An early drop happens only to a frame that fails a check, and changes nothing but the
header and a valid retired context.
-/
theorem openFrame_eq_none {after : LockSession}
    (result : session.openFrame keystream env frame = (after, none))
    : (∀ opened, ¬ Opens keystream env session frame opened)
      ∧ ∃ header drop,
          after = { session with header := header }.dropRetiredIf drop
          ∧ (drop = true → session.retired.valid = true) := by
  unfold openFrame at result
  split at result
  · rename_i unframed
    obtain rfl := (Prod.mk.inj result).1
    refine ⟨fun opened opens => ?_, session.header, false, rfl, by simp⟩
    have long : ¬ frame.length ≤ headerLen := by
      intro short
      exact opens.nonempty (by rw [opens.ciphertext, List.drop_eq_nil_of_le short])
    exact unframed.elim long (fun wrong => wrong opens.magic)
  dsimp only at result
  split at result
  · rename_i wrong
    obtain rfl := (Prod.mk.inj result).1
    exact ⟨fun opened opens => wrong opens.keyId, _, false, rfl, by simp⟩
  split at result
  · rename_i missing
    obtain rfl := (Prod.mk.inj result).1
    refine ⟨fun opened opens => ?_, _, false, rfl, by simp⟩
    have := opens.negotiated
    simp_all
  split at result
  · rename_i unmatched
    obtain rfl := (Prod.mk.inj result).1
    refine ⟨fun opened opens => ?_, _, false, rfl, by simp⟩
    have := opens.matched
    simp only [opens.usesPending, opens.usesActive, opens.usesRetired, frameHeader] at this
    simp_all
  have closes (usesRetired : Bool)
      (retired
        : usesRetired = true → session.retired.seqMatches (frameHeader frame) = true)
      : (session.active.seqMatches (frameHeader frame) && session.retired.valid
          || usesRetired) = true
        → session.retired.valid = true := by
    intro drop
    simp only [Bool.or_eq_true, Bool.and_eq_true] at drop
    rcases drop with ⟨_, valid⟩ | uses
    · exact valid
    · have := retired uses
      simp only [CryptoContext.seqMatches, Bool.and_eq_true] at this
      exact this.1.1
  split at result
  · rename_i long
    obtain rfl := (Prod.mk.inj result).1
    refine ⟨fun opened opens => ?_, _, _, dropRetiredIf_dropRetiredIf _ _ _,
      closes _ (fun uses => uses)⟩
    have := opens.fits
    rw [opens.ciphertext] at this
    omega
  split at result
  · rename_i failed
    obtain rfl := (Prod.mk.inj result).1
    rw [bound_context, xcrypt_afterOpening] at failed
    refine ⟨fun opened opens => ?_, _, _, dropRetiredIf_dropRetiredIf _ _ _,
      closes _ (fun uses => uses)⟩
    have decrypted := opens.decrypted
    simp only [OpenedFrame.ref, opens.usesPending, opens.usesActive, opens.ciphertext] at decrypted
    exact absurd (failed.symm.trans decrypted) (by simp)
  · simp at result

/-- A frame that passes every check opens. -/
theorem Opens.openFrame_eq {opened : OpenedFrame}
    (opens : Opens keystream env session frame opened)
    : session.openFrame keystream env frame
      = (session.afterOpening frame opened, some opened) := by
  cases result : session.openFrame keystream env frame with
  | mk after found =>
      cases found with
      | none => exact absurd opens ((openFrame_eq_none result).1 opened)
      | some other =>
          obtain ⟨same, rfl⟩ := openFrame_eq_some result
          rw [same.unique opens]

end LockSession

end KeypadBridge
