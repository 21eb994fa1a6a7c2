import KeypadBridge.Session.Admission

/-! One call of `process_frame` as a whole: an IV request, an early drop, or one of the
admission steps, with what the caller can read afterwards.
-/

namespace KeypadBridge
open KeypadBridge.Foundation

namespace LockSession

/-- Two sessions that differ in hand-off flags, replay histories, the decoded command and
dropped contexts at most: the wire-facing members agree.
-/
structure Bookkept (before after : LockSession) : Prop where
  aesKey : after.aesKey = before.aesKey
  ivResponse : after.ivResponse = before.ivResponse
  header : after.header = before.header
  plaintextSize : after.plaintextSize = before.plaintextSize
  responseIvValid : after.responseIvValid = before.responseIvValid

/-- The members a caller reads after a `COMMAND`, for a frame opened from `before`. -/
structure Delivers (before : LockSession) (frame : Bytes) (opened : OpenedFrame)
    (after : LockSession)
    : Prop where
  header : after.header = frameHeader frame
  command : after.command = opened.command
  plaintext : after.plaintextBytes = opened.plaintext
  responseIv : after.responseIv = (before.context opened.ref).iv
  responseIvValid : after.responseIvValid = true

theorem Bookkept.refl (session : LockSession) : session.Bookkept session :=
  ⟨rfl, rfl, rfl, rfl, rfl⟩

theorem Bookkept.trans {first second third : LockSession} (hl : first.Bookkept second)
    (hr : second.Bookkept third)
    : first.Bookkept third :=
  ⟨hr.aesKey.trans hl.aesKey, hr.ivResponse.trans hl.ivResponse, hr.header.trans hl.header,
    hr.plaintextSize.trans hl.plaintextSize, hr.responseIvValid.trans hl.responseIvValid⟩

theorem bookkept_mapContext (session : LockSession) (ref : ContextRef)
    (update : CryptoContext → CryptoContext)
    : session.Bookkept (session.mapContext ref update) := by
  cases ref <;> exact ⟨rfl, rfl, rfl, rfl, rfl⟩

theorem bookkept_dropRetiredIf (session : LockSession) (drop : Bool)
    : session.Bookkept (session.dropRetiredIf drop) := by
  cases drop <;> exact ⟨rfl, rfl, rfl, rfl, rfl⟩

/-- Updates that keep a context's IV keep it under every reference. -/
theorem context_mapContext_iv (session : LockSession) (ref : ContextRef)
    {update : CryptoContext → CryptoContext} (keeps : ∀ context, (update context).iv = context.iv)
    (asked : ContextRef)
    : ((session.mapContext ref update).context asked).iv = (session.context asked).iv := by
  cases ref <;> cases asked <;> simp [mapContext, context, keeps]

/-- Noting a poll is bookkeeping on the bound context. -/
theorem noteHandoffPoll_eq (session : LockSession) (opened : OpenedFrame)
    : session.noteHandoffPoll opened = session
      ∨ session.noteHandoffPoll opened
        = session.mapContext opened.ref CryptoContext.notePoll := by
  unfold noteHandoffPoll
  split
  · rename_i noted
    simp only [Bool.and_eq_true] at noted
    right
    split
    · rename_i seen
      cases ref : opened.ref <;> simp_all [mapContext, context, CryptoContext.notePoll]
    · rename_i unseen
      cases ref : opened.ref <;> simp_all [mapContext, context, CryptoContext.notePoll]
  · exact .inl rfl

/-- The replay filter either commits the frame or drops it. -/
theorem filterReplay_cases (session : LockSession) (opened : OpenedFrame)
    (usesPredecessor : Bool)
    : (∃ ready,
        session.filterReplay opened usesPredecessor = (ready.commitFrame opened, .command)
        ∧ session.Bookkept ready
        ∧ ready.command = session.command
        ∧ (ready.context opened.ref).iv = (session.context opened.ref).iv)
      ∨ ∃ after,
          session.filterReplay opened usesPredecessor = (after, .none)
          ∧ session.Bookkept after := by
  rw [filterReplay_eq]
  split
  · exact .inr ⟨_, rfl, bookkept_dropRetiredIf _ _⟩
  · refine .inl ⟨_, rfl, bookkept_mapContext _ _ _, by simp, ?_⟩
    apply context_mapContext_iv
    intro context
    split
    · split <;> simp [CryptoContext.withoutAllowance]
    · rfl

/-- Admission either commits the frame after bookkeeping on its context, or drops it. -/
theorem admitDecoded_cases (session : LockSession) (opened : OpenedFrame)
    : (∃ ready,
        session.admitDecoded opened = (ready.commitFrame opened, .command)
        ∧ session.Bookkept ready
        ∧ ready.command = session.command
        ∧ (ready.context opened.ref).iv = (session.context opened.ref).iv)
      ∨ ∃ after, session.admitDecoded opened = (after, .none) ∧ session.Bookkept after := by
  by_cases poll : session.command.type = .statePoll
  · rw [admitDecoded_poll poll]
    rcases noteHandoffPoll_eq session opened with same | noted
    · exact .inl ⟨session, by rw [same], .refl _, rfl, rfl⟩
    · exact .inl ⟨_, rfl, noted ▸ bookkept_mapContext _ _ _, by rw [noted]; simp,
        by rw [noted]; exact context_mapContext_iv _ _ CryptoContext.notePoll_iv _⟩
  · by_cases predecessor
      : (opened.usesRetired || (opened.usesActive && session.pending.valid)) = true
    · rw [admitDecoded_predecessor predecessor poll]
      have kept := bookkept_mapContext session opened.ref CryptoContext.withoutAllowance
      split
      · rcases filterReplay_cases
          (session.mapContext opened.ref CryptoContext.withoutAllowance) opened true with
          ⟨ready, done, tail, command, iv⟩ | ⟨after, done, tail⟩
        · have keeps (context : CryptoContext) : context.withoutAllowance.iv = context.iv := rfl
          exact .inl ⟨ready, done, kept.trans tail, command.trans (by simp),
            iv.trans (context_mapContext_iv _ _ keeps _)⟩
        · exact .inr ⟨after, done, kept.trans tail⟩
      · have cleared (session : LockSession) : session.Bookkept { session with command := {} } :=
          ⟨rfl, rfl, rfl, rfl, rfl⟩
        exact .inr ⟨_, rfl, kept.trans ((cleared _).trans (bookkept_dropRetiredIf _ _))⟩
    · simp only [Bool.or_eq_true, not_or, Bool.not_eq_true] at predecessor
      rw [admitDecoded_current predecessor.1 predecessor.2]
      exact filterReplay_cases session opened false

/-- A commit publishes the plaintext and snapshots the IV of the bound context. -/
theorem commitFrame_publishes (session : LockSession) (opened : OpenedFrame)
    (sameLength : opened.plaintext.length = opened.ciphertext.length)
    (fits : opened.ciphertext.length ≤ maxPayload)
    : (session.commitFrame opened).plaintextBytes = opened.plaintext
      ∧ (session.commitFrame opened).responseIv = (session.context opened.ref).iv
      ∧ (session.commitFrame opened).responseIvValid = true
      ∧ (session.commitFrame opened).command = session.command
      ∧ (session.commitFrame opened).header = session.header
      ∧ (session.commitFrame opened).aesKey = session.aesKey
      ∧ (session.commitFrame opened).ivResponse = session.ivResponse := by
  have text : readBack (overwrite session.plaintext 0 opened.plaintext) 0
      opened.ciphertext.length = opened.plaintext := by
    rw [← sameLength]
    exact readBack_overwrite _ _ _ (by simpa [sameLength, maxPayload] using fits)
  unfold commitFrame
  dsimp only
  split
  · exact ⟨text, rfl, rfl, rfl, rfl, rfl, rfl⟩
  · cases opened.usesRetired <;> exact ⟨text, rfl, rfl, rfl, rfl, rfl, rfl⟩

/-- The cipher preserves length. -/
theorem xcrypt_length {keystream : Keystream} {session : LockSession} {env : FrameEnv}
    {iv : Iv} {input output : Bytes}
    (done : session.xcrypt keystream env iv input = some output)
    : output.length = input.length := by
  obtain ⟨key, _, rfl⟩ := aesCtrXcrypt_eq_some keystream done
  simp

variable {keystream : Keystream} {env : FrameEnv} {session : LockSession} {frame : Bytes}
variable {opened : OpenedFrame}

/-- The checks of an opened frame read no transient member. -/
theorem opens_clearTransient
    : Opens keystream env session.clearTransient frame opened
      ↔ Opens keystream env session frame opened :=
  ⟨fun ⟨magic, keyId, negotiated, pending, active, retired, matched, text, nonempty, fits,
      seen, decrypted⟩ =>
    ⟨magic, keyId, negotiated, pending, active, retired, matched, text, nonempty, fits,
      seen, decrypted⟩,
   fun ⟨magic, keyId, negotiated, pending, active, retired, matched, text, nonempty, fits,
      seen, decrypted⟩ =>
    ⟨magic, keyId, negotiated, pending, active, retired, matched, text, nonempty, fits,
      seen, decrypted⟩⟩

/-- What one call of `process_frame` did, for a session whose contexts are well formed. -/
inductive Processed (keystream : Keystream) (env : FrameEnv) (session : LockSession)
    (frame : Bytes)
    : FrameOutcome → Prop
  | request (isRequest : isIvRequest frame = true)
    : Processed keystream env session frame
        ⟨(session.clearTransient.answerIvRequest env.random (frame.getD 7 0)).1, .sendIv,
          (session.clearTransient.answerIvRequest env.random (frame.getD 7 0)).2⟩
  | ignored (notRequest : isIvRequest frame = false)
    (unopened : ∀ opened, ¬ Opens keystream env session frame opened)
    (header : FrameHeader) (drop : Bool)
    (closes : drop = true → session.retired.valid = true)
    : Processed keystream env session frame
        ⟨{ session.clearTransient with header := header }.dropRetiredIf drop, .none, 0⟩
  | opened {opened : OpenedFrame} {after : LockSession} {action : Action}
    (notRequest : isIvRequest frame = false)
    (opens : Opens keystream env session frame opened)
    (step : FrameStep session.contexts opened after.contexts action)
    (aesKey : after.aesKey = session.aesKey)
    (ivResponse : after.ivResponse = session.ivResponse)
    (delivers : action = .command → Delivers session frame opened after)
    (silent
      : action = .none → after.plaintextSize = 0 ∧ after.responseIvValid = false)
    : Processed keystream env session frame ⟨after, action, 0⟩

/-- The drop on sight of the current generation keeps the IV of the bound context. -/
theorem decoded_context_iv (opens : Opens keystream env session frame opened)
    (wf : session.contexts.WellFormed)
    : ((session.decoded frame opened).context opened.ref).iv
      = (session.context opened.ref).iv := by
  obtain ⟨_, usesActive, _⟩ := opens.flags wf
  cases bound : opened.ref <;> simp [context, usesActive, bound]

/-- The decoder's bookkeeping touches no wire-facing member but the header. -/
theorem bookkept_decoded (session : LockSession) (frame : Bytes) (opened : OpenedFrame)
    : { session with header := frameHeader frame }.Bookkept
        (session.decoded frame opened) := by
  unfold decoded afterOpening dropRetiredIf
  split <;> exact ⟨rfl, rfl, rfl, rfl, rfl⟩

/-- What admission publishes for an opened frame, and what it keeps. -/
theorem Opens.admits (opens : Opens keystream env session frame opened)
    (wf : session.contexts.WellFormed)
    {after : LockSession} {action : Action}
    (result : (session.decoded frame opened).admitDecoded opened = (after, action))
    : after.aesKey = session.aesKey
      ∧ after.ivResponse = session.ivResponse
      ∧ (action = .command → Delivers session frame opened after)
      ∧ (action = .none
          → after.plaintextSize = session.plaintextSize
            ∧ after.responseIvValid = session.responseIvValid) := by
  have base := bookkept_decoded session frame opened
  rcases admitDecoded_cases (session.decoded frame opened) opened with
    ⟨ready, done, tail, command, iv⟩ | ⟨dropped, done, tail⟩
  · obtain ⟨rfl, rfl⟩ := Prod.mk.inj (done.symm.trans result)
    have kept := base.trans tail
    obtain ⟨text, responseIv, valid, sameCommand, header, aesKey, ivResponse⟩ :=
      commitFrame_publishes ready opened (xcrypt_length opens.decrypted) opens.fits
    refine ⟨aesKey.trans kept.aesKey, ivResponse.trans kept.ivResponse, fun _ => ?_, by simp⟩
    exact {
      header := header.trans kept.header
      command := sameCommand.trans command
      plaintext := text
      responseIv := responseIv.trans (iv.trans (decoded_context_iv opens wf))
      responseIvValid := valid
    }
  · obtain ⟨rfl, rfl⟩ := Prod.mk.inj (done.symm.trans result)
    have kept := base.trans tail
    exact ⟨kept.aesKey, kept.ivResponse, by simp,
      fun _ => ⟨kept.plaintextSize, kept.responseIvValid⟩⟩

/-- A delivery for the cleared session is one for the session. -/
theorem delivers_clearTransient {after : LockSession}
    (delivers : Delivers session.clearTransient frame opened after)
    : Delivers session frame opened after := by
  obtain ⟨header, command, plaintext, responseIv, valid⟩ := delivers
  exact ⟨header, command, plaintext, responseIv, valid⟩

/-- An IV request is answered whatever state the session is in. -/
theorem processFrame_request (keystream : Keystream) (env : FrameEnv)
    (session : LockSession) {frame : Bytes} (isRequest : isIvRequest frame = true)
    : session.processFrame keystream env frame
      = ⟨(session.clearTransient.answerIvRequest env.random (frame.getD 7 0)).1, .sendIv,
          (session.clearTransient.answerIvRequest env.random (frame.getD 7 0)).2⟩ := by
  simp [processFrame, isRequest]

/-- Every call answers an IV request, ignores the frame, or opens and admits it. -/
theorem processFrame_processed (keystream : Keystream) (env : FrameEnv)
    {session : LockSession} (wf : session.contexts.WellFormed) (frame : Bytes)
    : Processed keystream env session frame (session.processFrame keystream env frame) := by
  unfold processFrame
  dsimp only
  split
  · rename_i isRequest
    exact .request isRequest
  rename_i notRequest
  rw [Bool.not_eq_true] at notRequest
  split
  · rename_i after result
    obtain ⟨unopened, header, drop, rfl, closes⟩ := openFrame_eq_none result
    refine .ignored notRequest ?_ header drop closes
    intro opened opens
    exact unopened opened (opens_clearTransient.mpr opens)
  · rename_i after opened result
    obtain ⟨opens, rfl⟩ := openFrame_eq_some result
    have step := opens.step wf
    rw [admitFrame_afterOpening] at step ⊢
    obtain ⟨aesKey, ivResponse, delivers, silent⟩ := opens.admits wf rfl
    exact .opened notRequest (opens_clearTransient.mp opens) step aesKey ivResponse
      (fun command => delivers_clearTransient (delivers command)) silent

end LockSession

end KeypadBridge
