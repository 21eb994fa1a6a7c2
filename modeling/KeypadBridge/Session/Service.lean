import KeypadBridge.Session.Offers
import KeypadBridge.Session.ReplayWindow

/-! A session that serves an exchange: the IV it advertised stays the newest generation, its
replay history holds what the exchange sent, and every further command is delivered.
-/

namespace KeypadBridge
open KeypadBridge.Foundation
open LockSession (OpenedFrame FrameStep Opens Delivers FrameOutcome isIvRequest)

/-- A payload whose ciphertext the session records against replays. -/
def isActionPayload (payload : Bytes) : Bool := (decodeLockCommand payload).isAction

namespace LockSession

/-- The four bytes in front of the advertised IV are those of a new session. -/
structure ResponseHeader (session : LockSession) : Prop where
  first : session.ivResponse[0] = 0x01
  second : session.ivResponse[1] = 0x00
  third : session.ivResponse[2] = 0x00
  fourth : session.ivResponse[3] = 0x00

theorem ResponseHeader.congr {left right : LockSession} (header : left.ResponseHeader)
    (same : right.ivResponse = left.ivResponse)
    : right.ResponseHeader :=
  ⟨same ▸ header.first, same ▸ header.second, same ▸ header.third, same ▸ header.fourth⟩

/-- Storing an IV leaves the header alone. -/
theorem ResponseHeader.storeIvResponse {session : LockSession}
    (header : session.ResponseHeader) (iv : Iv)
    : (session.storeIvResponse iv).ResponseHeader := by
  have kept (i : Nat) (inside : i < 4)
      : (session.storeIvResponse iv).ivResponse[i] = session.ivResponse[i] :=
    overwrite_getElem_outside session.ivResponse ivResponseHeader iv.toList _
      (.inl inside)
  exact ⟨(kept 0 (by decide)).trans header.first, (kept 1 (by decide)).trans header.second,
    (kept 2 (by decide)).trans header.third, (kept 3 (by decide)).trans header.fourth⟩

/-- Every answer to a request stores an IV behind the header. -/
theorem ResponseHeader.answerIvRequest {session : LockSession}
    (header : session.ResponseHeader) (random : Nat → UInt32) (slot : UInt8)
    : (session.answerIvRequest random slot).1.ResponseHeader := by
  by_cases same : slot = session.slotId
  · rw [answerIvRequest_same random same]
    cases offer : session.pending.valid with
    | true =>
        simp only [ensurePendingIv, offer, if_true]
        exact header.storeIvResponse _
    | false =>
        rw [ensurePendingIv_fresh random offer]
        apply ResponseHeader.storeIvResponse
        exact header.congr rfl
  · rw [answerIvRequest_other random same]
    apply ResponseHeader.storeIvResponse
    exact header.congr rfl

/-- The response is the header and the advertised IV behind it. -/
theorem ResponseHeader.toList_eq {session : LockSession} (header : session.ResponseHeader)
    : session.ivResponse.toList = [0x01, 0x00, 0x00, 0x00] ++ session.advertisedIv.toList := by
  apply List.ext_getElem
  · simp
  intro i inside _
  simp only [Vector.getElem_toList, Vector.length_toList] at inside ⊢
  match i with
  | 0 => exact header.first
  | 1 => exact header.second
  | 2 => exact header.third
  | 3 => exact header.fourth
  | i + 4 => simp [advertisedIv]

/-- Every operation keeps the header. -/
theorem ResponseHeader.perform {keystream : Keystream} {session : LockSession}
    (header : session.ResponseHeader) (wf : session.contexts.WellFormed) (op : SessionOp)
    : (session.perform keystream op).1.ResponseHeader := by
  cases op with
  | reset | resetTransport | resetForget | setAesKey => exact header.congr rfl
  | frame env bytes =>
      have processed := processFrame_processed keystream env wf bytes
      simp only [LockSession.perform]
      generalize session.processFrame keystream env bytes = outcome at processed
      cases processed with
      | request =>
          apply ResponseHeader.answerIvRequest
          exact header.congr rfl
      | ignored => exact header.congr (by simp [clearTransient])
      | opened _ _ _ _ ivResponse => exact header.congr ivResponse

theorem Reachable.responseHeader {keystream : Keystream} {session : LockSession}
    (reachable : session.Reachable keystream)
    : session.ResponseHeader := by
  obtain ⟨ops, rfl⟩ := reachable
  have both : ((sessionMachine keystream).run {} ops).contexts.WellFormed
      ∧ ((sessionMachine keystream).run {} ops).ResponseHeader := by
    refine (sessionMachine keystream).run_invariant
      (fun session => session.contexts.WellFormed ∧ session.ResponseHeader) ?_ ?_ ops
    · exact ⟨wellFormed_new, rfl, rfl, rfl, rfl⟩
    · rintro session op ⟨wf, header⟩
      exact ⟨perform_wellFormed keystream session op wf, header.perform wf op⟩
  exact both.2

/-- The advertised IV belongs to the newest generation, whose ring holds `log`. -/
structure Serves (session : LockSession) (slot : UInt8) (iv : Iv) (log : List Bytes)
    : Prop where
  wf : session.contexts.WellFormed
  slotId : session.slotId = slot
  current
    : ∃ ref,
        (session.context ref).valid = true
        ∧ (ref = .pending ∨ ref = .active ∧ session.pending.valid = false)
        ∧ (session.context ref).iv = iv
        ∧ (session.context ref).Window log

/-- A fresh offer serves, with nothing recorded. -/
theorem Offers.serves {session : LockSession} {slot : UInt8} {iv : Iv}
    (offers : session.Offers slot iv) (wf : session.contexts.WellFormed)
    : session.Serves slot iv [] where
  wf := wf
  slotId := offers.slotId
  current := by
    refine ⟨.pending, offers.valid, .inl rfl, offers.iv_eq, ?_⟩
    have unused : session.pending = { iv := session.pending.iv, valid := session.pending.valid } :=
      wf.pendingUnused
    change session.pending.Window []
    rw [unused]
    exact CryptoContext.window_blank

/-- The log of a generation after one more payload was accepted under it. -/
def logged (keystream : Keystream) (key : AesKey) (iv : Iv) (payloads : List Bytes)
    : List Bytes :=
  (payloads.filter isActionPayload).map (ctrXor keystream key iv)

/-- What an accepted frame records of its payload. -/
theorem window_recordAction {context : CryptoContext} {log : List Bytes}
    {opened : OpenedFrame} (window : context.Window log)
    (nonempty : opened.ciphertext ≠ []) (fits : opened.ciphertext.length ≤ maxPayload)
    : (context.recordAction opened).Window
        (log ++ if opened.command.isAction then [opened.ciphertext] else []) := by
  unfold CryptoContext.recordAction
  split
  · exact window.recordCiphertext (List.length_pos_iff.mpr nonempty) fits
  · simpa using window

/-- An accepted frame of the newest generation leaves that generation active, with the
frame recorded, by cases on the step.
-/
theorem FrameStep.stays_current {held after : Contexts} {opened : OpenedFrame} {action : Action}
    {log : List Bytes} (step : FrameStep held opened after action)
    (accepted : action = .command)
    (newest
      : opened.ref = .pending ∨ opened.ref = .active ∧ held.pending.valid = false)
    (valid : (held.context opened.ref).valid = true)
    (window : (held.context opened.ref).Window log) (nonempty : opened.ciphertext ≠ [])
    (fits : opened.ciphertext.length ≤ maxPayload)
    : after.pending.valid = false
      ∧ after.active.valid = true
      ∧ after.active.iv = (held.context opened.ref).iv
      ∧ after.active.Window
          (log ++ if opened.command.isAction then [opened.ciphertext] else []) := by
  have recorded := window_recordAction window nonempty fits
  cases step with
  | promoted bound =>
      rw [bound] at recorded valid ⊢
      exact ⟨rfl, by simpa [Contexts.context] using valid, by simp [Contexts.context], recorded⟩
  | current bound noOffer =>
      rw [bound] at recorded valid ⊢
      exact ⟨noOffer, by simpa [Contexts.context] using valid, by simp [Contexts.context],
        recorded⟩
  | currentReplay | predecessorRefused | retiredRefused => simp at accepted
  | predecessorPoll bound offer | lateUnlock bound offer =>
      rcases newest with pending | ⟨_, noOffer⟩
      · simp [bound] at pending
      · simp [offer] at noOffer
  | retiredAccepted bound =>
      rcases newest with pending | ⟨active, _⟩
      · simp [bound] at pending
      · simp [bound] at active

/-- The ciphertext of a payload is in the log only if the payload was sent. -/
theorem mem_logged {keystream : Keystream} {key : AesKey} {iv : Iv} {sent : List Bytes}
    {payload : Bytes}
    : ctrXor keystream key iv payload ∈ logged keystream key iv sent
      ↔ payload ∈ sent ∧ isActionPayload payload = true := by
  have injective : Function.Injective (ctrXor keystream key iv) :=
    applyStream_injective (xorMask_involutive _)
  simp only [logged, List.mem_map, injective.eq_iff, exists_eq_right, List.mem_filter]

theorem logged_snoc (keystream : Keystream) (key : AesKey) (iv : Iv) (sent : List Bytes)
    (payload : Bytes)
    : logged keystream key iv (sent ++ [payload])
      = logged keystream key iv sent
        ++ if isActionPayload payload then [ctrXor keystream key iv payload] else [] := by
  unfold logged
  rw [List.filter_append, List.map_append]
  cases action : isActionPayload payload <;> simp [action]

/-- One command of the exchange: it is delivered, its reply is encrypted under the same IV,
and the session serves the next one.
-/
structure ServesCommand (keystream : Keystream) (session : LockSession) (slot : UInt8)
    (iv : Iv) (key : AesKey) (sent : List Bytes) (payload : Bytes) (outcome : FrameOutcome)
    : Prop where
  action : outcome.action = .command
  plaintext : outcome.session.plaintextBytes = payload
  aesKey : outcome.session.aesKey = session.aesKey
  serves : outcome.session.Serves slot iv (logged keystream key iv (sent ++ [payload]))
  replies
    : ∀ env reply,
        env.psa.Works session.aesKey key
        → reply.length ≤ maxPayload
        → outcome.session.encryptResponse keystream env outcome.session.header reply
          = some ([0x01, slot, iv.seqA, iv.seqB] ++ ctrXor keystream key iv reply)

/-- A payload that does not repeat an action of the exchange is served. -/
theorem Serves.command {keystream : Keystream} {session : LockSession} {slot : UInt8}
    {iv : Iv} {key : AesKey} {sent : List Bytes} {payload : Bytes} (env : FrameEnv)
    (serves : session.Serves slot iv (logged keystream key iv sent)) (nonzero : slot ≠ 0)
    (works : env.psa.Works session.aesKey key) (nonempty : payload ≠ [])
    (fits : payload.length ≤ maxPayload)
    (fresh : isActionPayload payload = true → payload ∉ sent)
    : session.ServesCommand keystream slot iv key sent payload
        (session.processFrame keystream env
          (wireFrame slot iv (ctrXor keystream key iv payload))) := by
  obtain ⟨wf, slotId, ref, valid, newest, iv_eq, window⟩ := serves
  have cipherNonempty : ctrXor keystream key iv payload ≠ [] := by
    simpa [← List.length_pos_iff] using List.length_pos_iff.mpr nonempty
  have cipherFits : (ctrXor keystream key iv payload).length ≤ maxPayload := by simpa using fits
  -- Only the newest context holds the IV, and its ring has not seen this ciphertext.
  have unseen
      : ¬ session.IsReplayedAction iv payload (ctrXor keystream key iv payload) := by
    rintro ⟨action, other, otherValid, otherIv, recorded⟩
    have matches_iv (asked : ContextRef) (inUse : (session.context asked).valid = true)
        (holds : (session.context asked).iv = iv)
        : (session.contexts.context asked).seqMatches ⟨slot, iv.seqA, iv.seqB⟩ = true := by
      rw [contexts_context, CryptoContext.seqMatches_iff, CryptoContext.seqPair, holds]
      exact ⟨inUse, rfl⟩
    have same : other = ref :=
      wf.match_unique (matches_iv other otherValid otherIv) (matches_iv ref valid iv_eq)
    rw [same, window.isReplayedCiphertext_iff (List.length_pos_iff.mpr cipherNonempty)
      cipherFits] at recorded
    exact fresh action (mem_logged.mp (List.mem_of_mem_drop recorded)).1
  obtain ⟨handles, action, plaintext⟩ := processFrame_newest wf valid newest iv_eq slotId
    nonzero works nonempty fits unseen
  have delivers := handles.delivers action
  have opens := opens_wireFrame keystream wf valid works cipherNonempty cipherFits
  have stays := handles.step.stays_current action (by rwa [boundFrame_ref])
    (by rwa [boundFrame_ref, contexts_context]) (by rwa [boundFrame_ref, contexts_context])
    cipherNonempty cipherFits
  rw [boundFrame_ref, contexts_context, iv_eq] at stays
  obtain ⟨noOffer, active, activeIv, recorded⟩ := stays
  refine ⟨action, delivers.plaintext.trans plaintext, handles.aesKey, ?_, ?_⟩
  · refine ⟨wf.frame ?_ handles.step, handles.step.slotId_eq.trans slotId, .active, active,
      .inr ⟨rfl, noOffer⟩, activeIv, ?_⟩
    · rwa [boundFrame_ref, contexts_context]
    · rw [logged_snoc]
      rw [OpenedFrame.command, plaintext] at recorded
      exact recorded
  · intro env reply works short
    have replied := delivers.encryptResponse opens (handles.aesKey ▸ works) short
    rw [boundFrame_ref, iv_eq, slotId] at replied
    exact replied

end LockSession

end KeypadBridge
