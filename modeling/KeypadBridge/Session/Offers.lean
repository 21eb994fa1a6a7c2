import KeypadBridge.Session.Wire

/-! The last advertised IV is never stranded. Whatever retries, reconnects and delayed frames
follow an IV request, the advertised IV stays usable until the slot changes or the session
is reset, and it is repeated unchanged until the keypad has used it.
-/

namespace KeypadBridge
open KeypadBridge.Foundation
open LockSession (OpenedFrame FrameStep FrameOutcome isIvRequest)

-----------------------------------------------------------------------------------------
-- Frames of the newest generation
-----------------------------------------------------------------------------------------

/-- A frame of the newest generation is refused only as a replay. -/
theorem LockSession.FrameStep.accepts_newest {held after : Contexts} {opened : OpenedFrame}
    {action : Action} (step : FrameStep held opened after action)
    (newest
      : opened.ref = .pending ∨ opened.ref = .active ∧ held.pending.valid = false)
    (fresh : opened.replays = false)
    : action = .command := by
  cases step with
  | promoted | current | predecessorPoll | lateUnlock | retiredAccepted => rfl
  | currentReplay _ _ replay => simp [fresh] at replay
  | predecessorRefused bound offer =>
      rcases newest with pending | ⟨_, noOffer⟩
      · simp [bound] at pending
      · simp [noOffer] at offer
  | retiredRefused bound =>
      rcases newest with pending | ⟨active, _⟩
      · simp [bound] at pending
      · simp [bound] at active

/-- Only a frame under the offered IV touches the offer. -/
theorem LockSession.FrameStep.pending_eq {held after : Contexts} {opened : OpenedFrame}
    {action : Action} (step : FrameStep held opened after action)
    (bound : opened.ref ≠ .pending)
    : after.pending = held.pending := by
  cases step with
  | promoted offered => exact absurd offered bound
  | _ => rfl

/-- An IV on offer or just promoted stays so: only the frame that uses an offer moves it.
-/
theorem LockSession.FrameStep.owner {held after : Contexts} {opened : OpenedFrame}
    {action : Action} {iv : Iv} (step : FrameStep held opened after action)
    (owner
      : held.pending.valid = true ∧ held.pending.iv = iv
        ∨ held.pending.valid = false ∧ held.active.valid = true ∧ held.active.iv = iv)
    (inUse : (held.context opened.ref).valid = true)
    : after.pending.valid = true ∧ after.pending.iv = iv
      ∨ after.pending.valid = false ∧ after.active.valid = true ∧ after.active.iv = iv := by
  cases step with
  | promoted bound =>
      rw [bound] at inUse
      change held.pending.valid = true at inUse
      have offered : held.pending.iv = iv := by
        rcases owner with ⟨_, offered⟩ | ⟨noOffer, _⟩
        · exact offered
        · simp [noOffer] at inUse
      exact .inr ⟨rfl, by simpa using inUse, by simpa using offered⟩
  | currentReplay | retiredAccepted | retiredRefused => exact owner
  | current | predecessorPoll | lateUnlock | predecessorRefused =>
      rcases owner with offered | ⟨noOffer, valid, promoted⟩
      · exact .inl offered
      · exact .inr ⟨noOffer, by simpa using valid, by simpa using promoted⟩

/-- A frame never arms the late-action allowance of the active context, and never gives
back a poll it has tolerated.
-/
theorem LockSession.FrameStep.not_armed {held after : Contexts} {opened : OpenedFrame}
    {action : Action} (step : FrameStep held opened after action)
    (allowed : after.active.lateActionAllowed = true)
    : held.active.lateActionAllowed = true
      ∧ (held.active.handoffPollSeen = true → after.active.handoffPollSeen = true) := by
  cases step with
  | promoted => simp at allowed
  | current => exact ⟨by simpa using allowed, fun seen => by simpa using seen⟩
  | currentReplay | retiredAccepted | retiredRefused => exact ⟨allowed, id⟩
  | predecessorPoll =>
      exact ⟨CryptoContext.allowed_of_notePoll allowed, CryptoContext.pollSeen_notePoll⟩
  | lateUnlock | predecessorRefused => simp at allowed

-----------------------------------------------------------------------------------------
-- Who owns the advertised IV
-----------------------------------------------------------------------------------------

/-- An operation that neither resets the session nor requests an IV for another slot. -/
def SessionOp.KeepsOffer (slot : UInt8) : SessionOp → Prop
  | .frame _ bytes => isIvRequest bytes = true → bytes.getD 7 0 = slot
  | .resetTransport | .setAesKey _ => True
  | .reset | .resetForget => False

namespace LockSession

/-- The advertised IV is out for `slot` and no frame has used it yet. -/
structure Offers (session : LockSession) (slot : UInt8) (iv : Iv) : Prop where
  slotId : session.slotId = slot
  advertised : session.advertisedIv = iv
  valid : session.pending.valid = true
  iv_eq : session.pending.iv = iv

/-- The advertised IV belongs to the offer, or to the generation that came out of it. -/
structure Owns (session : LockSession) (slot : UInt8) : Prop where
  slotId : session.slotId = slot
  owner
    : session.pending.valid = true ∧ session.pending.iv = session.advertisedIv
      ∨ session.pending.valid = false
        ∧ session.active.valid = true
        ∧ session.active.iv = session.advertisedIv

theorem Offers.owns {session : LockSession} {slot : UInt8} {iv : Iv}
    (offers : session.Offers slot iv)
    : session.Owns slot :=
  ⟨offers.slotId, .inl ⟨offers.valid, offers.iv_eq.trans offers.advertised.symm⟩⟩

/-- The owner of the advertised IV is a valid context of the newest generation. -/
theorem Owns.newest {session : LockSession} {slot : UInt8} (owns : session.Owns slot)
    : ∃ ref,
        (session.context ref).valid = true
        ∧ (ref = .pending ∨ ref = .active ∧ session.pending.valid = false)
        ∧ (session.context ref).iv = session.advertisedIv := by
  rcases owns.owner with ⟨valid, iv⟩ | ⟨noOffer, valid, iv⟩
  · exact ⟨.pending, valid, .inl rfl, iv⟩
  · exact ⟨.active, valid, .inr ⟨rfl, noOffer⟩, iv⟩

/-- The advertised IV is read off the response buffer alone. -/
theorem advertisedIv_congr {left right : LockSession}
    (same : left.ivResponse = right.ivResponse)
    : left.advertisedIv = right.advertisedIv := by
  simp only [advertisedIv, same]

@[simp] theorem dropRetiredIf_ivResponse (session : LockSession) (drop : Bool)
    : (session.dropRetiredIf drop).ivResponse = session.ivResponse := by
  cases drop <;> rfl

/-- Every answer to an IV request for a slot leaves that slot's IV on offer. -/
theorem Answered.offers {session : LockSession} {random : Nat → UInt32} {slot : UInt8}
    {answer : LockSession × Nat} (answered : session.Answered random slot answer)
    : answer.1.Offers slot answer.1.advertisedIv := by
  obtain ⟨slotId, valid, iv⟩ := answered.step.offers
  exact ⟨slotId, rfl, valid, iv⟩

section

variable {keystream : Keystream} {session : LockSession} {slot : UInt8} {op : SessionOp}

/-- The advertised IV keeps its owner through every operation that keeps the offer. -/
theorem Owns.perform (owns : session.Owns slot) (wf : session.contexts.WellFormed)
    (keeps : op.KeepsOffer slot)
    : (session.perform keystream op).1.Owns slot := by
  cases op with
  | reset | resetForget => exact keeps.elim
  | setAesKey => exact ⟨owns.slotId, owns.owner⟩
  | resetTransport => exact ⟨owns.slotId, owns.owner⟩
  | frame env bytes =>
      have processed := processFrame_processed keystream env wf bytes
      simp only [LockSession.perform]
      generalize session.processFrame keystream env bytes = outcome at processed
      cases processed with
      | request isRequest =>
          have answered := answerIvRequest_answered session.clearTransient env.random
            (bytes.getD 7 0)
          exact keeps isRequest ▸ answered.offers.owns
      | ignored _ _ header drop =>
          have same : ({ session.clearTransient with header := header }.dropRetiredIf
              drop).advertisedIv = session.advertisedIv :=
            advertisedIv_congr (by simp [clearTransient])
          refine ⟨?_, ?_⟩
          · cases drop <;> exact owns.slotId
          · rw [same]
            cases drop <;> exact owns.owner
      | @opened opened after action _ opens step _ ivResponse =>
          have slotId : after.slotId = session.slotId := step.slotId_eq
          refine ⟨slotId.trans owns.slotId, ?_⟩
          rw [advertisedIv_congr ivResponse]
          exact step.owner owns.owner (by
            rw [contexts_context]
            exact (CryptoContext.seqMatches_iff.mp opens.bound_matches).1)

/-- The call returned a command that was decrypted under `iv`. -/
def FrameOutcome.AcceptedUnder (outcome : FrameOutcome) (iv : Iv) : Prop :=
  outcome.action = .command ∧ outcome.session.responseIv = iv

/-- An operation that repeats the offer at most: the advertised IV is `iv` afterwards, no
random numbers were drawn, and the predecessor's allowance only moved towards spent.
-/
structure Quiet (before after : LockSession) (outcome : Option FrameOutcome) (iv : Iv)
    : Prop where
  advertised : after.advertisedIv = iv
  noDraw : ∀ made, outcome = some made → made.randomCalls = 0
  notArmed
    : after.active.lateActionAllowed = true
      → before.active.lateActionAllowed = true
        ∧ (before.active.handoffPollSeen = true → after.active.handoffPollSeen = true)

/-- A request for the slot of an offer resends it. -/
theorem Answered.resends {random : Nat → UInt32} {iv : Iv} {answer : LockSession × Nat}
    (answered : session.Answered random slot answer) (offers : session.Offers slot iv)
    : answer.1.contexts = session.contexts ∧ answer.1.advertisedIv = iv ∧ answer.2 = 0 := by
  have step := answered.step
  generalize answer.1.contexts = after at step
  generalize answer.1.advertisedIv = offered at step
  generalize drew : decide (0 < answer.2) = drawn at step
  cases step with
  | resent => exact ⟨rfl, offers.iv_eq, by simpa using drew⟩
  | rotated _ noOffer => simp [offers.valid] at noOffer
  | restarted other => exact absurd offers.slotId.symm other

/-- An answer to a request for the slot of an offer repeats it, quietly. -/
theorem Answered.quiet {random : Nat → UInt32} {iv : Iv} {answer : LockSession × Nat}
    (answered : session.Answered random slot answer) (offers : session.Offers slot iv)
    : session.Quiet answer.1 (some ⟨answer.1, .sendIv, answer.2⟩) iv
      ∧ answer.1.Offers slot iv := by
  obtain ⟨same, advertised, noCalls⟩ := answered.resends offers
  have active := congrArg Contexts.active same
  have pending := congrArg Contexts.pending same
  have slotId := congrArg Contexts.slotId same
  simp only [contexts_active, contexts_pending, contexts_slotId] at active pending slotId
  refine ⟨⟨advertised, ?_, ?_⟩, ?_, advertised, ?_, ?_⟩
  · rintro made ⟨⟩
    exact noCalls
  · rw [active]
    exact fun allowed => ⟨allowed, id⟩
  · exact slotId.trans offers.slotId
  · rw [pending]
    exact offers.valid
  · rw [pending]
    exact offers.iv_eq

/-- An opened frame is quiet, and it uses the offer only if it was decrypted under it. -/
theorem Offers.opened {env : FrameEnv} {iv : Iv} {bytes : Bytes} {opened : OpenedFrame}
    {after : LockSession} {action : Action} (offers : session.Offers slot iv)
    (wf : session.contexts.WellFormed) (opens : Opens keystream env session bytes opened)
    (step : FrameStep session.contexts opened after.contexts action)
    (ivResponse : after.ivResponse = session.ivResponse)
    (delivers : action = .command → Delivers session bytes opened after)
    : session.Quiet after (some ⟨after, action, 0⟩) iv
      ∧ (after.Offers slot iv ∨ FrameOutcome.AcceptedUnder ⟨after, action, 0⟩ iv) := by
  have same : after.advertisedIv = iv :=
    (advertisedIv_congr ivResponse).trans offers.advertised
  refine ⟨⟨same, by simp, step.not_armed⟩, ?_⟩
  by_cases bound : opened.ref = .pending
  · -- The first frame under the offer is accepted, whatever it carries.
    have fresh : opened.replays = false := by
      have unused := wf.pendingUnused.not_replayed opened.ciphertext
      rw [contexts_pending] at unused
      simp [OpenedFrame.replays, opens.seen, bound, context, unused]
    have accepted := step.accepts_newest (.inl bound) fresh
    have responseIv := (delivers accepted).responseIv
    rw [bound] at responseIv
    exact .inr ⟨accepted, responseIv.trans offers.iv_eq⟩
  · have pending : after.pending = session.pending := step.pending_eq bound
    refine .inl ⟨step.slotId_eq.trans offers.slotId, same, ?_, ?_⟩
    · exact pending ▸ offers.valid
    · exact pending ▸ offers.iv_eq

/-- Until it is used, an offer survives every operation that keeps it, quietly. -/
theorem Offers.perform (keystream : Keystream) {iv : Iv} (offers : session.Offers slot iv)
    (wf : session.contexts.WellFormed) (keeps : op.KeepsOffer slot)
    : session.Quiet (session.perform keystream op).1 (session.perform keystream op).2 iv
      ∧ ((session.perform keystream op).1.Offers slot iv
        ∨ ∃ made, (session.perform keystream op).2 = some made ∧ made.AcceptedUnder iv) := by
  cases op with
  | reset | resetForget => exact keeps.elim
  | setAesKey =>
      exact ⟨⟨offers.advertised, by simp [LockSession.perform],
          fun allowed => ⟨allowed, id⟩⟩,
        .inl ⟨offers.slotId, offers.advertised, offers.valid, offers.iv_eq⟩⟩
  | resetTransport =>
      refine ⟨⟨offers.advertised, by simp [LockSession.perform], ?_⟩,
        .inl ⟨offers.slotId, offers.advertised, offers.valid, offers.iv_eq⟩⟩
      intro allowed
      simp [LockSession.perform, resetTransport] at allowed
  | frame env bytes =>
      have processed := processFrame_processed keystream env wf bytes
      simp only [LockSession.perform]
      generalize session.processFrame keystream env bytes = outcome at processed
      cases processed with
      | request isRequest =>
          have answered := answerIvRequest_answered session.clearTransient env.random
            (bytes.getD 7 0)
          rw [keeps isRequest] at answered ⊢
          have cleared : session.clearTransient.Offers slot iv :=
            ⟨offers.slotId, offers.advertised, offers.valid, offers.iv_eq⟩
          obtain ⟨⟨advertised, noDraw, notArmed⟩, still⟩ := answered.quiet cleared
          exact ⟨⟨advertised, noDraw, notArmed⟩, .inl still⟩
      | ignored _ _ header drop =>
          have same : ({ session.clearTransient with header := header }.dropRetiredIf
              drop).advertisedIv = iv :=
            (advertisedIv_congr (by simp [clearTransient])).trans offers.advertised
          refine ⟨⟨same, by simp, ?_⟩, .inl ⟨?_, same, ?_, ?_⟩⟩
          · cases drop <;> exact fun allowed => ⟨allowed, id⟩
          · cases drop <;> exact offers.slotId
          · cases drop <;> exact offers.valid
          · cases drop <;> exact offers.iv_eq
      | opened _ opens step _ ivResponse delivers =>
          obtain ⟨quiet, still | accepted⟩ :=
            offers.opened wf opens step ivResponse delivers
          · exact ⟨quiet, .inl still⟩
          · exact ⟨quiet, .inr ⟨_, rfl, accepted⟩⟩

-----------------------------------------------------------------------------------------
-- Over whole runs
-----------------------------------------------------------------------------------------

/-- The advertised IV keeps an owner through any number of operations that keep the offer.
-/
theorem Owns.run (owns : session.Owns slot) (wf : session.contexts.WellFormed)
    {ops : List SessionOp} (kept : ∀ op ∈ ops, op.KeepsOffer slot)
    : ((sessionMachine keystream).run session ops).Owns slot := by
  induction ops generalizing session with
  | nil => exact owns
  | cons op rest ih =>
      have keeps := kept op List.mem_cons_self
      exact ih (owns.perform wf keeps) (perform_wellFormed keystream session op wf)
        fun later member => kept later (List.mem_cons_of_mem _ member)

/-- An offer that no accepted frame has used is still out. -/
theorem Offers.run {iv : Iv} (offers : session.Offers slot iv)
    (wf : session.contexts.WellFormed) {ops : List SessionOp}
    (kept : ∀ op ∈ ops, op.KeepsOffer slot)
    (unused
      : ∀ made,
          some made ∈ (sessionMachine keystream).history session ops
          → ¬ made.AcceptedUnder iv)
    : ((sessionMachine keystream).run session ops).Offers slot iv := by
  induction ops generalizing session with
  | nil => exact offers
  | cons op rest ih =>
      have keeps := kept op List.mem_cons_self
      rcases (offers.perform keystream wf keeps).2 with
        still | ⟨made, made_eq, accepted⟩
      · exact ih still (perform_wellFormed keystream session op wf)
          (fun later member => kept later (List.mem_cons_of_mem _ member))
          (fun made member => unused made (List.mem_cons_of_mem _ member))
      · exact absurd accepted (unused made (by
          rw [← made_eq]
          exact List.mem_cons_self))

/-- The context holding an IV has recorded this very action. -/
def IsReplayedAction (session : LockSession) (iv : Iv) (payload ciphertext : Bytes) : Prop :=
  (decodeLockCommand payload).isAction = true
  ∧ ∃ ref,
      (session.context ref).valid = true
      ∧ (session.context ref).iv = iv
      ∧ (session.context ref).isReplayedCiphertext ciphertext = true

/-- A frame under the newest generation delivers its payload, unless it is a replay. -/
theorem processFrame_newest {env : FrameEnv} {ref : ContextRef} {iv : Iv} {key : AesKey}
    {payload : Bytes} (wf : session.contexts.WellFormed)
    (valid : (session.context ref).valid = true)
    (newest : ref = .pending ∨ ref = .active ∧ session.pending.valid = false)
    (iv_eq : (session.context ref).iv = iv) (slotId : session.slotId = slot)
    (nonzero : slot ≠ 0) (works : env.psa.Works session.aesKey key)
    (nonempty : payload ≠ []) (fits : payload.length ≤ maxPayload)
    (fresh : ¬ session.IsReplayedAction iv payload (ctrXor keystream key iv payload))
    : let ciphertext := ctrXor keystream key iv payload
      let outcome := session.processFrame keystream env (wireFrame slot iv ciphertext)
      session.Handles keystream key ref ciphertext outcome
      ∧ outcome.action = .command
      ∧ (session.boundFrame keystream key ref ciphertext).plaintext = payload := by
  subst iv_eq slotId
  intro ciphertext outcome
  have handles : session.Handles keystream key ref ciphertext outcome :=
    processFrame_wireFrame wf valid works
      (by simpa [ciphertext, ← List.length_pos_iff] using List.length_pos_iff.mpr nonempty)
      (by simpa [ciphertext] using fits) (isIvRequest_wireFrame _ _ nonzero)
  have plaintext : (session.boundFrame keystream key ref ciphertext).plaintext = payload := by
    simp [boundFrame, ciphertext]
  refine ⟨handles, handles.step.accepts_newest (by rwa [boundFrame_ref]) ?_, plaintext⟩
  rw [Bool.eq_false_iff]
  intro replays
  simp only [OpenedFrame.replays, OpenedFrame.command, plaintext, Bool.and_eq_true] at replays
  exact fresh ⟨replays.1, ref, valid, rfl, replays.2⟩

end

/-- After an IV request for a slot other than zero, as long as no reset and no request for
another slot follows: every payload sent under the advertised IV is delivered, unless it
replays an action; and until a frame under it was accepted, every operation is quiet.
-/
theorem advertised_iv_never_stranded (keystream : Keystream) (before since : List SessionOp)
    (env : FrameEnv) (request : Bytes) (slot : UInt8) (isRequest : isIvRequest request = true)
    (requested : request.getD 7 0 = slot) (nonzero : slot ≠ 0)
    (kept : ∀ op ∈ since, op.KeepsOffer slot)
    : let machine := sessionMachine keystream
      let offered := machine.run {} (before ++ [.frame env request])
      let session := machine.run offered since
      (∀ env key payload,
        env.psa.Works session.aesKey key
        → 1 ≤ payload.length
        → payload.length ≤ 32
        → let iv := session.advertisedIv
          ¬ session.IsReplayedAction iv payload (ctrXor keystream key iv payload)
          → let outcome :=
              session.processFrame keystream env
                (wireFrame slot iv (ctrXor keystream key iv payload))
            outcome.action = .command ∧ outcome.session.plaintextBytes = payload)
      ∧ ∀ first op second,
          since = first ++ op :: second
          → (∀ made,
              some made ∈ machine.history offered first
              → ¬ made.AcceptedUnder offered.advertisedIv)
          → let reached := machine.run offered first
            reached.Quiet (reached.perform keystream op).1 (reached.perform keystream op).2
              offered.advertisedIv := by
  intro machine offered session
  have wf : offered.contexts.WellFormed := run_wellFormed keystream wellFormed_new _
  have offers : offered.Offers slot offered.advertisedIv := by
    have answered := answerIvRequest_answered (machine.run {} before).clearTransient
      env.random slot
    have reached : offered
        = ((machine.run {} before).clearTransient.answerIvRequest env.random slot).1 := by
      rw [← requested]
      exact (machine.run_append {} before _).trans
        (congrArg FrameOutcome.session (processFrame_request keystream env _ isRequest))
    rw [reached]
    exact answered.offers
  constructor
  · intro env key payload works nonempty fits iv fresh outcome
    have finalWf : session.contexts.WellFormed := run_wellFormed keystream wf since
    have owns : session.Owns slot := offers.owns.run wf kept
    obtain ⟨ref, valid, newest, same⟩ := owns.newest
    obtain ⟨handles, action, plaintext⟩ := processFrame_newest finalWf valid
      newest same owns.slotId nonzero works (List.ne_nil_of_length_pos nonempty) fits fresh
    exact ⟨action, (handles.delivers action).plaintext.trans plaintext⟩
  · rintro first op second rfl unused reached
    have keptFirst : ∀ op ∈ first, op.KeepsOffer slot :=
      fun other member => kept other (List.mem_append_left _ member)
    have still := offers.run wf keptFirst unused
    exact (still.perform keystream (run_wellFormed keystream wf first)
      (kept op (by simp))).1

/-- A reconnect and a retry of the request. -/
def retryOps : List SessionOp := [.resetTransport, .frame constantEnv (ivRequest 0xC6)]

def retried : LockSession :=
  (sessionMachine clearStream).run
    ((sessionMachine clearStream).run {} ([] ++ [.frame constantEnv (ivRequest 0xC6)]))
    retryOps

/-- An unlock under the IV that was advertised twice is delivered. -/
theorem advertised_iv_never_stranded_retried
    : (retried.processFrame clearStream constantEnv
        (wireFrame 0xC6 retried.advertisedIv
          (ctrXor clearStream (Vector.replicate 16 0) retried.advertisedIv pinUnlock))).action
        = .command
      ∧ (retried.processFrame clearStream constantEnv
          (wireFrame 0xC6 retried.advertisedIv
            (ctrXor clearStream (Vector.replicate 16 0) retried.advertisedIv
              pinUnlock))).session.plaintextBytes
        = pinUnlock := by
  refine (advertised_iv_never_stranded clearStream [] retryOps constantEnv (ivRequest 0xC6)
    0xC6 (by decide) rfl (by decide) ?_).1 constantEnv (Vector.replicate 16 0) pinUnlock
    ⟨rfl, rfl, rfl, rfl, rfl⟩ (by decide) (by decide) ?_
  · intro op member
    simp only [retryOps, List.mem_cons, List.not_mem_nil, or_false] at member
    rcases member with rfl | rfl
    · trivial
    · exact fun _ => rfl
  · rintro ⟨_, ref, _, _, recorded⟩
    revert recorded
    cases ref <;> decide +kernel

end LockSession

end KeypadBridge
