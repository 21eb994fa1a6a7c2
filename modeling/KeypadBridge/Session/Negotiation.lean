import KeypadBridge.Session.Processing

/-! IV negotiation. A request repeats the offer that is already out, rotates to a fresh one,
or starts over for another slot; a fresh IV never shares the seq bytes of the active one.
-/

namespace KeypadBridge
open KeypadBridge.Foundation

namespace LockSession

/-- Flipping the low bit changes a byte. -/
theorem flip_ne (byte : UInt8) : byte ^^^ 0x01 ≠ byte := by
  intro same
  have cancelled : byte ^^^ (byte ^^^ 0x01) = byte ^^^ byte := congrArg (byte ^^^ ·) same
  rw [← UInt8.xor_assoc, UInt8.xor_self, UInt8.zero_xor] at cancelled
  exact absurd cancelled (by decide)

/-- The redraw loop only adds calls. -/
theorem le_redrawIv_calls (random : Nat → UInt32) (active : CryptoContext)
    (retries calls : Nat) (iv : Iv)
    : calls ≤ (redrawIv random active retries calls iv).2 := by
  induction retries generalizing calls iv with
  | zero => exact Nat.le_refl _
  | succ retries ih =>
      unfold redrawIv
      split
      · exact Nat.le_trans (Nat.le_add_right _ _) (ih _ _)
      · exact Nat.le_refl _

/-- A fresh IV costs at least one fill. -/
theorem drawIv_calls_pos (random : Nat → UInt32) (active : CryptoContext)
    : 0 < (drawIv random active).2 :=
  Nat.lt_of_lt_of_le (by decide) (le_redrawIv_calls random active 4 4 (fillIv random 0))

/-- Whatever the generator yields, a fresh IV does not collide with the active one. -/
theorem drawIv_distinct (random : Nat → UInt32) (active : CryptoContext)
    : seqCollides active (drawIv random active).1 = false := by
  unfold drawIv
  dsimp only
  generalize (redrawIv random active 4 4 (fillIv random 0)).1 = iv
  split
  · rename_i collides
    simp only [seqCollides, Bool.and_eq_true, decide_eq_true_eq] at collides
    have flipped : iv.seqB ^^^ (0x01 : UInt8) ≠ active.iv.seqB := collides.2 ▸ flip_ne iv.seqB
    simp only [seqCollides, Iv.seqB_setIfInBounds, flipped, decide_false, Bool.and_false]
  · rename_i distinct
    simpa using distinct

/-- The draw looks at nothing of the active context but its validity and its IV. -/
theorem drawIv_congr (random : Nat → UInt32) {left right : CryptoContext}
    (valid : left.valid = right.valid) (iv : left.iv = right.iv)
    : drawIv random left = drawIv random right := by
  have collides : seqCollides left = seqCollides right := by
    funext candidate
    simp only [seqCollides, valid, iv]
  have redraw (retries calls : Nat) (candidate : Iv)
      : redrawIv random left retries calls candidate
        = redrawIv random right retries calls candidate := by
    induction retries generalizing calls candidate with
    | zero => rfl
    | succ retries ih => simp only [redrawIv, collides, ih]
  simp only [drawIv, redraw, collides]

theorem contexts_storeIvResponse (session : LockSession) (iv : Iv)
    : (session.storeIvResponse iv).contexts = session.contexts := by
  unfold contexts storeIvResponse
  rfl

/-- A caller reads back the IV that was stored into the response. -/
@[simp] theorem advertisedIv_storeIvResponse (session : LockSession) (iv : Iv)
    : (session.storeIvResponse iv).advertisedIv = iv := by
  apply Vector.ext
  intro i inside
  have past : ivResponseHeader ≤ i + 4 := Nat.le_add_left _ _
  have placed : i + 4 - ivResponseHeader = i := Nat.add_sub_cancel _ _
  have stored := overwrite_getElem_inside session.ivResponse ivResponseHeader iv.toList
    (Nat.add_lt_add_right inside 4) past (by rw [placed, Vector.length_toList]; exact inside)
  simp only [placed, Vector.getElem_toList] at stored
  simp only [advertisedIv, storeIvResponse, Vector.getElem_ofFn]
  exact stored

end LockSession

/-- The hand-off flags of the active context when the next generation is drawn. -/
def CryptoContext.superseded (context : CryptoContext) (slotId : UInt8) : CryptoContext :=
  if context.valid then
    { context with lateActionAllowed := slotId = visionKeySlot, handoffPollSeen := false }
  else context

namespace CryptoContext

section

variable (context : CryptoContext) (slotId : UInt8)

@[simp] theorem superseded_iv : (context.superseded slotId).iv = context.iv := by
  unfold superseded
  split <;> rfl

@[simp] theorem superseded_valid : (context.superseded slotId).valid = context.valid := by
  unfold superseded
  split <;> rfl

@[simp] theorem superseded_replayHead
    : (context.superseded slotId).replayHead = context.replayHead := by
  unfold superseded
  split <;> rfl

@[simp] theorem superseded_replayHistory
    : (context.superseded slotId).replayHistory = context.replayHistory := by
  unfold superseded
  split <;> rfl

end

/-- A candidate that does not collide with the active IV is distinct from it. -/
theorem SeqDistinct.of_draw {active : CryptoContext} {iv : Iv}
    (distinct : LockSession.seqCollides active iv = false)
    : SeqDistinct { iv := iv, valid := true } active := by
  intro _ valid same
  simp only [seqPair, Prod.mk.injEq] at same
  simp [LockSession.seqCollides, valid, same.1, same.2] at distinct

end CryptoContext

/-- How an IV request moves the contexts: it ends with the IV it advertises, and `drawn` says
whether random numbers were drawn for it.
-/
inductive RequestStep (held : Contexts) (requestedSlot : UInt8)
    : Contexts → Iv → (drawn : Bool) → Prop
  /-- A retry of the same negotiation receives the same IV. -/
  | resent (same : requestedSlot = held.slotId) (offer : held.pending.valid = true)
    : RequestStep held requestedSlot held held.pending.iv false
  | rotated (same : requestedSlot = held.slotId) (noOffer : held.pending.valid = false)
    {iv : Iv} (distinct : LockSession.seqCollides held.active iv = false)
    : RequestStep held requestedSlot
        { held with
          active := held.active.superseded held.slotId
          pending := { iv := iv, valid := true }
          retired := {} }
        iv true
  /-- A slot change is a hard session boundary. -/
  | restarted (other : requestedSlot ≠ held.slotId) {iv : Iv}
    : RequestStep held requestedSlot
        { slotId := requestedSlot
          active := {}
          pending := { iv := iv, valid := true }
          retired := {} }
        iv true

/-- Every request leaves the advertised IV on offer for its slot. -/
theorem RequestStep.offers {held after : Contexts} {requestedSlot : UInt8} {iv : Iv}
    {drawn : Bool} (step : RequestStep held requestedSlot after iv drawn)
    : after.slotId = requestedSlot ∧ after.pending.valid = true ∧ after.pending.iv = iv := by
  cases step with
  | resent same offer => exact ⟨same.symm, offer, rfl⟩
  | rotated same => exact ⟨same.symm, rfl, rfl⟩
  | restarted => exact ⟨rfl, rfl, rfl⟩

namespace LockSession

/-- The IV that an answer to a request for `requestedSlot` advertises. -/
def offeredIv (session : LockSession) (random : Nat → UInt32) (requestedSlot : UInt8) : Iv :=
  if requestedSlot ≠ session.slotId then (drawIv random {}).1
  else if session.pending.valid then session.pending.iv
  else (drawIv random session.active).1

/-- The offer depends on the slot, the pending context and the active IV only. -/
theorem offeredIv_congr {left right : LockSession} (random : Nat → UInt32)
    (requestedSlot : UInt8) (slotId : left.slotId = right.slotId)
    (pending : left.pending = right.pending) (valid : left.active.valid = right.active.valid)
    (iv : left.active.iv = right.active.iv)
    : left.offeredIv random requestedSlot = right.offeredIv random requestedSlot := by
  unfold offeredIv
  rw [slotId, pending, drawIv_congr random valid iv]

/-- A fresh offer, with the source's flag updates gathered. -/
theorem ensurePendingIv_fresh {session : LockSession} (random : Nat → UInt32)
    (noOffer : session.pending.valid = false)
    : session.ensurePendingIv random
      = (storeIvResponse
          { session with
            active := session.active.superseded session.slotId
            pending := { iv := (drawIv random session.active).1, valid := true }
            retired := {} }
          (drawIv random session.active).1,
        (drawIv random session.active).2) := by
  have draw : drawIv random (session.active.superseded session.slotId)
      = drawIv random session.active := by
    apply drawIv_congr <;> (unfold CryptoContext.superseded; split <;> rfl)
  rw [← draw]
  cases valid : session.active.valid <;> by_cases vision : session.slotId = visionKeySlot <;>
    simp [ensurePendingIv, noOffer, valid, vision, CryptoContext.superseded]

theorem answerIvRequest_same {session : LockSession} (random : Nat → UInt32)
    {requestedSlot : UInt8} (same : requestedSlot = session.slotId)
    : session.answerIvRequest random requestedSlot = session.ensurePendingIv random := by
  simp [answerIvRequest, same]

theorem answerIvRequest_other {session : LockSession} (random : Nat → UInt32)
    {requestedSlot : UInt8} (other : requestedSlot ≠ session.slotId)
    : session.answerIvRequest random requestedSlot
      = (storeIvResponse
          { session with
            slotId := requestedSlot
            active := {}
            pending := { iv := (drawIv random {}).1, valid := true }
            retired := {} }
          (drawIv random {}).1,
        (drawIv random {}).2) := by
  simp only [answerIvRequest, if_pos other]
  rw [ensurePendingIv_fresh random rfl]
  rfl

/-- The request of one call: its effect on the contexts, what it advertises, and what it
leaves alone.
-/
structure Answered (session : LockSession) (random : Nat → UInt32) (requestedSlot : UInt8)
    (answer : LockSession × Nat)
    : Prop where
  step
    : RequestStep session.contexts requestedSlot answer.1.contexts answer.1.advertisedIv
        (decide (0 < answer.2))
  offered : answer.1.advertisedIv = session.offeredIv random requestedSlot
  aesKey : answer.1.aesKey = session.aesKey
  plaintextSize : answer.1.plaintextSize = session.plaintextSize
  responseIvValid : answer.1.responseIvValid = session.responseIvValid

/-- Every request makes one of the three steps and advertises the offered IV. -/
theorem answerIvRequest_answered (session : LockSession) (random : Nat → UInt32)
    (requestedSlot : UInt8)
    : session.Answered random requestedSlot (session.answerIvRequest random requestedSlot) := by
  by_cases same : requestedSlot = session.slotId
  · rw [answerIvRequest_same random same]
    cases offer : session.pending.valid with
    | true =>
        have resend : session.ensurePendingIv random
            = (session.storeIvResponse session.pending.iv, 0) := by
          simp [ensurePendingIv, offer]
        have offered : session.offeredIv random requestedSlot = session.pending.iv := by
          simp [offeredIv, same, offer]
        rw [resend]
        constructor
        case step =>
          rw [advertisedIv_storeIvResponse, contexts_storeIvResponse]
          exact .resent same offer
        case offered => rw [advertisedIv_storeIvResponse, offered]
        all_goals simp only [storeIvResponse]
    | false =>
        have distinct := drawIv_distinct random session.active
        have calls := drawIv_calls_pos random session.active
        have offered : session.offeredIv random requestedSlot
            = (drawIv random session.active).1 := by
          simp [offeredIv, same, offer]
        rw [ensurePendingIv_fresh random offer]
        generalize drawIv random session.active = draw at distinct calls offered ⊢
        constructor
        case step =>
          rw [advertisedIv_storeIvResponse, decide_eq_true calls]
          exact .rotated same offer distinct
        case offered => rw [advertisedIv_storeIvResponse, offered]
        all_goals simp only [storeIvResponse]
  · have calls := drawIv_calls_pos random {}
    have offered : session.offeredIv random requestedSlot = (drawIv random {}).1 := by
      simp [offeredIv, same]
    rw [answerIvRequest_other random same]
    generalize drawIv random {} = draw at calls offered ⊢
    constructor
    case step =>
      rw [advertisedIv_storeIvResponse, decide_eq_true calls]
      exact .restarted same
    case offered => rw [advertisedIv_storeIvResponse, offered]
    all_goals simp only [storeIvResponse]

end LockSession

end KeypadBridge
