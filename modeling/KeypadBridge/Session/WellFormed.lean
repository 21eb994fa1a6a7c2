import KeypadBridge.Session.LockSession

/-! The representation invariant of the session's crypto contexts. It constrains the learned
slot and the three contexts only; every other member is transient or write-only.
-/

namespace KeypadBridge

namespace CryptoContext

/-- A context holding an IV under which nothing has been accepted yet. -/
def Unused (context : CryptoContext) : Prop :=
  context = { iv := context.iv, valid := context.valid }

/-- The seq bytes that select the context on the wire. -/
def seqPair (context : CryptoContext) : UInt8 × UInt8 := (context.iv.seqA, context.iv.seqB)

/-- Two contexts, when both valid, are told apart by their seq bytes. -/
def SeqDistinct (left right : CryptoContext) : Prop :=
  left.valid = true → right.valid = true → left.seqPair ≠ right.seqPair

theorem SeqDistinct.symm {left right : CryptoContext} (distinct : left.SeqDistinct right)
    : right.SeqDistinct left :=
  fun hr hl same => distinct hl hr same.symm

/-- Distinctness looks at validity and IV only. -/
theorem SeqDistinct.congr {left right newLeft newRight : CryptoContext}
    (distinct : left.SeqDistinct right)
    (validLeft : newLeft.valid = left.valid) (ivLeft : newLeft.iv = left.iv)
    (validRight : newRight.valid = right.valid) (ivRight : newRight.iv = right.iv)
    : newLeft.SeqDistinct newRight := by
  simpa [SeqDistinct, seqPair, validLeft, ivLeft, validRight, ivRight] using distinct

/-- An invalid context is distinct from every other. -/
theorem SeqDistinct.of_invalid {left right : CryptoContext} (invalid : left.valid = false)
    : left.SeqDistinct right := by
  intro valid
  simp [invalid] at valid

/-- A matching context is valid and names the frame's seq bytes. -/
theorem seqMatches_iff {context : CryptoContext} {header : FrameHeader}
    : context.seqMatches header = true
      ↔ context.valid = true ∧ context.seqPair = (header.seqA, header.seqB) := by
  simp only [seqMatches, seqPair, Bool.and_eq_true, decide_eq_true_eq, Prod.mk.injEq]
  constructor
  · rintro ⟨⟨valid, seqA⟩, seqB⟩
    exact ⟨valid, seqA.symm, seqB.symm⟩
  · rintro ⟨valid, seqA, seqB⟩
    exact ⟨⟨valid, seqA.symm⟩, seqB.symm⟩

/-- A header never matches both of two distinct contexts. -/
theorem SeqDistinct.not_both {left right : CryptoContext} {header : FrameHeader}
    (distinct : left.SeqDistinct right) (hl : left.seqMatches header = true)
    : right.seqMatches header = false := by
  rw [Bool.eq_false_iff]
  intro hr
  obtain ⟨validLeft, pairLeft⟩ := seqMatches_iff.mp hl
  obtain ⟨validRight, pairRight⟩ := seqMatches_iff.mp hr
  exact distinct validLeft validRight (pairLeft.trans pairRight.symm)

/-- An invalid context matches nothing. -/
theorem seqMatches_of_invalid {context : CryptoContext} (invalid : context.valid = false)
    (header : FrameHeader)
    : context.seqMatches header = false := by
  simp [seqMatches, invalid]

/-- An unused context has seen no ciphertext. -/
theorem Unused.not_replayed {context : CryptoContext} (unused : context.Unused)
    (ciphertext : Bytes)
    : context.isReplayedCiphertext ciphertext = false := by
  have history : context.replayHistory = Vector.replicate 8 {} := by rw [unused]
  by_cases bad : ciphertext.length = 0 ∨ ciphertext.length > maxPayload
  · simp only [isReplayedCiphertext, if_pos bad]
  · simp only [isReplayedCiphertext, if_neg bad, history, List.any_eq_false,
      Vector.mem_toList_iff, entryMatches]
    intro entry member
    have blank : entry.length = 0 := by
      rw [Vector.mem_replicate] at member
      rw [member.2]
    have : ¬ ciphertext.length = 0 := fun zero => bad (.inl zero)
    simp [blank, eq_comm, this]

theorem blank_head : ({} : CryptoContext).replayHead < replayHistorySize := by decide

/-- Recording touches only the replay history. -/
@[simp] theorem recordCiphertext_iv (context : CryptoContext) (ciphertext : Bytes)
    : (context.recordCiphertext ciphertext).iv = context.iv := by
  unfold recordCiphertext
  split <;> rfl

@[simp] theorem recordCiphertext_valid (context : CryptoContext) (ciphertext : Bytes)
    : (context.recordCiphertext ciphertext).valid = context.valid := by
  unfold recordCiphertext
  split <;> rfl

@[simp] theorem recordCiphertext_lateActionAllowed (context : CryptoContext)
    (ciphertext : Bytes)
    : (context.recordCiphertext ciphertext).lateActionAllowed
      = context.lateActionAllowed := by
  unfold recordCiphertext
  split <;> rfl

@[simp] theorem recordCiphertext_handoffPollSeen (context : CryptoContext)
    (ciphertext : Bytes)
    : (context.recordCiphertext ciphertext).handoffPollSeen = context.handoffPollSeen := by
  unfold recordCiphertext
  split <;> rfl

/-- Recording leaves the head inside the ring. -/
theorem recordCiphertext_head {context : CryptoContext} (ciphertext : Bytes)
    (inside : context.replayHead < replayHistorySize)
    : (context.recordCiphertext ciphertext).replayHead < replayHistorySize := by
  unfold recordCiphertext
  split
  · exact inside
  · exact Nat.mod_lt _ (by decide)

end CryptoContext

/-- The members that decide the fate of an encrypted frame. -/
structure Contexts where
  slotId : UInt8
  active : CryptoContext
  pending : CryptoContext
  retired : CryptoContext

/-- The session's learned slot and crypto contexts. -/
def LockSession.contexts (session : LockSession) : Contexts :=
  ⟨session.slotId, session.active, session.pending, session.retired⟩

section

variable (session : LockSession)

@[simp] theorem LockSession.contexts_slotId : session.contexts.slotId = session.slotId := rfl
@[simp] theorem LockSession.contexts_active : session.contexts.active = session.active := rfl
@[simp] theorem LockSession.contexts_pending : session.contexts.pending = session.pending := rfl

end

namespace Contexts

def context (held : Contexts) : ContextRef → CryptoContext
  | .pending => held.pending
  | .active => held.active
  | .retired => held.retired

/-- The representation invariant. Invalid contexts are in their default state, so nothing of
a dropped generation lingers in them.
-/
structure WellFormed (held : Contexts) : Prop where
  exclusive : held.pending.valid = true → held.retired.valid = false
  pendingActive : held.pending.SeqDistinct held.active
  retiredActive : held.retired.SeqDistinct held.active
  retiredNeeds
    : held.retired.valid = true
      → held.active.valid = true
        ∧ held.slotId = visionKeySlot
        ∧ held.retired.lateActionAllowed = true
  allowanceNeeds
    : held.active.lateActionAllowed = true
      → held.active.valid = true
        ∧ held.pending.valid = true
        ∧ held.slotId = visionKeySlot
  pendingUnused : held.pending.Unused
  blankActive : held.active.valid = false → held.active = {}
  blankPending : held.pending.valid = false → held.pending = {}
  blankRetired : held.retired.valid = false → held.retired = {}
  activeHead : held.active.replayHead < replayHistorySize
  retiredHead : held.retired.replayHead < replayHistorySize

/-- No generation negotiated: the contexts of a new or reset session. -/
def blank (slotId : UInt8) : Contexts := ⟨slotId, {}, {}, {}⟩

theorem WellFormed.blank (slotId : UInt8) : (Contexts.blank slotId).WellFormed where
  exclusive := by simp [Contexts.blank]
  pendingActive := by intro valid; simp [Contexts.blank] at valid
  retiredActive := by intro valid; simp [Contexts.blank] at valid
  retiredNeeds := by simp [Contexts.blank]
  allowanceNeeds := by simp [Contexts.blank]
  pendingUnused := rfl
  blankActive := fun _ => rfl
  blankPending := fun _ => rfl
  blankRetired := fun _ => rfl
  activeHead := CryptoContext.blank_head
  retiredHead := CryptoContext.blank_head

/-- Dropping the retired context is always allowed. -/
theorem WellFormed.dropRetired {held : Contexts} (wf : held.WellFormed)
    : { held with retired := {} }.WellFormed :=
  { wf with
    exclusive := fun _ => rfl
    retiredActive := by intro valid; simp at valid
    retiredNeeds := by simp
    blankRetired := fun _ => rfl
    retiredHead := CryptoContext.blank_head }

/-- A retired context and an offer exclude each other. -/
theorem WellFormed.noOffer_of_retired {held : Contexts} (wf : held.WellFormed)
    (retired : held.retired.valid = true)
    : held.pending.valid = false := by
  rw [Bool.eq_false_iff]
  intro offer
  simp [wf.exclusive offer] at retired

/-- A header matches at most one of the contexts. -/
theorem WellFormed.match_unique {held : Contexts} (wf : held.WellFormed)
    {header : FrameHeader} {left right : ContextRef}
    (hl : (held.context left).seqMatches header = true)
    (hr : (held.context right).seqMatches header = true)
    : left = right := by
  have apart {first second : CryptoContext} (distinct : first.SeqDistinct second)
      (hf : first.seqMatches header = true) (hs : second.seqMatches header = true)
      : False := by
    simp [distinct.not_both hf] at hs
  have pendingRetired : held.pending.SeqDistinct held.retired := by
    intro pending retired
    simp [wf.exclusive pending] at retired
  cases left <;> cases right <;> simp only [context] at hl hr
  · rfl
  · exact (apart wf.pendingActive hl hr).elim
  · exact (apart pendingRetired hl hr).elim
  · exact (apart wf.pendingActive hr hl).elim
  · rfl
  · exact (apart wf.retiredActive hr hl).elim
  · exact (apart pendingRetired hr hl).elim
  · exact (apart wf.retiredActive hl hr).elim
  · rfl

end Contexts

end KeypadBridge
