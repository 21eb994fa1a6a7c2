import KeypadBridge.Session.Generations

/-! Where the IV of a context comes from. Contexts do not store the slot they were
negotiated for; over a run, each valid context is bound to one draw made for the learned
slot, with nothing in between that could have relabelled it.
-/

namespace KeypadBridge
open KeypadBridge.Foundation
open LockSession (OpenedFrame FrameStep)

namespace SessionEvent

def isDraw : SessionEvent → Bool
  | .drew _ _ _ => true
  | _ => false

/-- No reset, and no IV request for a slot other than `slot`. -/
def keepsSlot (slot : UInt8) : SessionEvent → Bool
  | .drew _ requested _
  | .resent requested _ => requested = slot
  | .reset | .resetForget => false
  | _ => true

end SessionEvent

/-- The ledger counts the draws of its history. -/
theorem MoveRun.drawn_eq {events : List SessionEvent} {held : Contexts} {ledger : Ledger}
    (run : MoveRun events held ledger)
    : ledger.drawn = events.countP SessionEvent.isDraw := by
  induction run with
  | new => rfl
  | @snoc events event held ledger after later _ _ moves ih =>
      rw [List.countP_append, List.countP_singleton, ← ih]
      cases moves with
      | drew => rfl
      | @accepted frame =>
          cases frame.opened.ref <;> rfl
      | _ => rfl

/-- A draw is numbered by the draws before it. -/
theorem MoveRun.draw_number {earlier since : List SessionEvent} {held : Contexts}
    {ledger : Ledger} {generation : Nat} {slot : UInt8} {iv : Iv}
    (run : MoveRun (earlier ++ .drew generation slot iv :: since) held ledger)
    : generation = earlier.countP SessionEvent.isDraw := by
  obtain ⟨_, _, _, _, first, _, moves⟩ := run.split_at
  cases moves
  exact first.drawn_eq

/-- The replay ring of a context: its cells and its write position. -/
def CryptoContext.ring (context : CryptoContext) : Vector ReplayEntry 8 × Nat :=
  (context.replayHistory, context.replayHead)

/-- The context `ref` of `after` is a valid context of `held`, moved with its number; its
ring is that of `recorded`.
-/
structure Carried (held : Contexts) (ledger : Ledger) (after : Contexts) (later : Ledger)
    (ref source : ContextRef) (recorded : CryptoContext)
    : Prop where
  valid : (held.context source).valid = true
  iv : (after.context ref).iv = (held.context source).iv
  generation : later.generation ref = ledger.generation source
  ring : (after.context ref).ring = recorded.ring

/-- What a frame with this action writes into the ring of a context. -/
def LockSession.OpenedFrame.recordIn (opened : OpenedFrame) (action : Action)
    (source : ContextRef) (context : CryptoContext)
    : CryptoContext :=
  if action = .command ∧ opened.ref = source then context.recordAction opened else context

/-- What an event writes into the ring of a context. -/
def SessionEvent.recordIn (event : SessionEvent) (source : ContextRef)
    (context : CryptoContext)
    : CryptoContext :=
  match event with
  | .accepted frame => frame.opened.recordIn .command source context
  | _ => context

theorem CryptoContext.recordAction_poll {context : CryptoContext} {opened : OpenedFrame}
    (poll : opened.isPoll = true)
    : context.recordAction opened = context := by
  simp [recordAction, OpenedFrame.not_isAction_of_isPoll poll]

theorem CryptoContext.recordAction_fast {context : CryptoContext} {opened : OpenedFrame}
    (fast : opened.isFastUnlock = true)
    : context.recordAction opened = context.recordCiphertext opened.ciphertext := by
  simp [recordAction, OpenedFrame.isAction_of_isFastUnlock fast]

/-- A frame brings no new IV into any context: it moves the contexts or drops them. -/
theorem LockSession.FrameStep.carried {held after : Contexts} (ledger : Ledger)
    {opened : OpenedFrame} {action : Action} (step : FrameStep held opened after action)
    (inUse : (held.context opened.ref).valid = true) {ref : ContextRef}
    (valid : (after.context ref).valid = true)
    : ∃ source,
        Carried held ledger after
          (if action = .command then ledger.afterAccept opened.ref else ledger) ref source
          (opened.recordIn action source (held.context source))
        ∧ (source = ref ∨ action = .command ∧ opened.ref = .pending) := by
  have stay (sameValid : (after.context ref).valid = (held.context ref).valid)
      (sameIv : (after.context ref).iv = (held.context ref).iv)
      {recorded : CryptoContext} (sameRing : (after.context ref).ring = recorded.ring)
      : Carried held ledger after ledger ref ref recorded :=
    ⟨sameValid.symm.trans valid, sameIv, rfl, sameRing⟩
  cases step with
  | promoted bound =>
      simp only [OpenedFrame.recordIn, bound] at inUse ⊢
      cases ref with
      | pending => simp [Contexts.context] at valid
      | active =>
          exact ⟨.pending, ⟨inUse, by simp [Contexts.context], rfl, rfl⟩, .inr (by simp)⟩
      | retired =>
          simp only [Contexts.context] at valid
          split at valid
          · rename_i retains
            have kept
                : (if (opened.isPoll && held.active.lateActionAllowed) = true then held.active
                    else {})
                  = held.active :=
              if_pos retains
            refine ⟨.active, ⟨valid, congrArg CryptoContext.iv kept, rfl, ?_⟩, .inr (by simp)⟩
            simpa [Contexts.context] using congrArg CryptoContext.ring kept
          · simp at valid
  | current bound =>
      simp only [OpenedFrame.recordIn, bound]
      refine ⟨ref, ?_, .inl rfl⟩
      cases ref with
      | pending => exact stay rfl rfl rfl
      | active => exact stay (by simp [Contexts.context]) (by simp [Contexts.context]) rfl
      | retired => simp [Contexts.context] at valid
  | currentReplay | retiredRefused =>
      refine ⟨ref, ?_, .inl rfl⟩
      cases ref with
      | pending | active => exact stay rfl rfl rfl
      | retired => simp [Contexts.context] at valid
  | retiredAccepted bound =>
      simp only [OpenedFrame.recordIn, bound]
      refine ⟨ref, ?_, .inl rfl⟩
      cases ref with
      | pending | active => exact stay rfl rfl rfl
      | retired => simp [Contexts.context] at valid
  | predecessorPoll bound _ poll =>
      simp only [OpenedFrame.recordIn, bound, CryptoContext.recordAction_poll poll]
      refine ⟨ref, ?_, .inl rfl⟩
      cases ref with
      | pending | retired => exact stay rfl rfl rfl
      | active =>
          refine stay (by simp [Contexts.context]) (by simp [Contexts.context]) ?_
          simp [Contexts.context, CryptoContext.ring]
  | lateUnlock bound _ fast =>
      simp only [OpenedFrame.recordIn, bound, CryptoContext.recordAction_fast fast]
      refine ⟨ref, ?_, .inl rfl⟩
      cases ref with
      | pending | retired => exact stay rfl rfl rfl
      | active => exact stay (by simp [Contexts.context]) (by simp [Contexts.context]) rfl
  | predecessorRefused =>
      refine ⟨ref, ?_, .inl rfl⟩
      cases ref <;> exact stay rfl rfl rfl

/-- A valid context after a move was carried along, or is the one just drawn. -/
theorem Moves.carried {held after : Contexts} {ledger later : Ledger}
    {event : SessionEvent} (moves : Moves held ledger event after later) {ref : ContextRef}
    (valid : (after.context ref).valid = true)
    : (∃ source,
        Carried held ledger after later ref source
          (event.recordIn source (held.context source))
        ∧ (source = ref
          ∨ ∃ frame, event = .accepted frame ∧ frame.generation = ledger.pending)
        ∧ event.keepsSlot held.slotId = true
        ∧ after.slotId = held.slotId)
      ∨ ref = .pending
        ∧ event = .drew ledger.drawn after.slotId after.pending.iv
        ∧ later.pending = ledger.drawn
        ∧ after.pending.ring = ({} : CryptoContext).ring := by
  have stay (sameValid : (after.context ref).valid = (held.context ref).valid)
      (sameIv : (after.context ref).iv = (held.context ref).iv)
      (sameGeneration : later.generation ref = ledger.generation ref)
      (sameRing : (after.context ref).ring = (held.context ref).ring)
      : Carried held ledger after later ref ref (held.context ref) :=
    ⟨sameValid.symm.trans valid, sameIv, sameGeneration, sameRing⟩
  cases moves with
  | drew step =>
      generalize drawn : true = draws at step
      cases step with
      | resent => simp at drawn
      | restarted =>
          cases ref with
          | pending => exact .inr ⟨rfl, rfl, rfl, rfl⟩
          | active | retired => simp [Contexts.context] at valid
      | rotated same =>
          cases ref with
          | pending => exact .inr ⟨rfl, by rw [same], rfl, rfl⟩
          | active =>
              refine .inl ⟨.active, stay ?_ ?_ rfl ?_, .inl rfl, ?_, rfl⟩
              · simp [Contexts.context]
              · simp [Contexts.context]
              · simp [Contexts.context, CryptoContext.ring]
              · exact decide_eq_true same
          | retired => simp [Contexts.context] at valid
  | accepted _ inUse generation _ _ _ _ step =>
      obtain ⟨source, carried, moved⟩ := step.carried ledger inUse valid
      refine .inl ⟨source, carried, ?_, rfl, step.slotId_eq⟩
      rcases moved with same | ⟨_, bound⟩
      · exact .inl same
      · exact .inr ⟨_, rfl, by rw [generation, bound]; rfl⟩
  | refused _ inUse _ step =>
      obtain ⟨source, carried, moved⟩ := step.carried ledger inUse valid
      refine .inl ⟨source, carried, .inl ?_, rfl, step.slotId_eq⟩
      exact moved.resolve_right (by simp)
  | resent =>
      exact .inl ⟨ref, stay rfl rfl rfl rfl, .inl rfl, decide_eq_true rfl, rfl⟩
  | ignored | keySet => exact .inl ⟨ref, stay rfl rfl rfl rfl, .inl rfl, rfl, rfl⟩
  | ignoredClosing =>
      cases ref with
      | pending | active => exact .inl ⟨_, stay rfl rfl rfl rfl, .inl rfl, rfl, rfl⟩
      | retired => simp [Contexts.context] at valid
  | transportReset =>
      cases ref with
      | pending | active => exact .inl ⟨_, stay rfl rfl rfl rfl, .inl rfl, rfl, rfl⟩
      | retired => simp [Contexts.context, Contexts.boundary] at valid
  | reset | resetForget => cases ref <;> simp [Contexts.context, Contexts.blank] at valid

/-- The IV of `generation` was drawn for `slot`, and the slot was kept ever since. -/
def DrawnFor (events : List SessionEvent) (generation : Nat) (slot : UInt8) (iv : Iv)
    : Prop :=
  ∃ earlier since,
    events = earlier ++ .drew generation slot iv :: since
    ∧ ∀ event ∈ since, event.keepsSlot slot = true

theorem DrawnFor.snoc {events : List SessionEvent} {generation : Nat} {slot : UInt8}
    {iv : Iv} {event : SessionEvent} (drawn : DrawnFor events generation slot iv)
    (keeps : event.keepsSlot slot = true)
    : DrawnFor (events ++ [event]) generation slot iv := by
  obtain ⟨earlier, since, rfl, kept⟩ := drawn
  refine ⟨earlier, since ++ [event], by simp, ?_⟩
  intro other member
  rcases List.mem_append.mp member with before | last
  · exact kept other before
  · exact List.mem_singleton.mp last ▸ keeps

/-- Each valid context holds the IV of the draw its number names, made for the learned slot.
By induction on the moves: contexts are carried along or freshly drawn.
-/
theorem MoveRun.drawnFor {events : List SessionEvent} {held : Contexts} {ledger : Ledger}
    (run : MoveRun events held ledger) {ref : ContextRef}
    (valid : (held.context ref).valid = true)
    : DrawnFor events (ledger.generation ref) held.slotId (held.context ref).iv := by
  induction run generalizing ref with
  | new => cases ref <;> simp [Contexts.context, Contexts.blank] at valid
  | @snoc events event held ledger after later _ _ moves ih =>
      rcases moves.carried valid with ⟨source, carried, _, keeps, slot⟩ | ⟨rfl, rfl, number, _⟩
      · rw [carried.generation, carried.iv, slot]
        exact (ih carried.valid).snoc keeps
      · rw [show later.generation .pending = ledger.drawn from number]
        exact ⟨events, [], rfl, by simp⟩

/-- The draw a context names is one of those counted. -/
theorem DrawnFor.lt_drawn {events : List SessionEvent} {held : Contexts} {ledger : Ledger}
    {generation : Nat} {slot : UInt8} {iv : Iv} (run : MoveRun events held ledger)
    (drawn : DrawnFor events generation slot iv)
    : generation < ledger.drawn := by
  obtain ⟨earlier, since, rfl, _⟩ := drawn
  rw [run.drawn_eq, run.draw_number, List.countP_append, List.countP_cons]
  simp only [SessionEvent.isDraw, if_true]
  omega

/-- A generation leaves the pending context only by an accepted frame, by induction on the
moves.
-/
theorem MoveRun.adopted {events : List SessionEvent} {held : Contexts} {ledger : Ledger}
    (run : MoveRun events held ledger) {ref : ContextRef} (promoted : ref ≠ .pending)
    (valid : (held.context ref).valid = true)
    : ∃ frame, .accepted frame ∈ events ∧ frame.generation = ledger.generation ref := by
  induction run generalizing ref with
  | new => cases ref <;> simp [Contexts.context, Contexts.blank] at valid
  | @snoc events event held ledger after later _ _ moves ih =>
      rcases moves.carried valid with ⟨source, carried, moved, _⟩ | ⟨same, _⟩
      · rw [carried.generation]
        by_cases offered : source = .pending
        · subst offered
          obtain ⟨frame, rfl, generation⟩ := moved.resolve_left (Ne.symm promoted)
          exact ⟨frame, by simp, generation⟩
        · obtain ⟨frame, member, generation⟩ := ih offered carried.valid
          exact ⟨frame, List.mem_append_left _ member, generation⟩
      · exact absurd same promoted

/-- Accepted frames are under generations drawn before them. -/
theorem MoveRun.accepted_lt_drawn {events : List SessionEvent} {held : Contexts}
    {ledger : Ledger} {frame : DecryptedFrame} (run : MoveRun events held ledger)
    (member : .accepted frame ∈ events)
    : frame.generation < ledger.drawn := by
  obtain ⟨before, after, rfl⟩ := List.append_of_mem member
  obtain ⟨_, ledger, _, _, earlier, _, moves⟩ := run.split_at
  have total := run.drawn_eq
  rw [List.countP_append, ← earlier.drawn_eq] at total
  cases moves with
  | accepted _ inUse generation =>
      rw [generation]
      have := (earlier.drawnFor inUse).lt_drawn earlier
      omega

/-- An accepted frame was decrypted under an IV drawn while answering a request for the key
id it carries; since then the session saw no reset and no request for another slot.
-/
theorem accepted_under_own_slot (keystream : Keystream) (ops : List SessionOp)
    (before after : List SessionEvent) (frame : DecryptedFrame)
    (observed : sessionHistory keystream ops = before ++ .accepted frame :: after)
    : ∃ earlier since,
        before = earlier ++ .drew frame.generation frame.header.keyId frame.iv :: since
        ∧ ∀ event ∈ since, event.keepsSlot frame.header.keyId = true := by
  obtain ⟨held, ledger, _, _, run, _, moves⟩ := sessionHistory_split_at observed
  cases moves with
  | accepted keyId inUse generation iv =>
      rw [keyId, generation, iv]
      exact run.drawnFor inUse

/-- The late unlock of the short exchange is bound to the first draw for its key id. -/
theorem accepted_under_own_slot_late
    : ∃ earlier since,
        ([.drew 0 0xC6 (Vector.replicate 16 0), .accepted firstLock,
            .drew 1 0xC6 ((Vector.replicate 16 0).setIfInBounds 1 1)] : List SessionEvent)
          = earlier ++ .drew lateUnlock.generation lateUnlock.header.keyId lateUnlock.iv :: since
        ∧ ∀ event ∈ since, event.keepsSlot lateUnlock.header.keyId = true :=
  accepted_under_own_slot clearStream lateUnlockOps _ [] lateUnlock lateUnlockOps_history

end KeypadBridge
