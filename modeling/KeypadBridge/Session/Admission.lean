import KeypadBridge.Session.ContextUpdates

/-! The fate of a decrypted frame, said once. In a well-formed session an opened frame is
bound to exactly one context, and what then happens to the three contexts is one of eight
cases. Later results argue from these cases and never unfold the admission code again.
-/

namespace KeypadBridge
open KeypadBridge.Foundation

namespace LockSession

namespace OpenedFrame

def isPoll (opened : OpenedFrame) : Bool := opened.command.type = .statePoll

/-- A state-changing command whose ciphertext the replay history already holds. -/
def replays (opened : OpenedFrame) : Bool :=
  opened.command.isAction && opened.ciphertextSeen

/-- An unlock by a known method. -/
def isFastUnlock (opened : OpenedFrame) : Bool := isFastUnlockAction opened.command

theorem isAction_of_isFastUnlock {opened : OpenedFrame} (fast : opened.isFastUnlock = true)
    : opened.command.isAction = true := by
  simp only [isFastUnlock, isFastUnlockAction, Bool.and_eq_true, decide_eq_true_eq] at fast
  simp [DecodedCommand.isAction, fast.1]

theorem not_isPoll_of_isAction {opened : OpenedFrame}
    (action : opened.command.isAction = true)
    : opened.isPoll = false := by
  simp only [DecodedCommand.isAction, Bool.or_eq_true, decide_eq_true_eq] at action
  rcases action with lock | unlock
  · simp [isPoll, lock]
  · simp [isPoll, unlock]

theorem not_isAction_of_isPoll {opened : OpenedFrame} (poll : opened.isPoll = true)
    : opened.command.isAction = false := by
  cases action : opened.command.isAction with
  | false => rfl
  | true => simp [not_isPoll_of_isAction action] at poll

end OpenedFrame

/-- How an opened frame moves the contexts, and the action it makes the session return. -/
inductive FrameStep (held : Contexts) (opened : OpenedFrame) : Contexts → Action → Prop
  /-- The first frame under the pending IV commits it. Only a poll keeps the predecessor. -/
  | promoted (bound : opened.ref = .pending)
    : FrameStep held opened
        { held with
          active := (held.pending.recordAction opened).settled
          pending := {}
          retired :=
            if opened.isPoll && held.active.lateActionAllowed then held.active else {} }
        .command
  | current (bound : opened.ref = .active) (noOffer : held.pending.valid = false)
    (fresh : opened.replays = false)
    : FrameStep held opened
        { held with active := held.active.recordAction opened, retired := {} } .command
  | currentReplay (bound : opened.ref = .active) (noOffer : held.pending.valid = false)
    (replay : opened.replays = true)
    : FrameStep held opened { held with retired := {} } .none
  | predecessorPoll (bound : opened.ref = .active) (offer : held.pending.valid = true)
    (poll : opened.isPoll = true)
    : FrameStep held opened { held with active := held.active.notePoll } .command
  | lateUnlock (bound : opened.ref = .active) (offer : held.pending.valid = true)
    (fast : opened.isFastUnlock = true) (allowed : held.active.lateActionAllowed = true)
    (fresh : opened.ciphertextSeen = false)
    : FrameStep held opened
        { held with
          active := (held.active.recordCiphertext opened.ciphertext).withoutAllowance }
        .command
  | predecessorRefused (bound : opened.ref = .active) (offer : held.pending.valid = true)
    (effect : opened.isPoll = false)
    (inadmissible
      : (opened.isFastUnlock && held.active.lateActionAllowed && !opened.ciphertextSeen)
        = false)
    : FrameStep held opened { held with active := held.active.withoutAllowance } .none
  /-- The retired predecessor answers the next frame only, whatever it is. -/
  | retiredAccepted (bound : opened.ref = .retired)
    (admissible
      : opened.isPoll = true
        ∨ opened.isFastUnlock = true ∧ opened.ciphertextSeen = false)
    : FrameStep held opened { held with retired := {} } .command
  | retiredRefused (bound : opened.ref = .retired) (effect : opened.isPoll = false)
    (inadmissible : (opened.isFastUnlock && !opened.ciphertextSeen) = false)
    : FrameStep held opened { held with retired := {} } .none

/-- An opened frame is accepted or refused. -/
theorem FrameStep.action_eq {held after : Contexts} {opened : OpenedFrame} {action : Action}
    (step : FrameStep held opened after action)
    : action = .command ∨ action = .none := by
  cases step <;> simp

/-- A frame never changes the learned slot. -/
theorem FrameStep.slotId_eq {held after : Contexts} {opened : OpenedFrame} {action : Action}
    (step : FrameStep held opened after action)
    : after.slotId = held.slotId := by
  cases step <;> rfl

-----------------------------------------------------------------------------------------
-- The binding of an opened frame is unambiguous
-----------------------------------------------------------------------------------------

variable {keystream : Keystream} {env : FrameEnv} {session : LockSession} {frame : Bytes}
variable {opened : OpenedFrame}

theorem contexts_context (session : LockSession) (ref : ContextRef)
    : session.contexts.context ref = session.context ref := by
  cases ref <;> rfl

/-- An opened frame matches the context it is bound to. -/
theorem Opens.bound_matches (opens : Opens keystream env session frame opened)
    : (session.context opened.ref).seqMatches (frameHeader frame) = true := by
  have matched := opens.matched
  simp only [OpenedFrame.ref]
  split
  · rename_i uses
    exact opens.usesPending.symm.trans uses
  · rename_i notPending
    split
    · rename_i uses
      exact opens.usesActive.symm.trans uses
    · rename_i notActive
      simp only [notPending, notActive, Bool.false_eq_true, false_or] at matched
      exact opens.usesRetired.symm.trans matched

/-- In a well-formed session the three match flags of an opened frame name its binding. -/
theorem Opens.flags (opens : Opens keystream env session frame opened)
    (wf : session.contexts.WellFormed)
    : opened.usesPending = decide (opened.ref = .pending)
      ∧ opened.usesActive = decide (opened.ref = .active)
      ∧ opened.usesRetired = decide (opened.ref = .retired) := by
  have bound := opens.bound_matches
  have flag (ref : ContextRef) (uses : Bool)
      (matched : uses = (session.context ref).seqMatches (frameHeader frame))
      : uses = decide (opened.ref = ref) := by
    cases uses with
    | true =>
        have same := wf.match_unique
          (by rw [contexts_context]; exact bound)
          (by rw [contexts_context]; exact matched.symm)
        simp [same]
    | false =>
        by_cases same : opened.ref = ref
        · rw [same, ← matched] at bound
          contradiction
        · simp [same]
  exact ⟨flag .pending _ opens.usesPending, flag .active _ opens.usesActive,
    flag .retired _ opens.usesRetired⟩

-----------------------------------------------------------------------------------------
-- The admission code, branch by branch
-----------------------------------------------------------------------------------------

@[simp] theorem mapContext_command (session : LockSession) (ref : ContextRef)
    (update : CryptoContext → CryptoContext)
    : (session.mapContext ref update).command = session.command := by
  cases ref <;> rfl

@[simp] theorem mapContext_mapContext (session : LockSession) (ref : ContextRef)
    (first second : CryptoContext → CryptoContext)
    : (session.mapContext ref first).mapContext ref second
      = session.mapContext ref (second ∘ first) := by
  cases ref <;> rfl

/-- The replay filter with both branches named. -/
theorem filterReplay_eq (session : LockSession) (opened : OpenedFrame)
    (usesPredecessor : Bool)
    : session.filterReplay opened usesPredecessor
      = if session.command.isAction && opened.ciphertextSeen then
          (session.dropRetiredIf opened.usesRetired, .none)
        else
          ((session.mapContext opened.ref fun context =>
              if session.command.isAction then
                if usesPredecessor then
                  (context.recordCiphertext opened.ciphertext).withoutAllowance
                else context.recordCiphertext opened.ciphertext
              else context).commitFrame opened,
            .command) := by
  have same : session.mapContext opened.ref (fun context => context) = session := by
    cases opened.ref <;> rfl
  cases action : session.command.isAction <;> cases seen : opened.ciphertextSeen <;>
    cases usesPredecessor <;> simp [filterReplay, action, seen, same]
  rfl

/-- A frame under the current generation goes straight to the replay filter. -/
theorem admitDecoded_current {session : LockSession} {opened : OpenedFrame}
    (notRetired : opened.usesRetired = false)
    (noPredecessor : (opened.usesActive && session.pending.valid) = false)
    : session.admitDecoded opened = session.filterReplay opened false := by
  simp [admitDecoded, noteHandoffPoll, notRetired, noPredecessor]

/-- A poll is never refused. -/
theorem admitDecoded_poll {session : LockSession} {opened : OpenedFrame}
    (poll : session.command.type = .statePoll)
    : session.admitDecoded opened
      = ((session.noteHandoffPoll opened).commitFrame opened, .command) := by
  have kept : (session.noteHandoffPoll opened).command = session.command := by
    unfold noteHandoffPoll
    split
    · split <;> simp
    · rfl
  have same : (session.noteHandoffPoll opened).mapContext opened.ref (fun context => context)
      = session.noteHandoffPoll opened := by
    cases opened.ref <;> rfl
  simp [admitDecoded, kept, poll, filterReplay_eq, DecodedCommand.isAction, same]

/-- A non-poll frame under a predecessor consumes the allowance, and is admitted only if it
is a fast unlock that the allowance and the replay history permit.
-/
theorem admitDecoded_predecessor {session : LockSession} {opened : OpenedFrame}
    (predecessor
      : (opened.usesRetired || (opened.usesActive && session.pending.valid)) = true)
    (effect : session.command.type ≠ .statePoll)
    : session.admitDecoded opened
      = if isFastUnlockAction session.command
            && (session.context opened.ref).lateActionAllowed then
          (session.mapContext opened.ref CryptoContext.withoutAllowance).filterReplay
            opened true
        else
          ({ session.mapContext opened.ref CryptoContext.withoutAllowance with
              command := {} }.dropRetiredIf opened.usesRetired,
            .none) := by
  have noPoll : session.noteHandoffPoll opened = session := by
    simp [noteHandoffPoll, effect]
  simp only [admitDecoded, noPoll, predecessor, Bool.true_and, effect, ne_eq,
    not_false_eq_true, decide_true, if_true]
  cases isFastUnlockAction session.command
    && (session.context opened.ref).lateActionAllowed <;> rfl

-----------------------------------------------------------------------------------------
-- The contexts after each branch
-----------------------------------------------------------------------------------------

theorem contexts_mapContext_active (session : LockSession)
    (update : CryptoContext → CryptoContext)
    : (session.mapContext .active update).contexts
      = { session.contexts with active := update session.contexts.active } := rfl

theorem contexts_dropRetiredIf (session : LockSession) (drop : Bool)
    : (session.dropRetiredIf drop).contexts
      = if drop then { session.contexts with retired := {} } else session.contexts := by
  cases drop <;> rfl

theorem contexts_commitFrame_pending {session : LockSession} {opened : OpenedFrame}
    (usesPending : opened.usesPending = true)
    : (session.commitFrame opened).contexts
      = { slotId := session.slotId
          active := session.pending.settled
          pending := {}
          retired :=
            if session.command.type = .statePoll && session.active.valid
                && session.active.lateActionAllowed then
              session.active
            else {} } := by
  simp [commitFrame, usesPending, contexts, CryptoContext.settled]

theorem contexts_commitFrame {session : LockSession} {opened : OpenedFrame}
    (usesPending : opened.usesPending = false)
    : (session.commitFrame opened).contexts
      = if opened.usesRetired then { session.contexts with retired := {} }
        else session.contexts := by
  simp only [commitFrame, usesPending, Bool.false_eq_true, if_false, contexts_dropRetiredIf]
  rfl

/-- The session right before the hand-off decision on an opened frame. -/
def decoded (session : LockSession) (frame : Bytes) (opened : OpenedFrame) : LockSession :=
  { session.afterOpening frame opened with command := opened.command }

theorem admitFrame_afterOpening (session : LockSession) (frame : Bytes)
    (opened : OpenedFrame)
    : (session.afterOpening frame opened).admitFrame opened
      = (session.decoded frame opened).admitDecoded opened := rfl

section

variable (session : LockSession) (frame : Bytes) (opened : OpenedFrame)

@[simp] theorem decoded_slotId : (session.decoded frame opened).slotId = session.slotId := by
  unfold decoded afterOpening dropRetiredIf
  split <;> rfl

@[simp] theorem decoded_active : (session.decoded frame opened).active = session.active := by
  unfold decoded afterOpening dropRetiredIf
  split <;> rfl

@[simp] theorem decoded_pending
    : (session.decoded frame opened).pending = session.pending := by
  unfold decoded afterOpening dropRetiredIf
  split <;> rfl

@[simp] theorem decoded_retired
    : (session.decoded frame opened).retired
      = if opened.usesActive && session.retired.valid then {} else session.retired := by
  unfold decoded afterOpening dropRetiredIf
  split <;> rfl

@[simp] theorem decoded_command
    : (session.decoded frame opened).command = opened.command := rfl

end

/-- A frame under the pending IV promotes it. -/
theorem Opens.step_pending (opens : Opens keystream env session frame opened)
    (wf : session.contexts.WellFormed) (bound : opened.ref = .pending)
    : FrameStep session.contexts opened
        ((session.decoded frame opened).admitDecoded opened).1.contexts
        ((session.decoded frame opened).admitDecoded opened).2 := by
  obtain ⟨usesPending, usesActive, usesRetired⟩ := opens.flags wf
  simp only [bound, decide_true, reduceCtorEq, decide_false] at usesPending usesActive usesRetired
  have seen : opened.ciphertextSeen = false := by
    rw [opens.seen, bound]
    exact wf.pendingUnused.not_replayed _
  -- An armed allowance implies a valid active context, so the source's test of both is one.
  have armed : (session.active.valid && session.active.lateActionAllowed)
      = session.active.lateActionAllowed := by
    cases allowed : session.active.lateActionAllowed with
    | false => simp
    | true => simpa using (wf.allowanceNeeds allowed).1
  rw [admitDecoded_current usesRetired (by simp [usesActive]), filterReplay_eq, seen]
  simp only [Bool.and_false, Bool.false_eq_true, if_false, bound]
  rw [contexts_commitFrame_pending usesPending]
  have promoted : FrameStep session.contexts opened _ _ := .promoted bound
  simpa [mapContext, Bool.and_assoc, armed, CryptoContext.recordAction, OpenedFrame.isPoll]
    using promoted

/-- A frame under the active IV, with no IV on offer, is a frame of the current generation. -/
theorem Opens.step_current (opens : Opens keystream env session frame opened)
    (wf : session.contexts.WellFormed) (bound : opened.ref = .active)
    (noOffer : session.pending.valid = false)
    : FrameStep session.contexts opened
        ((session.decoded frame opened).admitDecoded opened).1.contexts
        ((session.decoded frame opened).admitDecoded opened).2 := by
  obtain ⟨usesPending, usesActive, usesRetired⟩ := opens.flags wf
  simp only [bound, decide_true, reduceCtorEq, decide_false] at usesPending usesActive usesRetired
  have closed : (session.decoded frame opened).contexts
      = { session.contexts with retired := {} } := by
    cases valid : session.retired.valid with
    | true => simp [contexts, usesActive, valid]
    | false =>
        simp only [contexts, decoded_slotId, decoded_active, decoded_pending, decoded_retired,
          usesActive, valid, Bool.and_false, Bool.false_eq_true, if_false,
          Contexts.mk.injEq, true_and]
        exact wf.blankRetired valid
  rw [admitDecoded_current usesRetired (by simp [noOffer]), filterReplay_eq, bound]
  split
  · rename_i replay
    simp only [usesRetired, dropRetiredIf_false, closed]
    exact .currentReplay bound noOffer replay
  · rename_i fresh
    rw [contexts_commitFrame usesPending, contexts_mapContext_active, closed]
    simp only [usesRetired, Bool.false_eq_true, if_false]
    exact .current bound noOffer (Bool.eq_false_iff.mpr fresh)

/-- A frame under the active IV beside an offered one is a frame of the predecessor. -/
theorem Opens.step_predecessor (opens : Opens keystream env session frame opened)
    (wf : session.contexts.WellFormed) (bound : opened.ref = .active)
    (offer : session.pending.valid = true)
    : FrameStep session.contexts opened
        ((session.decoded frame opened).admitDecoded opened).1.contexts
        ((session.decoded frame opened).admitDecoded opened).2 := by
  obtain ⟨usesPending, usesActive, usesRetired⟩ := opens.flags wf
  simp only [bound, decide_true, reduceCtorEq, decide_false] at usesPending usesActive usesRetired
  have alone : session.retired.valid = false := wf.exclusive offer
  have kept : (session.decoded frame opened).contexts = session.contexts := by
    simp [contexts, usesActive, alone]
  by_cases poll : opened.isPoll = true
  · have type : opened.command.type = .statePoll := by simpa [OpenedFrame.isPoll] using poll
    rw [admitDecoded_poll type, contexts_commitFrame usesPending]
    simp only [usesRetired, Bool.false_eq_true, if_false]
    have noted : ((session.decoded frame opened).noteHandoffPoll opened).contexts
        = { session.contexts with active := session.contexts.active.notePoll } := by
      rw [← kept]
      cases allowed : session.active.lateActionAllowed <;>
        cases seen : session.active.handoffPollSeen <;>
        simp [noteHandoffPoll, usesActive, offer, type, bound, context, allowed, seen,
          CryptoContext.notePoll, contexts, mapContext]
    rw [noted]
    exact .predecessorPoll bound offer poll
  · have effect : opened.isPoll = false := by simpa using poll
    have type : opened.command.type ≠ .statePoll := by simpa [OpenedFrame.isPoll] using poll
    rw [admitDecoded_predecessor (by simp [usesActive, offer]) type]
    simp only [decoded_command, bound, context, decoded_active]
    split
    · rename_i capable
      simp only [Bool.and_eq_true] at capable
      have action := OpenedFrame.isAction_of_isFastUnlock capable.1
      rw [filterReplay_eq]
      simp only [mapContext_command, decoded_command, action, Bool.true_and]
      split
      · rename_i seen
        simp only [usesRetired, dropRetiredIf_false, contexts_mapContext_active, kept]
        exact .predecessorRefused bound offer effect (by simp [seen])
      · rename_i fresh
        rw [contexts_commitFrame usesPending]
        simp only [usesRetired, Bool.false_eq_true, if_false, bound,
          contexts_mapContext_active, kept, if_true,
          CryptoContext.recordCiphertext_withoutAllowance,
          CryptoContext.withoutAllowance_withoutAllowance]
        exact .lateUnlock bound offer capable.1 capable.2 (Bool.eq_false_iff.mpr fresh)
    · rename_i incapable
      simp only [usesRetired, dropRetiredIf_false]
      change FrameStep _ _
        ((session.decoded frame opened).mapContext .active
          CryptoContext.withoutAllowance).contexts _
      rw [contexts_mapContext_active, kept]
      refine .predecessorRefused bound offer effect ?_
      rw [Bool.and_eq_false_iff]
      exact .inl (Bool.eq_false_iff.mpr incapable)

/-- A frame under the retired IV is the one frame the predecessor still answers. -/
theorem Opens.step_retired (opens : Opens keystream env session frame opened)
    (wf : session.contexts.WellFormed) (bound : opened.ref = .retired)
    : FrameStep session.contexts opened
        ((session.decoded frame opened).admitDecoded opened).1.contexts
        ((session.decoded frame opened).admitDecoded opened).2 := by
  obtain ⟨usesPending, usesActive, usesRetired⟩ := opens.flags wf
  simp only [bound, decide_true, reduceCtorEq, decide_false] at usesPending usesActive usesRetired
  have valid : session.retired.valid = true := by
    have matched := opens.bound_matches
    rw [bound] at matched
    exact (CryptoContext.seqMatches_iff.mp matched).1
  have allowed : session.retired.lateActionAllowed = true := (wf.retiredNeeds valid).2.2
  have dropped (update : CryptoContext → CryptoContext)
      : ({ ((session.decoded frame opened).mapContext .retired update).contexts with
            retired := {} } : Contexts)
        = { session.contexts with retired := {} } := by
    simp [contexts, mapContext]
  by_cases poll : opened.isPoll = true
  · have type : opened.command.type = .statePoll := by simpa [OpenedFrame.isPoll] using poll
    have noted : (session.decoded frame opened).noteHandoffPoll opened
        = session.decoded frame opened := by
      simp [noteHandoffPoll, usesActive]
    rw [admitDecoded_poll type, noted, contexts_commitFrame usesPending]
    simp only [usesRetired, if_true]
    rw [show ({ (session.decoded frame opened).contexts with retired := {} } : Contexts)
      = { session.contexts with retired := {} } from dropped id]
    exact .retiredAccepted bound (.inl poll)
  · have effect : opened.isPoll = false := by simpa using poll
    have type : opened.command.type ≠ .statePoll := by simpa [OpenedFrame.isPoll] using poll
    rw [admitDecoded_predecessor (by simp [usesRetired]) type]
    simp only [decoded_command, bound, context, decoded_retired, usesActive, Bool.false_and,
      Bool.false_eq_true, if_false, allowed, Bool.and_true]
    split
    · rename_i fast
      have action := OpenedFrame.isAction_of_isFastUnlock fast
      rw [filterReplay_eq]
      simp only [mapContext_command, decoded_command, action, Bool.true_and, usesRetired,
        bound, if_true, mapContext_mapContext]
      split
      · rename_i seen
        rw [contexts_dropRetiredIf, if_pos rfl, dropped]
        exact .retiredRefused bound effect (by simp [seen])
      · rename_i fresh
        rw [contexts_commitFrame usesPending, usesRetired, if_pos rfl, dropped]
        exact .retiredAccepted bound (.inr ⟨fast, Bool.eq_false_iff.mpr fresh⟩)
    · rename_i notFast
      rw [contexts_dropRetiredIf, usesRetired, if_pos rfl]
      change FrameStep _ _
        { ((session.decoded frame opened).mapContext .retired
            CryptoContext.withoutAllowance).contexts with retired := {} } _
      rw [dropped]
      refine .retiredRefused bound effect ?_
      rw [Bool.and_eq_false_iff]
      exact .inl (Bool.eq_false_iff.mpr notFast)

/-- Every opened frame of a well-formed session makes one of the eight steps. -/
theorem Opens.step (opens : Opens keystream env session frame opened)
    (wf : session.contexts.WellFormed)
    : FrameStep session.contexts opened
        ((session.afterOpening frame opened).admitFrame opened).1.contexts
        ((session.afterOpening frame opened).admitFrame opened).2 := by
  rw [admitFrame_afterOpening]
  cases bound : opened.ref with
  | pending => exact opens.step_pending wf bound
  | active =>
      cases offer : session.pending.valid with
      | false => exact opens.step_current wf bound offer
      | true => exact opens.step_predecessor wf bound offer
  | retired => exact opens.step_retired wf bound

end LockSession

end KeypadBridge
