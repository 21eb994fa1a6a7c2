import KeypadBridge.Foundation.RingWindow
import KeypadBridge.Session.Handoff

/-! The replay history over whole runs. A context's ring is the window of the last eight
actions accepted under its generation: a ciphertext is refused while it is in the window and
only then, and the comparison is with the ciphertext, not with the command it decodes to.
-/

namespace KeypadBridge
open KeypadBridge.Foundation
open LockSession (OpenedFrame FrameStep isIvRequest)

/-- A replay slot holds a ciphertext. -/
structure ReplayEntry.Holds (entry : ReplayEntry) (ciphertext : Bytes) : Prop where
  nonempty : 0 < ciphertext.length
  length : entry.length = ciphertext.length
  data : readBack entry.data 0 ciphertext.length = ciphertext

/-- A replay slot that was never written. -/
def ReplayEntry.Blank (entry : ReplayEntry) : Prop := entry.length = 0

namespace CryptoContext

/-- The ring of the context is the window over the ciphertexts of `log`. -/
def Window (context : CryptoContext) (log : List Bytes) : Prop :=
  RingWindow ReplayEntry.Holds ReplayEntry.Blank context.ring.1 context.ring.2 log

theorem window_blank : ({} : CryptoContext).Window [] :=
  .empty fun place inside => by
    simp [ring, ReplayEntry.Blank]

/-- A written slot is found by its own ciphertext and by no other. -/
theorem entryMatches_iff {entry : ReplayEntry} {held ciphertext : Bytes}
    (holds : entry.Holds held)
    : entryMatches entry ciphertext = true ↔ held = ciphertext := by
  simp only [entryMatches, holds.length, Bool.and_eq_true, decide_eq_true_eq]
  constructor
  · rintro ⟨sameLength, same⟩
    rw [← sameLength, holds.data] at same
    exact same
  · rintro rfl
    exact ⟨rfl, holds.data⟩

theorem entryMatches_blank {entry : ReplayEntry} {ciphertext : Bytes}
    (blank : entry.Blank) (nonempty : 0 < ciphertext.length)
    : entryMatches entry ciphertext = false := by
  have : ¬ 0 = ciphertext.length := by omega
  simp only [entryMatches, show entry.length = 0 from blank, this, decide_false,
    Bool.false_and]

/-- The replay lookup hits exactly the ciphertexts of the window. -/
theorem Window.isReplayedCiphertext_iff {context : CryptoContext} {log : List Bytes}
    (window : context.Window log) {ciphertext : Bytes} (nonempty : 0 < ciphertext.length)
    (fits : ciphertext.length ≤ maxPayload)
    : context.isReplayedCiphertext ciphertext = true
      ↔ ciphertext ∈ log.drop (log.length - replayHistorySize) := by
  have inRange : ¬ (ciphertext.length = 0 ∨ ciphertext.length > maxPayload) := by omega
  have lookup := window.lookup_iff (entryMatches · ciphertext)
    (fun _ _ holds => entryMatches_iff holds)
    (fun _ blank => entryMatches_blank blank nonempty)
  rw [replayHistorySize, ← lookup]
  simp only [isReplayedCiphertext, if_neg inRange, List.any_eq_true, Vector.mem_toList_iff,
    Vector.mem_iff_getElem]
  constructor
  · rintro ⟨_, ⟨place, inside, rfl⟩, found⟩
    exact ⟨place, inside, found⟩
  · rintro ⟨place, inside, found⟩
    exact ⟨_, ⟨place, inside, rfl⟩, found⟩

/-- Recording a ciphertext slides the window. -/
theorem Window.recordCiphertext {context : CryptoContext} {log : List Bytes}
    (window : context.Window log) {ciphertext : Bytes} (nonempty : 0 < ciphertext.length)
    (fits : ciphertext.length ≤ maxPayload)
    : (context.recordCiphertext ciphertext).Window (log ++ [ciphertext]) := by
  have inRange : ¬ (ciphertext.length = 0 ∨ ciphertext.length > maxPayload) := by omega
  unfold Window ring CryptoContext.recordCiphertext
  rw [if_neg inRange]
  refine RingWindow.push window ⟨nonempty, rfl, ?_⟩
  exact readBack_overwrite _ _ _ (by simpa [maxPayload] using fits)

end CryptoContext

/-- The ciphertext of an action accepted under a generation. -/
def SessionEvent.actionUnder (generation : Nat) : SessionEvent → Option Bytes
  | .accepted frame =>
      if frame.isAction && frame.generation = generation then some frame.ciphertext else none
  | _ => none

/-- The ciphertexts of the actions accepted under a generation, in their order. -/
def acceptedActions (events : List SessionEvent) (generation : Nat) : List Bytes :=
  events.filterMap (SessionEvent.actionUnder generation)

theorem acceptedActions_append (first second : List SessionEvent) (generation : Nat)
    : acceptedActions (first ++ second) generation
      = acceptedActions first generation ++ acceptedActions second generation := by
  simp [acceptedActions]

theorem acceptedActions_singleton (event : SessionEvent) (generation : Nat)
    : acceptedActions [event] generation = (event.actionUnder generation).toList := by
  cases logged : event.actionUnder generation <;> simp [acceptedActions, logged]

/-- Contexts in use at once belong to different generations. -/
theorem MoveRun.generation_ne {events : List SessionEvent} {held : Contexts}
    {ledger : Ledger} (run : MoveRun events held ledger) (wf : held.WellFormed)
    {left right : ContextRef} (validLeft : (held.context left).valid = true)
    (validRight : (held.context right).valid = true) (different : left ≠ right)
    : ledger.generation left ≠ ledger.generation right := by
  have recent := run.simulates.invariant recent_new Rekeying.Step.recent
  cases offer : held.pending.valid with
  | true =>
      have alone := wf.exclusive offer
      cases active : held.active.valid with
      | true =>
          rw [held.receiver_rotating ledger offer active] at recent
          cases left <;> cases right <;>
            simp_all [Contexts.context, Ledger.generation, Rekeying.Receiver.Recent] <;> omega
      | false => cases left <;> cases right <;> simp_all [Contexts.context]
  | false =>
      cases retired : held.retired.valid with
      | true =>
          have active := (wf.retiredNeeds retired).1
          rw [held.receiver_overlapped ledger offer active retired] at recent
          cases left <;> cases right <;>
            simp_all [Contexts.context, Ledger.generation, Rekeying.Receiver.Recent] <;> omega
      | false => cases left <;> cases right <;> simp_all [Contexts.context]

/-- An event extends the log of a context's generation by what it records in its ring. -/
theorem Moves.window {events : List SessionEvent} {held after : Contexts}
    {ledger later : Ledger} {event : SessionEvent} (run : MoveRun events held ledger)
    (wf : held.WellFormed) (moves : Moves held ledger event after later)
    {source : ContextRef} (valid : (held.context source).valid = true)
    (window : (held.context source).Window (acceptedActions events (ledger.generation source)))
    : (event.recordIn source (held.context source)).Window
        (acceptedActions (events ++ [event]) (ledger.generation source)) := by
  rw [acceptedActions_append, acceptedActions_singleton]
  cases moves with
  | @accepted frame _ keyId inUse generation _ _ fits =>
      by_cases bound : frame.opened.ref = source
      · rw [bound] at generation
        cases action : frame.isAction with
        | true =>
            have recorded
                : (SessionEvent.accepted frame).recordIn source (held.context source)
                  = (held.context source).recordCiphertext frame.ciphertext := by
              simp only [DecryptedFrame.isAction, DecryptedFrame.command] at action
              simp [SessionEvent.recordIn, OpenedFrame.recordIn, bound,
                CryptoContext.recordAction, action, DecryptedFrame.ciphertext]
            have logged
                : (SessionEvent.accepted frame).actionUnder (ledger.generation source)
                  = some frame.ciphertext := by
              simp [SessionEvent.actionUnder, action, generation]
            rw [recorded, logged]
            exact window.recordCiphertext fits.1 fits.2
        | false =>
            have recorded
                : (SessionEvent.accepted frame).recordIn source (held.context source)
                  = held.context source := by
              simp only [DecryptedFrame.isAction, DecryptedFrame.command] at action
              simp [SessionEvent.recordIn, OpenedFrame.recordIn, CryptoContext.recordAction,
                action]
            have logged
                : (SessionEvent.accepted frame).actionUnder (ledger.generation source)
                  = none := by
              simp [SessionEvent.actionUnder, action]
            rw [recorded, logged, Option.toList_none, List.append_nil]
            exact window
      · have other : ¬ frame.generation = ledger.generation source := by
          rw [generation]
          exact run.generation_ne wf inUse valid bound
        have logged
            : (SessionEvent.accepted frame).actionUnder (ledger.generation source)
              = none := by
          simp [SessionEvent.actionUnder, other]
        rw [logged, Option.toList_none, List.append_nil]
        simpa [SessionEvent.recordIn, OpenedFrame.recordIn, bound] using window
  | _ => simpa [SessionEvent.actionUnder, SessionEvent.recordIn] using window

/-- No action was accepted under a generation that is yet to be drawn. -/
theorem MoveRun.acceptedActions_drawn {events : List SessionEvent} {held : Contexts}
    {ledger : Ledger} (run : MoveRun events held ledger)
    : acceptedActions events ledger.drawn = [] := by
  rw [acceptedActions, List.filterMap_eq_nil_iff]
  intro event member
  cases event with
  | accepted frame =>
      have := run.accepted_lt_drawn member
      have other : ¬ frame.generation = ledger.drawn := by omega
      simp [SessionEvent.actionUnder, other]
  | _ => rfl

/-- The ring of every valid context is the window over the actions accepted under its
generation, by induction on the moves.
-/
theorem MoveRun.window {events : List SessionEvent} {held : Contexts} {ledger : Ledger}
    (run : MoveRun events held ledger) {ref : ContextRef}
    (valid : (held.context ref).valid = true)
    : (held.context ref).Window (acceptedActions events (ledger.generation ref)) := by
  induction run generalizing ref with
  | new => cases ref <;> simp [Contexts.context, Contexts.blank] at valid
  | @snoc events event held ledger after later run wf moves ih =>
      rcases moves.carried valid with ⟨source, carried, _⟩ | ⟨rfl, rfl, number, blank⟩
      · have moved := moves.window run wf carried.valid (ih carried.valid)
        rw [carried.generation]
        unfold CryptoContext.Window at moved ⊢
        rwa [carried.ring]
      · rw [show later.generation .pending = ledger.drawn from number,
          acceptedActions_append, run.acceptedActions_drawn, acceptedActions_singleton]
        have empty := CryptoContext.window_blank
        unfold CryptoContext.Window at empty ⊢
        rw [← blank] at empty
        exact empty

/-- An accepted action was not in the replay history of its context. -/
theorem Moves.accepted_fresh {held after : Contexts} {ledger later : Ledger}
    {frame : DecryptedFrame} (wf : held.WellFormed)
    (moves : Moves held ledger (.accepted frame) after later) (action : frame.isAction = true)
    : (held.context frame.opened.ref).isReplayedCiphertext frame.ciphertext = false := by
  cases moves with
  | accepted _ _ _ _ seen _ _ step =>
      rw [← seen]
      have notPoll : frame.opened.isPoll = false := OpenedFrame.not_isPoll_of_isAction action
      simp only [DecryptedFrame.isAction, DecryptedFrame.command] at action
      generalize accepted : Action.command = outcome at step
      cases step with
      | promoted bound =>
          rw [seen, bound]
          exact wf.pendingUnused.not_replayed _
      | current _ _ fresh => simpa [OpenedFrame.replays, action] using fresh
      | predecessorPoll _ _ poll => simp [notPoll] at poll
      | lateUnlock _ _ _ _ fresh => exact fresh
      | retiredAccepted _ admissible =>
          rcases admissible with poll | ⟨_, fresh⟩
          · simp [notPoll] at poll
          · exact fresh
      | currentReplay | predecessorRefused | retiredRefused => simp at accepted

/-- An action that repeats an earlier one of its generation comes only after the window has
moved on: eight other actions of that generation were accepted in between.
-/
theorem MoveRun.repeat_outlives_window {before between : List SessionEvent}
    {first second : DecryptedFrame} {held after : Contexts} {ledger later : Ledger}
    (run : MoveRun (before ++ .accepted first :: between) held ledger) (wf : held.WellFormed)
    (moves : Moves held ledger (.accepted second) after later)
    (firstAction : first.isAction = true) (secondAction : second.isAction = true)
    (sameGeneration : first.generation = second.generation)
    (sameCiphertext : first.ciphertext = second.ciphertext)
    : replayHistorySize ≤ (acceptedActions between second.generation).length := by
  have fresh := moves.accepted_fresh wf secondAction
  cases moves with
  | accepted _ inUse generation _ _ fits =>
      have window := run.window inUse
      have logged
          : acceptedActions (before ++ .accepted first :: between) second.generation
            = acceptedActions before second.generation
              ++ second.ciphertext :: acceptedActions between second.generation := by
        simp [acceptedActions, SessionEvent.actionUnder, firstAction, sameGeneration,
          sameCiphertext]
      rw [← generation, logged] at window
      by_contra few
      have member
          : second.ciphertext
            ∈ List.drop _ (acceptedActions before second.generation
              ++ second.ciphertext :: acceptedActions between second.generation) :=
        RingWindow.mem_window_of_recent (Nat.lt_of_not_le few)
      rw [← window.isReplayedCiphertext_iff fits.1 fits.2, fresh] at member
      simp at member

/-- The same ciphertext is accepted again as an action of the same generation only after
eight other actions of that generation were accepted in between.
-/
theorem repeated_action_outlives_window (keystream : Keystream) (ops : List SessionOp)
    (before between after : List SessionEvent) (first second : DecryptedFrame)
    (observed
      : sessionHistory keystream ops
        = before ++ .accepted first :: (between ++ .accepted second :: after))
    (firstAction : first.isAction = true) (secondAction : second.isAction = true)
    (sameGeneration : first.generation = second.generation)
    (sameCiphertext : first.ciphertext = second.ciphertext)
    : replayHistorySize ≤ (acceptedActions between second.generation).length := by
  rw [← List.cons_append, ← List.append_assoc] at observed
  obtain ⟨held, ledger, _, _, run, wf, moves⟩ := sessionHistory_split_at observed
  exact run.repeat_outlives_window wf moves firstAction secondAction sameGeneration
    sameCiphertext

/-- An unlock by PIN that names its credential by a raw index byte. -/
def pinUnlockOf (index : UInt8) : Bytes := [0x0F, 0x4E, 0x01, 0x03, 0x04, 0x80, index, 0x00]

/-- Nine different unlocks, and then the first one once more. -/
def forgottenUnlockOps : List SessionOp :=
  .frame constantEnv (ivRequest 0xC6)
    :: [0, 1, 2, 3, 4, 5, 6, 7, 8, 0].map fun index =>
      .frame constantEnv ([0x57, 0xC6, 0x00, 0x00] ++ pinUnlockOf index)

/-- The unlock of a credential as it was decrypted, under the offered or the adopted IV. -/
def unlockUnder (usesPending : Bool) (index : UInt8) : DecryptedFrame where
  generation := 0
  header := ⟨0xC6, 0x00, 0x00⟩
  iv := Vector.replicate 16 0
  opened := ⟨usesPending, !usesPending, false, pinUnlockOf index, pinUnlockOf index, false⟩

theorem forgottenUnlockOps_history
    : sessionHistory clearStream forgottenUnlockOps
      = [.drew 0 0xC6 (Vector.replicate 16 0)]
        ++ .accepted (unlockUnder true 0)
          :: ([1, 2, 3, 4, 5, 6, 7, 8].map (fun index => .accepted (unlockUnder false index))
            ++ .accepted (unlockUnder false 0) :: []) := by
  decide +kernel

/-- The window is full between the two occurrences of the first unlock. -/
theorem repeated_action_outlives_window_forgotten
    : replayHistorySize
      ≤ (acceptedActions
          ([1, 2, 3, 4, 5, 6, 7, 8].map fun index => .accepted (unlockUnder false index))
          0).length :=
  repeated_action_outlives_window clearStream forgottenUnlockOps _ _ _ _ _
    forgottenUnlockOps_history rfl rfl rfl rfl

/-- The ring forgets: an action can be accepted twice under one generation. -/
theorem repeated_action_accepted
    : ¬ ∀ (keystream : Keystream) (ops : List SessionOp)
        (before between after : List SessionEvent) (first second : DecryptedFrame),
          sessionHistory keystream ops
            = before ++ .accepted first :: (between ++ .accepted second :: after)
          → first.isAction = true
          → second.isAction = true
          → first.generation = second.generation
          → first.ciphertext ≠ second.ciphertext := by
  intro never
  exact never clearStream forgottenUnlockOps _ _ _ _ _ forgottenUnlockOps_history rfl rfl
    rfl rfl

/-- The ring of a valid context is the window of the last eight actions accepted under the
generation its IV was drawn as: a ciphertext that fits a slot is found exactly if it is one
of them.
-/
theorem replay_ring_is_window (keystream : Keystream) (ops : List SessionOp)
    (ref : ContextRef)
    (valid : (((sessionMachine keystream).run {} ops).context ref).valid = true)
    : let session := (sessionMachine keystream).run {} ops
      let generation := ((trackedMachine keystream).run {} ops).ledger.generation ref
      let actions := acceptedActions (sessionHistory keystream ops) generation
      DrawnFor (sessionHistory keystream ops) generation session.slotId (session.context ref).iv
      ∧ ∀ ciphertext,
          0 < ciphertext.length
          → ciphertext.length ≤ maxPayload
          → ((session.context ref).isReplayedCiphertext ciphertext = true
            ↔ ciphertext ∈ actions.drop (actions.length - replayHistorySize)) := by
  intro session generation actions
  have run := sessionHistory_moves keystream ops
  rw [trackedMachine_run_session] at run
  have inUse : (session.contexts.context ref).valid = true := by
    rw [LockSession.contexts_context]
    exact valid
  have drawn := run.drawnFor inUse
  have window := run.window inUse
  rw [LockSession.contexts_context] at drawn window
  exact ⟨drawn, fun ciphertext nonempty fits => window.isReplayedCiphertext_iff nonempty fits⟩

/-- After ten unlocks the ring still finds the third and has lost the second. -/
theorem replay_ring_is_window_forgotten
    : let session := (sessionMachine clearStream).run {} forgottenUnlockOps
      session.active.isReplayedCiphertext (pinUnlockOf 2) = true
      ∧ session.active.isReplayedCiphertext (pinUnlockOf 1) = false := by
  intro session
  obtain ⟨-, window⟩ :=
    replay_ring_is_window clearStream forgottenUnlockOps .active (by decide +kernel)
  refine ⟨(window (pinUnlockOf 2) (by decide) (by decide)).mpr (by decide +kernel), ?_⟩
  rw [← Bool.not_eq_true]
  exact (window (pinUnlockOf 1) (by decide) (by decide)).not.mpr (by decide +kernel)

end KeypadBridge
