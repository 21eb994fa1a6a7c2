import KeypadBridge.Session.Provenance
import KeypadBridge.Session.Rotation

/-! The hand-off between generations over whole runs: accepted actions never go back in
time, and Fast Unlock is a one-shot capability.
-/

namespace KeypadBridge
open KeypadBridge.Foundation
open KeypadBridge.Foundation.Rekeying
open LockSession (OpenedFrame FrameStep)

/-- Every history of the session is a run of the re-keying receiver. -/
theorem sessionHistory_simulates (keystream : Keystream) (ops : List SessionOp)
    : ∃ receiver,
        Run lockPolicy {} ((sessionHistory keystream ops).map SessionEvent.label) receiver :=
  ⟨_, (sessionHistory_moves keystream ops).simulates⟩

/-- A new receiver holds no generation. -/
theorem recent_new : ({} : Receiver).Recent := trivial

/-- An accepted frame was decrypted under the newest IV or under the one drawn right before
it.
-/
theorem MoveRun.accepted_recent {events : List SessionEvent} {held after : Contexts}
    {ledger later : Ledger} {frame : DecryptedFrame} (run : MoveRun events held ledger)
    (wf : held.WellFormed) (moves : Moves held ledger (.accepted frame) after later)
    : ∃ earlier since,
        events = earlier ++ .drew frame.generation frame.header.keyId frame.iv :: since
        ∧ (∀ event ∈ since, event.keepsSlot frame.header.keyId = true)
        ∧ since.countP SessionEvent.isDraw ≤ 1 := by
  have recent := run.simulates.invariant recent_new Step.recent
  have held_recent := (moves.simulates wf).accept_recent recent
  cases moves with
  | accepted keyId inUse generation iv =>
      have drawn := run.drawnFor inUse
      rw [← keyId, ← generation, ← iv] at drawn
      obtain ⟨earlier, since, rfl, kept⟩ := drawn
      refine ⟨earlier, since, rfl, kept, ?_⟩
      have count := run.drawn_eq
      have number := run.draw_number
      rw [List.countP_append, List.countP_cons] at count
      simp only [SessionEvent.isDraw, if_true] at count
      simp only [Contexts.receiver] at held_recent
      omega

/-- Draws are numbered in their order; every accepted frame is under the newest IV or the
one before it; and once an action was accepted under a generation, nothing older is
accepted any more.
-/
theorem accepted_actions_monotone (keystream : Keystream) (ops : List SessionOp)
    : (∀ before generation slot iv after,
        sessionHistory keystream ops = before ++ .drew generation slot iv :: after
        → generation = before.countP SessionEvent.isDraw)
      ∧ (∀ before frame after,
          sessionHistory keystream ops = before ++ .accepted frame :: after
          → ∃ earlier slot since,
              before = earlier ++ .drew frame.generation slot frame.iv :: since
              ∧ since.countP SessionEvent.isDraw ≤ 1)
      ∧ ∀ before first between later after,
          sessionHistory keystream ops
            = before ++ .accepted first :: (between ++ .accepted later :: after)
          → first.isPoll = false
          → first.generation ≤ later.generation := by
  refine ⟨?_, ?_, ?_⟩
  · intro before generation slot iv after observed
    have run := sessionHistory_moves keystream ops
    rw [observed] at run
    exact run.draw_number
  · intro before frame after observed
    obtain ⟨held, ledger, _, _, run, wf, moves⟩ := sessionHistory_split_at observed
    obtain ⟨earlier, since, split, _, few⟩ := run.accepted_recent wf moves
    exact ⟨earlier, _, since, split, few⟩
  · intro before first between later after observed effect
    obtain ⟨receiver, run⟩ := sessionHistory_simulates keystream ops
    rw [observed] at run
    simp only [List.map_append, List.map_cons, SessionEvent.label] at run
    exact run.effects_monotone recent_new effect

/-- The lock and the late unlock of the short exchange are in order. -/
theorem accepted_actions_monotone_late : firstLock.generation ≤ lateUnlock.generation :=
  (accepted_actions_monotone clearStream lateUnlockOps).2.2
    [.drew 0 0xC6 (Vector.replicate 16 0)] firstLock
    [.drew 1 0xC6 ((Vector.replicate 16 0).setIfInBounds 1 1)] lateUnlock []
    lateUnlockOps_history rfl

namespace SessionEvent

/-- A frame other than a poll, accepted under a generation older than `newest`. -/
def lateAction (newest : Nat) : SessionEvent → Bool
  | .accepted frame => frame.generation < newest && !frame.isPoll
  | _ => false

/-- A poll accepted under a generation older than `newest`. -/
def latePoll (newest : Nat) : SessionEvent → Bool
  | .accepted frame => frame.generation < newest && frame.isPoll
  | _ => false

/-- A frame accepted under the newest generation. -/
def underNewest (newest : Nat) : SessionEvent → Bool
  | .accepted frame => frame.generation = newest
  | _ => false

end SessionEvent

/-- The conditions under which a frame was accepted under a generation older than `newest`,
where `since` is what happened since `newest` was drawn for `slot`.
-/
structure FastUnlock (newest : Nat) (slot : UInt8) (since : List SessionEvent)
    (frame : DecryptedFrame)
    : Prop where
  unlock : frame.command.type = .unlock
  method
    : frame.command.method = .pin
      ∨ frame.command.method = .nfc
      ∨ frame.command.method = .fingerprint
      ∨ frame.command.method = .face
  visionSlot : slot = 0xC6
  visionKeyId : frame.header.keyId = 0xC6
  noBoundary : ∀ event ∈ since, event ≠ .transportReset ∧ event ≠ .reset ∧ event ≠ .resetForget
  firstAttempt
    : ∀ other,
        .accepted other ∈ since ∨ .refused other ∈ since
        → other.generation < newest
        → other.isPoll = true
  onePoll : since.countP (SessionEvent.latePoll newest) ≤ 1
  oneCommit : since.countP (SessionEvent.underNewest newest) ≤ 1
  commitPoll
    : ∀ other,
        .accepted other ∈ since
        → other.generation = newest
        → other.isPoll = true ∧ other.opened.ref = .pending

/-- Counting labels is counting the events that carry them. -/
theorem countP_label {predicate : Label DecryptedFrame → Bool}
    {counted : SessionEvent → Bool} (same : ∀ event, predicate event.label = counted event)
    (events : List SessionEvent)
    : (events.map SessionEvent.label).countP predicate = events.countP counted := by
  rw [List.countP_map]
  exact List.countP_congr fun event _ => by simp [same event]

theorem countP_lateAction (newest : Nat) (events : List SessionEvent)
    : (events.map SessionEvent.label).countP (Label.lateAction lockPolicy newest)
      = events.countP (SessionEvent.lateAction newest) :=
  countP_label (fun event => by cases event <;> rfl) events

theorem countP_latePoll (newest : Nat) (events : List SessionEvent)
    : (events.map SessionEvent.label).countP (Label.latePoll lockPolicy newest)
      = events.countP (SessionEvent.latePoll newest) :=
  countP_label (fun event => by cases event <;> rfl) events

theorem countP_underNewest (newest : Nat) (events : List SessionEvent)
    : (events.map SessionEvent.label).countP (Label.underNewest newest)
      = events.countP (SessionEvent.underNewest newest) :=
  countP_label (fun event => by cases event <;> rfl) events

theorem countP_isDraw (events : List SessionEvent)
    : (events.map SessionEvent.label).countP Label.isDraw
      = events.countP SessionEvent.isDraw :=
  countP_label (fun event => by cases event <;> rfl) events

/-- The first frame accepted under a generation is bound to the pending context. -/
theorem MoveRun.first_accepted_pending {events : List SessionEvent} {held after : Contexts}
    {ledger later : Ledger} {frame : DecryptedFrame} (run : MoveRun events held ledger)
    (moves : Moves held ledger (.accepted frame) after later)
    (first : ∀ other, .accepted other ∈ events → other.generation ≠ frame.generation)
    : frame.opened.ref = .pending := by
  cases moves with
  | accepted _ inUse generation =>
      by_cases bound : frame.opened.ref = .pending
      · exact bound
      · obtain ⟨other, member, same⟩ := run.adopted bound inUse
        exact absurd (same.trans generation.symm) (first other member)

/-- A frame that is the only one accepted under the newest generation since its draw is the
one that promoted it.
-/
theorem MoveRun.only_commit_pending {before earlier later : List SessionEvent}
    {newest : Nat} {slot : UInt8} {iv : Iv} {frame : DecryptedFrame} {held : Contexts}
    {ledger : Ledger}
    (run
      : MoveRun (before ++ .drew newest slot iv :: (earlier ++ .accepted frame :: later))
          held ledger)
    (generation : frame.generation = newest)
    (few : (earlier ++ .accepted frame :: later).countP (SessionEvent.underNewest newest) ≤ 1)
    : frame.opened.ref = .pending := by
  have number := run.draw_number
  obtain ⟨_, ledgerThen, _, _, drawRun, _, _⟩ := run.split_at
  rw [← drawRun.drawn_eq] at number
  rw [show before ++ .drew newest slot iv :: (earlier ++ .accepted frame :: later)
      = (before ++ .drew newest slot iv :: earlier) ++ .accepted frame :: later by simp] at run
  obtain ⟨_, _, _, _, earlierRun, _, moves⟩ := run.split_at
  -- An earlier frame of the generation would precede its draw, or be a second commit.
  apply earlierRun.first_accepted_pending moves
  intro other member same
  rw [generation] at same
  rcases List.mem_append.mp member with old | recent
  · have := drawRun.accepted_lt_drawn old
    omega
  · have recent := (List.mem_cons.mp recent).resolve_left (by simp)
    have counted : 0 < earlier.countP (SessionEvent.underNewest newest) :=
      List.countP_pos_iff.mpr ⟨_, recent, by simp [SessionEvent.underNewest, same]⟩
    rw [List.countP_append, List.countP_cons] at few
    simp only [SessionEvent.underNewest, generation, decide_true, if_true] at few
    omega

/-- A frame under an older generation carries the key id of the draw that superseded it:
any other slot would have started over.
-/
theorem MoveRun.older_keyId {before since : List SessionEvent} {newest : Nat}
    {slot : UInt8} {iv : Iv} {held after : Contexts} {ledger later : Ledger}
    {frame : DecryptedFrame}
    (run : MoveRun (before ++ .drew newest slot iv :: since) held ledger)
    (wf : held.WellFormed) (moves : Moves held ledger (.accepted frame) after later)
    (noDraw : since.countP SessionEvent.isDraw = 0) (older : frame.generation < newest)
    : slot = frame.header.keyId := by
  obtain ⟨earlier, rest, split, kept, _⟩ := run.accepted_recent wf moves
  -- The frame's own draw came first, so the newest draw is one of those that kept its slot.
  have within : .drew newest slot iv ∈ rest := by
    rcases List.append_eq_append_iff.mp split with
      ⟨gap, rfl, same⟩ | ⟨gap, rfl, same⟩
    · cases gap with
      | nil =>
          have := (List.cons.inj same).1
          simp only [SessionEvent.drew.injEq] at this
          omega
      | cons head tail =>
          have drawn : .drew frame.generation frame.header.keyId frame.iv ∈ since := by
            rw [(List.cons.inj same).2]
            simp
          exact absurd rfl (List.countP_eq_zero.mp noDraw _ drawn)
    · cases gap with
      | nil =>
          have := (List.cons.inj same).1
          simp only [SessionEvent.drew.injEq] at this
          omega
      | cons head tail =>
          rw [(List.cons.inj same).2]
          simp
  exact of_decide_eq_true (kept _ within)

/-- A late action meets the conditions of Fast Unlock. -/
theorem MoveRun.fastUnlock {before earlier later : List SessionEvent} {newest : Nat}
    {slot : UInt8} {iv : Iv} {held : Contexts} {ledger : Ledger} {frame : DecryptedFrame}
    (run
      : MoveRun (before ++ .drew newest slot iv :: (earlier ++ .accepted frame :: later))
          held ledger)
    (noDraw : (earlier ++ .accepted frame :: later).countP SessionEvent.isDraw = 0)
    (older : frame.generation < newest) (effect : frame.isPoll = false)
    : FastUnlock newest slot earlier frame := by
  have earlierNoDraw : earlier.countP SessionEvent.isDraw = 0 := by
    rw [List.countP_append] at noDraw
    omega
  have labels := run.simulates
  simp only [List.map_append, List.map_cons, SessionEvent.label] at labels
  obtain ⟨arms, urgent, unspent⟩ := labels.lateAction_needs recent_new
    (by rw [countP_isDraw, earlierNoDraw]) older effect
  have vision : slot = visionKeySlot := of_decide_eq_true arms
  have keyId : slot = frame.header.keyId := by
    have split := run
    rw [← List.cons_append, ← List.append_assoc] at split
    obtain ⟨_, _, _, _, earlierRun, wf, moves⟩ := split.split_at
    exact earlierRun.older_keyId wf moves earlierNoDraw older
  have fewCommits := unspent.fewCommits
  rw [countP_underNewest] at fewCommits
  simp only [lockPolicy, OpenedFrame.isFastUnlock, LockSession.isFastUnlockAction,
    LockSession.hasKnownUnlockMethod, Bool.and_eq_true, Bool.or_eq_true, decide_eq_true_eq,
    or_assoc] at urgent
  exact {
    unlock := urgent.1
    method := urgent.2
    visionSlot := vision
    visionKeyId := keyId ▸ vision
    noBoundary := by
      intro event member
      have kept := List.countP_eq_zero.mp unspent.notRevoked _
        (List.mem_map_of_mem (f := SessionEvent.label) member)
      refine ⟨?_, ?_, ?_⟩ <;> rintro rfl <;> exact kept rfl
    firstAttempt := by
      intro other member otherOlder
      rcases member with accepted | refused
      · have := List.countP_eq_zero.mp unspent.noAttempt _ (List.mem_map_of_mem accepted)
        simpa [SessionEvent.label, Label.lateAttempt, lockPolicy, otherOlder] using this
      · have := List.countP_eq_zero.mp unspent.noAttempt _ (List.mem_map_of_mem refused)
        simpa [SessionEvent.label, Label.lateAttempt, lockPolicy, otherOlder] using this
    onePoll := by
      have few := unspent.fewPolls
      rwa [countP_latePoll] at few
    oneCommit := fewCommits
    commitPoll := by
      intro other member generation
      constructor
      · have := List.countP_eq_zero.mp unspent.noEffect _ (List.mem_map_of_mem member)
        simpa [SessionEvent.label, Label.newestEffect, lockPolicy, generation] using this
      · obtain ⟨first, rest, rfl⟩ := List.append_of_mem member
        rw [← List.cons_append, ← List.append_assoc] at run
        obtain ⟨_, _, earlierRun⟩ := run.prefix_run
        exact earlierRun.only_commit_pending generation fewCommits
  }

/-- Between a fresh draw and the next one, at most one frame other than a poll is accepted
under an older generation, and only as an unlock under the conditions of Fast Unlock.
-/
theorem fast_unlock_one_shot (keystream : Keystream) (ops : List SessionOp)
    (before since after : List SessionEvent) (newest : Nat) (slot : UInt8) (iv : Iv)
    (observed
      : sessionHistory keystream ops = before ++ .drew newest slot iv :: (since ++ after))
    (noDraw : since.countP SessionEvent.isDraw = 0)
    : since.countP (SessionEvent.lateAction newest) ≤ 1
      ∧ ∀ earlier frame later,
          since = earlier ++ .accepted frame :: later
          → frame.generation < newest
          → frame.isPoll = false
          → FastUnlock newest slot earlier frame := by
  have whole := sessionHistory_moves keystream ops
  rw [observed, ← List.cons_append, ← List.append_assoc] at whole
  obtain ⟨held, ledger, run⟩ := whole.prefix_run
  constructor
  · have labels := run.simulates
    rw [List.map_append, List.map_cons] at labels
    have once := labels.lateAction_once recent_new (by rw [countP_isDraw, noDraw])
    rwa [countP_lateAction] at once
  · rintro earlier frame later rfl older effect
    exact run.fastUnlock noDraw older effect

/-- The late unlock of the short exchange is a Fast Unlock. -/
theorem fast_unlock_one_shot_late : FastUnlock 1 0xC6 [] lateUnlock :=
  (fast_unlock_one_shot clearStream lateUnlockOps
    [.drew 0 0xC6 (Vector.replicate 16 0), .accepted firstLock] [.accepted lateUnlock] [] 1
    0xC6 _ lateUnlockOps_history rfl).2 [] lateUnlock [] rfl (by decide) rfl

end KeypadBridge
