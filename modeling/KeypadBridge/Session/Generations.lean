import KeypadBridge.Session.Wire

/-! Crypto generations over runs. A generation is one draw of a fresh IV, numbered in the
order of the draws. The program does not store these numbers: a ledger beside the session
carries, for each context, the number of the draw its IV came from, and moves as the
contexts move.
-/

namespace KeypadBridge
open KeypadBridge.Foundation
open LockSession (OpenedFrame FrameOutcome)

-----------------------------------------------------------------------------------------
-- The ledger and the observed events
-----------------------------------------------------------------------------------------

/-- How many IVs were drawn so far, and which draw each context holds. The number of an
invalid context means nothing.
-/
structure Ledger where
  drawn : Nat := 0
  pending : Nat := 0
  active : Nat := 0
  retired : Nat := 0

namespace Ledger

def generation (ledger : Ledger) : ContextRef → Nat
  | .pending => ledger.pending
  | .active => ledger.active
  | .retired => ledger.retired

/-- A fresh draw lands in the pending context. -/
def afterDraw (ledger : Ledger) : Ledger :=
  { ledger with drawn := ledger.drawn + 1, pending := ledger.drawn }

/-- A frame accepted under the pending context moves it to active, and active to retired. -/
def afterAccept (ledger : Ledger) : ContextRef → Ledger
  | .pending => { ledger with active := ledger.pending, retired := ledger.active }
  | .active | .retired => ledger

end Ledger

/-- A frame that was decrypted: under which generation and IV, with its header and texts. -/
structure DecryptedFrame where
  generation : Nat
  header : FrameHeader
  iv : Iv
  opened : OpenedFrame
  deriving DecidableEq

namespace DecryptedFrame

def command (frame : DecryptedFrame) : DecodedCommand := frame.opened.command

def ciphertext (frame : DecryptedFrame) : Bytes := frame.opened.ciphertext

def isPoll (frame : DecryptedFrame) : Bool := frame.opened.isPoll

/-- The frame carries `LOCK` or `UNLOCK`. -/
def isAction (frame : DecryptedFrame) : Bool := frame.command.isAction

end DecryptedFrame

/-- What an observer of the session who also sees the draws records for one operation. -/
inductive SessionEvent where
  | drew (generation : Nat) (slot : UInt8) (iv : Iv)
  | resent (slot : UInt8) (iv : Iv)
  | accepted (frame : DecryptedFrame)
  | refused (frame : DecryptedFrame)
  | ignored
  | transportReset
  | reset
  | resetForget
  | keySet
  deriving DecidableEq

/-- A session with its ledger. -/
structure TrackedSession where
  session : LockSession := {}
  ledger : Ledger := {}

section

variable (keystream : Keystream)

/-- What was decrypted when `process_frame` got as far as the decoder. -/
def TrackedSession.decrypted (tracked : TrackedSession) (bytes : Bytes)
    (opened : OpenedFrame)
    : DecryptedFrame where
  generation := tracked.ledger.generation opened.ref
  header := frameHeader bytes
  iv := (tracked.session.context opened.ref).iv
  opened := opened

/-- The event of one frame, read off the outcome of `process_frame`. -/
def TrackedSession.observe (tracked : TrackedSession) (env : FrameEnv) (bytes : Bytes)
    (outcome : FrameOutcome)
    : SessionEvent × Ledger :=
  if outcome.action = .sendIv then
    if outcome.randomCalls = 0 then
      (.resent (bytes.getD 7 0) outcome.session.advertisedIv, tracked.ledger)
    else
      (.drew tracked.ledger.drawn (bytes.getD 7 0) outcome.session.advertisedIv,
        tracked.ledger.afterDraw)
  else
    match (tracked.session.openFrame keystream env bytes).2 with
    | none => (.ignored, tracked.ledger)
    | some opened =>
        if outcome.action = .command then
          (.accepted (tracked.decrypted bytes opened),
            tracked.ledger.afterAccept opened.ref)
        else (.refused (tracked.decrypted bytes opened), tracked.ledger)

/-- One operation on the session, with its event. -/
def TrackedSession.perform (tracked : TrackedSession) (op : SessionOp)
    : TrackedSession × SessionEvent :=
  let session := (tracked.session.perform keystream op).1
  match op with
  | .frame env bytes =>
      let (event, ledger) := tracked.observe keystream env bytes
        (tracked.session.processFrame keystream env bytes)
      (⟨session, ledger⟩, event)
  | .reset => (⟨session, tracked.ledger⟩, .reset)
  | .resetTransport => (⟨session, tracked.ledger⟩, .transportReset)
  | .resetForget => (⟨session, tracked.ledger⟩, .resetForget)
  | .setAesKey _ => (⟨session, tracked.ledger⟩, .keySet)

/-- The ledger is beside the session, never in its way. -/
theorem TrackedSession.perform_session (tracked : TrackedSession) (op : SessionOp)
    : (tracked.perform keystream op).1.session
      = (tracked.session.perform keystream op).1 := by
  cases op <;> rfl

def trackedMachine : Machine TrackedSession SessionOp SessionEvent where
  step := TrackedSession.perform keystream

/-- The events of a run of a new session. -/
def sessionHistory (ops : List SessionOp) : List SessionEvent :=
  (trackedMachine keystream).history {} ops

end

/-- Forgetting the ledger gives the plain run. -/
theorem trackedMachine_run_session (keystream : Keystream) (tracked : TrackedSession)
    (ops : List SessionOp)
    : ((trackedMachine keystream).run tracked ops).session
      = (sessionMachine keystream).run tracked.session ops := by
  have projected := (trackedMachine keystream).run_project (sessionMachine keystream)
    TrackedSession.session id (TrackedSession.perform_session keystream) tracked ops
  rwa [List.map_id] at projected

-----------------------------------------------------------------------------------------
-- One step, said once
-----------------------------------------------------------------------------------------

/-- How an event moves the contexts and their generation numbers. -/
inductive Moves (held : Contexts) (ledger : Ledger)
    : SessionEvent → Contexts → Ledger → Prop
  | drew {slot : UInt8} {iv : Iv} {after : Contexts}
    (step : RequestStep held slot after iv true)
    : Moves held ledger (.drew ledger.drawn slot iv) after ledger.afterDraw
  | resent (offer : held.pending.valid = true)
    : Moves held ledger (.resent held.slotId held.pending.iv) held ledger
  | accepted {frame : DecryptedFrame} {after : Contexts}
    (keyId : frame.header.keyId = held.slotId)
    (inUse : (held.context frame.opened.ref).valid = true)
    (generation : frame.generation = ledger.generation frame.opened.ref)
    (iv : frame.iv = (held.context frame.opened.ref).iv)
    (seen
      : frame.opened.ciphertextSeen
        = (held.context frame.opened.ref).isReplayedCiphertext frame.ciphertext)
    (fits : 0 < frame.ciphertext.length ∧ frame.ciphertext.length ≤ maxPayload)
    (notRequest
      : LockSession.isIvRequest
          (wireFrame held.slotId (held.context frame.opened.ref).iv frame.ciphertext)
        = false)
    (step : LockSession.FrameStep held frame.opened after .command)
    : Moves held ledger (.accepted frame) after (ledger.afterAccept frame.opened.ref)
  | refused {frame : DecryptedFrame} {after : Contexts}
    (keyId : frame.header.keyId = held.slotId)
    (inUse : (held.context frame.opened.ref).valid = true)
    (generation : frame.generation = ledger.generation frame.opened.ref)
    (step : LockSession.FrameStep held frame.opened after .none)
    : Moves held ledger (.refused frame) after ledger
  | ignored : Moves held ledger .ignored held ledger
  | ignoredClosing (retired : held.retired.valid = true)
    : Moves held ledger .ignored { held with retired := {} } ledger
  | transportReset : Moves held ledger .transportReset held.boundary ledger
  | reset : Moves held ledger .reset (.blank held.slotId) ledger
  | resetForget : Moves held ledger .resetForget (.blank 0) ledger
  | keySet : Moves held ledger .keySet held ledger

/-- A request that draws nothing is a retry: it repeats the offer of the held slot. -/
theorem RequestStep.retry {held after : Contexts} {requestedSlot : UInt8} {iv : Iv}
    (step : RequestStep held requestedSlot after iv false)
    : requestedSlot = held.slotId
      ∧ held.pending.valid = true
      ∧ after = held
      ∧ iv = held.pending.iv := by
  generalize drawn : false = draws at step
  cases step with
  | resent same offer => exact ⟨same, offer, rfl, rfl⟩
  | rotated | restarted => simp at drawn

namespace TrackedSession

/-- An opened frame of the session is what the observer sees opened. -/
theorem openFrame_opened {keystream : Keystream} {env : FrameEnv} {session : LockSession}
    {bytes : Bytes} {opened : OpenedFrame}
    (opens : LockSession.Opens keystream env session bytes opened)
    : (session.openFrame keystream env bytes).2 = some opened := by
  rw [opens.openFrame_eq]

theorem openFrame_unopened {keystream : Keystream} {env : FrameEnv} {session : LockSession}
    {bytes : Bytes}
    (unopened : ∀ opened, ¬ LockSession.Opens keystream env session bytes opened)
    : (session.openFrame keystream env bytes).2 = none := by
  cases result : session.openFrame keystream env bytes with
  | mk after found =>
      cases found with
      | none => rfl
      | some opened => exact absurd (LockSession.openFrame_eq_some result).1 (unopened opened)

/-- Every frame makes one of the moves. -/
theorem frame_moves (keystream : Keystream) (tracked : TrackedSession) (env : FrameEnv)
    (bytes : Bytes) (wf : tracked.session.contexts.WellFormed)
    : Moves tracked.session.contexts tracked.ledger
        (tracked.perform keystream (.frame env bytes)).2
        (tracked.perform keystream (.frame env bytes)).1.session.contexts
        (tracked.perform keystream (.frame env bytes)).1.ledger := by
  have processed := LockSession.processFrame_processed keystream env wf bytes
  simp only [perform, LockSession.perform]
  generalize tracked.session.processFrame keystream env bytes = outcome at processed
  cases processed with
  | request =>
      have answered := LockSession.answerIvRequest_answered
        tracked.session.clearTransient env.random (bytes.getD 7 0)
      have step := answered.step
      simp only [observe, if_true]
      split
      · rename_i noCalls
        rw [noCalls] at step
        obtain ⟨slot, offer, same, iv⟩ := step.retry
        rw [same, iv, slot]
        exact .resent offer
      · rename_i calls
        rw [decide_eq_true (Nat.pos_of_ne_zero calls)] at step
        exact .drew step
  | ignored notRequest unopened header drop closes =>
      simp only [observe, openFrame_unopened unopened, reduceCtorEq, if_false]
      cases drop with
      | false => exact .ignored
      | true => exact .ignoredClosing (closes rfl)
  | @opened opened after action notRequest opens step =>
      have matched := opens.bound_matches
      rw [← LockSession.contexts_context] at matched
      have inUse := (CryptoContext.seqMatches_iff.mp matched).1
      have nonempty := List.length_pos_iff.mpr opens.nonempty
      have wire := notRequest
      rw [opens.frame_eq, ← LockSession.contexts_context] at wire
      have seen := opens.seen
      rw [← LockSession.contexts_context] at seen
      rcases step.action_eq with rfl | rfl
      · simp only [observe, openFrame_opened opens, reduceCtorEq, if_false, if_true]
        exact .accepted opens.keyId inUse rfl
          (congrArg CryptoContext.iv (LockSession.contexts_context _ _).symm) seen
          ⟨nonempty, opens.fits⟩ wire step
      · simp only [observe, openFrame_opened opens, reduceCtorEq, if_false]
        exact .refused opens.keyId inUse rfl step

/-- Every operation makes one of the moves. -/
theorem perform_moves (keystream : Keystream) (tracked : TrackedSession) (op : SessionOp)
    (wf : tracked.session.contexts.WellFormed)
    : Moves tracked.session.contexts tracked.ledger (tracked.perform keystream op).2
        (tracked.perform keystream op).1.session.contexts
        (tracked.perform keystream op).1.ledger := by
  cases op with
  | frame env bytes => exact frame_moves keystream tracked env bytes wf
  | reset => exact .reset
  | resetTransport => exact .transportReset
  | resetForget => exact .resetForget
  | setAesKey key => exact .keySet

end TrackedSession

-----------------------------------------------------------------------------------------
-- Runs of moves
-----------------------------------------------------------------------------------------

/-- The moves of a new session, with the events observed along them. -/
inductive MoveRun : List SessionEvent → Contexts → Ledger → Prop
  | new : MoveRun [] (.blank 0) {}
  | snoc {events event held ledger after later}
    (run : MoveRun events held ledger) (wf : held.WellFormed)
    (moves : Moves held ledger event after later)
    : MoveRun (events ++ [event]) after later

/-- An event of a run was observed on a move from where the events before it lead to. -/
theorem MoveRun.split_at {before since : List SessionEvent} {event : SessionEvent}
    {finish : Contexts} {final : Ledger}
    (run : MoveRun (before ++ event :: since) finish final)
    : ∃ held ledger after later,
        MoveRun before held ledger
        ∧ held.WellFormed
        ∧ Moves held ledger event after later := by
  generalize observed : before ++ event :: since = events at run
  induction run generalizing since with
  | new => simp at observed
  | @snoc events last held ledger after later run wf moves ih =>
      rcases List.eq_nil_or_concat since with rfl | ⟨more, other, rfl⟩
      · obtain ⟨rfl, same⟩ := List.append_inj' observed rfl
        obtain rfl := (List.cons.inj same).1
        exact ⟨_, _, _, _, run, wf, moves⟩
      · rw [show before ++ event :: more.concat other = (before ++ event :: more) ++ [other] by
          simp] at observed
        exact ih (List.append_inj' observed rfl).1

/-- A run of moves has a run of moves for each prefix of its events. -/
theorem MoveRun.prefix_run {first second : List SessionEvent} {finish : Contexts}
    {final : Ledger} (run : MoveRun (first ++ second) finish final)
    : ∃ held ledger, MoveRun first held ledger := by
  cases second with
  | nil => exact ⟨finish, final, by simpa using run⟩
  | cons event rest =>
      obtain ⟨held, ledger, _, _, earlier, _⟩ := run.split_at
      exact ⟨held, ledger, earlier⟩

/-- The contexts along a run of moves are well formed, being those of a session. -/
theorem trackedMachine_run_wellFormed (keystream : Keystream) (ops : List SessionOp)
    : ((trackedMachine keystream).run {} ops).session.contexts.WellFormed := by
  rw [trackedMachine_run_session]
  exact LockSession.run_wellFormed keystream LockSession.wellFormed_new ops

/-- Every history of a session is made of moves, by induction on the operations. -/
theorem sessionHistory_moves (keystream : Keystream) (ops : List SessionOp)
    : MoveRun (sessionHistory keystream ops)
        ((trackedMachine keystream).run {} ops).session.contexts
        ((trackedMachine keystream).run {} ops).ledger := by
  have extend (events : List SessionEvent) (tracked : TrackedSession) (op : SessionOp)
      (holds
        : tracked.session.contexts.WellFormed
          ∧ MoveRun events tracked.session.contexts tracked.ledger)
      : (tracked.perform keystream op).1.session.contexts.WellFormed
        ∧ MoveRun (events ++ [(tracked.perform keystream op).2])
          (tracked.perform keystream op).1.session.contexts
          (tracked.perform keystream op).1.ledger := by
    refine ⟨?_, .snoc holds.2 holds.1 (tracked.perform_moves keystream op holds.1)⟩
    rw [tracked.perform_session]
    exact LockSession.perform_wellFormed keystream tracked.session op holds.1
  have fresh
      : ({} : TrackedSession).session.contexts.WellFormed
        ∧ MoveRun [] ({} : TrackedSession).session.contexts ({} : TrackedSession).ledger :=
    ⟨LockSession.wellFormed_new, .new⟩
  have both := (trackedMachine keystream).history_invariant
    (fun events tracked =>
      tracked.session.contexts.WellFormed
      ∧ MoveRun events tracked.session.contexts tracked.ledger)
    fresh extend ops
  exact both.2

/-- An event of a history was observed on a move from a state that the events before it
lead to.
-/
theorem sessionHistory_split_at {keystream : Keystream} {ops : List SessionOp}
    {before after : List SessionEvent} {event : SessionEvent}
    (split : sessionHistory keystream ops = before ++ event :: after)
    : ∃ held ledger later next,
        MoveRun before held ledger
        ∧ held.WellFormed
        ∧ Moves held ledger event later next := by
  obtain ⟨first, op, second, rfl, rfl, rfl, _⟩ :=
    (trackedMachine keystream).history_split_at split
  have wf := trackedMachine_run_wellFormed keystream first
  exact ⟨_, _, _, _, sessionHistory_moves keystream first, wf,
    TrackedSession.perform_moves keystream _ op wf⟩

-----------------------------------------------------------------------------------------
-- A short exchange to instantiate the laws at
-----------------------------------------------------------------------------------------

/-- A lock commits the first generation; an unlock under it arrives after the second one was
requested.
-/
def lateUnlockOps : List SessionOp :=
  [.frame constantEnv (ivRequest 0xC6),
    .frame constantEnv ([0x57, 0xC6, 0x00, 0x00] ++ frameLock),
    .frame constantEnv (ivRequest 0xC6),
    .frame constantEnv ([0x57, 0xC6, 0x00, 0x00] ++ pinUnlock)]

/-- The committing lock of the exchange. -/
def firstLock : DecryptedFrame where
  generation := 0
  header := ⟨0xC6, 0x00, 0x00⟩
  iv := Vector.replicate 16 0
  opened := ⟨true, false, false, frameLock, frameLock, false⟩

/-- The late unlock of the exchange. -/
def lateUnlock : DecryptedFrame where
  generation := 0
  header := ⟨0xC6, 0x00, 0x00⟩
  iv := Vector.replicate 16 0
  opened := ⟨false, true, false, pinUnlock, pinUnlock, false⟩

/-- The redraw gives up on the stuck generator, and the bit flip keeps the two IVs apart. -/
theorem lateUnlockOps_history
    : sessionHistory clearStream lateUnlockOps
      = [.drew 0 0xC6 (Vector.replicate 16 0), .accepted firstLock,
          .drew 1 0xC6 ((Vector.replicate 16 0).setIfInBounds 1 1), .accepted lateUnlock] := by
  decide +kernel

end KeypadBridge
