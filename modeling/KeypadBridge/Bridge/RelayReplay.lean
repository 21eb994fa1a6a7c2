import KeypadBridge.Bridge.RelaySlot
import KeypadBridge.Session.Offers
import KeypadBridge.Session.ReplayWindow

/-! Captured frames at the relay. The session filters repeated LOCK and UNLOCK frames, and the
bridge passes UNKNOWN payloads on to the lock as well, so that a captured UNKNOWN frame is
relayed again and again.
-/

namespace KeypadBridge
open KeypadBridge.Foundation
open LockSession (OpenedFrame Opens FrameStep isIvRequest)

-----------------------------------------------------------------------------------------
-- The component with the generations of its contexts
-----------------------------------------------------------------------------------------

/-- The component with the ledger of its session's generations, which go on over restarts. -/
structure TrackedStation where
  station : Station
  ledger : Ledger := {}

namespace TrackedStation

def session (tracked : TrackedStation) : TrackedSession where
  session := tracked.station.device.bridge.session
  ledger := tracked.ledger

/-- What one operation does to the contexts of the session. -/
def observe (keystream : Keystream) (tracked : TrackedStation) : StationOp → SessionEvent × Ledger
  | .loop (.drained event env) =>
      if tracked.station.device.failed then (.ignored, tracked.ledger)
      else
        match event with
        | .rx frame =>
            let (after, event) :=
              tracked.session.perform keystream
                (.frame (tracked.station.device.rxEnv env).toFrameEnv frame)
            (event, after.ledger)
        | _ => (.transportReset, tracked.ledger)
  | .reset env =>
      (if env.keyImport.isSome then .resetForget else .ignored, tracked.ledger)
  | .reboot _ => (.resetForget, tracked.ledger)
  | _ => (.ignored, tracked.ledger)

def perform (keystream : Keystream) (tracked : TrackedStation) (op : StationOp)
    : TrackedStation × SessionEvent :=
  let (event, ledger) := tracked.observe keystream op
  (⟨(tracked.station.perform keystream op).1, ledger⟩, event)

end TrackedStation

def trackedStations (keystream : Keystream) : Machine TrackedStation StationOp SessionEvent where
  step := TrackedStation.perform keystream

/-- The component and the ledger after a run from the first start. -/
def TrackedStation.after (keystream : Keystream) (config : DeviceConfig)
    (preferences : Preferences) (boot : BootEnv) (ops : List StationOp)
    : TrackedStation :=
  (trackedStations keystream).run ⟨.booted config preferences boot, {}⟩ ops

/-- The ledger is beside the component, never in its way. -/
theorem TrackedStation.after_station (keystream : Keystream) (config : DeviceConfig)
    (preferences : Preferences) (boot : BootEnv) (ops : List StationOp)
    : (after keystream config preferences boot ops).station
      = Station.after keystream config preferences boot ops := by
  have projected := (trackedStations keystream).run_project (stationMachine keystream)
    TrackedStation.station id (fun _ _ => rfl) ⟨.booted config preferences boot, {}⟩ ops
  rwa [List.map_id] at projected

-----------------------------------------------------------------------------------------
-- Moves of the contexts
-----------------------------------------------------------------------------------------

/-- A started session holds nothing. -/
theorem Device.setup_contexts (config : DeviceConfig) (preferences : Preferences) (env : BootEnv)
    : (setup config preferences env).1.bridge.session.contexts = .blank 0 :=
  (setup_keeps config preferences env).contexts

namespace TrackedStation

variable {keystream : Keystream} {tracked : TrackedStation}

def contexts (tracked : TrackedStation) : Contexts :=
  tracked.station.device.bridge.session.contexts

/-- An operation that leaves the session alone makes no move. -/
theorem moves_ignored {op : StationOp}
    (same
      : (tracked.station.perform keystream op).1.device.bridge.session
        = tracked.station.device.bridge.session)
    (ignored : tracked.observe keystream op = (.ignored, tracked.ledger))
    : Moves tracked.contexts tracked.ledger (tracked.perform keystream op).2
        (tracked.perform keystream op).1.contexts
        (tracked.perform keystream op).1.ledger := by
  simp only [perform, ignored, contexts, same]
  exact .ignored

/-- On a component that loops a drained frame is an operation of the session. -/
theorem observe_frame (keystream : Keystream) (frame : Bytes) (env : RxEnv)
    (working : tracked.station.device.failed = false)
    : tracked.observe keystream (.loop (.drained (.rx frame) env))
      = ((tracked.session.perform keystream
            (.frame (tracked.station.device.rxEnv env).toFrameEnv frame)).2,
          (tracked.session.perform keystream
            (.frame (tracked.station.device.rxEnv env).toFrameEnv frame)).1.ledger) := by
  simp [observe, working]

/-- A drained frame makes the move of the session. -/
theorem moves_frame (links : tracked.station.device.LinkInvariant) (keystream : Keystream)
    (frame : Bytes) (env : RxEnv) (working : tracked.station.device.failed = false)
    : let op := StationOp.loop (.drained (.rx frame) env)
      Moves tracked.contexts tracked.ledger (tracked.perform keystream op).2
        (tracked.perform keystream op).1.contexts
        (tracked.perform keystream op).1.ledger := by
  intro op
  have moves :=
    tracked.session.frame_moves keystream (tracked.station.device.rxEnv env).toFrameEnv frame
      links.session
  have session := (SwitchbotKeypadBridge.onRxFrame_spec keystream
    (tracked.station.device.rxEnv env) tracked.station.device.bridge frame).1
  have after
      : (tracked.perform keystream op).1.contexts
        = (tracked.session.perform keystream
            (.frame (tracked.station.device.rxEnv env).toFrameEnv frame)).1.session.contexts := by
    simp only [contexts, perform, op, Station.perform, Station.loops_drained, working,
      Bool.not_false, if_true, Device.performLoop, Device.drainEvent,
      SwitchbotKeypadBridge.drainEvent, session]
    rfl
  rw [after]
  simp only [perform, op, observe_frame keystream frame env working]
  exact moves

/-- Every operation makes one of the moves. -/
theorem perform_moves (links : tracked.station.device.LinkInvariant) (keystream : Keystream)
    (op : StationOp)
    : Moves tracked.contexts tracked.ledger (tracked.perform keystream op).2
        (tracked.perform keystream op).1.contexts
        (tracked.perform keystream op).1.ledger := by
  cases op with
  | loop op =>
      cases drains : (StationOp.loop op).drains with
      | false =>
          refine moves_ignored ?_ ?_
          · simp only [Station.perform]
            split
            · exact congrArg ReceiveState.session
                (tracked.station.device.performLoop_receiveState keystream drains)
            · rfl
          · cases op with
            | drained => cases drains
            | _ => rfl
      | true =>
          cases op with
          | drained event env =>
              cases working : tracked.station.device.failed with
              | true =>
                  refine moves_ignored ?_ ?_
                  · simp [Station.perform, Station.loops_drained, working]
                  · simp [observe, working]
              | false =>
                  cases event with
                  | connect | disconnect =>
                      simp only [perform, observe, working, Station.perform,
                        Station.loops_drained, contexts, Bool.not_false, if_true]
                      exact .transportReset
                  | rx frame => exact moves_frame links keystream frame env working
          | _ => cases drains
  | wizard => exact moves_ignored rfl rfl
  | relayDone => exact moves_ignored rfl rfl
  | advert adv =>
      refine moves_ignored ?_ rfl
      simp only [Station.perform]
      split <;> rfl
  | scanCallback =>
      exact moves_ignored
        (congrArg ReceiveState.session
          (tracked.station.device.stepScanCallback_receiveState _)) rfl
  | reset env =>
      have session := congrArg ReceiveState.session
        (tracked.station.device.resetPairing_receiveState env)
      cases keyImport : env.keyImport with
      | none =>
          rw [keyImport] at session
          exact moves_ignored session (by simp [observe, keyImport])
      | some id =>
          rw [keyImport] at session
          have blank : (tracked.perform keystream (.reset env)).1.contexts = .blank 0 :=
            congrArg LockSession.contexts session
          rw [blank]
          simp only [perform, observe, keyImport, Option.isSome_some, if_true]
          exact .resetForget
  | reboot env =>
      have blank : (tracked.perform keystream (.reboot env)).1.contexts = .blank 0 :=
        Device.setup_contexts _ _ env
      rw [blank]
      exact .resetForget

-----------------------------------------------------------------------------------------
-- Accepted frames
-----------------------------------------------------------------------------------------

end TrackedStation

/-- An accepted frame came under the generation and the IV of a context in use. -/
theorem Moves.accepted_context {held after : Contexts} {ledger later : Ledger}
    {frame : DecryptedFrame} (moves : Moves held ledger (.accepted frame) after later)
    : (held.context frame.opened.ref).valid = true
      ∧ frame.generation = ledger.generation frame.opened.ref
      ∧ frame.iv = (held.context frame.opened.ref).iv := by
  cases moves with
  | accepted _ inUse generation iv => exact ⟨inUse, generation, iv⟩

/-- An accepted frame was opened, and the session returned it as a command. -/
theorem TrackedSession.accepted_opens {keystream : Keystream} {tracked : TrackedSession}
    {env : FrameEnv} {bytes : Bytes} {decrypted : DecryptedFrame}
    (observed : (tracked.perform keystream (.frame env bytes)).2 = .accepted decrypted)
    : ∃ opened,
        Opens keystream env tracked.session bytes opened
        ∧ decrypted = tracked.decrypted bytes opened
        ∧ (tracked.session.processFrame keystream env bytes).action = .command := by
  simp only [perform, observe] at observed
  split at observed
  · split at observed <;> cases observed
  · split at observed
    · cases observed
    · rename_i opened found
      split at observed
      · rename_i accepted
        refine ⟨opened, ?_, (SessionEvent.accepted.inj observed).symm, accepted⟩
        cases result : tracked.session.openFrame keystream env bytes with
        | mk after option =>
            rw [result] at found
            dsimp only at found
            rw [found] at result
            exact (LockSession.openFrame_eq_some result).1
      · cases observed

namespace TrackedStation

variable {keystream : Keystream} {tracked : TrackedStation}

/-- What is known of an accepted frame: it was drained on a component that loops, the session
opened it under the shared key, and returned it as a command.
-/
structure Accepts (keystream : Keystream) (tracked : TrackedStation) (op : StationOp)
    (decrypted : DecryptedFrame)
    : Prop where
  working : tracked.station.device.failed = false
  drained
    : ∃ frame env opened,
        op = .loop (.drained (.rx frame) env)
        ∧ Opens keystream (tracked.station.device.rxEnv env).toFrameEnv
            tracked.station.device.bridge.session frame opened
        ∧ decrypted = tracked.session.decrypted frame opened
        ∧ (tracked.station.device.bridge.session.processFrame keystream
            (tracked.station.device.rxEnv env).toFrameEnv frame).action = .command
  handle : tracked.station.device.aesKeyHandle ≠ psaKeyIdNull
  plaintext
    : decrypted.opened.plaintext
      = ctrXor keystream tracked.station.device.bridge.sharedKey decrypted.iv
          decrypted.ciphertext

theorem accepts (links : tracked.station.device.LinkInvariant) {op : StationOp}
    {decrypted : DecryptedFrame}
    (observed : (tracked.perform keystream op).2 = .accepted decrypted)
    : Accepts keystream tracked op decrypted := by
  simp only [perform] at observed
  unfold observe at observed
  split at observed
  · rename_i event env
    split at observed
    · cases observed
    rename_i working
    split at observed
    · rename_i frame
      obtain ⟨opened, opens, same, command⟩ := TrackedSession.accepted_opens observed
      obtain ⟨key, works, plaintext⟩ := aesCtrXcrypt_eq_some keystream opens.decrypted
      -- A key that PSA Crypto holds for the session is the shared key.
      have coherent := links.core.key
      have handle : tracked.station.device.aesKeyHandle ≠ psaKeyIdNull := by
        intro null
        exact absurd (works.stored.symm.trans (coherent.unusable null)) (by simp)
      obtain ⟨named, usable⟩ := coherent.usable handle
      have isShared : key = tracked.station.device.bridge.sharedKey := by
        refine Option.some.inj (works.stored.symm.trans ?_)
        exact (congrArg tracked.station.device.psaKeys named).trans usable
      refine ⟨by simpa using working, ⟨frame, env, opened, rfl, opens, same, command⟩, handle, ?_⟩
      rw [same, ← isShared]
      exact plaintext
    · cases observed
  · split at observed <;> cases observed
  · cases observed
  · cases observed

/-- An operation that leaves a usable key has kept the key, or the session starts over. -/
theorem perform_key (links : tracked.station.device.LinkInvariant) (keystream : Keystream)
    (op : StationOp)
    : let after := (tracked.station.perform keystream op).1.device
      (∀ ref, (after.bridge.session.contexts.context ref).valid = false)
      ∨ after.aesKeyHandle = psaKeyIdNull
      ∨ after.aesKeyHandle = tracked.station.device.aesKeyHandle
        ∧ after.bridge.sharedKey = tracked.station.device.bridge.sharedKey := by
  have blank (ref : ContextRef) : ((Contexts.blank 0).context ref).valid = false := by
    cases ref <;> rfl
  have kept {after : Device} (same : after.receiveState = tracked.station.device.receiveState)
      : after.aesKeyHandle = tracked.station.device.aesKeyHandle
        ∧ after.bridge.sharedKey = tracked.station.device.bridge.sharedKey :=
    ⟨congrArg ReceiveState.aesKeyHandle same, congrArg ReceiveState.sharedKey same⟩
  cases op with
  | loop op =>
      refine .inr (.inr ?_)
      simp only [Station.perform]
      split
      · cases drains : (StationOp.loop op).drains with
        | false => exact kept (tracked.station.device.performLoop_receiveState keystream drains)
        | true =>
            cases op with
            | drained event env =>
                have core :=
                  tracked.station.device.drainEvent_linkCore keystream links.session event env
                exact ⟨congrArg LinkCore.aesKeyHandle core, congrArg LinkCore.sharedKey core⟩
            | _ => cases drains
      · exact ⟨rfl, rfl⟩
  | wizard => exact .inr (.inr ⟨rfl, rfl⟩)
  | relayDone => exact .inr (.inr ⟨rfl, rfl⟩)
  | advert adv =>
      refine .inr (.inr ?_)
      simp only [Station.perform]
      split <;> exact ⟨rfl, rfl⟩
  | scanCallback =>
      exact .inr (.inr (kept (tracked.station.device.stepScanCallback_receiveState _)))
  | reset env =>
      have after := tracked.station.device.resetPairing_receiveState env
      cases keyImport : env.keyImport with
      | none =>
          rw [keyImport] at after
          exact .inr (.inl (congrArg ReceiveState.aesKeyHandle after))
      | some id =>
          rw [keyImport] at after
          refine .inl fun ref => ?_
          have contexts
              : (tracked.station.device.resetPairing env).1.bridge.session.contexts
                = .blank 0 :=
            congrArg (fun state => state.session.contexts) after
          simp only [Station.perform, contexts, blank]
  | reboot env =>
      refine .inl fun ref => ?_
      have contexts
          : (Station.perform keystream tracked.station
              (.reboot env)).1.device.bridge.session.contexts = .blank 0 :=
        Device.setup_contexts _ _ env
      simp only [contexts, blank]

/-- What is known of the frames accepted under the generations in use: they came under the IV
of their context, and as long as the key is usable it decrypts them to what they were
accepted as.
-/
structure Known (keystream : Keystream) (events : List SessionEvent) (tracked : TrackedStation)
    : Prop where
  links : tracked.station.device.LinkInvariant
  run : MoveRun events tracked.contexts tracked.ledger
  kept
    : ∀ ref frame,
        (tracked.contexts.context ref).valid = true
        → .accepted frame ∈ events
        → frame.generation = tracked.ledger.generation ref
        → frame.iv = (tracked.contexts.context ref).iv
          ∧ (tracked.station.device.aesKeyHandle ≠ psaKeyIdNull
            → frame.opened.plaintext
              = ctrXor keystream tracked.station.device.bridge.sharedKey frame.iv
                  frame.ciphertext)

theorem booted_known (keystream : Keystream) (config : DeviceConfig)
    (preferences : Preferences) (boot : BootEnv)
    : Known keystream [] ⟨.booted config preferences boot, {}⟩ where
  links := Device.setup_linkInvariant config preferences boot
  run := by
    have blank
        : (TrackedStation.mk (.booted config preferences boot) {}).contexts = .blank 0 :=
      Device.setup_contexts config preferences boot
    rw [blank]
    exact .new
  kept := by simp

/-- Every operation keeps what is known of the accepted frames. -/
theorem Known.perform {events : List SessionEvent} (known : Known keystream events tracked)
    (op : StationOp)
    : Known keystream (events ++ [(tracked.perform keystream op).2])
        (tracked.perform keystream op).1 := by
  obtain ⟨links, run, kept⟩ := known
  have moves := perform_moves links keystream op
  refine ⟨Station.perform_linkInvariant links keystream op, .snoc run links.session moves, ?_⟩
  intro ref frame valid member generation
  have key := perform_key links keystream op
  rcases moves.carried valid with ⟨source, carried, _⟩ | ⟨rfl, drew, number, _⟩
  · have earlier : frame.generation = tracked.ledger.generation source :=
      generation.trans carried.generation
    have known
        : frame.iv = (tracked.contexts.context source).iv
          ∧ (tracked.station.device.aesKeyHandle ≠ psaKeyIdNull
            → frame.opened.plaintext
              = ctrXor keystream tracked.station.device.bridge.sharedKey frame.iv
                  frame.ciphertext) := by
      rcases List.mem_append.mp member with before | now
      · exact kept source frame carried.valid before earlier
      · have observed := (List.mem_singleton.mp now).symm
        have plaintext := (accepts links observed).plaintext
        rw [observed] at moves
        obtain ⟨inUse, bound, iv⟩ := moves.accepted_context
        have same : frame.opened.ref = source := by
          by_contra different
          exact run.generation_ne links.session inUse carried.valid different
            (bound.symm.trans earlier)
        exact ⟨same ▸ iv, fun _ => plaintext⟩
    refine ⟨known.1.trans carried.iv.symm, fun usable => ?_⟩
    rcases key with blank | null | ⟨handle, shared⟩
    · exact absurd ((blank ref).symm.trans valid) (by decide)
    · exact absurd null usable
    · have before := known.2 (handle ▸ usable)
      rw [before]
      exact congrArg (ctrXor keystream · frame.iv frame.ciphertext) shared.symm
  · -- A generation that was just drawn has no accepted frames yet.
    exfalso
    rcases List.mem_append.mp member with before | now
    · have drawn := run.accepted_lt_drawn before
      have fresh : frame.generation = tracked.ledger.drawn := generation.trans number
      omega
    · rw [← List.mem_singleton.mp now] at drew
      cases drew

/-- What is known after every run. -/
theorem after_known (keystream : Keystream) (config : DeviceConfig)
    (preferences : Preferences) (boot : BootEnv) (ops : List StationOp)
    : Known keystream
        ((trackedStations keystream).history ⟨.booted config preferences boot, {}⟩ ops)
        (after keystream config preferences boot ops) :=
  (trackedStations keystream).history_invariant (Known keystream)
    (booted_known keystream config preferences boot)
    (fun _ _ op known => known.perform op) ops

end TrackedStation

-----------------------------------------------------------------------------------------
-- Repeated frames
-----------------------------------------------------------------------------------------

namespace LockSession

/-- An unknown command is accepted under the newest generation only, which it leaves active. -/
theorem FrameStep.commits_unknown {held after : Contexts} {opened : OpenedFrame}
    {action : Action} (step : FrameStep held opened after action)
    (accepted : action = .command) (unknown : opened.command.type = .unknown)
    (valid : (held.context opened.ref).valid = true)
    : (opened.ref = .pending ∨ opened.ref = .active)
      ∧ after.pending.valid = false
      ∧ after.active.valid = true
      ∧ after.active.iv = (held.context opened.ref).iv := by
  have notPoll : opened.isPoll = false := by simp [OpenedFrame.isPoll, unknown]
  have notFast : opened.isFastUnlock = false := by
    simp [OpenedFrame.isFastUnlock, isFastUnlockAction, unknown]
  cases step with
  | promoted bound =>
      rw [bound] at valid ⊢
      exact ⟨.inl rfl, rfl, by simpa [Contexts.context] using valid, by simp [Contexts.context]⟩
  | current bound noOffer =>
      rw [bound] at valid ⊢
      exact ⟨.inr rfl, noOffer, by simpa [Contexts.context] using valid,
        by simp [Contexts.context]⟩
  | currentReplay | predecessorRefused | retiredRefused => cases accepted
  | predecessorPoll _ _ poll => simp [notPoll] at poll
  | lateUnlock _ _ fast => simp [notFast] at fast
  | retiredAccepted _ admissible => simp [notPoll, notFast] at admissible

/-- The session accepts a frame with an unknown command as often as it is sent. -/
theorem unknown_repeats {keystream : Keystream} {env : FrameEnv} {session : LockSession}
    {frame : Bytes} {opened : OpenedFrame} (wf : session.contexts.WellFormed)
    (opens : Opens keystream env session frame opened)
    (accepted : (session.processFrame keystream env frame).action = .command)
    (unknown : opened.command.type = .unknown)
    : let after := (session.processFrame keystream env frame).session
      (opened.ref = .pending ∨ opened.ref = .active)
      ∧ ∃ again,
          Opens keystream env after frame again
          ∧ again.ref = .active
          ∧ again.plaintext = opened.plaintext
          ∧ (after.processFrame keystream env frame).action = .command := by
  have processed := processFrame_processed keystream env wf frame
  generalize session.processFrame keystream env frame = outcome at processed accepted
  cases processed with
  | request => cases accepted
  | ignored => cases accepted
  | @opened found after action notRequest finds step aesKey _ _ _ =>
      obtain rfl := finds.unique opens
      have matched := opens.bound_matches
      have valid := (CryptoContext.seqMatches_iff.mp matched).1
      rw [← contexts_context] at valid
      obtain ⟨bound, noOffer, active, iv⟩ := step.commits_unknown accepted unknown valid
      have afterWf := wf.frame valid step
      obtain ⟨key, works, plaintext⟩ := aesCtrXcrypt_eq_some keystream opens.decrypted
      have afterWorks : env.psa.Works after.aesKey key := aesKey ▸ works
      have sameIv : (after.context .active).iv = (session.context found.ref).iv := by
        rw [← contexts_context session]
        exact iv
      have inUse : (after.context .active).valid = true := active
      have slotId : after.slotId = session.slotId := step.slotId_eq
      have wire
          : frame = wireFrame after.slotId (after.context .active).iv found.ciphertext := by
        rw [slotId, sameIv]
        exact opens.frame_eq
      have handles
          : after.Handles keystream key .active found.ciphertext
              (after.processFrame keystream env frame) := by
        rw [wire] at notRequest ⊢
        exact processFrame_wireFrame afterWf inUse afterWorks opens.nonempty opens.fits notRequest
      have again
          : Opens keystream env after frame
              (after.boundFrame keystream key .active found.ciphertext) := by
        rw [wire]
        exact opens_wireFrame keystream afterWf inUse afterWorks opens.nonempty opens.fits
      have text
          : (after.boundFrame keystream key .active found.ciphertext).plaintext
            = found.plaintext := by
        simp only [boundFrame, sameIv]
        exact plaintext.symm
      refine ⟨bound, _, again, boundFrame_ref _ _ _, text, ?_⟩
      refine handles.step.accepts_newest (.inr ⟨boundFrame_ref _ _ _, noOffer⟩) ?_
      have command := congrArg decodeLockCommand text
      simp only [OpenedFrame.replays, OpenedFrame.command, command] at unknown ⊢
      simp [DecodedCommand.isAction, unknown]

end LockSession

-----------------------------------------------------------------------------------------
-- Calls of the relay
-----------------------------------------------------------------------------------------

/-- The converse of `accepted_opens`, with the ledger. -/
theorem TrackedSession.perform_accepted {keystream : Keystream} {tracked : TrackedSession}
    {env : FrameEnv} {bytes : Bytes} {opened : OpenedFrame}
    (opens : Opens keystream env tracked.session bytes opened)
    (accepted : (tracked.session.processFrame keystream env bytes).action = .command)
    : (tracked.perform keystream (.frame env bytes)).2
        = .accepted (tracked.decrypted bytes opened)
      ∧ (tracked.perform keystream (.frame env bytes)).1.ledger
        = tracked.ledger.afterAccept opened.ref := by
  have notRequest : ¬ Action.command = .sendIv := by decide
  simp only [perform, observe, accepted, notRequest, if_false, opens.openFrame_eq, if_true,
    and_self]

def SessionEvent.isAccepted : SessionEvent → Bool
  | .accepted _ => true
  | _ => false

/-- The actions accepted under one generation are some of the accepted frames. -/
theorem acceptedActions_length_le (events : List SessionEvent) (generation : Nat)
    : (acceptedActions events generation).length ≤ events.countP SessionEvent.isAccepted := by
  induction events with
  | nil => exact Nat.le_refl 0
  | cons event rest ih =>
      rw [← List.singleton_append, acceptedActions_append, List.length_append,
        List.countP_append, acceptedActions_singleton]
      refine Nat.add_le_add ?_ ih
      cases event with
      | accepted frame =>
          simp only [SessionEvent.actionUnder]
          split <;> simp [SessionEvent.isAccepted]
      | _ => simp [SessionEvent.actionUnder]

namespace TrackedStation

variable {keystream : Keystream} {tracked : TrackedStation}

/-- The drained frame is accepted as `decrypted`, and `handle_command_` calls
`relay_to_lock_async_` for it.
-/
structure Relays (keystream : Keystream) (tracked : TrackedStation) (frame : Bytes)
    (env : RxEnv) (decrypted : DecryptedFrame)
    : Prop where
  accepted
    : (tracked.perform keystream (.loop (.drained (.rx frame) env))).2 = .accepted decrypted
  calls : tracked.station.device.bridge.callsRelay decrypted.command = true

/-- The frame, relayed as `first`, is not relayed again under its generation before eight other
frames were accepted.
-/
def RelayedOnce (keystream : Keystream) (tracked : TrackedStation) (frame : Bytes) (env : RxEnv)
    (first : DecryptedFrame)
    : Prop :=
  let relayed := (tracked.perform keystream (.loop (.drained (.rx frame) env))).1
  ∀ (between : List StationOp) (again : RxEnv) (second : DecryptedFrame),
    second.generation = first.generation
    → ((trackedStations keystream).history relayed between).countP SessionEvent.isAccepted
      < replayHistorySize
    → ¬ Relays keystream ((trackedStations keystream).run relayed between) frame again second

/-- What a drained frame leaves of the component that decides on the same frame once more. -/
theorem perform_frame (links : tracked.station.device.LinkInvariant) (keystream : Keystream)
    (frame : Bytes) (env : RxEnv) (working : tracked.station.device.failed = false)
    : let before := tracked.station.device
      let after := (tracked.perform keystream (.loop (.drained (.rx frame) env))).1.station.device
      after.failed = false
      ∧ after.bridge.session
        = (before.bridge.session.processFrame keystream (before.rxEnv env).toFrameEnv
            frame).session
      ∧ after.rxEnv env = before.rxEnv env
      ∧ after.bridge.lockLinked = before.bridge.lockLinked := by
  have core :=
    tracked.station.device.drainEvent_linkCore keystream links.session (.rx frame) env
  have session := (SwitchbotKeypadBridge.onRxFrame_spec keystream
    (tracked.station.device.rxEnv env) tracked.station.device.bridge frame).1
  simp only [perform, Station.perform, Station.loops_drained, working, Bool.not_false, if_true,
    Device.performLoop]
  exact ⟨working, session, rfl, congrArg LinkCore.lockLinked core⟩

/-- A relayed frame that decodes to neither `LOCK` nor `UNLOCK` is relayed again at once. -/
theorem unknown_relays_again (links : tracked.station.device.LinkInvariant) {frame : Bytes}
    {env : RxEnv} {first : DecryptedFrame} (relays : Relays keystream tracked frame env first)
    (notAction : first.isAction = false)
    : ∃ second,
        second.generation = first.generation
        ∧ Relays keystream
            (tracked.perform keystream (.loop (.drained (.rx frame) env))).1 frame env
            second := by
  obtain ⟨accepted, calls⟩ := relays
  obtain ⟨working, ⟨_, _, opened, op, opens, same, command⟩, _, _⟩ := accepts links accepted
  obtain ⟨rfl, rfl⟩ : frame = _ ∧ env = _ := by simpa using op
  subst same
  have unknown : opened.command.type = .unknown := by
    simp only [SwitchbotKeypadBridge.callsRelay, Bool.and_eq_true] at calls
    have passed := calls.2
    simp only [DecryptedFrame.isAction, DecryptedFrame.command, TrackedSession.decrypted,
      DecodedCommand.isAction] at notAction passed ⊢
    cases type : opened.command.type <;> simp_all [CommandType.isRelayed]
  obtain ⟨bound, again, reopens, againActive, text, accepts⟩ :=
    LockSession.unknown_repeats links.session opens command unknown
  obtain ⟨works, session, sameEnv, linked⟩ := perform_frame links keystream frame env working
  have ledger
      : (tracked.perform keystream (.loop (.drained (.rx frame) env))).1.ledger
        = tracked.ledger.afterAccept opened.ref := by
    simp only [perform, observe_frame keystream frame env working]
    exact (TrackedSession.perform_accepted opens command).2
  generalize (tracked.perform keystream (.loop (.drained (.rx frame) env))).1 = relayed
    at works session sameEnv linked ledger
  rw [← session, ← sameEnv] at reopens accepts
  refine ⟨relayed.session.decrypted frame again, ?_, ?_, ?_⟩
  · simp only [TrackedSession.decrypted, againActive, TrackedStation.session, ledger]
    rcases bound with pending | active
    · rw [pending]; rfl
    · rw [active]; rfl
  · simp only [perform, observe_frame keystream frame env works]
    exact (TrackedSession.perform_accepted reopens accepts).1
  · have sameCommand : again.command = opened.command := congrArg decodeLockCommand text
    simp only [SwitchbotKeypadBridge.callsRelay, linked] at calls ⊢
    simpa [DecryptedFrame.command, TrackedSession.decrypted, sameCommand] using calls

/-- While a generation lasts, the same frame decrypts to the same command. -/
theorem Known.same_command {events : List SessionEvent} (known : Known keystream events tracked)
    {frame : Bytes} {again : RxEnv} {first second : DecryptedFrame}
    (member : .accepted first ∈ events) (ciphertext : first.ciphertext = frame.drop headerLen)
    (sameGeneration : second.generation = first.generation)
    (accepted
      : (tracked.perform keystream (.loop (.drained (.rx frame) again))).2 = .accepted second)
    : first.ciphertext = second.ciphertext ∧ first.command = second.command := by
  have moves :=
    perform_moves known.links keystream (.loop (.drained (.rx frame) again))
  rw [accepted] at moves
  obtain ⟨valid, generation, iv⟩ := moves.accepted_context
  obtain ⟨_, ⟨_, _, opened, op, opens, same, _⟩, handle, plaintext⟩ :=
    accepts known.links accepted
  obtain ⟨rfl, rfl⟩ : frame = _ ∧ again = _ := by simpa using op
  have sameCiphertext : first.ciphertext = second.ciphertext := by
    rw [ciphertext, same]
    exact opens.ciphertext.symm
  obtain ⟨sameIv, decrypts⟩ :=
    known.kept second.opened.ref first valid member (sameGeneration.symm.trans generation)
  refine ⟨sameCiphertext, congrArg decodeLockCommand ?_⟩
  rw [decrypts handle, plaintext, sameIv, iv, sameCiphertext]

end TrackedStation

/-- A relayed frame is not relayed again, under its generation and before eight other frames
were accepted, exactly when it decodes to `LOCK` or `UNLOCK`.
-/
theorem captured_frame_relayed_once_iff (keystream : Keystream) (config : DeviceConfig)
    (preferences : Preferences) (boot : BootEnv) (ops : List StationOp) (frame : Bytes)
    (env : RxEnv) (first : DecryptedFrame)
    (relays
      : let before := TrackedStation.after keystream config preferences boot ops
        before.Relays keystream frame env first)
    : let before := TrackedStation.after keystream config preferences boot ops
      before.RelayedOnce keystream frame env first ↔ first.isAction = true := by
  intro before
  have known := TrackedStation.after_known keystream config preferences boot ops
  obtain ⟨_, ⟨_, _, opened, op, opens, same, _⟩, _, _⟩ :=
    TrackedStation.accepts known.links relays.accepted
  constructor
  · intro once
    by_contra notAction
    obtain ⟨second, sameGeneration, again⟩ :=
      TrackedStation.unknown_relays_again known.links relays (by simpa using notAction)
    exact once [] env second sameGeneration (Nat.zero_lt_succ _) again
  · intro action between again second sameGeneration few twice
    let relayed := (before.perform keystream (.loop (.drained (.rx frame) env))).1
    have later
        : TrackedStation.Known keystream
            ((trackedStations keystream).history ⟨.booted config preferences boot, {}⟩ ops
              ++ .accepted first :: (trackedStations keystream).history relayed between)
            ((trackedStations keystream).run relayed between) := by
      have whole :=
        TrackedStation.after_known keystream config preferences boot
          (ops ++ .loop (.drained (.rx frame) env) :: between)
      rw [Machine.history_append, TrackedStation.after, Machine.run_append] at whole
      rw [← relays.accepted]
      exact whole
    obtain ⟨rfl, rfl⟩ : frame = _ ∧ env = _ := by simpa using op
    have ciphertext : first.ciphertext = frame.drop headerLen := by
      rw [same]
      exact opens.ciphertext
    obtain ⟨sameCiphertext, sameCommand⟩ :=
      later.same_command (by simp) ciphertext sameGeneration twice.accepted
    have secondAction : second.isAction = true := by
      rw [← action]
      exact congrArg DecodedCommand.isAction sameCommand.symm
    have moves := TrackedStation.perform_moves later.links keystream
      (.loop (.drained (.rx frame) again))
    rw [show (TrackedStation.perform keystream _ _).2 = .accepted second from twice.accepted]
      at moves
    have full := later.run.repeat_outlives_window later.links.session moves action
      secondAction sameGeneration.symm sameCiphertext
    have enough := Nat.le_trans full (acceptedActions_length_le _ _)
    exact absurd enough (Nat.not_le_of_lt few)

/-- A keypad of the Vision family asked the linked component for an IV. -/
def askedOps : List StationOp := linkedOps ++ [askedIn sharedSlotVision]

/-- A plaintext under the first IV, as a Vision keypad sends it. -/
def visionFrame (plaintext : Bytes) : Bytes := [0x57, sharedSlotVision, 0x00, 0x00] ++ plaintext

/-- The frame as it is decrypted, under the offered or the adopted IV. -/
def visionDecrypted (usesPending : Bool) (plaintext : Bytes) : DecryptedFrame where
  generation := 0
  header := ⟨sharedSlotVision, 0x00, 0x00⟩
  iv := Vector.replicate 16 0
  opened := ⟨usesPending, !usesPending, false, plaintext, plaintext, false⟩

/-- A captured lock command is relayed once. -/
theorem captured_frame_relayed_once_lock
    : let before := TrackedStation.after clearStream {} {} firstBoot askedOps
      before.RelayedOnce clearStream (visionFrame frameLock) workingRx
          (visionDecrypted true frameLock)
        ↔ (visionDecrypted true frameLock).isAction = true :=
  captured_frame_relayed_once_iff clearStream {} {} firstBoot askedOps (visionFrame frameLock)
    workingRx (visionDecrypted true frameLock) ⟨by decide +kernel, by decide +kernel⟩

/-- A payload that no branch of the decoder knows. -/
def unknownPayload : Bytes := [0x0F, 0x53]

/-- A captured frame with an unknown payload is relayed twice. -/
theorem captured_unknown_frame_relayed_twice
    : ¬ ∀ (keystream : Keystream) (config : DeviceConfig) (preferences : Preferences)
        (boot : BootEnv) (ops : List StationOp) (frame : Bytes) (env : RxEnv)
        (first : DecryptedFrame),
          let before := TrackedStation.after keystream config preferences boot ops
          before.Relays keystream frame env first
          → before.RelayedOnce keystream frame env first := by
  intro always
  have once :=
    always clearStream {} {} firstBoot askedOps (visionFrame unknownPayload) workingRx
      (visionDecrypted true unknownPayload) ⟨by decide +kernel, by decide +kernel⟩
  exact once [] workingRx (visionDecrypted false unknownPayload) rfl (Nat.zero_lt_succ _)
    ⟨by decide +kernel, by decide +kernel⟩

end KeypadBridge
