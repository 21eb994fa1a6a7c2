import KeypadBridge.Bridge.RelaySlot

/-! Which actions reach the linked lock. The relay runs one task at a time. An action that is
accepted while none is in flight is handed over, in the order of acceptance; one that is
accepted during a relay is answered locally and goes no further.
-/

namespace KeypadBridge
open KeypadBridge.Foundation

/-- An accepted LOCK or UNLOCK, with its plaintext. -/
abbrev RelayedAction := CommandType × Bytes

/-- One step of the component, with the state it started from. -/
abbrev TracedStep := Station × StationOp × StationStep

/-- The action of an outcome, if it accepted one. -/
def acceptedActionOf (outcome : LockSession.FrameOutcome) : Option RelayedAction :=
  if outcome.action = .command && outcome.session.command.isAction then
    some (outcome.session.command.type, outcome.session.plaintextBytes)
  else none

/-- The action that a step accepted, if it accepted one. -/
def StationStep.acceptedAction (step : StationStep) : Option RelayedAction :=
  step.outcome.bind acceptedActionOf

/-- The actions that a step hands to the relay. -/
def StationStep.handedActions (step : StationStep) : List RelayedAction :=
  step.tasks.filterMap fun task =>
    if task.command.isAction then some (task.command.type, task.plaintext) else none

/-- An account of the relay along a run: whether a relay is in flight, the actions accepted
with a lock linked, those of them accepted while no relay was in flight, the actions handed
over, and the last action accepted since the last start.
-/
structure RelayLedger where
  inFlight : Bool := false
  accepted : List RelayedAction := []
  due : List RelayedAction := []
  handed : List RelayedAction := []
  last : Option CommandType := none

namespace RelayLedger

/-- A relay is in flight from the start of its task to its end, or to a restart. -/
def inFlightAfter (inFlight : Bool) (op : StationOp) (step : StationStep) : Bool :=
  match op with
  | .relayDone | .reboot _ => false
  | _ => inFlight || !step.tasks.isEmpty

/-- The last action accepted, which a restart forgets. -/
def lastAfter (last : Option CommandType) (op : StationOp) (step : StationStep)
    : Option CommandType :=
  match op with
  | .reboot _ => none
  | _ => (step.acceptedAction.map Prod.fst).or last

def note (ledger : RelayLedger) : TracedStep → RelayLedger
  | (before, op, step) =>
      let accepted := if before.device.bridge.lockLinked then step.acceptedAction.toList else []
      { inFlight := inFlightAfter ledger.inFlight op step
        accepted := ledger.accepted ++ accepted
        due := ledger.due ++ if ledger.inFlight then [] else accepted
        handed := ledger.handed ++ step.handedActions
        last := lastAfter ledger.last op step }

/-- The account of a run. -/
def of (steps : List TracedStep) : RelayLedger := steps.foldl note {}

@[simp] theorem of_snoc (steps : List TracedStep) (step : TracedStep)
    : of (steps ++ [step]) = (of steps).note step :=
  List.foldl_append ..

end RelayLedger

/-- FreeRTOS has a task for every relay. -/
def StationOp.CreatesTasks : StationOp → Prop
  | .loop (.drained _ env) => env.relayTaskCreated = true
  | _ => True

/-- Every action that is accepted with a lock linked is handed over, once and in order, so that
without a relay in flight the last one handed over is the last one accepted, and the state
names it.
-/
structure MirrorsAll (ledger : RelayLedger) (state : LockState) : Prop where
  handed : ledger.handed = ledger.accepted
  settled
    : ledger.inFlight = false
      → ∀ type payload,
          ledger.accepted.getLast? = some (type, payload)
          → ledger.handed.getLast? = some (type, payload)
            ∧ state = stateAfter (some type)

/-- Every action that is accepted with a lock linked and no relay in flight is handed over,
once and in order, and no other; the state names the last action accepted.
-/
structure MirrorsIdle (ledger : RelayLedger) (state : LockState) : Prop where
  handed : ledger.handed = ledger.due
  state : state = stateAfter ledger.last

-----------------------------------------------------------------------------------------
-- One step
-----------------------------------------------------------------------------------------

namespace Station

variable (keystream : Keystream)

/-- The outcome that a drained frame shows. -/
theorem perform_outcome_drained (station : Station) (event : QueuedEvent) (env : RxEnv)
    : (station.perform keystream (.loop (.drained event env))).2.outcome
      = if station.device.failed then none
        else event.outcome keystream (station.device.rxEnv env) station.device.bridge.session := by
  simp only [perform, loops_drained]
  cases station.device.failed <;> rfl

/-- Every other operation shows none. -/
theorem perform_outcome_undrained (station : Station) {op : StationOp}
    (undrained : op.drains = false)
    : (station.perform keystream op).2.outcome = none := by
  cases op with
  | loop op =>
      simp only [perform]
      split
      · cases op with
        | drained => cases undrained
        | _ => rfl
      · rfl
  | advert adv =>
      simp only [perform]
      split <;> rfl
  | _ => rfl

/-- An operation that drains nothing accepts and hands over nothing. -/
theorem undrained_actions (station : Station) {op : StationOp} (undrained : op.drains = false)
    : (station.perform keystream op).2.acceptedAction = none
      ∧ (station.perform keystream op).2.tasks = [] := by
  constructor
  · simp [StationStep.acceptedAction, station.perform_outcome_undrained keystream undrained]
  · rw [perform_tasks]
    unfold relayOf
    split
    · cases undrained
    · rfl

end Station

/-- An accepted frame left its plaintext behind. -/
theorem LockSession.accepted_plaintext {keystream : Keystream} {env : FrameEnv}
    {session : LockSession} {frame : Bytes} (wf : session.contexts.WellFormed)
    (accepted : (session.processFrame keystream env frame).action = .command)
    : (session.processFrame keystream env frame).session.plaintextSize ≠ 0 := by
  obtain ⟨opened, opens, delivers, _⟩ := processFrame_command wf accepted
  intro empty
  have text := delivers.plaintext
  rw [plaintextBytes, empty] at text
  have length := LockSession.xcrypt_length opens.decrypted
  rw [← text] at length
  exact opens.nonempty (List.length_eq_zero_iff.mp (by simpa [readBack] using length.symm))

namespace SwitchbotKeypadBridge

/-- An accepted action is handed to the relay if a lock is linked and no relay is in flight. -/
theorem relayOf_action {keystream : Keystream} {env : RxEnv} {bridge : SwitchbotKeypadBridge}
    (wf : bridge.session.contexts.WellFormed) (created : env.relayTaskCreated = true)
    (frame : Bytes)
    : ((bridge.relayOf keystream env frame).toList.filterMap fun task =>
        if task.command.isAction then some (task.command.type, task.plaintext) else none)
      = if bridge.lockLinked && !bridge.lockRelayBusy then
          (acceptedActionOf (bridge.session.processFrame keystream env.toFrameEnv frame)).toList
        else [] := by
  have plaintext := @LockSession.accepted_plaintext keystream env.toFrameEnv _ frame wf
  unfold relayOf acceptedActionOf
  dsimp only
  generalize bridge.session.processFrame keystream env.toFrameEnv frame = outcome at plaintext
  by_cases accepted : outcome.action = .command
  · have nonempty := plaintext accepted
    cases type : outcome.session.command.type <;> cases bridge.lockLinked <;>
      cases bridge.lockRelayBusy <;>
      simp [accepted, callsRelay, startsRelay, created, nonempty, type, CommandType.isRelayed,
        DecodedCommand.isAction]
  · simp [accepted]

end SwitchbotKeypadBridge

namespace Device

/-- The state is locked, and no relay is in flight. -/
structure RelayIdle (device : Device) : Prop where
  lockState : device.bridge.lockState = .locked
  free : device.bridge.lockRelayBusy = false

/-- A start begins locked, with no relay in flight. -/
theorem setup_relayIdle (config : DeviceConfig) (preferences : Preferences) (env : BootEnv)
    : (setup config preferences env).1.RelayIdle :=
  have kept := setup_keeps config preferences env
  ⟨kept.lockState, kept.lockRelayBusy⟩

end Device

/-- The account of the relay is that of the steps, and the component agrees with it. -/
structure Station.RelayKnown (steps : List TracedStep) (station : Station) : Prop where
  links : station.device.LinkInvariant
  busy : station.device.bridge.lockRelayBusy = (RelayLedger.of steps).inFlight
  mirrors : MirrorsIdle (RelayLedger.of steps) station.device.bridge.lockState

namespace Station

variable {keystream : Keystream} {steps : List TracedStep} {station : Station}

/-- What an operation that drains nothing leaves of the state and of the busy flag. -/
theorem perform_undrained (station : Station) (keystream : Keystream) {op : StationOp}
    (undrained : op.drains = false)
    : let after := (station.perform keystream op).1.device.bridge
      after.lockState
        = (match op with
          | .reboot _ => .locked
          | _ => station.device.bridge.lockState)
      ∧ after.lockRelayBusy
        = (match op with
          | .relayDone | .reboot _ => false
          | _ => station.device.bridge.lockRelayBusy) := by
  cases op with
  | loop op =>
      simp only [perform]
      split
      · have same := station.device.performLoop_receiveState keystream undrained
        exact ⟨congrArg ReceiveState.lockState same, congrArg ReceiveState.lockRelayBusy same⟩
      · exact ⟨rfl, rfl⟩
  | wizard => exact ⟨rfl, rfl⟩
  | relayDone => exact ⟨rfl, rfl⟩
  | advert adv =>
      simp only [perform]
      split <;> exact ⟨rfl, rfl⟩
  | scanCallback =>
      have same := station.device.stepScanCallback_receiveState station.scanCallback
      exact ⟨congrArg ReceiveState.lockState same, congrArg ReceiveState.lockRelayBusy same⟩
  | reset env =>
      have after := station.device.resetPairing_receiveState env
      exact ⟨congrArg ReceiveState.lockState after, congrArg ReceiveState.lockRelayBusy after⟩
  | reboot env =>
      obtain ⟨lockState, free⟩ :=
        Device.setup_relayIdle station.device.config station.device.preferences env
      exact ⟨lockState, free⟩

/-- An operation that drains nothing keeps the account. -/
theorem RelayKnown.undrained (known : RelayKnown steps station) (keystream : Keystream)
    {op : StationOp} (undrained : op.drains = false)
    : RelayKnown (steps ++ [(station, op, (station.perform keystream op).2)])
        (station.perform keystream op).1 := by
  obtain ⟨links, busy, handed, state⟩ := known
  obtain ⟨nothing, idle⟩ := station.undrained_actions keystream undrained
  obtain ⟨lockState, lockRelayBusy⟩ := station.perform_undrained keystream undrained
  refine ⟨perform_linkInvariant links keystream op, ?_, ?_, ?_⟩
  · rw [lockRelayBusy, RelayLedger.of_snoc]
    cases op <;> simp [RelayLedger.note, RelayLedger.inFlightAfter, idle, busy]
  · simpa [RelayLedger.note, StationStep.handedActions, nothing, idle] using handed
  · rw [lockState, RelayLedger.of_snoc]
    cases op <;> simp [RelayLedger.note, RelayLedger.lastAfter, nothing, state, stateAfter]

/-- What a frame hands over, and what it leaves of the state and of the busy flag. -/
theorem perform_drained (links : station.device.LinkInvariant) (keystream : Keystream)
    (event : QueuedEvent) {env : RxEnv} (created : env.relayTaskCreated = true)
    : let bridge := station.device.bridge
      let step := (station.perform keystream (.loop (.drained event env))).2
      let after := (station.perform keystream (.loop (.drained event env))).1.device.bridge
      step.handedActions
        = (if bridge.lockLinked && !bridge.lockRelayBusy then step.acceptedAction.toList else [])
      ∧ after.lockRelayBusy = (bridge.lockRelayBusy || !step.tasks.isEmpty)
      ∧ after.lockState
        = (match step.acceptedAction with
          | some (type, _) => stateAfter (some type)
          | none => bridge.lockState) := by
  intro bridge step after
  have outcome : step.outcome = _ := station.perform_outcome_drained keystream event env
  have tasks : step.tasks = _ := station.perform_tasks keystream (.loop (.drained event env))
  unfold StationStep.handedActions StationStep.acceptedAction
  rw [outcome, tasks]
  simp only [after, perform, loops_drained]
  cases working : station.device.failed with
  | true => cases event <;> simp [relayOf, working, bridge]
  | false =>
      simp only [Device.performLoop, Device.drainEvent, Bool.not_false, if_true,
        Bool.false_eq_true, if_false]
      cases event with
      | connect | disconnect =>
          simp [relayOf, bridge, QueuedEvent.outcome, SwitchbotKeypadBridge.drainEvent]
      | rx frame =>
          have actions := @SwitchbotKeypadBridge.relayOf_action keystream
            (station.device.rxEnv env) station.device.bridge links.session created frame
          obtain ⟨_, onCommand, onRequest, onDrop⟩ := SwitchbotKeypadBridge.onRxFrame_spec
            keystream (station.device.rxEnv env) station.device.bridge frame
          have busy := (station.device.bridge.onRxFrame_tasks keystream
            (station.device.rxEnv env) frame).2
          simp only [relayOf, working, Bool.false_eq_true, if_false, QueuedEvent.outcome,
            Option.bind_some, SwitchbotKeypadBridge.drainEvent]
          refine ⟨actions, ?_, ?_⟩
          · rw [busy]
            cases station.device.bridge.relayOf keystream (station.device.rxEnv env) frame <;>
              simp [bridge]
          · unfold acceptedActionOf
            cases action : (station.device.bridge.session.processFrame keystream
              (station.device.rxEnv env).toFrameEnv frame).action with
            | none => simp [(onDrop action).1, bridge]
            | sendIv => simp [(onRequest action).1, bridge]
            | command =>
                rw [(onCommand action).1, after_eq_stateAfter]
                cases isAction : (station.device.bridge.session.processFrame keystream
                  (station.device.rxEnv env).toFrameEnv frame).session.command.isAction <;>
                  simp [bridge]

/-- A drained event keeps the account, if there is a task for the relay. -/
theorem RelayKnown.drained (known : RelayKnown steps station) (keystream : Keystream)
    (event : QueuedEvent) {env : RxEnv} (created : env.relayTaskCreated = true)
    : let op := StationOp.loop (.drained event env)
      RelayKnown (steps ++ [(station, op, (station.perform keystream op).2)])
        (station.perform keystream op).1 := by
  intro op
  obtain ⟨links, busy, handed, state⟩ := known
  obtain ⟨actions, flag, lockState⟩ := perform_drained links keystream event created
  refine ⟨perform_linkInvariant links keystream op, ?_, ?_, ?_⟩
  · rw [flag, busy, RelayLedger.of_snoc]
    rfl
  · simp only [RelayLedger.of_snoc, RelayLedger.note, op, actions, handed, ← busy]
    cases station.device.bridge.lockLinked <;> cases station.device.bridge.lockRelayBusy <;> simp
  · rw [lockState, RelayLedger.of_snoc, state]
    simp only [RelayLedger.note, RelayLedger.lastAfter, op]
    cases (station.perform keystream (.loop (.drained event env))).2.acceptedAction <;> rfl

/-- Every operation keeps the account, if there is a task for the relay. -/
theorem RelayKnown.perform (known : RelayKnown steps station) (keystream : Keystream)
    {op : StationOp} (creates : op.CreatesTasks)
    : RelayKnown (steps ++ [(station, op, (station.perform keystream op).2)])
        (station.perform keystream op).1 := by
  cases drains : op.drains with
  | false => exact known.undrained keystream drains
  | true =>
      cases op with
      | loop op =>
          cases op with
          | drained event env => exact known.drained keystream event creates
          | _ => cases drains
      | _ => cases drains

end Station

/-- Along every run in which the relay's tasks can be created, the actions accepted with a lock
linked and no relay in flight are handed to the relay, once each and in order, and no others
are; and the state reported to the keypad names the last action accepted.
-/
theorem idle_actions_mirrored (keystream : Keystream) (config : DeviceConfig)
    (preferences : Preferences) (boot : BootEnv) (ops : List StationOp)
    (creates : ∀ op ∈ ops, op.CreatesTasks)
    : MirrorsIdle
        (.of ((stationMachine keystream).traced.history (.booted config preferences boot) ops))
        (Station.after keystream config preferences boot ops).device.bridge.lockState := by
  have idle := Device.setup_relayIdle config preferences boot
  have booted : Station.RelayKnown [] (.booted config preferences boot) :=
    ⟨Device.setup_linkInvariant config preferences boot, idle.free, rfl, idle.lockState⟩
  have known :=
    (stationMachine keystream).traced.history_invariant_of Station.RelayKnown
      StationOp.CreatesTasks booted
      (fun _ _ _ creates known => known.perform keystream creates) ops creates
  rw [Machine.traced_run] at known
  exact known.mirrors

/-- An unlock by PIN under the first IV, in the given slot. -/
def unlockedIn (slot : UInt8) : StationOp :=
  .loop (.drained (.rx ([0x57, slot, 0x00, 0x00] ++ pinUnlock)) workingRx)

/-- A lock is linked and locked, and it is unlocked again before the relay of the lock command
has finished.
-/
def overtakenOps : List StationOp :=
  linkedOps
    ++ [askedIn sharedSlotVision, lockedIn sharedSlotVision, unlockedIn sharedSlotVision,
      .relayDone]

theorem overtakenOps_createsTasks : ∀ op ∈ overtakenOps, op.CreatesTasks := by
  simp [overtakenOps, linkedOps, pairedAs, askedIn, lockedIn, unlockedIn,
    StationOp.CreatesTasks, workingRx]

theorem idle_actions_mirrored_overtaken
    : MirrorsIdle
        (.of ((stationMachine clearStream).traced.history (.booted {} {} firstBoot)
          overtakenOps))
        (Station.after clearStream {} {} firstBoot overtakenOps).device.bridge.lockState :=
  idle_actions_mirrored clearStream {} {} firstBoot overtakenOps overtakenOps_createsTasks

/-- The unlock that overtakes a relay never reaches the lock. -/
theorem overtaking_action_not_mirrored
    : ¬ ∀ (keystream : Keystream) (config : DeviceConfig) (preferences : Preferences)
        (boot : BootEnv) (ops : List StationOp),
          (∀ op ∈ ops, op.CreatesTasks)
          → MirrorsAll
              (.of ((stationMachine keystream).traced.history
                (.booted config preferences boot) ops))
              (Station.after keystream config preferences boot ops).device.bridge.lockState := by
  intro always
  have mirrors := always clearStream {} {} firstBoot overtakenOps overtakenOps_createsTasks
  exact absurd mirrors.handed (by decide +kernel)

end KeypadBridge
