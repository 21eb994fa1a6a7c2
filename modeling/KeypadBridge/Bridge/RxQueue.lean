import KeypadBridge.Bridge.RelayOutcomes
import KeypadBridge.Foundation.Mailbox

/-! The queue between the NimBLE task and the main task. The server's and the characteristic's
callbacks push events under a mutex; `loop()` swaps the queue out and drains it, while the
other tasks go on and further events arrive.
-/

namespace KeypadBridge
open KeypadBridge.Foundation

-----------------------------------------------------------------------------------------
-- The callbacks and the drain
-----------------------------------------------------------------------------------------

/-- A callback that runs on the NimBLE task. -/
inductive HostCallback where
  | onConnect
  | onDisconnect
  | onWrite (value : Bytes)

/-- `push_connect_`, `push_disconnect_` and `push_rx_`; an empty write pushes nothing. -/
def HostCallback.queued : HostCallback → Option QueuedEvent
  | .onConnect => some .connect
  | .onDisconnect => some .disconnect
  | .onWrite [] => none
  | .onWrite value => some (.rx value)

/-- A step of the tasks around the receive queue. -/
inductive RxOp where
  | host (callback : HostCallback)
  /-- `loop()` swaps the queue out. -/
  | swap
  /-- `loop()` drains the next event of what it swapped out. -/
  | drain (env : RxEnv)
  | other (op : StationOp)

abbrev RxSystem := Mailbox Station QueuedEvent

/-- The event that an operation drains. -/
def StationOp.drainedEvent : StationOp → Option QueuedEvent
  | .loop (.drained event _) => some event
  | _ => none

/-- Events are drained by `loop()` and nowhere else, and never on a component whose set-up
failed. A restart, which loses the queue, is no part of a run.
-/
def rxRules : MailboxRules Station QueuedEvent RxEnv StationOp where
  serves station := !station.device.failed
  deliver event env := .loop (.drained event env)
  besides op := !op.drains && !(match op with | .reboot _ => true | _ => false)
  ownTask := StationOp.onMainTask

/-- What an operation does to the queue; an empty write does nothing. -/
def RxOp.mailbox : RxOp → Option (MailboxOp QueuedEvent RxEnv StationOp)
  | .host callback => callback.queued.map .push
  | .swap => some .swap
  | .drain env => some (.handle env)
  | .other op => some (.other op)

/-- The component behind its queue. -/
def rxMachine (keystream : Keystream)
    : Machine RxSystem (MailboxOp QueuedEvent RxEnv StationOp)
        (MailboxStep QueuedEvent StationOp StationStep) :=
  mailboxMachine rxRules (stationMachine keystream)

namespace RxSystem

/-- The system after a run from a start. -/
def after (keystream : Keystream) (config : DeviceConfig) (preferences : Preferences)
    (boot : BootEnv) (ops : List RxOp)
    : RxSystem :=
  (rxMachine keystream).run { state := .booted config preferences boot }
    (ops.filterMap RxOp.mailbox)

/-- What the steps of a run from a start show. -/
def shown (keystream : Keystream) (config : DeviceConfig) (preferences : Preferences)
    (boot : BootEnv) (ops : List RxOp)
    : List (MailboxStep QueuedEvent StationOp StationStep) :=
  (rxMachine keystream).history { state := .booted config preferences boot }
    (ops.filterMap RxOp.mailbox)

end RxSystem

/-- The events of the callbacks that ran, in their order. -/
def hostEvents (ops : List RxOp) : List QueuedEvent :=
  ops.filterMap fun
    | .host callback => callback.queued
    | _ => none

/-- The rest of a turn of `loop()`: what was swapped out is drained, then the queue is swapped
out and drained as well.
-/
def RxSystem.finishLoop (system : RxSystem) (env : RxEnv) : List RxOp :=
  List.replicate system.batch.length (.drain env)
    ++ .swap :: List.replicate system.queue.length (.drain env)

-----------------------------------------------------------------------------------------
-- Runs
-----------------------------------------------------------------------------------------

theorem pushed_mailbox (ops : List RxOp)
    : Mailbox.pushed (ops.filterMap RxOp.mailbox) = hostEvents ops := by
  simp only [Mailbox.pushed, hostEvents, List.filterMap_filterMap]
  congr 1
  funext op
  cases op with
  | host callback => cases queued : callback.queued <;> simp [RxOp.mailbox, queued]
  | _ => rfl

theorem finishLoop_mailbox (system : RxSystem) (env : RxEnv)
    : (system.finishLoop env).filterMap RxOp.mailbox = system.restOfTurn env := by
  have drains (count : Nat)
      : (List.replicate count (RxOp.drain env)).filterMap RxOp.mailbox
        = List.replicate count (.handle env) := by
    induction count with
    | zero => rfl
    | succ count ih => simp [List.replicate_succ, RxOp.mailbox, ih]
  simp [RxSystem.finishLoop, Mailbox.restOfTurn, drains, RxOp.mailbox]

/-- A drained event can be read back from the operation that drains it, and no other
operation of a run drains one.
-/
theorem drainedEvent_besides (op : StationOp) (besides : rxRules.besides op = true)
    : op.drainedEvent = none := by
  simp only [rxRules, Bool.and_eq_true, Bool.not_eq_true'] at besides
  unfold StationOp.drains at besides
  unfold StationOp.drainedEvent
  split
  · exact nomatch besides.1
  · rfl

/-- Draining leaves the outcome of the set-up alone. -/
theorem Station.drained_failed (keystream : Keystream) (station : Station)
    (event : QueuedEvent) (env : RxEnv)
    : (station.perform keystream (.loop (.drained event env))).1.device.failed
      = station.device.failed := by
  simp only [perform]
  split <;> rfl

/-- Whatever the tasks do in between, every event that the keypad's connection causes is
drained exactly once and in order, and the component goes through the states it goes through
when it is handed the same events one by one. What has not been drained waits, and the rest of
one turn of `loop()` drains it.
-/
theorem rx_queue_in_order (keystream : Keystream) (config : DeviceConfig)
    (preferences : Preferences) (boot : BootEnv) (ops : List RxOp) (env : RxEnv)
    : let system := RxSystem.after keystream config preferences boot ops
      let steps := RxSystem.shown keystream config preferences boot ops
      let performed := Mailbox.inputs steps
      performed.filterMap StationOp.drainedEvent ++ system.waiting = hostEvents ops
      ∧ system.state = Station.after keystream config preferences boot performed
      ∧ Mailbox.outputs steps
        = (stationMachine keystream).history (.booted config preferences boot) performed
      ∧ (system.state.device.failed = false
        → let turn := (ops ++ system.finishLoop env)
          (Mailbox.inputs (RxSystem.shown keystream config preferences boot turn)).filterMap
              StationOp.drainedEvent
            = hostEvents ops) := by
  intro system steps performed
  have once (ops : List RxOp)
      : (Mailbox.inputs (RxSystem.shown keystream config preferences boot ops)).filterMap
            StationOp.drainedEvent
          ++ (RxSystem.after keystream config preferences boot ops).waiting
        = hostEvents ops := by
    have ordered := Mailbox.handled_in_order rxRules (stationMachine keystream)
      { state := .booted config preferences boot } (ops.filterMap RxOp.mailbox)
    have read := Mailbox.messages_of_inputs rxRules (stationMachine keystream)
      StationOp.drainedEvent (fun _ _ => rfl) drainedEvent_besides
      { state := .booted config preferences boot } (ops.filterMap RxOp.mailbox)
    rw [← pushed_mailbox]
    exact read ▸ ordered
  obtain ⟨state, shown⟩ := Mailbox.run_state rxRules (stationMachine keystream)
    { state := .booted config preferences boot } (ops.filterMap RxOp.mailbox)
  refine ⟨once ops, state, shown.symm, ?_⟩
  intro working turn
  have pushedNone : hostEvents (system.finishLoop env) = [] := by
    have drains (count : Nat) : hostEvents (List.replicate count (.drain env)) = [] := by
      induction count with
      | zero => rfl
      | succ count ih => exact ih
    simp only [hostEvents] at drains
    simp [hostEvents, RxSystem.finishLoop, drains]
  have emptied
      : (RxSystem.after keystream config preferences boot turn).waiting = [] := by
    have handles := Mailbox.restOfTurn_handles rxRules (stationMachine keystream) env system
      (by simp [rxRules, working])
      (fun state event => by
        exact congrArg (! ·) (Station.drained_failed keystream state event env))
    have run
        : RxSystem.after keystream config preferences boot turn
          = (rxMachine keystream).run system (system.restOfTurn env) := by
      simp only [RxSystem.after, turn, List.filterMap_append, Machine.run_append,
        finishLoop_mailbox]
      rfl
    rw [run]
    exact handles.2
  have whole := once turn
  rw [emptied, List.append_nil] at whole
  rw [whole]
  simp only [turn, hostEvents, List.filterMap_append] at pushedNone ⊢
  rw [pushedNone, List.append_nil]

/-- The keypad connects and asks for an IV; the request arrives while `loop()` drains. -/
def connectedAndAsked : List RxOp :=
  [.host .onConnect, .swap, .host (.onWrite (ivRequest sharedSlotVision)), .host (.onWrite []),
    .drain workingRx]

theorem rx_queue_in_order_asked
    : let system := RxSystem.after clearStream {} {} firstBoot connectedAndAsked
      let turn := connectedAndAsked ++ system.finishLoop workingRx
      (Mailbox.inputs (RxSystem.shown clearStream {} {} firstBoot turn)).filterMap
          StationOp.drainedEvent
        = [.connect, .rx (ivRequest sharedSlotVision)] :=
  (rx_queue_in_order clearStream {} {} firstBoot connectedAndAsked workingRx).2.2.2
    (by decide +kernel)

end KeypadBridge
