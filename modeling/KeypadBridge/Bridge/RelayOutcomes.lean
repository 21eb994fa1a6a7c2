import KeypadBridge.Bridge.RelayOrder

/-! How the outcome of a relay reaches the log. The relay task writes the command, the result
and a flag into three members of the component, and frees the relay; `loop()` takes the flag
at another point and then reads the two members.
-/

namespace KeypadBridge
open KeypadBridge.Foundation

/-- The members through which a relay task reports. -/
structure RelayBoard where
  command : DecodedCommand := {}
  ok : Bool := false
  pending : Bool := false

/-- How far the relay task is: it talks to the lock, or it has carried out that many of the
writes of `post_relay_result`.
-/
inductive PostStage where
  | relaying
  | commandWritten
  | okWritten
  | posted
  deriving DecidableEq, Repr

/-- The relay task in flight, and the result that it posts. -/
structure RelayRun where
  task : RelayTask
  ok : Bool := false
  stage : PostStage := .relaying

/-- Where `loop()` is in `apply_pending_lock_relay_`. -/
inductive ApplyStage where
  | idle
  | flagTaken
  | sawReply
  deriving DecidableEq, Repr

/-- What a relay came to. -/
structure RelayOutcome where
  command : DecodedCommand
  ok : Bool
  deriving DecidableEq, Repr

/-- What `apply_pending_lock_relay_` logs. -/
inductive RelayReport where
  | noReply
  | confirmed (command : DecodedCommand)
  deriving DecidableEq, Repr

/-- The report that belongs to an outcome. A relay without a reply is reported as such. -/
def RelayOutcome.report (outcome : RelayOutcome) : RelayReport :=
  if outcome.ok then .confirmed outcome.command else .noReply

/-- The component with the progress of its relay task and of its log, and the outcomes posted
so far.
-/
structure RelaySystem where
  station : Station
  board : RelayBoard := {}
  run : Option RelayRun := none
  applying : ApplyStage := .idle
  finished : List RelayOutcome := []
  reports : List RelayReport := []

/-- A step of the main task, of the relay task, or of any other. -/
inductive RelayStep where
  | station (op : StationOp)
  | takeFlag
  | readOk
  | readCommand
  | writeCommand (ok : Bool)
  | writeOk
  | setFlag
  | clearBusy

/-- The main task makes this call itself. -/
def StationOp.onMainTask : StationOp → Bool
  | .loop _ | .reset _ => true
  | .wizard _ | .relayDone | .advert _ | .scanCallback | .reboot _ => false

namespace RelaySystem

/-- A step of the component. The relay frees itself only through its own step, a restart is no
part of the run, and the main task does one thing at a time.
-/
def performStation (keystream : Keystream) (system : RelaySystem) (op : StationOp)
    : RelaySystem :=
  match op with
  | .relayDone | .reboot _ => system
  | op =>
      if op.onMainTask && system.applying ≠ .idle then system
      else
        { system with
          station := (system.station.perform keystream op).1
          run :=
            match system.station.relayOf keystream op with
            | some task => some { task }
            | none => system.run }

/-- The relay task moves on from `stage`. -/
def atStage (system : RelaySystem) (stage : PostStage) (move : RelayRun → RelaySystem)
    : RelaySystem :=
  match system.run with
  | some run => if run.stage = stage then move run else system
  | none => system

/-- One step. -/
def perform (keystream : Keystream) (system : RelaySystem) : RelayStep → RelaySystem
  | .station op => system.performStation keystream op
  | .takeFlag =>
      if system.applying = .idle ∧ system.board.pending = true then
        { system with
          board := { system.board with pending := false }
          applying := .flagTaken }
      else system
  | .readOk =>
      if system.applying ≠ .flagTaken then system
      else if !system.board.ok then
        { system with applying := .idle, reports := system.reports ++ [.noReply] }
      else { system with applying := .sawReply }
  | .readCommand =>
      if system.applying ≠ .sawReply then system
      else
        { system with
          applying := .idle
          reports := system.reports ++ [.confirmed system.board.command] }
  | .writeCommand ok =>
      system.atStage .relaying fun run =>
        { system with
          board := { system.board with command := run.task.command }
          run := some { run with ok, stage := .commandWritten } }
  | .writeOk =>
      system.atStage .commandWritten fun run =>
        { system with
          board := { system.board with ok := run.ok }
          run := some { run with stage := .okWritten } }
  | .setFlag =>
      system.atStage .okWritten fun run =>
        { system with
          board := { system.board with pending := true }
          run := some { run with stage := .posted }
          finished := system.finished ++ [⟨run.task.command, run.ok⟩] }
  | .clearBusy =>
      system.atStage .posted fun _ =>
        { system with
          station := (system.station.perform keystream .relayDone).1
          run := none }

/-- A component that has just started. -/
def booted (config : DeviceConfig) (preferences : Preferences) (boot : BootEnv) : RelaySystem where
  station := .booted config preferences boot

end RelaySystem

def relaySystems (keystream : Keystream) : Machine RelaySystem RelayStep Unit where
  step system step := (system.perform keystream step, ())

/-- A whole call of `apply_pending_lock_relay_`. -/
def applySteps : List RelayStep := [.takeFlag, .readOk, .readCommand]

/-- Every outcome is reported once, as its own: the reports so far are those of the first
outcomes in order, and the next whole call of `apply_pending_lock_relay_` completes them.
-/
structure RelaySystem.Reported (keystream : Keystream) (system : RelaySystem) : Prop where
  ordered : system.reports <+: system.finished.map RelayOutcome.report
  completed : system.applying = .idle
    → ((relaySystems keystream).run system applySteps).reports
      = system.finished.map RelayOutcome.report

/-- The relay task begins to post while the outcome before has been read completely. -/
def RelaySystem.PostsRead (system : RelaySystem) : RelayStep → Prop
  | .writeCommand _ => system.board.pending = false ∧ system.applying = .idle
  | _ => True

instance (system : RelaySystem) (step : RelayStep) : Decidable (system.PostsRead step) := by
  cases step <;> unfold RelaySystem.PostsRead <;> infer_instance

-----------------------------------------------------------------------------------------
-- One relay at a time
-----------------------------------------------------------------------------------------

namespace Station

/-- A relay is started on a component that has none in flight. -/
theorem relayOf_free {keystream : Keystream} {station : Station} {op : StationOp}
    {task : RelayTask} (starts : station.relayOf keystream op = some task)
    : station.device.bridge.lockRelayBusy = false := by
  unfold relayOf at starts
  split at starts
  · split at starts
    · cases starts
    · unfold SwitchbotKeypadBridge.relayOf at starts
      dsimp only at starts
      split at starts
      · rename_i begun
        simp only [SwitchbotKeypadBridge.startsRelay, Bool.and_eq_true, Bool.not_eq_true']
          at begun
        exact begun.2.1.2
      · cases starts
  · cases starts

/-- The busy flag is taken by a relay that starts, and freed by the relay task only. -/
theorem perform_lockRelayBusy (station : Station) (keystream : Keystream) {op : StationOp}
    (kept : op ≠ .relayDone) (running : ∀ env, op ≠ .reboot env)
    : (station.perform keystream op).1.device.bridge.lockRelayBusy
      = (station.device.bridge.lockRelayBusy || (station.relayOf keystream op).isSome) := by
  cases drains : op.drains with
  | false =>
      have nothing : station.relayOf keystream op = none := by
        unfold relayOf
        split
        · cases drains
        · rfl
      rw [(station.perform_undrained keystream drains).2, nothing, Option.isSome_none,
        Bool.or_false]
      split
      · exact absurd rfl kept
      · exact absurd rfl (running _)
      · rfl
  | true =>
      unfold StationOp.drains at drains
      split at drains
      · rename_i event env
        simp only [perform, loops_drained, relayOf]
        cases working : station.device.failed with
        | true => cases event <;> simp
        | false =>
            simp only [Device.performLoop, Device.drainEvent, Bool.not_false, if_true]
            cases event with
            | connect | disconnect => simp [SwitchbotKeypadBridge.drainEvent]
            | rx frame =>
                simpa [SwitchbotKeypadBridge.drainEvent] using
                  (station.device.bridge.onRxFrame_tasks keystream
                    (station.device.rxEnv env) frame).2
      · cases drains

end Station

namespace RelaySystem

variable {keystream : Keystream} {system : RelaySystem}

/-- A relay task in flight holds the busy flag. -/
def Held (system : RelaySystem) : Prop :=
  system.run.isSome = true → system.station.device.bridge.lockRelayBusy = true

/-- What a step of the component is, where it is one. -/
theorem performStation_cases (keystream : Keystream) (system : RelaySystem) (op : StationOp)
    : system.performStation keystream op = system
      ∨ op ≠ .relayDone ∧ (∀ env, op ≠ .reboot env)
        ∧ (op.onMainTask = true → system.applying = .idle)
        ∧ system.performStation keystream op
          = { system with
              station := (system.station.perform keystream op).1
              run :=
                match system.station.relayOf keystream op with
                | some task => some { task }
                | none => system.run } := by
  unfold performStation
  split
  · exact .inl rfl
  · exact .inl rfl
  · rename_i notDone notReboot
    split
    · exact .inl rfl
    · rename_i free
      exact .inr ⟨notDone, notReboot, by simpa using free, rfl⟩

/-- A move of the relay task is made by the task in flight, at its stage, or not at all. -/
theorem atStage_keeps {kept : RelaySystem → Prop} {stage : PostStage}
    {move : RelayRun → RelaySystem} (before : kept system)
    (after : ∀ run, system.run = some run → run.stage = stage → kept (move run))
    : kept (system.atStage stage move) := by
  unfold atStage
  split
  · rename_i run running
    split
    · rename_i reached
      exact after run running reached
    · exact before
  · exact before

/-- Every step keeps the busy flag with the relay task. -/
theorem held_perform (held : system.Held) (step : RelayStep)
    : (system.perform keystream step).Held := by
  have moved {stage : PostStage} {move : RelayRun → RelaySystem}
      (same : ∀ run, system.run = some run → (move run).Held)
      : (system.atStage stage move).Held :=
    atStage_keeps held fun run running _ => same run running
  cases step with
  | station op =>
      simp only [perform]
      rcases system.performStation_cases keystream op with
        unmoved | ⟨kept, running, _, after⟩
      · rw [unmoved]
        exact held
      rw [after]
      intro inFlight
      dsimp only at inFlight ⊢
      rw [system.station.perform_lockRelayBusy keystream kept running]
      cases starts : system.station.relayOf keystream op with
      | some task => simp
      | none =>
          rw [starts] at inFlight
          rw [held inFlight, Bool.true_or]
  | takeFlag =>
      simp only [perform]
      split <;> exact held
  | readOk =>
      simp only [perform]
      split
      · exact held
      · split <;> exact held
  | readCommand =>
      simp only [perform]
      split <;> exact held
  | writeCommand ok => exact moved fun run running _ => held (by simp [running])
  | writeOk => exact moved fun run running _ => held (by simp [running])
  | setFlag => exact moved fun run running _ => held (by simp [running])
  | clearBusy => exact moved fun run _ inFlight => by simp at inFlight

/-- A relay that starts takes no other relay's place. -/
theorem Held.starts_alone (held : system.Held) {op : StationOp} {task : RelayTask}
    (starts : system.station.relayOf keystream op = some task)
    : system.run = none := by
  have free := Station.relayOf_free starts
  cases running : system.run with
  | none => rfl
  | some run =>
      have busy := held (by simp [running])
      rw [free] at busy
      cases busy

-----------------------------------------------------------------------------------------
-- The account of the outcomes
-----------------------------------------------------------------------------------------

/-- The outcome on the board. -/
def onBoard (system : RelaySystem) : RelayOutcome := ⟨system.board.command, system.board.ok⟩

/-- The reports still to come of what has been posted. -/
def unread (system : RelaySystem) : List RelayReport :=
  match system.applying with
  | .sawReply => [.confirmed system.board.command]
  | .flagTaken => [system.onBoard.report]
  | .idle => if system.board.pending then [system.onBoard.report] else []

/-- The relay task is between the first and the last write of an outcome: nobody reads the
board, and it holds what was written.
-/
structure Posting (system : RelaySystem) (run : RelayRun) : Prop where
  unread : system.board.pending = false
  applying : system.applying = .idle
  command : system.board.command = run.task.command
  ok : run.stage = .okWritten → system.board.ok = run.ok

/-- The account of the outcomes: those that were posted are the reported ones and the one that
is still unread.
-/
structure Accounted (system : RelaySystem) : Prop where
  reports : system.finished.map RelayOutcome.report = system.reports ++ system.unread
  taken : system.applying ≠ .idle → system.board.pending = false
  posting : ∀ run, system.run = some run
    → run.stage = .commandWritten ∨ run.stage = .okWritten
    → system.Posting run

/-- What the component does otherwise is not in the account; a relay that starts has posted
nothing.
-/
theorem Accounted.performStation (accounted : system.Accounted) (op : StationOp)
    : (system.performStation keystream op).Accounted := by
  rcases system.performStation_cases keystream op with unmoved | ⟨_, _, _, after⟩
  · rw [unmoved]
    exact accounted
  rw [after]
  refine ⟨accounted.reports, accounted.taken, fun run running stage => ?_⟩
  dsimp only at running
  split at running
  · cases running
    rcases stage with written | written <;> cases written
  · obtain ⟨unread, applying, command, ok⟩ := accounted.posting run running stage
    exact ⟨unread, applying, command, ok⟩

/-- Nobody writes the board while `loop()` reads it. -/
theorem Accounted.not_posting (accounted : system.Accounted) (busy : system.applying ≠ .idle)
    {run : RelayRun} (running : system.run = some run)
    : ¬ (run.stage = .commandWritten ∨ run.stage = .okWritten) :=
  fun stage => busy (accounted.posting run running stage).applying

/-- `loop()` takes the flag, and with it the outcome on the board. -/
theorem Accounted.takeFlag (accounted : system.Accounted)
    : (system.perform keystream .takeFlag).Accounted := by
  simp only [perform]
  split
  · rename_i found
    refine ⟨?_, fun _ => rfl, fun run running stage => ?_⟩
    · rw [accounted.reports]
      simp only [unread, found.1, found.2, if_true]
      rfl
    · rw [(accounted.posting run running stage).unread] at found
      cases found.2
  · exact accounted

/-- `loop()` reads the result, and reports a relay without a reply. -/
theorem Accounted.readOk (accounted : system.Accounted)
    : (system.perform keystream .readOk).Accounted := by
  simp only [perform]
  split
  · exact accounted
  rename_i inProgress
  have applying : system.applying = .flagTaken := by simpa using inProgress
  have busy : system.applying ≠ .idle := by simp [applying]
  have read := accounted.taken busy
  have quiet {run : RelayRun} (running : system.run = some run) :=
    accounted.not_posting busy running
  split
  · rename_i failed
    have silent : system.board.ok = false := by simpa using failed
    refine ⟨?_, fun busy => absurd rfl busy, fun run running stage =>
      absurd stage (quiet running)⟩
    rw [accounted.reports]
    simp [unread, applying, onBoard, RelayOutcome.report, silent, read]
  · rename_i replied
    have ok : system.board.ok = true := by simpa using replied
    refine ⟨?_, fun _ => read, fun run running stage => absurd stage (quiet running)⟩
    rw [accounted.reports]
    simp [unread, applying, onBoard, RelayOutcome.report, ok]

/-- `loop()` reads the command, and reports it. -/
theorem Accounted.readCommand (accounted : system.Accounted)
    : (system.perform keystream .readCommand).Accounted := by
  simp only [perform]
  split
  · exact accounted
  rename_i inProgress
  have applying : system.applying = .sawReply := by simpa using inProgress
  have busy : system.applying ≠ .idle := by simp [applying]
  have read := accounted.taken busy
  refine ⟨?_, fun busy => absurd rfl busy, fun run running stage =>
    absurd stage (accounted.not_posting busy running)⟩
  rw [accounted.reports]
  simp [unread, applying, read]

/-- The main task and the relay task keep the account, if an outcome is posted only once the one
before has been read.
-/
theorem accounted_perform (accounted : system.Accounted) (step : RelayStep)
    (posts : system.PostsRead step)
    : (system.perform keystream step).Accounted := by
  cases step with
  | station op => exact accounted.performStation op
  | takeFlag => exact accounted.takeFlag
  | readOk => exact accounted.readOk
  | readCommand => exact accounted.readCommand
  | writeCommand ok =>
      refine atStage_keeps accounted fun run running _ => ?_
      obtain ⟨unread, idle⟩ := posts
      refine ⟨?_, fun busy => absurd idle busy, fun other running' _ => ?_⟩
      · rw [accounted.reports]
        simp [RelaySystem.unread, unread, idle]
      · cases running'
        exact ⟨unread, idle, rfl, fun written => nomatch written⟩
  | writeOk =>
      refine atStage_keeps accounted fun run running reached => ?_
      obtain ⟨unread, idle, command, _⟩ := accounted.posting run running (.inl reached)
      refine ⟨?_, fun busy => absurd idle busy, fun other running' _ => ?_⟩
      · rw [accounted.reports]
        simp [RelaySystem.unread, unread, idle]
      · cases running'
        exact ⟨unread, idle, command, fun _ => rfl⟩
  | setFlag =>
      refine atStage_keeps accounted fun run running reached => ?_
      obtain ⟨unread, idle, command, ok⟩ := accounted.posting run running (.inr reached)
      refine ⟨?_, fun busy => absurd idle busy, fun other running' stage => ?_⟩
      · rw [List.map_append, accounted.reports]
        simp [RelaySystem.unread, unread, idle, onBoard, command, ok reached]
      · cases running'
        rcases stage with written | written <;> cases written
  | clearBusy =>
      refine atStage_keeps accounted fun run running _ => ?_
      exact ⟨accounted.reports, accounted.taken, fun other running' _ => nomatch running'⟩

/-- An account is what the reports need. -/
theorem Accounted.reported (accounted : system.Accounted) : system.Reported keystream where
  ordered := ⟨system.unread, accounted.reports.symm⟩
  completed := by
    intro idle
    rw [accounted.reports]
    simp only [relaySystems, applySteps, Machine.run, perform, unread, idle]
    cases pending : system.board.pending with
    | false => simp [idle]
    | true =>
        cases ok : system.board.ok with
        | false => simp [onBoard, RelayOutcome.report, ok]
        | true => simp [onBoard, RelayOutcome.report, ok]

/-- A component that has just started has relayed nothing. -/
theorem booted_accounted (config : DeviceConfig) (preferences : Preferences) (boot : BootEnv)
    : (booted config preferences boot).Accounted where
  reports := rfl
  taken busy := absurd rfl busy
  posting _ running := nomatch running

end RelaySystem

/-- As long as every relay task posts only once the outcome before has been read, the outcomes
are reported in order, each once and with its own command and result, and a relay that starts
takes no other relay's place.
-/
theorem relay_outcomes_reported (keystream : Keystream) (config : DeviceConfig)
    (preferences : Preferences) (boot : BootEnv) (steps : List RelayStep)
    (posts
      : ∀ step ∈ (relaySystems keystream).traced.history (.booted config preferences boot) steps,
          step.1.PostsRead step.2.1)
    : let after := (relaySystems keystream).run (.booted config preferences boot) steps
      after.Reported keystream
      ∧ ∀ op task, after.station.relayOf keystream op = some task → after.run = none := by
  have kept :=
    (relaySystems keystream).run_invariant_where
      (fun system => system.Accounted ∧ system.Held) RelaySystem.PostsRead
      ⟨RelaySystem.booted_accounted config preferences boot, fun running => nomatch running⟩
      (fun _ step ⟨accounted, held⟩ posts =>
        ⟨RelaySystem.accounted_perform accounted step posts,
          RelaySystem.held_perform held step⟩)
      steps posts
  exact ⟨kept.1.reported, fun op task starts => kept.2.starts_alone starts⟩

/-- A relay that the lock answers. -/
def answeredRelay : List RelayStep := [.writeCommand true, .writeOk, .setFlag, .clearBusy]

/-- A keypad locks a linked lock, and the lock answers. -/
def relayedLock : List RelayStep :=
  ((linkedOps ++ [askedIn sharedSlotVision, lockedIn sharedSlotVision]).map .station)
    ++ answeredRelay

/-- Two commands, where the outcome of the first relay is reported before the second starts. -/
def relayedInTurn : List RelayStep :=
  relayedLock ++ applySteps ++ [.station (unlockedIn sharedSlotVision)] ++ answeredRelay
    ++ applySteps

/-- Both outcomes are reported, in their order. -/
theorem relay_outcomes_reported_in_turn
    : let after := (relaySystems clearStream).run (.booted {} {} firstBoot) relayedInTurn
      after.Reported clearStream ∧ after.reports.length = 2 :=
  ⟨(relay_outcomes_reported clearStream {} {} firstBoot relayedInTurn (by decide +kernel)).1,
    by decide +kernel⟩

/-- Two commands in one queue, where the relay of the first is over before the second. -/
def relayedTwice : List RelayStep :=
  relayedLock ++ [.station (unlockedIn sharedSlotVision)] ++ answeredRelay

/-- The outcome of the first relay is never reported. -/
theorem relay_outcome_lost
    : ¬ ∀ (keystream : Keystream) (config : DeviceConfig) (preferences : Preferences)
        (boot : BootEnv) (steps : List RelayStep),
          ((relaySystems keystream).run (.booted config preferences boot) steps).Reported
            keystream := by
  intro always
  have reported := always clearStream {} {} firstBoot relayedTwice
  exact absurd (reported.completed (by decide +kernel)) (by decide +kernel)

end KeypadBridge
