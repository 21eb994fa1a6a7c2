import KeypadBridge.Client.Reporting
import KeypadBridge.Wizard.Progress
import KeypadBridge.Wizard.SharedSecret

/-! The progress of a lock link. The client reports phases and command indices, the linker makes
steps of them, and a connection that is tried a second time starts over.
-/

namespace KeypadBridge
open KeypadBridge.Foundation

-----------------------------------------------------------------------------------------
-- The radio and its record
-----------------------------------------------------------------------------------------

namespace PhysicalLockClient

namespace LockRadio

/-- Two radios that differ in their record at most. -/
def Same (first second : LockRadio) : Prop := ∃ events, first = { second with events }

variable (env : RadioEnv) {first second : LockRadio}

theorem connectSwitchbotService_alike (same : first.Same second) (target : BleAddress)
    : Alike Same (first.connectSwitchbotService env target)
        (second.connectSwitchbotService env target) := by
  obtain ⟨events, rfl⟩ := same
  simp only [connectSwitchbotService, tick, emit]
  by_cases uncreated : env.clientCreated (second.moment + 1) = false
  · simp only [uncreated, if_true]
    exact ⟨rfl, _, rfl⟩
  by_cases unconnected : env.connects (second.moment + 1) target = false
  · simp only [uncreated, unconnected, if_true]
    exact ⟨rfl, _, rfl⟩
  by_cases unserved : env.serviceFound (second.moment + 1) = false
  · simp only [uncreated, unconnected, unserved, if_true]
    exact ⟨rfl, _, rfl⟩
  · simp only [uncreated, unconnected, unserved]
    exact ⟨rfl, _, rfl⟩

theorem attempt_alike (same : first.Same second) (config : Config) (target : BleAddress)
    : Alike Same (first.attempt env config target) (second.attempt env config target) := by
  obtain ⟨events, rfl⟩ := same
  have connecting
      : Same (({ second with events } : LockRadio).report .connect) (second.report .connect) :=
    ⟨_, rfl⟩
  obtain ⟨result, left, right, reported, plain, same⟩ :=
    (connectSwitchbotService_alike env connecting target).split
  rw [attempt, attempt, reported, plain]
  obtain ⟨events, rfl⟩ := same
  cases result with
  | error => exact ⟨rfl, _, rfl⟩
  | ok => exact ⟨rfl, _, rfl⟩

theorem connect_alike (nimble : NimbleAddresses) (same : first.Same second)
    (config : Config)
    : Alike Same (first.connect env nimble config) (second.connect env nimble config) := by
  have target : first.directTarget nimble config = second.directTarget nimble config := by
    obtain ⟨events, rfl⟩ := same
    rfl
  obtain ⟨result, left, right, reported, plain, same⟩ :=
    (attempt_alike env same config (second.directTarget nimble config)).split
  rw [connect, connect, target, reported, plain]
  cases result with
  | ok => exact ⟨rfl, same⟩
  | error =>
      have scanned
          : Same ({ left with cachedMac := "" }.report .scan).tick
              ({ right with cachedMac := "" }.report .scan).tick := by
        obtain ⟨events, rfl⟩ := same
        exact ⟨_, rfl⟩
      dsimp only
      generalize ({ left with cachedMac := "" }.report .scan).tick = left at scanned ⊢
      generalize ({ right with cachedMac := "" }.report .scan).tick = right at scanned ⊢
      have moment : left.moment = right.moment := by
        obtain ⟨events, rfl⟩ := scanned
        rfl
      rw [moment]
      by_cases unseen
        : nimble.isNull (discoverTarget nimble (env.scan right.moment) config.macBytes) = true
      · rw [if_pos unseen, if_pos unseen]
        exact ⟨rfl, scanned⟩
      · rw [if_neg unseen, if_neg unseen]
        exact attempt_alike env scanned config _

end LockRadio

theorem radioLink_deaf (nimble : NimbleAddresses) (env : RadioEnv)
    : (radioLink nimble env).Deaf LockRadio.Same where
  connect config _ _ same := LockRadio.connect_alike env nimble same config
  createSemaphore _ _ := fun ⟨_, same⟩ => same ▸ rfl
  subscribe _ _ := fun ⟨_, same⟩ => same ▸ ⟨rfl, _, rfl⟩
  writeValue _ _ _ := fun ⟨_, same⟩ => same ▸ ⟨rfl, _, rfl⟩
  waitNotify _ _ := fun ⟨_, same⟩ => same ▸ ⟨rfl, _, rfl⟩
  disconnect _ _ := fun ⟨_, same⟩ => same ▸ ⟨_, rfl⟩
  psa _ _ := fun ⟨_, same⟩ => same ▸ rfl

/-- Callbacks that put a provisioning on the radio's record. -/
def recordingCallbacks : Callbacks LockRadio where
  provisionProgress phase radio := radio.report phase
  provisionCommandProgress index radio := radio.emit (.commandProgress index)
  verifyProgress phase radio := radio.emit (.verifyProgress phase)

theorem recordingCallbacks_apart : recordingCallbacks.Apart LockRadio.Same where
  provision _ _ _ := fun ⟨_, same⟩ => same ▸ ⟨_, rfl⟩
  command _ _ _ := fun ⟨_, same⟩ => same ▸ ⟨_, rfl⟩
  verify _ _ _ := fun ⟨_, same⟩ => same ▸ ⟨_, rfl⟩

end PhysicalLockClient

-----------------------------------------------------------------------------------------
-- The lock linker
-----------------------------------------------------------------------------------------

namespace LockLinker
open PhysicalLockClient (RadioEvent Phase RadioEnv LockRadio BleAddress NimbleAddresses Cues
  radioLink recordingCallbacks provisionAndVerifyReporting)

/-- The step that a phase of the provisioning is: `provision_phase`. -/
def provisionPhase : Phase → Option UInt8
  | .connect => some 0
  | .discover => some 1
  | .session => some 2
  | .scan | .command => none

/-- The step that a command of the provisioning is: `provision_command`. -/
def provisionCommand (commandIndex : Nat) : Option UInt8 :=
  if commandIndex < 2 then some 3
  else if commandIndex = 2 then some 4
  else if commandIndex = 3 then some 5
  else none

/-- The step that a phase of the verification is: `verify_phase`. -/
def verifyPhase : Phase → Option UInt8
  | .command => some 6
  | .scan | .connect | .discover | .session => none

/-- The step that the callbacks make of what the client reports. -/
def stepOf : RadioEvent → Option UInt8
  | .progress phase => provisionPhase phase
  | .commandProgress index => provisionCommand index
  | .verifyProgress phase => verifyPhase phase
  | .attempted _ | .wrote .. => none

/-- The steps on a radio's record. -/
def stepsOf (radio : LockRadio) : List UInt8 := radio.events.filterMap stepOf

def cues : Cues UInt8 where
  provision phase := (provisionPhase phase).toList
  command index := (provisionCommand index).toList
  verify phase := (verifyPhase phase).toList

theorem stepsOf_emit (radio : LockRadio) (event : RadioEvent)
    : stepsOf (radio.emit event) = stepsOf radio ++ (stepOf event).toList := by
  cases step : stepOf event <;> simp [stepsOf, LockRadio.emit, step]

theorem recordingCallbacks_show : recordingCallbacks.Show stepsOf cues where
  provision _ radio := stepsOf_emit radio _
  command _ radio := stepsOf_emit radio _
  verify _ radio := stepsOf_emit radio _

theorem radioLink_quiet (nimble : NimbleAddresses) (env : RadioEnv)
    : (radioLink nimble env).Quiet stepsOf where
  subscribe _ := rfl
  writeValue frame radio := by
    have silent := stepsOf_emit radio (.wrote radio.connection frame)
    rw [stepOf, Option.toList_none, List.append_nil] at silent
    exact silent
  waitNotify _ := rfl
  disconnect _ := rfl

theorem connectSwitchbotService_steps (env : RadioEnv) (radio : LockRadio)
    (target : BleAddress)
    : stepsOf (radio.connectSwitchbotService env target).2 = stepsOf radio := by
  have attempted : stepsOf (radio.tick.emit (.attempted target)) = stepsOf radio := by
    rw [stepsOf_emit, stepOf, Option.toList_none, List.append_nil]
    rfl
  unfold LockRadio.connectSwitchbotService
  dsimp only
  split
  · rfl
  split
  · exact attempted
  split
  · exact attempted
  · exact attempted

/-- An attempt shows the first step, and the second one if it succeeds. -/
theorem attempt_steps (env : RadioEnv) (radio : LockRadio)
    (config : PhysicalLockClient.Config) (target : BleAddress)
    : let outcome := radio.attempt env config target
      (outcome.1 = .ok () → stepsOf outcome.2 = stepsOf radio ++ [0, 1])
      ∧ ∀ err, outcome.1 = .error err → stepsOf outcome.2 = stepsOf radio ++ [0] := by
  have connecting : stepsOf (radio.report .connect) = stepsOf radio ++ [0] :=
    stepsOf_emit radio _
  have served := connectSwitchbotService_steps env (radio.report .connect) target
  rw [connecting] at served
  unfold LockRadio.attempt
  split
  · rename_i failed
    rw [failed] at served
    exact ⟨nofun, fun _ _ => served⟩
  · rename_i opened connected
    rw [connected] at served
    have discovered : stepsOf (opened.report .discover) = stepsOf opened ++ [1] :=
      stepsOf_emit opened _
    refine ⟨fun _ => ?_, nofun⟩
    change stepsOf (opened.report .discover) = stepsOf radio ++ [0, 1]
    rw [discovered, served, List.append_assoc]
    rfl

theorem attempt_performs (env : RadioEnv) (radio : LockRadio)
    (config : PhysicalLockClient.Config) (target : BleAddress)
    : let outcome := radio.attempt env config target
      Performs stepsOf [0, 1] radio outcome.2 (outcome.1 = .ok ()) := by
  obtain ⟨succeeds, fails⟩ := attempt_steps env radio config target
  cases result : (radio.attempt env config target).1 with
  | ok => exact .whole (succeeds result) _
  | error err => exact (Performs.whole (fails err result) True).stopped [1] (by simp [result])

/-- A connection shows its two steps, and the first one twice if it takes a second attempt. -/
theorem connect_performs (nimble : NimbleAddresses) (env : RadioEnv)
    (radio : LockRadio) (config : PhysicalLockClient.Config)
    : ∃ retried : List UInt8,
        (retried = [] ∨ retried = [0])
        ∧ let outcome := radio.connect env nimble config
          Performs stepsOf (retried ++ [0, 1]) radio outcome.2 (outcome.1 = .ok ()) := by
  have direct :=
    attempt_performs env radio config (radio.directTarget nimble config)
  have missed := (attempt_steps env radio config (radio.directTarget nimble config)).2
  unfold LockRadio.connect
  split
  · rename_i connected
    rw [connected] at direct
    exact ⟨[], .inl rfl, direct⟩
  · rename_i err first failed
    rw [failed] at missed
    refine ⟨[0], .inr rfl, ?_⟩
    have scanned
        : Performs stepsOf [0] radio ({ first with cachedMac := "" }.report .scan).tick True := by
      refine .whole (Eq.trans ?_ (missed err rfl)) True
      exact (stepsOf_emit ({ first with cachedMac := "" }) (.progress .scan)).trans
        (List.append_nil _)
    dsimp only
    split
    · exact scanned.stopped _ nofun
    · exact scanned.followed (attempt_performs env _ config _)

-----------------------------------------------------------------------------------------
-- The link job
-----------------------------------------------------------------------------------------

/-- What `execute_` makes of the exchange. -/
def outcomeOf (request : Request) (exchange : PhysicalLockClient.Exchange)
    : Except String Unit :=
  match exchange.result with
  | .error err => .error ("Could not link the lock shared key: " ++ err)
  | .ok () =>
      if !provisionResponsesPlausible request.slot exchange.responses then
        .error "The lock returned an unexpected shared-key provisioning response."
      else .ok ()

/-- A link that fails says why. -/
theorem outcomeOf_text {request : Request} {exchange : PhysicalLockClient.Exchange}
    {err : String} (failed : outcomeOf request exchange = .error err)
    : err ≠ "" := by
  unfold outcomeOf at failed
  split at failed
  · obtain rfl := Except.error.inj failed
    simp
  split at failed
  · obtain rfl := Except.error.inj failed
    decide
  · cases failed

section

variable (keystream : Keystream) (gcm : AesGcm)

theorem linkOutcome_eq {Peer : Type} (link : PhysicalLockClient.Link Peer) (request : Request)
    (peer : Peer)
    : (linkOutcome keystream gcm link request peer).1
      = outcomeOf request
          (PhysicalLockClient.provisionAndVerifySharedKey keystream gcm link
            request.provisioningConfig (makeProvisionCommands request.slot request.sharedKey)
            request.sharedConfig peer).1 := by
  unfold linkOutcome outcomeOf
  rcases PhysicalLockClient.provisionAndVerifySharedKey keystream gcm link
    request.provisioningConfig (makeProvisionCommands request.slot request.sharedKey)
    request.sharedConfig peer with ⟨⟨_ | _, responses⟩, after⟩
  · rfl
  · dsimp only
    split <;> rfl

/-- `execute_`, on the radio of the linker's client: the steps on the way, and the end. -/
def linkJob (nimble : NimbleAddresses) (env : RadioEnv) (request : Request)
    (radio : LockRadio)
    : List Move × LockRadio :=
  let (exchange, radio) :=
    provisionAndVerifyReporting keystream gcm (radioLink nimble env) recordingCallbacks
      request.provisioningConfig (makeProvisionCommands request.slot request.sharedKey)
      request.sharedConfig { radio with events := [] }
  ((stepsOf radio).map .step ++ closingMoves (outcomeOf request exchange), radio)

/-- A job ends as its exchange does when nobody listens, and its steps follow the script. -/
theorem linkJob_scripted (nimble : NimbleAddresses) (env : RadioEnv) (request : Request)
    (radio : LockRadio)
    : ∃ retried steps : List UInt8,
        let outcome :=
          (linkOutcome keystream gcm (radioLink nimble env) request
            { radio with events := [] }).1
        (linkJob keystream gcm nimble env request radio).1
          = steps.map .step ++ closingMoves outcome
        ∧ (∀ err, outcome = .error err → err ≠ "")
        ∧ (retried = [] ∨ retried = [0])
        ∧ Plays (retried ++ [0, 1, 2, 3, 3, 4, 5, 6]) steps (outcome = .ok ()) := by
  let blank : LockRadio := { radio with events := [] }
  have same : blank.Same blank := ⟨[], rfl⟩
  have unheard :=
    (PhysicalLockClient.radioLink_deaf nimble env).provisionAndVerify keystream gcm
      PhysicalLockClient.recordingCallbacks_apart request.provisioningConfig
      (makeProvisionCommands request.slot request.sharedKey) request.sharedConfig same
  obtain ⟨retried, once, connects⟩ :=
    connect_performs nimble env blank request.provisioningConfig
  obtain ⟨steps, shown, plays⟩ :=
    (radioLink_quiet nimble env).provisionAndVerify keystream gcm recordingCallbacks_show
      request.provisioningConfig (makeProvisionCommands request.slot request.sharedKey)
      request.sharedConfig connects
  have script
      : cues.script (makeProvisionCommands request.slot request.sharedKey)
        = [2, 3, 3, 4, 5, 6] := rfl
  have outcome
      : (linkOutcome keystream gcm (radioLink nimble env) request blank).1
        = outcomeOf request
            (provisionAndVerifyReporting keystream gcm (radioLink nimble env)
              recordingCallbacks request.provisioningConfig
              (makeProvisionCommands request.slot request.sharedKey) request.sharedConfig
              blank).1 := by
    rw [linkOutcome_eq, unheard.result]
  refine ⟨retried, steps, ?_, fun err failed => outcomeOf_text (outcome ▸ failed), once, ?_⟩
  · rw [outcome, linkJob]
    dsimp only
    rw [shown]
    rfl
  · rw [outcome]
    rw [script, List.append_assoc] at plays
    refine ⟨plays.begins, fun linked => plays.whole ?_⟩
    unfold outcomeOf at linked
    split at linked
    · cases linked
    · assumption

end

-----------------------------------------------------------------------------------------
-- The reports of a link job
-----------------------------------------------------------------------------------------

/-- The label under which a step is marked. -/
def label (step : UInt8) : String := stepLabels.getD step.toNat ""

/-- A move, as it changes the status. -/
def Move.status : Move → Option StatusMove
  | .step number => some (.step number)
  | .storeSlot => none
  | .succeed => some (.succeed "Lock linked")
  | .fail error => some (.fail error)

/-- The statuses on the way of a job, by induction over its steps. -/
theorem foldl_move_status {steps : List UInt8} (below : ∀ step ∈ steps, step < stepCount)
    (outcome : Except String Unit) {linker : LockLinker} {request : Request}
    (running : linker.task = some { request }) {shown : List Move}
    (within : shown <+: steps.map .step ++ closingMoves outcome)
    : (shown.foldl move linker).status
      = (shown.filterMap Move.status).foldl (JobStatus.move label) linker.status := by
  induction steps generalizing linker shown with
  | nil =>
      cases outcome with
      | error err =>
          rcases List.prefix_cons_iff.mp within with rfl | ⟨rest, rfl, inEnd⟩
          · rfl
          · obtain rfl := List.prefix_nil.mp inEnd
            simp [move, running, execute, Move.status, JobStatus.move,
              BackgroundBleJob.markFailed]
      | ok =>
          rcases List.prefix_cons_iff.mp within with rfl | ⟨rest, rfl, inEnd⟩
          · rfl
          rcases List.prefix_cons_iff.mp inEnd with rfl | ⟨last, rfl, nothing⟩
          · simp only [List.foldl_cons, List.foldl_nil, move, running, execute]
            rfl
          · obtain rfl := List.prefix_nil.mp nothing
            simp only [List.foldl_cons, List.foldl_nil, move, running, execute]
            rfl
  | cons step rest ih =>
      rcases List.prefix_cons_iff.mp within with rfl | ⟨later, rfl, inRest⟩
      · rfl
      · have first : step < stepCount := below step (.head rest)
        have marked
            : linker.move (.step step) = linker.markStep step (stepLabels.getD step.toNat "") := by
          simp [move, running, execute, UInt8.not_le.mpr first]
        have still : (linker.move (.step step)).task = some { request } := by
          rw [marked]
          exact running
        have tail := ih (fun step member => below step (.tail _ member)) still inRest
        rw [List.foldl_cons, tail, marked]
        rfl

/-- The move at which a job fails leaves its step alone. -/
theorem move_failed (linker : LockLinker) (next : Move)
    (works : linker.status.report.done = false)
    (failed : (linker.move next).status.report.error ≠ none)
    : (linker.move next).status.report.step = linker.status.report.step := by
  unfold move at failed ⊢
  split at failed
  case h_2 => rfl
  rename_i task busy
  cases next with
  | step number =>
      simp only [JobStatus.report, Bool.or_eq_false_iff, decide_eq_false_iff_not] at works
      by_cases skipped : task.slotStored = true ∨ number ≥ stepCount
      · simp [execute, skipped]
      · simp [JobStatus.report, execute, skipped, BackgroundBleJob.markStep, works.1] at failed
  | storeSlot =>
      simp only [execute]
      split <;> rfl
  | succeed =>
      cases stored : task.slotStored with
      | true =>
          simp [JobStatus.report, execute, stored, setSuccess,
            BackgroundBleJob.markSuccess] at failed
      | false => simp [execute, stored]
  | fail error =>
      simp only [execute]
      split <;> rfl

/-- The job as `start` leaves it. -/
def started (request : Request) (id : JobId) : LockLinker where
  status := .started label stepCount id
  payload := {}
  task := some { request }

/-- A job that is occupied and gets its task is one that has started. -/
theorem launched_eq_started {ui next : PairingUi} {id : JobId} (request : Request)
    (occupied : ui.occupyLinker id = some next)
    : (next.launchLinker request true).linker = started request id := by
  obtain ⟨_, rfl⟩ := PairingUi.occupyLinker_eq_some occupied
  rfl

/-- What the browser is told of a link job after some of its moves. -/
def reportAfter (request : Request) (id : JobId) (moves : List Move) : JobReport :=
  (moves.foldl move (started request id)).status.report

theorem linkJob_reports_lead (keystream : Keystream) (gcm : AesGcm)
    (nimble : NimbleAddresses) (env : RadioEnv) (request : Request) (radio : LockRadio)
    (id : JobId)
    : let moves := (linkJob keystream gcm nimble env request radio).1
      let report := reportAfter request id
      (∀ early late,
          early <+: late
          → late <+: moves
          → (report early).Leads stepLabel stepCount (report late))
      ∧ (∀ before move,
          before ++ [move] <+: moves
          → (report (before ++ [move])).error ≠ none
          → (report (before ++ [move])).step = (report before).step)
      ∧ (report moves).done = true := by
  obtain ⟨retried, steps, moved, text, once, plays⟩ :=
    linkJob_scripted keystream gcm nimble env request radio
  generalize (linkOutcome keystream gcm (radioLink nimble env) request
    { radio with events := [] }).1 = outcome at moved text plays
  have script
      : (retried ++ [0, 1, 2, 3, 3, 4, 5, 6]).Pairwise (· ≤ ·)
        ∧ ∀ step ∈ retried ++ [0, 1, 2, 3, 3, 4, 5, 6], step < stepCount := by
    rcases once with rfl | rfl <;> decide +kernel
  have below (step : UInt8) (member : step ∈ steps) : step < stepCount :=
    script.2 step (plays.mem member)
  obtain ⟨ending, ends, closing⟩
      : ∃ ending : StatusMove,
          ending.Ends ∧ (closingMoves outcome).filterMap Move.status = [ending] := by
    cases outcome with
    | ok => exact ⟨_, .success "Lock linked", rfl⟩
    | error err => exact ⟨_, .failure (text err rfl), rfl⟩
  have statuses
      : (steps.map Move.step ++ closingMoves outcome).filterMap Move.status
        = steps.map .step ++ [ending] := by
    rw [List.filterMap_append, closing, List.filterMap_map]
    exact congrArg (· ++ [ending]) (List.filterMap_eq_map ▸ rfl)
  intro moves report
  have begun : (started request id).task = some { request } := rfl
  have reported {shown : List Move} (within : shown <+: moves)
      : report shown
        = ((shown.filterMap Move.status).foldl (JobStatus.move label)
            (.started label stepCount id)).report :=
    congrArg JobStatus.report
      (foldl_move_status below outcome begun (moved ▸ within))
  have leads (early late : List Move) (shown : early <+: late) (within : late <+: moves)
      : (report early).Leads stepLabel stepCount (report late) := by
    rw [reported within, reported (shown.trans within)]
    have inScript := within.filterMap Move.status
    simp only [moves, moved, statuses] at inScript
    refine (reports_lead label stepCount id (plays.pairwise script.1) below (by decide) ends
      (shown.filterMap Move.status) inScript).relabel fun step below => ?_
    rw [stepLabel, if_pos below]
    rfl
  refine ⟨leads, fun before next within failed => ?_, ?_⟩
  · refine (leads before _ (List.prefix_append before [next]) within).fails_in_place
      (fun works failed => ?_) failed
    simp only [report, reportAfter, List.foldl_append, List.foldl_cons, List.foldl_nil]
      at works failed ⊢
    exact move_failed _ next works failed
  · rw [reported List.prefix_rfl]
    simp only [moves, moved, statuses]
    rw [List.foldl_append]
    cases ends with
    | success => rfl
    | failure => rfl

end LockLinker

/-- A browser that polls a job at any two of its moments is never told to go back: the step only
grows, an end is final, a working job is at one of the steps that the page lists, under the label
that the page lists, a success is at the last step, and a failure is at the step of the report
just before it and has a text. The whole job is done. This holds of every pairing and of every
lock link, whatever happens on the air.
-/
theorem job_reports_advance (keystream : Keystream) (gcm : AesGcm)
    : (∀ (env : KeypadPairer.HandshakeEnv) (request : KeypadPairer.Request) (iv : Iv)
        (id : JobId),
        let moves := (KeypadPairer.Handshake.runJob keystream env request iv).moves
        let report := KeypadPairer.reportAfter request id
        (∀ early late,
            early <+: late
            → late <+: moves
            → (report early).Leads (KeypadPairer.stepLabel request.family)
                (KeypadPairer.stepCount request.family) (report late))
        ∧ (∀ before move,
            before ++ [move] <+: moves
            → (report (before ++ [move])).error ≠ none
            → (report (before ++ [move])).step = (report before).step)
        ∧ (report moves).done = true)
      ∧ ∀ (nimble : PhysicalLockClient.NimbleAddresses)
        (env : PhysicalLockClient.RadioEnv) (request : LockLinker.Request)
        (radio : PhysicalLockClient.LockRadio) (id : JobId),
        let moves := (LockLinker.linkJob keystream gcm nimble env request radio).1
        let report := LockLinker.reportAfter request id
        (∀ early late,
            early <+: late
            → late <+: moves
            → (report early).Leads LockLinker.stepLabel LockLinker.stepCount (report late))
        ∧ (∀ before move,
            before ++ [move] <+: moves
            → (report (before ++ [move])).error ≠ none
            → (report (before ++ [move])).step = (report before).step)
        ∧ (report moves).done = true :=
  ⟨KeypadPairer.runJob_reports_lead keystream, LockLinker.linkJob_reports_lead keystream gcm⟩

end KeypadBridge
