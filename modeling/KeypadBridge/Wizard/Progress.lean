import KeypadBridge.Foundation.Script
import KeypadBridge.Wizard.KeypadHandshake
import KeypadBridge.Wizard.PairingUi

/-! What the browser is told of a job. It polls at any moments while the task works. What it is
told never goes back, an end is final, and a failure has a text.
-/

namespace KeypadBridge
open KeypadBridge.Foundation

-----------------------------------------------------------------------------------------
-- Reports
-----------------------------------------------------------------------------------------

/-- What the status handlers answer. -/
structure JobReport where
  step : UInt8
  total : UInt8
  message : String
  done : Bool
  error : Option String
  deriving DecidableEq

/-- `job_status_json_`. -/
def JobStatus.report (status : JobStatus) : JobReport where
  step := status.step
  total := status.total
  message := status.message
  done := status.state = .failed || status.state = .success
  error := if status.state = .failed then some status.error else none

/-- A report, and one that is given later of the same job. While the job works, the step is one
of those that the page shows; an end is the last step or an error that the page can show.
-/
structure JobReport.Leads (label : UInt8 → String) (total : UInt8) (early late : JobReport)
    : Prop where
  forward : early.step ≤ late.step
  final : early.done = true → late = early
  sum : late.total = total
  working
    : late.done = false → late.error = none ∧ late.step < total ∧ late.message = label late.step
  succeeded : late.done = true → late.error = none → late.step = total
  failed
    : ∀ error,
        late.error = some error
        → late.done = true ∧ late.step < total ∧ late.message = error ∧ error ≠ ""

/-- What a job's task does to the status of the job. -/
inductive StatusMove where
  | step (step : UInt8)
  | succeed (message : String)
  | fail (error : String)

namespace JobStatus

/-- `mark_step_` with the label of the step, `mark_failed_`, and the end of `set_success_`. -/
def move (label : UInt8 → String) (status : JobStatus) : StatusMove → JobStatus
  | .step step => { status with step, message := label step }
  | .succeed message =>
      { status with state := .success, step := status.total, message, error := "" }
  | .fail error => { status with state := .failed, error, message := error }

/-- What `start_job_` leaves. -/
def started (label : UInt8 → String) (total : UInt8) (id : JobId) : JobStatus where
  state := .running
  total := total
  message := label 0
  jobId := some id

/-- The status of a job that has reported these steps. -/
def working (label : UInt8 → String) (total : UInt8) (id : JobId) (steps : List UInt8)
    : JobStatus :=
  let step := steps.getLast?.getD 0
  { started label total id with step, message := label step }

variable {label : UInt8 → String} {total : UInt8} {id : JobId}

/-- Reported steps, by induction from the last one. -/
theorem foldl_steps (steps : List UInt8)
    : (steps.map StatusMove.step).foldl (move label) (started label total id)
      = working label total id steps := by
  induction steps using List.reverseRecOn with
  | nil => rfl
  | append_singleton steps step ih => simp [ih, move, working]

end JobStatus

/-- How a job ends: with its success, or with an error text. -/
inductive StatusMove.Ends : StatusMove → Prop
  | success (message : String) : Ends (.succeed message)
  | failure {error : String} (text : error ≠ "") : Ends (.fail error)

/-- The last of the first steps is no later than the last of more steps. -/
theorem lastStep_le {early late : List UInt8} (shown : early <+: late)
    (ordered : late.Pairwise (· ≤ ·))
    : early.getLast?.getD 0 ≤ late.getLast?.getD 0 := by
  obtain ⟨more, rfl⟩ := shown
  cases more using List.reverseRecOn with
  | nil => simp
  | append_singleton more last =>
      rw [← List.append_assoc, List.getLast?_append, List.getLast?_singleton]
      cases found : early.getLast? with
      | none => simp
      | some step =>
          have ordered := (List.pairwise_append.mp ordered).2.2
          exact ordered step (List.mem_of_getLast? found) last (by simp)

namespace JobStatus

variable {label : UInt8 → String} {total : UInt8} {id : JobId} {steps shown : List UInt8}

theorem lastStep_lt (below : ∀ step ∈ steps, step < total) (positive : 0 < total)
    : steps.getLast?.getD 0 < total := by
  cases found : steps.getLast? with
  | none => simpa using positive
  | some step => exact below step (List.mem_of_getLast? found)

/-- Two reports while the job works. -/
theorem working_leads (before : shown <+: steps) (ordered : steps.Pairwise (· ≤ ·))
    (below : ∀ step ∈ steps, step < total) (positive : 0 < total)
    : (working label total id shown).report.Leads label total
        (working label total id steps).report where
  forward := lastStep_le before ordered
  final := nofun
  sum := rfl
  working _ := ⟨rfl, lastStep_lt below positive, rfl⟩
  succeeded := nofun
  failed := nofun

/-- A report of a job that works, and the one at its end. -/
theorem working_leads_end (before : shown <+: steps) (ordered : steps.Pairwise (· ≤ ·))
    (below : ∀ step ∈ steps, step < total) (positive : 0 < total) {ending : StatusMove}
    (ends : ending.Ends)
    : (working label total id shown).report.Leads label total
        ((working label total id steps).move label ending).report := by
  have forward := lastStep_le before ordered
  have last := lastStep_lt below positive
  cases ends with
  | success message =>
      exact
        { forward := UInt8.le_trans forward (UInt8.le_of_lt last)
          final := nofun
          sum := rfl
          working := nofun
          succeeded := fun _ _ => rfl
          failed := nofun }
  | @failure error text =>
      exact
        { forward
          final := nofun
          sum := rfl
          working := nofun
          succeeded := nofun
          failed := fun other same => by
            obtain rfl : error = other := Option.some.inj same
            exact ⟨rfl, last, rfl, text⟩ }

end JobStatus

/-- A report at the end is the last word. -/
theorem JobReport.Leads.repeated {label : UInt8 → String} {total : UInt8}
    {early late : JobReport} (leads : early.Leads label total late)
    : late.Leads label total late :=
  { leads with
    forward := UInt8.le_refl late.step
    final := fun _ => rfl }

/-- Only the labels of the steps count. -/
theorem JobReport.Leads.relabel {label other : UInt8 → String} {total : UInt8}
    {early late : JobReport} (leads : early.Leads label total late)
    (same : ∀ step < total, label step = other step)
    : early.Leads other total late :=
  { leads with
    working := fun goes => by
      obtain ⟨error, below, message⟩ := leads.working goes
      exact ⟨error, below, message.trans (same late.step below)⟩ }

/-- A job whose failing moves leave the step alone is reported to fail at the step before. -/
theorem JobReport.Leads.fails_in_place {label : UInt8 → String} {total : UInt8}
    {before after : JobReport} (leads : before.Leads label total after)
    (moved : before.done = false → after.error ≠ none → after.step = before.step)
    (failed : after.error ≠ none)
    : after.step = before.step := by
  cases ended : before.done with
  | true => rw [leads.final ended]
  | false => exact moved ended failed

/-- The reports of a job whose steps go forward and stay below the total, and that then ends. -/
theorem reports_lead (label : UInt8 → String) (total : UInt8) (id : JobId) {steps : List UInt8}
    {ending : StatusMove} (ordered : steps.Pairwise (· ≤ ·))
    (below : ∀ step ∈ steps, step < total) (positive : 0 < total) (ends : ending.Ends)
    {early late : List StatusMove} (shown : early <+: late)
    (within : late <+: steps.map .step ++ [ending])
    : let report (moves : List StatusMove) :=
        (moves.foldl (JobStatus.move label) (.started label total id)).report
      (report early).Leads label total (report late) := by
  intro report
  have working (steps : List UInt8)
      : report (steps.map .step) = (JobStatus.working label total id steps).report :=
    congrArg JobStatus.report (JobStatus.foldl_steps steps)
  have ended
      : report (steps.map .step ++ [ending])
        = ((JobStatus.working label total id steps).move label ending).report := by
    simp only [report, List.foldl_append, JobStatus.foldl_steps, List.foldl_cons, List.foldl_nil]
  rcases List.prefix_concat_iff.mp within with rfl | inSteps
  · rw [ended]
    rcases List.prefix_concat_iff.mp shown with rfl | earlySteps
    · rw [ended]
      exact (JobStatus.working_leads_end (List.nil_prefix) ordered below positive ends).repeated
    · obtain ⟨shownSteps, before, rfl⟩ := List.prefix_map_iff.mp earlySteps
      rw [working]
      exact JobStatus.working_leads_end before ordered below positive ends
  · obtain ⟨lateSteps, inside, rfl⟩ := List.prefix_map_iff.mp inSteps
    obtain ⟨shownSteps, before, rfl⟩ := List.prefix_map_iff.mp shown
    rw [working, working]
    exact JobStatus.working_leads before (ordered.sublist inside.sublist)
      (fun step member => below step (inside.subset member)) positive

-----------------------------------------------------------------------------------------
-- The keypad pairer
-----------------------------------------------------------------------------------------

namespace KeypadPairer

/-- The label under which a step is marked. -/
def label (step : UInt8) : String := stepLabels.getD step.toNat ""

/-- A move, as it changes the status. -/
def Move.status : Move → StatusMove
  | .step number => .step number
  | .succeed => .succeed "Keypad linked"
  | .fail error => .fail error

theorem foldl_execute_status (request : Request) (moves : List Move) (pairer : KeypadPairer)
    : (moves.foldl (fun pairer move => pairer.execute request move) pairer).status
      = (moves.map Move.status).foldl (JobStatus.move label) pairer.status := by
  induction moves generalizing pairer with
  | nil => rfl
  | cons move rest ih =>
      rw [List.foldl_cons, ih]
      cases move <;> rfl

/-- The move at which a job fails leaves its step alone. -/
theorem execute_failed (pairer : KeypadPairer) (request : Request) (move : Move)
    (works : pairer.status.report.done = false)
    (failed : (pairer.execute request move).status.report.error ≠ none)
    : (pairer.execute request move).status.report.step = pairer.status.report.step := by
  cases move with
  | step number =>
      simp only [JobStatus.report, Bool.or_eq_false_iff, decide_eq_false_iff_not] at works
      simp [JobStatus.report, execute, BackgroundBleJob.markStep, works.1] at failed
  | succeed => simp [JobStatus.report, execute, BackgroundBleJob.markSuccess] at failed
  | fail error => rfl

/-- A job's moves: some steps of a script, all of them before a success, and then the end. -/
structure Scripted (script : List UInt8) (moves : List Move) : Prop where
  moved
    : ∃ steps ending,
        moves = steps.map .step ++ [ending]
        ∧ ending.status.Ends
        ∧ Plays script steps (ending = .succeed)

/-- The steps that a plan announces. -/
def announced (plan : List PlannedCommand) : List UInt8 := plan.filterMap PlannedCommand.step

theorem announced_cons (command : PlannedCommand) (rest : List PlannedCommand)
    : announced (command :: rest) = command.step.toList ++ announced rest := by
  cases step : command.step <;> simp [announced, step]

/-- Every error of a plan has a text. -/
def NamesErrors (plan : List PlannedCommand) : Prop :=
  ∀ command ∈ plan, command.error ≠ some ""

theorem Handshake.announce_moves (handshake : Handshake) (command : PlannedCommand)
    : (handshake.announce command).moves
      = handshake.moves ++ command.step.toList.map .step := by
  unfold announce
  split <;> rename_i step <;> simp [step, report]

section

variable (keystream : Keystream) {env : HandshakeEnv} {request : Request}

/-- The commands add their steps in order, by induction over the plan. -/
theorem Handshake.runPlan_scripted {plan : List PlannedCommand} (named : NamesErrors plan)
    {earlier : List UInt8} {handshake : Handshake}
    (moved : handshake.moves = earlier.map .step)
    : Scripted (earlier ++ announced plan)
        (handshake.runPlan keystream env request plan).moves := by
  induction plan generalizing earlier handshake with
  | nil =>
      refine ⟨earlier, .succeed, ?_, .success _, ?_⟩
      · simp [runPlan, clientDid, report, moved]
      · simpa [announced] using Plays.all earlier (Move.succeed = .succeed)
  | cons command rest ih =>
      rcases done : (handshake.announce command).sendCommand keystream env request command
        with ⟨sent, written⟩
      have kept :=
        (sendCommand_eq keystream env request command (handshake.announce command)).2.2.1
      rw [done, announce_moves, moved, ← List.map_append] at kept
      rw [announced_cons, ← List.append_assoc]
      by_cases rejected : sent = false ∧ command.error.isSome = true
      · obtain ⟨rfl, observed⟩ := rejected
        obtain ⟨error, observed⟩ := Option.isSome_iff_exists.mp observed
        rw [runPlan_cons_of_failed rest done observed]
        refine ⟨earlier ++ command.step.toList, .fail error, ?_,
          .failure fun blank => named command (.head rest) (blank ▸ observed), ?_⟩
        · simp only [abort, clientDid, report]
          rw [kept]
        · exact (Plays.all _ True).stopped _ (by simp)
      · have passed : sent = true ∨ command.error = none := by
          cases sent with
          | true => exact .inl rfl
          | false => exact .inr (by simpa using rejected)
        rw [runPlan_cons_of_passed rest done passed]
        exact ih (fun command member => named command (.tail _ member)) kept

/-- A job without a session fails at one of its first three steps. -/
theorem Handshake.openSession_scripted (env : HandshakeEnv) (request : Request) (iv : Iv)
    : match openSession env request { iv } with
      | .error ended => ∀ later, Scripted ([0, 1, 2] ++ later) ended.moves
      | .ok opened => opened.moves = [0, 1, 2].map .step := by
  have failed {steps : List UInt8} (begins : steps <+: [0, 1, 2]) {error : String}
      (text : error ≠ "") (later : List UInt8)
      : Scripted ([0, 1, 2] ++ later) (steps.map .step ++ [.fail error]) :=
    ⟨steps, .fail error, rfl, .failure text,
      begins.trans (List.prefix_append [0, 1, 2] later), by simp⟩
  have atFirst : [0] <+: [(0 : UInt8), 1, 2] := by decide
  unfold openSession
  dsimp only
  cases (discoverTarget env.scan request.keypadMac).filter
      fun found => !found.1.addressIsNull with
  | none => exact failed atFirst (by decide)
  | some found =>
      dsimp only [connectService]
      cases env.clientCreated with
      | false => exact failed atFirst (by decide)
      | true =>
      cases env.connected with
      | false => exact failed atFirst (by decide)
      | true =>
      cases env.serviceFound with
      | false => exact failed atFirst (by decide)
      | true =>
      simp only [Bool.not_true, Bool.false_eq_true, if_false]
      generalize subscribed : ((((report { iv } (.step 0)).clientDid
        [.created, .connected]).report (.step 1)).report (.step 2)) = handshake
      have moves : (handshake.onNotifyAll env.beforeRequest).moves = [0, 1, 2].map .step := by
        rw [onNotifyAll_moves, ← subscribed]
        rfl
      cases env.requestWritten with
      | false =>
          simp only [Bool.not_false, if_true, abort, clientDid, report, moves]
          exact failed List.prefix_rfl (by decide)
      | true =>
          have waited :=
            (awaitIv_spec (handshake.onNotifyAll env.beforeRequest) (env.rounds.take 6)).1
          simp only [Bool.not_true, Bool.false_eq_true, if_false]
          generalize (handshake.onNotifyAll env.beforeRequest).awaitIv (env.rounds.take 6)
            = ready at waited
          cases ready.ivReceived with
          | false =>
              simp only [Bool.not_false, if_true, abort, clientDid, report, waited, moves]
              exact failed List.prefix_rfl (by decide)
          | true => exact waited.trans moves

theorem Request.plan_namesErrors (request : Request) : NamesErrors request.plan := by
  unfold Request.plan presetFor
  split <;> simp [NamesErrors, commandPlan, visionPreset, originalPreset]

/-- The script of a job is each of its family's steps, once and in order. -/
theorem Request.script_eq (request : Request)
    : [0, 1, 2] ++ announced request.plan
      = (List.range (stepCount request.family).toNat).map UInt8.ofNat := by
  unfold Request.plan presetFor stepCount
  split <;> rfl

theorem Handshake.runJob_scripted (env : HandshakeEnv) (request : Request) (iv : Iv)
    : Scripted ((List.range (stepCount request.family).toNat).map UInt8.ofNat)
        (runJob keystream env request iv).moves := by
  have opening := openSession_scripted env request iv
  rw [← request.script_eq]
  unfold runJob
  cases opened : openSession env request { iv } with
  | error ended =>
      rw [opened] at opening
      exact opening (announced request.plan)
  | ok handshake =>
      rw [opened] at opening
      exact handshake.runPlan_scripted keystream request.plan_namesErrors opening

end

/-- The job as `start` leaves it. -/
def started (request : Request) (id : JobId) : KeypadPairer where
  status := .started label (stepCount request.family) id
  payload := {}
  task := some request

/-- A job that is occupied and gets its task is one that has started. -/
theorem launched_eq_started {ui next : PairingUi} {id : JobId} {request : Request}
    (occupied : ui.occupyPairer id request = some next)
    : (next.launchPairer request true).pairer = started request id := by
  obtain ⟨_, rfl⟩ := PairingUi.occupyPairer_eq_some occupied
  rfl

/-- What the browser is told of a pairing job after some of its moves. -/
def reportAfter (request : Request) (id : JobId) (moves : List Move) : JobReport :=
  (moves.foldl (fun pairer move => pairer.execute request move) (started request id)).status.report

theorem runJob_reports_lead (keystream : Keystream) (env : HandshakeEnv) (request : Request)
    (iv : Iv) (id : JobId)
    : let moves := (Handshake.runJob keystream env request iv).moves
      let report := reportAfter request id
      (∀ early late,
          early <+: late
          → late <+: moves
          → (report early).Leads (stepLabel request.family) (stepCount request.family)
              (report late))
      ∧ (∀ before move,
          before ++ [move] <+: moves
          → (report (before ++ [move])).error ≠ none
          → (report (before ++ [move])).step = (report before).step)
      ∧ (report moves).done = true := by
  obtain ⟨steps, ending, moved, ends, plays⟩ :=
    Handshake.runJob_scripted keystream env request iv
  have count : stepCount request.family = 8 ∨ stepCount request.family = 9 := by
    unfold stepCount
    split <;> simp
  have script
      : ((List.range (stepCount request.family).toNat).map UInt8.ofNat).Pairwise (· ≤ ·)
        ∧ (∀ step ∈ (List.range (stepCount request.family).toNat).map UInt8.ofNat,
            step < stepCount request.family)
        ∧ 0 < stepCount request.family := by
    rcases count with eight | nine
    · rw [eight]
      decide +kernel
    · rw [nine]
      decide +kernel
  intro moves report
  have leads (early late : List Move) (shown : early <+: late) (within : late <+: moves)
      : (report early).Leads (stepLabel request.family) (stepCount request.family)
          (report late) := by
    simp only [report, reportAfter, foldl_execute_status]
    have inScript := within.map Move.status
    simp only [moves, moved, List.map_append, List.map_map] at inScript
    refine (reports_lead label (stepCount request.family) id (plays.pairwise script.1)
      (fun step member => script.2.1 step (plays.mem member)) script.2.2 ends
      (shown.map Move.status) inScript).relabel fun step below => ?_
    rw [stepLabel, if_pos below]
    rfl
  refine ⟨leads, fun before move within failed => ?_, ?_⟩
  · refine (leads before _ (List.prefix_append before [move]) within).fails_in_place
      (fun works failed => ?_) failed
    simp only [report, reportAfter, List.foldl_append, List.foldl_cons, List.foldl_nil]
      at works failed ⊢
    exact execute_failed _ request move works failed
  · simp only [report, reportAfter, foldl_execute_status, moves, moved, List.map_append]
    rw [List.foldl_append]
    cases ending with
    | step => cases ends
    | succeed => rfl
    | fail => rfl

end KeypadPairer

end KeypadBridge
