import KeypadBridge.Bridge.DeviceRuns
import KeypadBridge.Foundation.JobBoard

/-! The tasks of the firmware between two restarts: the main task with `loop()` and the Reset
button, the task of the HTTP server with its request handlers, and the task of a background
job of either kind. A task is cut wherever another can come between: at its critical sections
and at its reads and writes of atomics. Any task may take the next step.
-/

namespace KeypadBridge
open KeypadBridge.Foundation

-----------------------------------------------------------------------------------------
-- Where the tasks stand
-----------------------------------------------------------------------------------------

/-- Where the main task stands: outside `loop()`, or at the call that `loop()` makes next. What
`poll_jobs` has read so far is in its local variables.
-/
inductive MainTask where
  | outside
  /-- `poll_jobs`: an armed pairing job was copied, and its state comes next. -/
  | pairState (id : JobId) (name : Bytes) (link : Option JobId)
  | pairStatus (id : JobId) (name : Bytes) (link : Option JobId)
  | pairConfirm (id : JobId) (name : Bytes) (payload : KeypadPairer.Payload)
    (link : Option JobId)
  /-- The job was confirmed, and its success callback comes next. -/
  | pairNotify (name : Bytes) (payload : KeypadPairer.Payload) (link : Option JobId)
  /-- The same for an armed lock-link job. -/
  | linkState (id : JobId)
  | linkStatus (id : JobId)
  | linkConfirm (id : JobId) (payload : LockLinker.Payload)
  | linkNotify (payload : LockLinker.Payload)
  | applyPairing
  /-- `apply_pending_pairing_` has cleared its flag. The wizard's flag for a paired keypad comes
  next, and then its family.
  -/
  | storePaired (pending : PendingPairing)
  | storeFamily (pending : PendingPairing)
  | applyLockLink
  /-- `apply_pending_lock_link_` has cleared its flag, and the wizard's flag comes next. -/
  | storeLinked (pending : PendingLock)
  /-- `stop_if_idle`: the clock, then the states of both jobs, then `httpd_stop`. -/
  | idleCheck
  | idlePairer
  | idleLinker
  | stopping
  /-- The rest of `loop()`, which has nothing to do with the wizard. -/
  | tail
  deriving DecidableEq

/-- Where the HTTP task stands: between requests, or at the next step of a handler. -/
inductive HttpTask where
  | resting
  /-- `handle_pair_` before its checks. -/
  | pairAsked (mac : Bytes) (family : KeypadFamily)
  /-- The checks were passed, and the cloud comes next. -/
  | pairAllowed (mac : Bytes) (family : KeypadFamily)
  | pairReady (request : KeypadPairer.Request) (name : Bytes)
  /-- The job is running, and its task comes next. -/
  | pairOccupied (id : JobId) (request : KeypadPairer.Request) (name : Bytes)
  | pairLaunched (id : JobId) (family : KeypadFamily) (name : Bytes)
  /-- `handle_lock_link_` before its checks. -/
  | linkAsked (mac : Bytes)
  /-- A keypad was found linked, and the look for a linked lock comes next. -/
  | linkGated (mac : Bytes)
  | linkAllowed (mac : Bytes)
  | linkReady (request : LockLinker.Request)
  | linkOccupied (id : JobId) (request : LockLinker.Request)
  | linkLaunched (id : JobId)
  deriving DecidableEq

/-- The component with the tasks around it. The task of a job is part of its job object. -/
structure Firmware where
  device : Device
  main : MainTask := .outside
  http : HttpTask := .resting

-----------------------------------------------------------------------------------------
-- Operations and what they show
-----------------------------------------------------------------------------------------

/-- What a step of `loop()` finds outside. -/
structure MainEnv where
  millis : UInt32
  accepts : PrefKey → Bool

/-- A request to the wizard, by what its handler reads of the body. -/
inductive HttpRequest where
  | pair (mac : Bytes) (family : String)
  | lockLink (mac : Bytes)
  /-- A request whose handler only touches the activity clock, reads and replies. -/
  | other

/-- What a step of a handler finds outside. -/
structure HttpEnv where
  cloud : CloudAnswers
  espMac : MacBytes
  millis : UInt32
  taskCreated : Bool

inductive FirmwareOp where
  /-- The next step of `loop()`. -/
  | main (env : MainEnv)
  /-- A call of `loop()` behind the wizard's part. -/
  | serve (op : LoopOp)
  /-- The Reset button. -/
  | reset (env : ResetEnv)
  | request (request : HttpRequest) (millis : UInt32)
  /-- The next step of the handler that is running. -/
  | handle (env : HttpEnv)
  | pairJob (move : KeypadPairer.Move)
  | linkJob (move : LockLinker.Move)

abbrev PairingLabel := JobBoard.Label JobId Bytes KeypadPairer.Request KeypadPairer.Payload
abbrev LinkLabel := JobBoard.Label JobId Unit LockLinker.Request LockLinker.Payload

/-- What is seen of one step. The success callback of a job that is reported comes next. -/
inductive WizardEvent where
  | pairing (label : PairingLabel)
  | link (label : LinkLabel)
  /-- `handle_pair_` found no keypad linked. -/
  | pairAllowed
  /-- `handle_lock_link_` found no lock linked. -/
  | linkAllowed
  | linkRequested (request : LockLinker.Request)
  | replied (reply : HttpReply)
  | milestone (milestone : Milestone)
  | serverStopped
  deriving DecidableEq

-----------------------------------------------------------------------------------------
-- The main task
-----------------------------------------------------------------------------------------

/-- `poll_jobs` goes on to the lock link, if one is armed. -/
def MainTask.pollLink : Option JobId → MainTask
  | some id => .linkState id
  | none => .applyPairing

/-- `poll_jobs` behind its first critical section. -/
def MainTask.poll (pairing : Option (JobId × Bytes)) (link : Option JobId) : MainTask :=
  match pairing with
  | some (id, name) => .pairState id name link
  | none => .pollLink link

/-- A call that links a keypad or a lock; the main task makes it in the steps above. -/
def LoopOp.isLinking : LoopOp → Bool
  | .paired .. | .lockLinked .. | .applyPairing .. | .applyLockLink .. => true
  | _ => false

namespace Firmware

def withUi (firmware : Firmware) (ui : PairingUi) : Firmware :=
  { firmware with device := { firmware.device with pairingUi := ui } }

section

variable (firmware : Firmware)

/-- `poll_jobs` looks at the pairing job once more, and closes the gate if it is to be reported.
-/
def confirmPairing (id : JobId) (name : Bytes) (payload : KeypadPairer.Payload)
    (link : Option JobId)
    : Firmware × List WizardEvent :=
  let (ui, notify) := firmware.device.pairingUi.confirmPairing id
  let firmware := firmware.withUi ui
  if notify then
    ({ firmware with main := .pairNotify name payload link },
      [.pairing (.fired id name payload)])
  else ({ firmware with main := .pollLink link }, [.pairing .passed])

/-- The same for the lock-link job. -/
def confirmLink (id : JobId) (payload : LockLinker.Payload) : Firmware × List WizardEvent :=
  let (ui, notify) := firmware.device.pairingUi.confirmLink id
  let firmware := firmware.withUi ui
  if notify then
    ({ firmware with main := .linkNotify payload }, [.link (.fired id () payload)])
  else ({ firmware with main := .applyPairing }, [.link .passed])

/-- The next step of `loop()`; it polls the jobs only while the server runs. -/
def performMain (env : MainEnv) : Firmware × List WizardEvent :=
  let device := firmware.device
  let ui := device.pairingUi
  match firmware.main with
  | .outside =>
      if device.failed then (firmware, [])
      else if ui.server then
        ({ firmware with main := .poll ui.armedPairing ui.armedLink },
          [.pairing .snapshot, .link .snapshot])
      else ({ firmware with main := .applyPairing }, [])
  | .pairState id name link =>
      ({ firmware with
          main :=
            if ui.pairer.status.state = .success then .pairStatus id name link
            else .pollLink link },
        [.pairing .looked])
  | .pairStatus id name link =>
      ({ firmware with
          main :=
            if ui.pairer.status.jobId = some id then
              .pairConfirm id name ui.pairer.payload link
            else .pollLink link },
        [.pairing .copied])
  | .pairConfirm id name payload link => firmware.confirmPairing id name payload link
  | .pairNotify name payload link =>
      ({ firmware with
          device := device.onPaired name payload.keypadMac payload.family
          main := .pollLink link },
        [])
  | .linkState id =>
      ({ firmware with
          main := if ui.linker.status.state = .success then .linkStatus id else .applyPairing },
        [.link .looked])
  | .linkStatus id =>
      ({ firmware with
          main :=
            if ui.linker.status.jobId = some id then .linkConfirm id ui.linker.payload
            else .applyPairing },
        [.link .copied])
  | .linkConfirm id payload => firmware.confirmLink id payload
  | .linkNotify payload =>
      ({ firmware with
          device := device.onLockLinked payload.name payload.mac payload.model payload.slotId
          main := .applyPairing },
        [])
  | .applyPairing =>
      match device.pendingPairing with
      | none => ({ firmware with main := .applyLockLink }, [])
      | some pending =>
          ({ firmware with
              device := { device with pendingPairing := none }
              main := .storePaired pending },
            [])
  | .storePaired pending =>
      ({ firmware with
          device := device.storePaired pending env.accepts
          main := .storeFamily pending },
        [])
  | .storeFamily pending =>
      ({ firmware with
          device := (device.storeFamily pending env.millis).1
          main := .applyLockLink },
        [.milestone (.pairingApplied pending)])
  | .applyLockLink =>
      match device.pendingLock with
      | none => ({ firmware with main := .idleCheck }, [])
      | some pending =>
          ({ firmware with
              device := { device with pendingLock := none }
              main := .storeLinked pending },
            [])
  | .storeLinked pending =>
      ({ firmware with
          device := (device.storeLinked pending env.millis env.accepts).1
          main := .idleCheck },
        [.milestone (.lockApplied pending)])
  | .idleCheck =>
      ({ firmware with
          main :=
            if device.keypadPaired && ui.server && ui.isIdle env.millis then .idlePairer
            else .tail },
        [])
  | .idlePairer =>
      if ui.pairer.status.state = .running then ({ firmware with main := .tail }, [])
      else ({ firmware with main := .idleLinker }, [.pairing .checked])
  | .idleLinker =>
      if ui.linker.status.state = .running then ({ firmware with main := .tail }, [])
      else ({ firmware with main := .stopping }, [.link .checked])
  | .stopping =>
      -- `httpd_stop` returns when the server's task has ended its request.
      if firmware.http = .resting then
        ({ firmware.withUi ui.stop with main := .tail }, [.serverStopped])
      else (firmware, [])
  | .tail => ({ firmware with main := .outside }, [])

/-- With no other task in between, the steps of `apply_pending_pairing_` are its whole call. -/
theorem performMain_applyPendingPairing (taking saving storing : MainEnv)
    (reached : firmware.main = .applyPairing) (waiting : firmware.device.pendingPairing ≠ none)
    : (((firmware.performMain taking).1.performMain saving).1.performMain storing).1
      = { firmware with
          device := (firmware.device.applyPendingPairing storing.millis saving.accepts).1
          main := .applyLockLink } := by
  obtain ⟨pending, parked⟩ := Option.ne_none_iff_exists'.mp waiting
  simp only [performMain, reached, parked, Device.applyPendingPairing]

/-- The same for `apply_pending_lock_link_`. -/
theorem performMain_applyPendingLockLink (taking storing : MainEnv)
    (reached : firmware.main = .applyLockLink) (waiting : firmware.device.pendingLock ≠ none)
    : ((firmware.performMain taking).1.performMain storing).1
      = { firmware with
          device := (firmware.device.applyPendingLockLink storing.millis storing.accepts).1
          main := .idleCheck } := by
  obtain ⟨pending, parked⟩ := Option.ne_none_iff_exists'.mp waiting
  simp only [performMain, reached, parked, Device.applyPendingLockLink]

/-- The Reset button, which the wizard blocks while its server runs. -/
def performReset (env : ResetEnv) : Firmware × List WizardEvent :=
  if firmware.main = .outside ∧ firmware.device.pairingUi.server = false then
    ({ firmware with device := (firmware.device.resetPairing env).1 },
      [.milestone (if env.keyImport.isSome then .linksReset else .resetAborted)])
  else (firmware, [])

-----------------------------------------------------------------------------------------
-- The HTTP task
-----------------------------------------------------------------------------------------

/-- A new request reaches its handler. -/
def receiveRequest (request : HttpRequest) (millis : UInt32)
    : Firmware × List WizardEvent :=
  if firmware.device.pairingUi.server = true ∧ firmware.http = .resting then
    let firmware := firmware.withUi (firmware.device.pairingUi.touchActivity millis)
    match request with
    | .pair mac family => ({ firmware with http := .pairAsked mac (.ofName family) }, [])
    | .lockLink mac => ({ firmware with http := .linkAsked mac }, [])
    | .other => (firmware, [.replied .served])
  else (firmware, [])

/-- The handler replies, and the server waits for the next request. -/
def reply (reply : HttpReply) : Firmware × List WizardEvent :=
  ({ firmware with http := .resting }, [.replied reply])

/-- The next step of the running handler. -/
def performHandler (env : HttpEnv) : Firmware × List WizardEvent :=
  let ui := firmware.device.pairingUi
  match firmware.http with
  | .resting => (firmware, [])
  | .pairAsked mac family =>
      match ui.pairGate env.cloud mac with
      | some refusal => firmware.reply refusal
      | none => ({ firmware with http := .pairAllowed mac family }, [.pairAllowed])
  | .pairAllowed mac family =>
      match ui.pairRequest env.cloud env.espMac mac family with
      | .error refusal => firmware.reply refusal
      | .ok (request, name) => ({ firmware with http := .pairReady request name }, [])
  | .pairReady request name =>
      let id : JobId := ⟨'p', env.millis⟩
      match ui.occupyPairer id request with
      | none => firmware.reply PairingUi.pairBusy
      | some ui =>
          ({ firmware.withUi ui with http := .pairOccupied id request name },
            [.pairing (.started id name request)])
  | .pairOccupied id request name =>
      let firmware := firmware.withUi (ui.launchPairer request env.taskCreated)
      if env.taskCreated then
        ({ firmware with http := .pairLaunched id request.family name },
          [.pairing (.launched id name request)])
      else
        ({ firmware with http := .resting },
          [.pairing (.abandoned id), .replied PairingUi.pairBusy])
  | .pairLaunched id family name =>
      ({ firmware.withUi (ui.armPairing id name) with http := .resting },
        [.pairing (.armed id), .replied (PairingUi.pairStarted id family)])
  | .linkAsked mac =>
      match ui.linkGate env.cloud mac with
      | some refusal => firmware.reply refusal
      | none => ({ firmware with http := .linkGated mac }, [])
  | .linkGated mac =>
      match ui.lockGate with
      | some refusal => firmware.reply refusal
      | none => ({ firmware with http := .linkAllowed mac }, [.linkAllowed])
  | .linkAllowed mac =>
      match ui.linkRequest env.cloud mac with
      | .error refusal => firmware.reply refusal
      | .ok request => ({ firmware with http := .linkReady request }, [.linkRequested request])
  | .linkReady request =>
      let id : JobId := ⟨'l', env.millis⟩
      match ui.occupyLinker id with
      | none => firmware.reply PairingUi.linkBusy
      | some ui =>
          ({ firmware.withUi ui with http := .linkOccupied id request },
            [.link (.started id () request)])
  | .linkOccupied id request =>
      let firmware := firmware.withUi (ui.launchLinker request env.taskCreated)
      if env.taskCreated then
        ({ firmware with http := .linkLaunched id }, [.link (.launched id () request)])
      else
        ({ firmware with http := .resting },
          [.link (.abandoned id), .replied PairingUi.linkBusy])
  | .linkLaunched id =>
      ({ firmware.withUi (ui.armLink id) with http := .resting },
        [.link (.armed id), .replied (PairingUi.linkStarted id)])

-----------------------------------------------------------------------------------------
-- The tasks of the jobs
-----------------------------------------------------------------------------------------

/-- The label under which the move of a pairing job is seen. -/
def pairLabel (id : JobId) : KeypadPairer.Move → PairingLabel
  | .step _ => .worked
  | .succeed => .succeeded id
  | .fail _ => .failed id

/-- The next move of the pairing job's task. -/
def performPairJob (move : KeypadPairer.Move) : Firmware × List WizardEvent :=
  let ui := firmware.device.pairingUi
  match ui.pairer.task, ui.pairer.status.jobId with
  | some request, some id =>
      (firmware.withUi { ui with pairer := ui.pairer.execute request move },
        [.pairing (pairLabel id move)])
  | _, _ => (firmware, [])

/-- The label under which the move of a lock-link job is seen, if the job makes it. -/
def linkLabel (id : JobId) (slotStored : Bool) : LockLinker.Move → LinkLabel
  | .step _ | .storeSlot => .worked
  | .succeed => if slotStored then .succeeded id else .worked
  | .fail _ => if slotStored then .worked else .failed id

/-- The next move of the lock-link job's task. -/
def performLinkJob (move : LockLinker.Move) : Firmware × List WizardEvent :=
  let ui := firmware.device.pairingUi
  match ui.linker.task, ui.linker.status.jobId with
  | some task, some id =>
      (firmware.withUi { ui with linker := ui.linker.execute task move },
        [.link (linkLabel id task.slotStored move)])
  | _, _ => (firmware, [])

-----------------------------------------------------------------------------------------
-- Runs
-----------------------------------------------------------------------------------------

end

/-- One step of any task. -/
def perform (keystream : Keystream) (firmware : Firmware)
    : FirmwareOp → Firmware × List WizardEvent
  | .main env => firmware.performMain env
  | .serve op =>
      if firmware.main = .tail ∧ op.isLinking = false ∧ firmware.device.loops op = true then
        ({ firmware with device := (firmware.device.performLoop keystream op).1 }, [])
      else (firmware, [])
  | .reset env => firmware.performReset env
  | .request request millis => firmware.receiveRequest request millis
  | .handle env => firmware.performHandler env
  | .pairJob move => firmware.performPairJob move
  | .linkJob move => firmware.performLinkJob move

/-- The firmware as `setup` leaves it, on whatever flash holds. -/
def booted (config : DeviceConfig) (preferences : Preferences) (env : BootEnv) : Firmware where
  device := (Device.setup config preferences env).1

end Firmware

def firmwareMachine (keystream : Keystream)
    : Machine Firmware FirmwareOp (List WizardEvent) where
  step := Firmware.perform keystream

namespace Firmware

/-- The firmware after a run from a start. -/
def after (keystream : Keystream) (config : DeviceConfig) (preferences : Preferences)
    (boot : BootEnv) (ops : List FirmwareOp)
    : Firmware :=
  (firmwareMachine keystream).run (booted config preferences boot) ops

/-- What is seen of a run from a start. -/
def events (keystream : Keystream) (config : DeviceConfig) (preferences : Preferences)
    (boot : BootEnv) (ops : List FirmwareOp)
    : List WizardEvent :=
  ((firmwareMachine keystream).history (booted config preferences boot) ops).flatten

end Firmware

end KeypadBridge
