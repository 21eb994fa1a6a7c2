import KeypadBridge.Firmware.LinkingState
import KeypadBridge.Foundation.JobBoardLaws

/-! The jobs of the wizard as job boards. The HTTP task is the starter of either board, the main
task is its observer, and every step of the firmware is a step of each board or leaves it
alone.
-/

namespace KeypadBridge
open KeypadBridge.Foundation
open KeypadBridge.Foundation.JobBoard

-----------------------------------------------------------------------------------------
-- The boards
-----------------------------------------------------------------------------------------

def JobState.progress : JobState → Progress
  | .idle => .idle
  | .running => .running
  | .success => .succeeded
  | .failed => .failed

theorem JobState.progress_eq_running (state : JobState)
    : state.progress = .running ↔ state = .running := by
  cases state <;> simp [progress]

theorem JobState.progress_eq_succeeded (state : JobState)
    : state.progress = .succeeded ↔ state = .success := by
  cases state <;> simp [progress]

namespace HttpTask

/-- How far `handle_pair_` is with the job it is starting. -/
def pairStarter : HttpTask → Starter JobId Bytes KeypadPairer.Request
  | .pairOccupied id request name => .occupied id name request
  | .pairLaunched id _ name => .launched id name
  | _ => .resting

def linkStarter : HttpTask → Starter JobId Unit LockLinker.Request
  | .linkOccupied id request => .occupied id () request
  | .linkLaunched id => .launched id ()
  | _ => .resting

end HttpTask

namespace MainTask

/-- How far `poll_jobs` is with the pairing job. -/
def pairObserver : MainTask → Observer JobId Bytes KeypadPairer.Payload
  | .pairState id name _ => .snapped id name
  | .pairStatus id name _ => .saw id name
  | .pairConfirm id name payload _ => .copied id name payload
  | _ => .resting

/-- Until the pairing job is done with, the lock-link job waits in a local variable. -/
def linkObserver : MainTask → Observer JobId Unit LockLinker.Payload
  | .pairState _ _ (some id) | .pairStatus _ _ (some id) | .pairConfirm _ _ _ (some id)
  | .pairNotify _ _ (some id) => .snapped id ()
  | .linkState id => .snapped id ()
  | .linkStatus id => .saw id ()
  | .linkConfirm id payload => .copied id () payload
  | _ => .resting

@[simp] theorem pairObserver_pairState (id : JobId) (name : Bytes) (link : Option JobId)
    : (pairState id name link).pairObserver = .snapped id name := rfl

@[simp] theorem pairObserver_pairStatus (id : JobId) (name : Bytes) (link : Option JobId)
    : (pairStatus id name link).pairObserver = .saw id name := rfl

@[simp] theorem pairObserver_pairConfirm (id : JobId) (name : Bytes)
    (payload : KeypadPairer.Payload) (link : Option JobId)
    : (pairConfirm id name payload link).pairObserver = .copied id name payload := rfl

@[simp] theorem pairObserver_pollLink (link : Option JobId)
    : (pollLink link).pairObserver = .resting := by
  cases link <;> rfl

@[simp] theorem linkObserver_pollLink (link : Option JobId)
    : (pollLink link).linkObserver
      = match link with
        | some id => .snapped id ()
        | none => .resting := by
  cases link <;> rfl

end MainTask

namespace Firmware

def pairingBoard (firmware : Firmware)
    : Board JobId Bytes KeypadPairer.Request KeypadPairer.Payload where
  progress := firmware.device.pairingUi.pairer.status.state.progress
  jobId := firmware.device.pairingUi.pairer.status.jobId
  result := firmware.device.pairingUi.pairer.payload
  task := firmware.device.pairingUi.pairer.task
  starter := firmware.http.pairStarter
  armed :=
    firmware.device.pairingUi.pairingJobId.map
      (·, firmware.device.pairingUi.pairingKeypadName)
  notified := firmware.device.pairingUi.successNotified
  observer := firmware.main.pairObserver

/-- The board is a matter of the jobs and of where the tasks stand. -/
theorem pairingBoard_of_jobBooks {firmware next : Firmware}
    (jobBooks
      : next.device.pairingUi.jobBooks = firmware.device.pairingUi.jobBooks)
    (main : next.main = firmware.main) (http : next.http = firmware.http)
    : next.pairingBoard = firmware.pairingBoard := by
  obtain ⟨pairer, _, name, id, notified, _, _⟩ := JobBooks.mk.inj jobBooks
  simp only [pairingBoard, pairer, name, id, notified, main, http]

def linkBoard (firmware : Firmware)
    : Board JobId Unit LockLinker.Request LockLinker.Payload where
  progress := firmware.device.pairingUi.linker.status.state.progress
  jobId := firmware.device.pairingUi.linker.status.jobId
  result := firmware.device.pairingUi.linker.payload
  task := firmware.device.pairingUi.linker.task.map LockLinker.Task.request
  starter := firmware.http.linkStarter
  armed := firmware.device.pairingUi.linkJobId.map (·, ())
  notified := firmware.device.pairingUi.linkNotified
  observer := firmware.main.linkObserver

/-- The same for the board of the lock-link jobs. -/
theorem linkBoard_of_jobBooks {firmware next : Firmware}
    (jobBooks
      : next.device.pairingUi.jobBooks = firmware.device.pairingUi.jobBooks)
    (main : next.main = firmware.main) (http : next.http = firmware.http)
    : next.linkBoard = firmware.linkBoard := by
  obtain ⟨_, linker, _, _, _, id, notified⟩ := JobBooks.mk.inj jobBooks
  simp only [linkBoard, linker, id, notified, main, http]

end Firmware

def WizardEvent.pairingLabel : WizardEvent → Option PairingLabel
  | .pairing label => some label
  | _ => none

def WizardEvent.linkLabel : WizardEvent → Option LinkLabel
  | .link label => some label
  | _ => none

/-- What is seen of the pairing jobs. -/
def pairingLabels (events : List WizardEvent) : List PairingLabel :=
  events.filterMap WizardEvent.pairingLabel

/-- What is seen of the lock-link jobs. -/
def linkLabels (events : List WizardEvent) : List LinkLabel :=
  events.filterMap WizardEvent.linkLabel

/-- Steps of a pairing board. -/
abbrev PairingRun (start : Board JobId Bytes KeypadPairer.Request KeypadPairer.Payload)
    : List PairingLabel → Board JobId Bytes KeypadPairer.Request KeypadPairer.Payload → Prop :=
  Run KeypadPairer.Request.payload start

/-- Steps of a lock-link board. -/
abbrev LinkRun (start : Board JobId Unit LockLinker.Request LockLinker.Payload)
    : List LinkLabel → Board JobId Unit LockLinker.Request LockLinker.Payload → Prop :=
  Run LockLinker.Request.payload start

namespace Firmware

variable {firmware : Firmware}

-----------------------------------------------------------------------------------------
-- The pairing board
-----------------------------------------------------------------------------------------

theorem performMain_pairingRun (firmware : Firmware) (env : MainEnv)
    : PairingRun firmware.pairingBoard (pairingLabels (firmware.performMain env).2)
        (firmware.performMain env).1.pairingBoard := by
  obtain ⟨device, main, http⟩ := firmware
  cases main with
  | outside =>
      simp only [performMain]
      split
      · exact .refl
      split
      · refine .step (.snapshot rfl) ?_
        simp only [pairingBoard, Board.snapshot, PairingUi.armedPairing]
        cases device.pairingUi.successNotified <;> cases device.pairingUi.pairingJobId <;>
          simp [MainTask.poll]
      · exact .refl
  | pairState id name link =>
      refine .step (.look rfl) ?_
      simp only [pairingBoard, performMain, JobState.progress_eq_succeeded]
      split <;> simp
  | pairStatus id name link =>
      refine .step (.copy rfl) ?_
      simp only [pairingBoard, performMain]
      split <;> rename_i same <;> simp [same]
  | pairConfirm id name payload link =>
      simp only [performMain, confirmPairing, PairingUi.confirmPairing]
      split
      · rename_i confirmed
        have armed
            : (⟨device, .pairConfirm id name payload link, http⟩ : Firmware).pairingBoard.armed
              = some (id, device.pairingUi.pairingKeypadName) := by
          simp [pairingBoard, confirmed.2]
        exact .step (.fire rfl confirmed.1 armed) rfl
      · rename_i stale
        refine .step (.pass rfl ?_) ?_
        · cases notified : device.pairingUi.successNotified with
          | true => exact .inl notified
          | false =>
              refine .inr fun other same => stale ⟨notified, ?_⟩
              simpa [pairingBoard] using congrArg (Option.map Prod.fst) same
        · simp [pairingBoard, withUi]
  | pairNotify name payload link => cases link <;> exact .quiet rfl
  | linkState id =>
      refine .quiet ?_
      simp only [pairingBoard, performMain]
      split <;> rfl
  | linkStatus id =>
      refine .quiet ?_
      simp only [pairingBoard, performMain]
      split <;> rfl
  | linkConfirm id payload =>
      simp only [performMain, confirmLink, PairingUi.confirmLink]
      split <;> exact .quiet rfl
  | linkNotify | storePaired | storeFamily | storeLinked => exact .quiet rfl
  | applyPairing =>
      simp only [performMain]
      cases device.pendingPairing <;> exact .quiet rfl
  | applyLockLink =>
      simp only [performMain]
      cases device.pendingLock <;> exact .quiet rfl
  | idleCheck =>
      refine .quiet ?_
      simp only [pairingBoard, performMain]
      split <;> rfl
  | idlePairer =>
      simp only [performMain]
      split
      · exact .quiet rfl
      · rename_i free
        refine .step (.check ?_) rfl
        simpa [pairingBoard, JobState.progress_eq_running] using free
  | idleLinker =>
      simp only [performMain]
      split <;> exact .quiet rfl
  | stopping =>
      simp only [performMain]
      split
      · rename_i resting
        exact .quiet rfl
      · exact .quiet rfl
  | tail => exact .quiet rfl

theorem performHandler_pairingRun (firmware : Firmware) (env : HttpEnv)
    : PairingRun firmware.pairingBoard (pairingLabels (firmware.performHandler env).2)
        (firmware.performHandler env).1.pairingBoard := by
  obtain ⟨device, main, http⟩ := firmware
  cases http with
  | resting => exact .refl
  | pairAsked mac family =>
      simp only [performHandler]
      split <;> exact .quiet rfl
  | pairAllowed mac family =>
      simp only [performHandler]
      split <;> exact .quiet rfl
  | pairReady request name =>
      simp only [performHandler]
      split
      · exact .quiet rfl
      · rename_i occupied
        obtain ⟨free, rfl⟩ := PairingUi.occupyPairer_eq_some occupied
        refine .step (.start ?_ rfl) rfl
        simpa [pairingBoard, JobState.progress_eq_running] using free
  | pairOccupied id request name =>
      simp only [performHandler, PairingUi.launchPairer, BackgroundBleJob.createTask]
      split
      · exact .step (.launch rfl) rfl
      · exact .step (.abandon rfl) rfl
  | pairLaunched id family name => exact .step (.arm rfl) rfl
  | linkAsked mac =>
      simp only [performHandler]
      split <;> exact .quiet rfl
  | linkGated mac =>
      simp only [performHandler]
      split <;> exact .quiet rfl
  | linkAllowed mac =>
      simp only [performHandler]
      split <;> exact .quiet rfl
  | linkReady request =>
      simp only [performHandler]
      split
      · exact .quiet rfl
      · rename_i occupied
        obtain ⟨-, rfl⟩ := PairingUi.occupyLinker_eq_some occupied
        exact .quiet rfl
  | linkOccupied id request =>
      simp only [performHandler, PairingUi.launchLinker]
      split <;> exact .quiet rfl
  | linkLaunched id => exact .quiet rfl

theorem performPairJob_pairingRun (firmware : Firmware) (move : KeypadPairer.Move)
    : PairingRun firmware.pairingBoard (pairingLabels (firmware.performPairJob move).2)
        (firmware.performPairJob move).1.pairingBoard := by
  simp only [performPairJob]
  split
  · rename_i request id busy named
    cases move with
    | step step => exact .step (.work busy) rfl
    | succeed => exact .step (.succeed busy named) rfl
    | fail error => exact .step (.fail busy named) rfl
  · exact .refl

/-- Every step of the firmware is a step of the pairing board, or leaves it alone. -/
theorem perform_pairingRun (keystream : Keystream) (firmware : Firmware) (op : FirmwareOp)
    : PairingRun firmware.pairingBoard (pairingLabels (firmware.perform keystream op).2)
        (firmware.perform keystream op).1.pairingBoard := by
  cases op with
  | main env => exact firmware.performMain_pairingRun env
  | serve op =>
      simp only [perform]
      split
      · rename_i allowed
        refine .quiet ?_
        have same := firmware.device.performLoop_linkingState keystream allowed.2.1
        exact pairingBoard_of_jobBooks
          (congrArg (fun state => state.pairingUi.jobBooks) same) rfl rfl
      · exact .refl
  | reset env =>
      simp only [perform, performReset]
      split
      · refine .quiet ?_
        exact pairingBoard_of_jobBooks (firmware.device.resetPairing_jobBooks env) rfl rfl
      · exact .refl
  | request request millis =>
      simp only [perform, receiveRequest]
      split
      · rename_i allowed
        cases request <;>
          exact .quiet (by simp [pairingBoard, withUi, PairingUi.touchActivity,
            allowed.2, HttpTask.pairStarter])
      · exact .refl
  | handle env => exact firmware.performHandler_pairingRun env
  | pairJob move => exact firmware.performPairJob_pairingRun move
  | linkJob move =>
      simp only [perform, performLinkJob]
      split <;> exact .quiet rfl

-----------------------------------------------------------------------------------------
-- The board of the lock-link jobs
-----------------------------------------------------------------------------------------

theorem performMain_linkRun (firmware : Firmware) (env : MainEnv)
    : LinkRun firmware.linkBoard (linkLabels (firmware.performMain env).2)
        (firmware.performMain env).1.linkBoard := by
  obtain ⟨device, main, http⟩ := firmware
  cases main with
  | outside =>
      simp only [performMain]
      split
      · exact .refl
      split
      · refine .step (.snapshot rfl) ?_
        simp only [linkBoard, Board.snapshot, PairingUi.armedLink]
        cases device.pairingUi.linkNotified <;> cases device.pairingUi.linkJobId <;>
          cases device.pairingUi.armedPairing <;> rfl
      · exact .quiet rfl
  | pairState id name link =>
      refine .quiet ?_
      simp only [linkBoard, performMain]
      split <;> cases link <;> rfl
  | pairStatus id name link =>
      refine .quiet ?_
      simp only [linkBoard, performMain]
      split <;> cases link <;> rfl
  | pairConfirm id name payload link =>
      simp only [performMain, confirmPairing, PairingUi.confirmPairing]
      split <;> cases link <;> exact .quiet rfl
  | pairNotify name payload link => cases link <;> exact .quiet rfl
  | linkState id =>
      refine .step (.look rfl) ?_
      simp only [linkBoard, performMain, JobState.progress_eq_succeeded]
      split <;> rfl
  | linkStatus id =>
      refine .step (.copy rfl) ?_
      simp only [linkBoard, performMain]
      split <;> rename_i same <;> simp [same, MainTask.linkObserver]
  | linkConfirm id payload =>
      simp only [performMain, confirmLink, PairingUi.confirmLink]
      split
      · rename_i confirmed
        have armed
            : (⟨device, .linkConfirm id payload, http⟩ : Firmware).linkBoard.armed
              = some (id, ()) := by
          simp [linkBoard, confirmed.2]
        exact .step (.fire rfl confirmed.1 armed) rfl
      · rename_i stale
        refine .step (.pass rfl ?_) rfl
        cases notified : device.pairingUi.linkNotified with
        | true => exact .inl notified
        | false =>
            refine .inr fun other same => stale ⟨notified, ?_⟩
            simpa [linkBoard] using congrArg (Option.map Prod.fst) same
  | linkNotify | storePaired | storeFamily | storeLinked => exact .quiet rfl
  | applyPairing =>
      simp only [performMain]
      cases device.pendingPairing <;> exact .quiet rfl
  | applyLockLink =>
      simp only [performMain]
      cases device.pendingLock <;> exact .quiet rfl
  | idleCheck =>
      refine .quiet ?_
      simp only [linkBoard, performMain]
      split <;> rfl
  | idlePairer =>
      simp only [performMain]
      split <;> exact .quiet rfl
  | idleLinker =>
      simp only [performMain]
      split
      · exact .quiet rfl
      · rename_i free
        refine .step (.check ?_) rfl
        simpa [linkBoard, JobState.progress_eq_running] using free
  | stopping =>
      simp only [performMain]
      split <;> exact .quiet rfl
  | tail => exact .quiet rfl

theorem performHandler_linkRun (firmware : Firmware) (env : HttpEnv)
    : LinkRun firmware.linkBoard (linkLabels (firmware.performHandler env).2)
        (firmware.performHandler env).1.linkBoard := by
  obtain ⟨device, main, http⟩ := firmware
  cases http with
  | resting => exact .refl
  | pairAsked mac family =>
      simp only [performHandler]
      split <;> exact .quiet rfl
  | pairAllowed mac family =>
      simp only [performHandler]
      split <;> exact .quiet rfl
  | pairReady request name =>
      simp only [performHandler]
      split
      · exact .quiet rfl
      · rename_i occupied
        obtain ⟨-, rfl⟩ := PairingUi.occupyPairer_eq_some occupied
        exact .quiet rfl
  | pairOccupied id request name =>
      simp only [performHandler, PairingUi.launchPairer]
      split <;> exact .quiet rfl
  | pairLaunched id family name => exact .quiet rfl
  | linkAsked mac =>
      simp only [performHandler]
      split <;> exact .quiet rfl
  | linkGated mac =>
      simp only [performHandler]
      split <;> exact .quiet rfl
  | linkAllowed mac =>
      simp only [performHandler]
      split <;> exact .quiet rfl
  | linkReady request =>
      simp only [performHandler]
      split
      · exact .quiet rfl
      · rename_i occupied
        obtain ⟨free, rfl⟩ := PairingUi.occupyLinker_eq_some occupied
        refine .step (.start ?_ rfl) rfl
        simpa [linkBoard, JobState.progress_eq_running] using free
  | linkOccupied id request =>
      simp only [performHandler, PairingUi.launchLinker, BackgroundBleJob.createTask]
      split
      · exact .step (.launch rfl) rfl
      · exact .step (.abandon rfl) rfl
  | linkLaunched id => exact .step (.arm rfl) rfl

/-- A task at work shows nothing but the result it may have touched. -/
theorem linkWorked {request : LockLinker.Request} {next : Firmware} (result : LockLinker.Payload)
    (working : firmware.linkBoard.task = some request)
    (same : { firmware.linkBoard with result := result } = next.linkBoard)
    : LinkRun firmware.linkBoard [.worked] next.linkBoard :=
  .step (.work working) same

/-- A running link task has its job running, and a published slot is that of its request. A
task is yet to come where a handler is about to create it.
-/
structure LinkerSound (firmware : Firmware) : Prop where
  working
    : ∀ {task},
        firmware.device.pairingUi.linker.task = some task
        → firmware.device.pairingUi.linker.status.state = .running
          ∧ (task.slotStored = true
            → firmware.device.pairingUi.linker.payload.slotId = task.request.slot)
  occupied
    : ∀ {id request},
        firmware.http = .linkOccupied id request
        → firmware.device.pairingUi.linker.status.state = .running
          ∧ firmware.device.pairingUi.linker.task = none

theorem performLinkJob_linkRun (sound : firmware.LinkerSound) (move : LockLinker.Move)
    : LinkRun firmware.linkBoard (linkLabels (firmware.performLinkJob move).2)
        (firmware.performLinkJob move).1.linkBoard := by
  simp only [performLinkJob]
  split
  · rename_i task id busy named
    have working : firmware.linkBoard.task = some task.request := by simp [linkBoard, busy]
    cases move with
    | step step =>
        refine linkWorked firmware.linkBoard.result working ?_
        simp only [linkBoard, withUi, LockLinker.execute]
        split <;> rfl
    | storeSlot =>
        cases stored : task.slotStored with
        | true =>
            refine linkWorked firmware.linkBoard.result working ?_
            simp [linkBoard, withUi, LockLinker.execute, stored]
        | false =>
            refine linkWorked { firmware.linkBoard.result with slotId := task.request.slot }
              working ?_
            simp [linkBoard, withUi, LockLinker.execute, stored, busy]
    | succeed =>
        cases stored : task.slotStored with
        | true =>
            have slot := (sound.working busy).2 stored
            simp only [linkLabel, if_true]
            refine .step (.succeed working named) ?_
            simp [linkBoard, withUi, LockLinker.execute, LockLinker.setSuccess,
              BackgroundBleJob.markSuccess, stored, slot, LockLinker.Request.payload,
              JobState.progress]
        | false =>
            simp only [linkLabel]
            refine linkWorked firmware.linkBoard.result working ?_
            simp [linkBoard, withUi, LockLinker.execute, stored]
    | fail error =>
        cases stored : task.slotStored with
        | true =>
            simp only [linkLabel, if_true]
            refine linkWorked firmware.linkBoard.result working ?_
            simp [linkBoard, withUi, LockLinker.execute, stored]
        | false =>
            simp only [linkLabel]
            refine .step (.fail working named) ?_
            simp [linkBoard, withUi, LockLinker.execute, stored, BackgroundBleJob.markFailed,
              JobState.progress]
  · exact .refl

theorem LinkerSound.of_same {next : Firmware} (sound : firmware.LinkerSound)
    (linker : next.device.pairingUi.linker = firmware.device.pairingUi.linker)
    (http
      : ∀ {id request},
          next.http = .linkOccupied id request → firmware.http = .linkOccupied id request)
    : next.LinkerSound := by
  refine ⟨?_, ?_⟩
  · rw [linker]
    exact sound.working
  · intro id request occupied
    rw [linker]
    exact sound.occupied (http occupied)

/-- What the wizard's part of `loop()` leaves to the other tasks: the handler, the jobs, the
battery scan window and the relay.
-/
structure MainKeeps (before after : Firmware) : Prop where
  http : after.http = before.http
  pairer : after.device.pairingUi.pairer = before.device.pairingUi.pairer
  linker : after.device.pairingUi.linker = before.device.pairingUi.linker
  batteryScan : after.device.bridge.batteryScan = before.device.bridge.batteryScan
  lockRelayBusy : after.device.bridge.lockRelayBusy = before.device.bridge.lockRelayBusy

theorem performMain_keeps (firmware : Firmware) (env : MainEnv)
    : MainKeeps firmware (firmware.performMain env).1 := by
  obtain ⟨device, main, http⟩ := firmware
  cases main with
  | outside =>
      simp only [performMain]
      split
      · exact ⟨rfl, rfl, rfl, rfl, rfl⟩
      · split <;> exact ⟨rfl, rfl, rfl, rfl, rfl⟩
  | pairConfirm =>
      simp only [performMain, confirmPairing, PairingUi.confirmPairing]
      split <;> exact ⟨rfl, rfl, rfl, rfl, rfl⟩
  | linkConfirm =>
      simp only [performMain, confirmLink, PairingUi.confirmLink]
      split <;> exact ⟨rfl, rfl, rfl, rfl, rfl⟩
  | applyPairing =>
      simp only [performMain]
      cases device.pendingPairing <;> exact ⟨rfl, rfl, rfl, rfl, rfl⟩
  | applyLockLink =>
      simp only [performMain]
      cases device.pendingLock <;> exact ⟨rfl, rfl, rfl, rfl, rfl⟩
  | idlePairer | idleLinker | stopping =>
      simp only [performMain]
      split <;> exact ⟨rfl, rfl, rfl, rfl, rfl⟩
  | pairState | pairStatus | pairNotify | linkState | linkStatus | linkNotify | storePaired
  | storeFamily | storeLinked | idleCheck | tail => exact ⟨rfl, rfl, rfl, rfl, rfl⟩

theorem LinkerSound.performHandler (sound : firmware.LinkerSound) (env : HttpEnv)
    : (firmware.performHandler env).1.LinkerSound := by
  obtain ⟨device, main, http⟩ := firmware
  cases http with
  | linkReady request =>
      simp only [Firmware.performHandler]
      split
      · exact sound.of_same rfl (by simp [reply])
      · rename_i occupied
        obtain ⟨free, rfl⟩ := PairingUi.occupyLinker_eq_some occupied
        -- A job that does not run has no task.
        have idle : device.pairingUi.linker.task = none := by
          cases busy : device.pairingUi.linker.task with
          | none => rfl
          | some task => exact absurd (sound.working busy).1 free
        exact ⟨fun busy => absurd (idle.symm.trans busy) (by simp), fun _ => ⟨rfl, idle⟩⟩
  | linkOccupied id request =>
      obtain ⟨running, idle⟩ := sound.occupied rfl
      simp only [Firmware.performHandler, PairingUi.launchLinker, BackgroundBleJob.createTask]
      split
      · refine ⟨?_, by simp⟩
        intro task busy
        obtain rfl := Option.some.inj busy
        exact ⟨running, by simp⟩
      · exact ⟨fun busy => absurd (idle.symm.trans busy) (by simp), by simp⟩
  | resting => exact sound
  | pairReady request name =>
      simp only [Firmware.performHandler]
      split
      · exact sound.of_same rfl (by simp [reply])
      · rename_i occupied
        obtain ⟨-, rfl⟩ := PairingUi.occupyPairer_eq_some occupied
        exact sound.of_same rfl (by simp)
  | pairOccupied id request name =>
      simp only [Firmware.performHandler, PairingUi.launchPairer]
      split <;> exact sound.of_same rfl (by simp)
  | pairLaunched id family name => exact sound.of_same rfl (by simp [Firmware.performHandler])
  | linkLaunched id => exact sound.of_same rfl (by simp [Firmware.performHandler])
  | pairAsked | pairAllowed | linkAsked | linkGated | linkAllowed =>
      simp only [Firmware.performHandler]
      split <;> exact sound.of_same rfl (by simp [reply])

theorem LinkerSound.performLinkJob (sound : firmware.LinkerSound) (move : LockLinker.Move)
    : (firmware.performLinkJob move).1.LinkerSound := by
  simp only [Firmware.performLinkJob]
  split
  · rename_i task id busy named
    obtain ⟨running, slot⟩ := sound.working busy
    refine ⟨?_, ?_⟩
    · intro after working
      cases move with
      | step step =>
          simp only [withUi, LockLinker.execute] at working ⊢
          split at working
          · rename_i ignored
            simp only [ignored, if_true]
            exact sound.working working
          · rename_i made
            simp only [made, if_false]
            exact sound.working working
      | storeSlot =>
          cases stored : task.slotStored with
          | true =>
              simp only [withUi, LockLinker.execute, stored, if_true] at working ⊢
              exact sound.working working
          | false =>
              simp only [withUi, LockLinker.execute, stored, Bool.false_eq_true, if_false]
                at working ⊢
              obtain rfl := Option.some.inj working
              exact ⟨running, fun _ => rfl⟩
      | succeed =>
          cases stored : task.slotStored with
          | true => simp [withUi, LockLinker.execute, stored] at working
          | false =>
              simp only [withUi, LockLinker.execute, stored, Bool.false_eq_true, if_false]
                at working ⊢
              exact sound.working working
      | fail error =>
          cases stored : task.slotStored with
          | true =>
              simp only [withUi, LockLinker.execute, stored, if_true] at working ⊢
              exact sound.working working
          | false => simp [withUi, LockLinker.execute, stored] at working
    · intro id request occupied
      exact absurd ((sound.occupied occupied).2.symm.trans busy) (by simp)
  · exact sound

theorem LinkerSound.perform (sound : firmware.LinkerSound) (keystream : Keystream)
    (op : FirmwareOp)
    : (firmware.perform keystream op).1.LinkerSound := by
  cases op with
  | main env =>
      have kept := firmware.performMain_keeps env
      exact sound.of_same kept.linker (by simp [Firmware.perform, kept.http])
  | serve op =>
      simp only [Firmware.perform]
      split
      · rename_i allowed
        have same := firmware.device.performLoop_linkingState keystream allowed.2.1
        exact sound.of_same (congrArg (fun state => state.pairingUi.linker) same) (by simp)
      · exact sound
  | reset env =>
      simp only [Firmware.perform, performReset]
      split
      · have same := firmware.device.resetPairing_jobBooks env
        exact sound.of_same (congrArg JobBooks.linker same) (by simp)
      · exact sound
  | request request millis =>
      simp only [Firmware.perform, receiveRequest]
      split
      · cases request <;> exact sound.of_same rfl (by simp [withUi])
      · exact sound
  | handle env => exact sound.performHandler env
  | pairJob move =>
      simp only [Firmware.perform, performPairJob]
      split
      · exact sound.of_same rfl (by simp [withUi])
      · exact sound
  | linkJob move => exact sound.performLinkJob move

/-- Every step of the firmware is a step of the lock-link board, or leaves it alone. -/
theorem perform_linkRun (sound : firmware.LinkerSound) (keystream : Keystream)
    (op : FirmwareOp)
    : LinkRun firmware.linkBoard (linkLabels (firmware.perform keystream op).2)
        (firmware.perform keystream op).1.linkBoard := by
  cases op with
  | main env => exact firmware.performMain_linkRun env
  | serve op =>
      simp only [perform]
      split
      · rename_i allowed
        have same := firmware.device.performLoop_linkingState keystream allowed.2.1
        exact .quiet (linkBoard_of_jobBooks
          (congrArg (fun state => state.pairingUi.jobBooks) same) rfl rfl)
      · exact .refl
  | reset env =>
      simp only [perform, performReset]
      split
      · exact .quiet
          (linkBoard_of_jobBooks (firmware.device.resetPairing_jobBooks env) rfl rfl)
      · exact .refl
  | request request millis =>
      simp only [perform, receiveRequest]
      split
      · rename_i allowed
        cases request <;>
          exact .quiet (by simp [linkBoard, withUi, PairingUi.touchActivity, allowed.2,
            HttpTask.linkStarter])
      · exact .refl
  | handle env => exact firmware.performHandler_linkRun env
  | pairJob move =>
      simp only [perform, performPairJob]
      split <;> exact .quiet rfl
  | linkJob move => exact performLinkJob_linkRun sound move

-----------------------------------------------------------------------------------------
-- Every run
-----------------------------------------------------------------------------------------

/-- What one step shows is behind what was seen of the steps before it. -/
theorem events_split (keystream : Keystream) (config : DeviceConfig)
    (preferences : Preferences) (boot : BootEnv) (first : List FirmwareOp) (op : FirmwareOp)
    (rest : List FirmwareOp)
    : ∃ later,
        events keystream config preferences boot (first ++ op :: rest)
          = events keystream config preferences boot first
            ++ (((after keystream config preferences boot first).perform keystream op).2
              ++ later) := by
  refine ⟨((firmwareMachine keystream).history
    ((after keystream config preferences boot first).perform keystream op).1 rest).flatten, ?_⟩
  simp only [events, Machine.history_append, Machine.history, List.flatten_append,
    List.flatten_cons]
  rfl

theorem events_snoc (keystream : Keystream) (config : DeviceConfig) (preferences : Preferences)
    (boot : BootEnv) (ops : List FirmwareOp) (op : FirmwareOp)
    : events keystream config preferences boot (ops ++ [op])
      = events keystream config preferences boot ops
        ++ ((after keystream config preferences boot ops).perform keystream op).2 := by
  simp [events, after, Machine.history_append, Machine.history, firmwareMachine]

/-- What is allowed along a run is allowed of an event that one step shows alone. -/
theorem allowed_of_along {keystream : Keystream} {config : DeviceConfig}
    {preferences : Preferences} {boot : BootEnv}
    {allowed : List WizardEvent → WizardEvent → Prop} {first : List FirmwareOp}
    {op : FirmwareOp} {rest : List FirmwareOp} {event : WizardEvent}
    (along
      : Along allowed [] (events keystream config preferences boot (first ++ op :: rest)))
    (alone
      : ((after keystream config preferences boot first).perform keystream op).2 = [event])
    : allowed (events keystream config preferences boot first) event := by
  obtain ⟨later, whole⟩ := events_split keystream config preferences boot first op rest
  rw [whole, alone] at along
  simpa using along.split

/-- What relates a run so far to the firmware it leads to. -/
structure BoardsRun (start : Firmware) (events : List WizardEvent) (firmware : Firmware)
    : Prop where
  sound : firmware.LinkerSound
  pairing : PairingRun start.pairingBoard (pairingLabels events) firmware.pairingBoard
  link : LinkRun start.linkBoard (linkLabels events) firmware.linkBoard

theorem BoardsRun.perform {start : Firmware} {events : List WizardEvent}
    (run : BoardsRun start events firmware) (keystream : Keystream) (op : FirmwareOp)
    : BoardsRun start (events ++ (firmware.perform keystream op).2)
        (firmware.perform keystream op).1 where
  sound := run.sound.perform keystream op
  pairing := by
    rw [pairingLabels, List.filterMap_append]
    exact run.pairing.append (firmware.perform_pairingRun keystream op)
  link := by
    rw [linkLabels, List.filterMap_append]
    exact run.link.append (perform_linkRun run.sound keystream op)

section

variable (keystream : Keystream) (config : DeviceConfig) (preferences : Preferences)
  (boot : BootEnv)

theorem booted_boards
    : (booted config preferences boot).LinkerSound
      ∧ (booted config preferences boot).pairingBoard.Blank
      ∧ (booted config preferences boot).linkBoard.Blank := by
  obtain ⟨pairer, linker, pairingJobId, linkJobId, _, _⟩ :=
    (Device.setup_linkingState config preferences boot).1
  simp only [Device.linkingState] at pairer linker pairingJobId linkJobId
  refine ⟨⟨?_, ?_⟩, ?_, ?_⟩
  · simp [booted, linker]
  · simp [booted]
  · constructor <;> simp [booted, pairingBoard, pairer, pairingJobId, JobState.progress,
      HttpTask.pairStarter, MainTask.pairObserver]
  · constructor <;> simp [booted, linkBoard, linker, linkJobId, JobState.progress,
      HttpTask.linkStarter, MainTask.linkObserver]

/-- Every run of the firmware is a run of both boards. -/
theorem after_boardsRun (ops : List FirmwareOp)
    : BoardsRun (booted config preferences boot) (events keystream config preferences boot ops)
        (after keystream config preferences boot ops) :=
  (firmwareMachine keystream).history_invariant
    (fun outputs firmware =>
      BoardsRun (booted config preferences boot) outputs.flatten firmware)
    ⟨(booted_boards config preferences boot).1, .refl, .refl⟩
    (fun outputs firmware op run => by
      simpa [firmwareMachine] using run.perform keystream op) ops

end

end Firmware

end KeypadBridge
