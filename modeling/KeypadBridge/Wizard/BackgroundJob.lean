import KeypadBridge.Protocol.Adverts

/-! The wizard's background BLE jobs: the shared progress scaffold, the keypad pairer and the
lock linker. A job's handshake over BLE is seen from outside, as the steps it reports and
the outcome it ends with.
-/

namespace KeypadBridge

-----------------------------------------------------------------------------------------
-- The scaffold
-----------------------------------------------------------------------------------------

/-- `BackgroundBleJob::State`. -/
inductive JobState where
  | idle
  | running
  | success
  | failed
  deriving DecidableEq, Repr

/-- What `start_job_` prints into a job id: the job's prefix and the millisecond clock. The
empty string is the absence of an id.
-/
structure JobId where
  jobPrefix : Char
  millis : UInt32
  deriving DecidableEq, Repr

/-- The id as the browser receives it. -/
def JobId.text (id : JobId) : String :=
  String.ofList [id.jobPrefix, '-'] ++ toString id.millis.toNat

/-- `BackgroundBleJob::Status`. -/
structure JobStatus where
  state : JobState := .idle
  step : UInt8 := 0
  total : UInt8 := 0
  message : String := ""
  error : String := ""
  jobId : Option JobId := none
  deriving DecidableEq, Repr

/-- A job object: its status, the payload that a success fills in, and what its task still
has to do. Everything but the task is guarded by the object's mutex.
-/
structure BackgroundBleJob (Task Payload : Type) where
  status : JobStatus := {}
  payload : Payload
  task : Option Task := none

namespace BackgroundBleJob

variable {Task Payload : Type}

/-- The critical section of `start_job_`: refused while a job is running, else the status of
whatever job was there before is overwritten.
-/
def occupy (job : BackgroundBleJob Task Payload) (id : JobId) (total : UInt8)
    (firstMessage : String) (blank : Payload)
    : Option (BackgroundBleJob Task Payload) :=
  if job.status.state = .running then none
  else
    some {
      job with
      payload := blank
      status := { state := .running, total, message := firstMessage, jobId := some id } }

/-- The board is free, and shows the new job. -/
theorem occupy_eq_some {job taken : BackgroundBleJob Task Payload} {id : JobId} {total : UInt8}
    {firstMessage : String} {blank : Payload}
    (occupied : job.occupy id total firstMessage blank = some taken)
    : job.status.state ≠ .running
      ∧ taken
        = { job with
            payload := blank
            status := { state := .running, total, message := firstMessage, jobId := some id } } := by
  unfold occupy at occupied
  split at occupied
  · cases occupied
  case isFalse free => exact ⟨free, (Option.some.inj occupied).symm⟩

/-- `mark_step_`. -/
def markStep (job : BackgroundBleJob Task Payload) (step : UInt8) (message : String)
    : BackgroundBleJob Task Payload :=
  { job with status := { job.status with step, message } }

/-- `mark_failed_`. -/
def markFailed (job : BackgroundBleJob Task Payload) (error : String)
    : BackgroundBleJob Task Payload :=
  { job with status := { job.status with state := .failed, error, message := error } }

/-- The success message that both kinds of job end with. -/
def markSuccess (job : BackgroundBleJob Task Payload) (message : String) (payload : Payload)
    : BackgroundBleJob Task Payload :=
  { job with
    payload
    status :=
      { job.status with state := .success, step := job.status.total, message, error := "" } }

/-- The end of `start_job_`: the task is created, or the job has failed already. -/
def createTask (job : BackgroundBleJob Task Payload) (task : Task) (created : Bool)
    (startError : String)
    : BackgroundBleJob Task Payload :=
  if created then { job with task := some task } else job.markFailed startError

end BackgroundBleJob

-----------------------------------------------------------------------------------------
-- The keypad pairer
-----------------------------------------------------------------------------------------

namespace KeypadPairer

/-- Arguments of one pairing attempt. -/
structure Request where
  keypadMac : Bytes
  family : KeypadFamily
  keyId : Int
  key : AesKey
  sharedToken : AesKey
  espMac : MacBytes
  deriving DecidableEq

/-- The identity of the keypad just linked. -/
structure Payload where
  keypadMac : Bytes := []
  family : KeypadFamily := .original
  deriving DecidableEq

/-- What a successful job reports of its request. -/
def Request.payload (request : Request) : Payload := ⟨request.keypadMac, request.family⟩

def stepLabels : List String :=
  ["Connecting to keypad", "Discovering services", "Negotiating session key",
    "Opening lock slot", "Writing shared key (1/2)", "Writing shared key (2/2)",
    "Updating lock target", "Finalising", "Force-enabling doorbell"]

/-- `step_count`. -/
def stepCount (family : KeypadFamily) : UInt8 := if family = .vision then 9 else 8

/-- `step_label`. -/
def stepLabel (family : KeypadFamily) (step : UInt8) : String :=
  if step < stepCount family then stepLabels.getD step.toNat "" else ""

def startError : String := "Could not start keypad-link task"

/-- What `execute_` does to the job object. -/
inductive Move where
  | step (step : UInt8)
  | succeed
  | fail (error : String)

end KeypadPairer

abbrev KeypadPairer := BackgroundBleJob KeypadPairer.Request KeypadPairer.Payload

namespace KeypadPairer

/-- One step of the pairing task; its request is what it succeeds for. -/
def execute (pairer : KeypadPairer) (request : Request) : Move → KeypadPairer
  | .step step => pairer.markStep step (stepLabels.getD step.toNat "")
  | .succeed => { pairer.markSuccess "Keypad linked" request.payload with task := none }
  | .fail error => { pairer.markFailed error with task := none }

end KeypadPairer

-----------------------------------------------------------------------------------------
-- The lock linker
-----------------------------------------------------------------------------------------

def sharedSlotOriginal : UInt8 := 0x88
def sharedSlotVision : UInt8 := 0xC6

namespace LockLinker

/-- Arguments of one link attempt. -/
structure Request where
  name : Bytes
  mac : Bytes
  model : PhysicalLockModel
  sharedKey : AesKey
  sharedSlotId : UInt8
  lockKeyId : UInt8
  lockKey : AesKey
  deriving DecidableEq

/-- The identity of the lock just verified. -/
structure Payload where
  name : Bytes := []
  mac : Bytes := []
  model : PhysicalLockModel := .unknown
  slotId : UInt8 := 0
  deriving DecidableEq

/-- The slot that `execute_` provisions and verifies. -/
def Request.slot (request : Request) : UInt8 :=
  if request.sharedSlotId ≠ 0 then request.sharedSlotId else sharedSlotOriginal

/-- What a successful job reports of its request. -/
def Request.payload (request : Request) : Payload :=
  ⟨request.name, request.mac, request.model, request.slot⟩

def stepLabels : List String :=
  ["Connecting to lock", "Discovering services", "Negotiating provisioning session",
    "Opening lock slot", "Writing shared key (1/2)", "Writing shared key (2/2)",
    "Verifying shared key"]

/-- `step_count`. -/
def stepCount : UInt8 := 7

/-- `step_label`. -/
def stepLabel (step : UInt8) : String :=
  if step < stepCount then stepLabels.getD step.toNat "" else ""

def startError : String := "Could not start lock-link task"

/-- A running link task, and whether it has published the verified slot yet. -/
structure Task where
  request : Request
  slotStored : Bool := false
  deriving DecidableEq

/-- What `execute_` does to the job object. A success is published in two critical
sections, the slot first.
-/
inductive Move where
  | step (step : UInt8)
  | storeSlot
  | succeed
  | fail (error : String)

end LockLinker

abbrev LockLinker := BackgroundBleJob LockLinker.Task LockLinker.Payload

namespace LockLinker

/-- `set_success_`: everything but the slot, which is there already. -/
def setSuccess (linker : LockLinker) (request : Request) : LockLinker :=
  linker.markSuccess "Lock linked"
    { linker.payload with name := request.name, mac := request.mac, model := request.model }

/-- One step of the link task: the slot is published once, and only a published slot is
followed by the success.
-/
def execute (linker : LockLinker) (task : Task) : Move → LockLinker
  | .step step =>
      if task.slotStored ∨ step ≥ stepCount then linker
      else linker.markStep step (stepLabels.getD step.toNat "")
  | .storeSlot =>
      if task.slotStored then linker
      else
        { linker with
          payload := { linker.payload with slotId := task.request.slot }
          task := some { task with slotStored := true } }
  | .succeed =>
      if task.slotStored then { linker.setSuccess task.request with task := none } else linker
  | .fail error =>
      if task.slotStored then linker else { linker.markFailed error with task := none }

end LockLinker

end KeypadBridge
