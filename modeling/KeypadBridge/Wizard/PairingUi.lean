import KeypadBridge.Wizard.BackgroundJob

/-! The setup wizard: the flags that gate its requests, the jobs it starts, and the record of
which job the main loop is to observe. A request handler is cut at the points where other
tasks can come between. What the SwitchBot cloud answers is an input.
-/

namespace KeypadBridge

-----------------------------------------------------------------------------------------
-- The cloud
-----------------------------------------------------------------------------------------

/-- `CloudClient::AccountDevice`. -/
structure AccountDevice where
  mac : Bytes
  macPretty : Bytes
  name : Bytes
  deviceType : String
  deriving DecidableEq

/-- An item of the account with a MAC, as `list_devices` returns it. -/
def AccountDevice.listed (mac : Bytes) (name : Option Bytes) (deviceType : Option String)
    : AccountDevice :=
  let compact := compactMac mac
  let pretty := prettyMac compact
  { mac := compact
    macPretty := pretty
    name := name.getD pretty
    deviceType := deviceType.getD "" }

/-- What the cloud client answers during one request, its error texts included. -/
structure CloudAnswers where
  loggedIn : Bool
  devices : Except String (List AccountDevice)
  deviceKey : Bytes → Except String (Bytes × Bytes)

/-- `physical_lock_model_from_api_type`. -/
def physicalLockModelFromApiType (deviceType : String) : PhysicalLockModel :=
  if deviceType = "WoLock" then .lock
  else if deviceType = "WoLockLite" then .lockLite
  else if deviceType = "WoLockPro" then .lockPro
  else if deviceType = "W1091000" then .lockUltra
  else if deviceType = "W1141000" then .lockVision
  else if deviceType = "W1141001" then .lockVisionPro
  else if deviceType = "W1114000" then .lockProWifi
  else .unknown

/-- `find_account_device_`. -/
def findAccountDevice (devices : List AccountDevice) (mac : Bytes) : Option AccountDevice :=
  devices.find? fun device => device.macPretty = mac || device.mac = mac

/-- The digits of `strtol` in base 16, which must run to the end of the text. -/
def hexNumber : Bytes → Option Nat
  | [] => none
  | digits =>
      digits.foldl
        (fun value digit => do return (← value) * 16 + (← hexDigit digit).toNat) (some 0)

/-- `parse_key_id_hex`: white space, a sign and `0x` may come before the digits. -/
def parseKeyIdHex (text : Bytes) : Option UInt8 :=
  let unspaced := (cString text).dropWhile isSpace
  let (negative, unsigned) :=
    match unspaced with
    | 0x2D :: rest => (true, rest)
    | 0x2B :: rest => (false, rest)
    | _ => (false, unspaced)
  let digits :=
    match unsigned with
    | 0x30 :: 0x78 :: rest | 0x30 :: 0x58 :: rest => rest
    | _ => unsigned
  match hexNumber digits with
  | some value =>
      if value > 0xFF ∨ (negative = true ∧ value ≠ 0) then none else some (.ofNat value)
  | none => none

/-- `fetch_comm_key_16_`. -/
def fetchCommKey16 (cloud : CloudAnswers) (device : AccountDevice) (deviceLabel : String)
    : Except String (UInt8 × AesKey) := do
  let (keyIdHex, keyBytes) ← cloud.deviceKey device.mac
  if keyBytes.length ≠ 16 then
    .error ("SwitchBot returned a malformed " ++ deviceLabel ++ " key.")
  else
    match parseKeyIdHex keyIdHex with
    | none => .error ("SwitchBot returned a malformed " ++ deviceLabel ++ " key id.")
    | some keyId => .ok (keyId, Vector.ofFn fun i => keyBytes.getD i 0)

-----------------------------------------------------------------------------------------
-- The wizard
-----------------------------------------------------------------------------------------

/-- What a request handler sends back. -/
inductive HttpReply where
  | error (status message : String)
  | jobStarted (jobId : String) (labels : List String)
  | served
  deriving DecidableEq

/-- `shared_slot_for_family`. -/
def sharedSlotForFamily (family : KeypadFamily) : UInt8 :=
  if family = .vision then sharedSlotVision else sharedSlotOriginal

/-- The wizard's members. `server` tells whether the HTTP server exists; a job id of `none`
is the empty string.
-/
structure PairingUi where
  server : Bool := false
  pairer : KeypadPairer := { payload := {} }
  linker : LockLinker := { payload := {} }
  sharedKey : AesKey := Vector.replicate 16 0
  keypadFamily : KeypadFamily := .original
  keypadPaired : Bool := false
  lockLinked : Bool := false
  lastActivityMs : UInt32 := 0
  pairingKeypadName : Bytes := []
  pairingJobId : Option JobId := none
  successNotified : Bool := false
  linkJobId : Option JobId := none
  linkNotified : Bool := false

namespace PairingUi

-----------------------------------------------------------------------------------------
-- Lifecycle
-----------------------------------------------------------------------------------------

/-- `start`: a no-op on a running server. -/
def start (ui : PairingUi) (httpdStarts : Bool) (millis : UInt32) : PairingUi × Bool :=
  if ui.server then (ui, true)
  else if httpdStarts then ({ ui with server := true, lastActivityMs := millis }, true)
  else (ui, false)

/-- Starting changes the server and the clock of its last activity, and nothing else. -/
theorem start_eq (ui : PairingUi) (httpdStarts : Bool) (millis : UInt32)
    : ∃ server lastActivityMs,
        (ui.start httpdStarts millis).1 = { ui with server, lastActivityMs } := by
  unfold start
  split
  · exact ⟨ui.server, ui.lastActivityMs, rfl⟩
  · split
    · exact ⟨true, millis, rfl⟩
    · exact ⟨ui.server, ui.lastActivityMs, rfl⟩

/-- `stop`. -/
def stop (ui : PairingUi) : PairingUi := { ui with server := false, lastActivityMs := 0 }

def idleTimeoutMs : UInt32 := 300000

/-- The clock's part in `stop_if_idle`: no request has arrived for five minutes. -/
def isIdle (ui : PairingUi) (now : UInt32) : Bool :=
  ui.lastActivityMs ≠ 0 && now - ui.lastActivityMs ≥ idleTimeoutMs

/-- `touch_activity_`. -/
def touchActivity (ui : PairingUi) (millis : UInt32) : PairingUi :=
  { ui with lastActivityMs := millis }

@[simp] def setSharedKey (ui : PairingUi) (key : AesKey) : PairingUi := { ui with sharedKey := key }

@[simp] def setKeypadPaired (ui : PairingUi) (paired : Bool) : PairingUi :=
  { ui with keypadPaired := paired }

@[simp] def setKeypadFamily (ui : PairingUi) (family : KeypadFamily) : PairingUi :=
  { ui with keypadFamily := family }

@[simp] def setLockLinked (ui : PairingUi) (linked : Bool) : PairingUi :=
  { ui with lockLinked := linked }

-----------------------------------------------------------------------------------------
-- The critical sections of `poll_jobs`
-----------------------------------------------------------------------------------------

/-- The pairing job to observe, with the name captured for it. -/
def armedPairing (ui : PairingUi) : Option (JobId × Bytes) :=
  if ui.successNotified then none
  else ui.pairingJobId.map fun id => (id, ui.pairingKeypadName)

/-- The lock-link job to observe. -/
def armedLink (ui : PairingUi) : Option JobId :=
  if ui.linkNotified then none else ui.linkJobId

/-- The second look at the pairing job: confirmed unless another job was armed since. -/
def confirmPairing (ui : PairingUi) (id : JobId) : PairingUi × Bool :=
  if ui.successNotified = false ∧ ui.pairingJobId = some id then
    ({ ui with successNotified := true, keypadPaired := true }, true)
  else (ui, false)

/-- The second look at the lock-link job. -/
def confirmLink (ui : PairingUi) (id : JobId) : PairingUi × Bool :=
  if ui.linkNotified = false ∧ ui.linkJobId = some id then
    ({ ui with linkNotified := true, lockLinked := true }, true)
  else (ui, false)

-----------------------------------------------------------------------------------------
-- `handle_pair_`
-----------------------------------------------------------------------------------------

/-- What `handle_pair_` checks before it asks the cloud. -/
def pairGate (ui : PairingUi) (cloud : CloudAnswers) (mac : Bytes) : Option HttpReply :=
  if mac = [] then some (.error "400 Bad Request" "Missing keypad mac.")
  else if cloud.loggedIn = false then some (.error "401 Unauthorized" "Sign in first.")
  else if ui.keypadPaired then
    some (.error "409 Conflict"
      ("A keypad is already linked to this bridge. "
        ++ "Press the Reset button to start over."))
  else none

/-- What `handle_pair_` asks the cloud, and the request it builds from the answers. The name
belongs to this exact job.
-/
def pairRequest (ui : PairingUi) (cloud : CloudAnswers) (espMac : MacBytes) (mac : Bytes)
    (family : KeypadFamily)
    : Except HttpReply (KeypadPairer.Request × Bytes) :=
  match cloud.devices with
  | .error err => .error (.error "502 Bad Gateway" err)
  | .ok devices =>
      match findAccountDevice devices mac with
      | none => .error (.error "404 Not Found" "Keypad not in this SwitchBot account.")
      | some found =>
          match fetchCommKey16 cloud found "keypad" with
          | .error err => .error (.error "502 Bad Gateway" err)
          | .ok (keyId, key) =>
              .ok ({
                keypadMac := found.macPretty
                family
                keyId := keyId.toNat
                key
                sharedToken := ui.sharedKey
                espMac }, found.name)

/-- `KeypadPairer::start` up to the creation of its task. -/
def occupyPairer (ui : PairingUi) (id : JobId) (request : KeypadPairer.Request)
    : Option PairingUi :=
  (ui.pairer.occupy id (KeypadPairer.stepCount request.family)
    (KeypadPairer.stepLabels.getD 0 "") {}).map fun pairer => { ui with pairer }

/-- A pairing job begins only where none runs, and takes over the board. -/
theorem occupyPairer_eq_some {ui next : PairingUi} {id : JobId} {request : KeypadPairer.Request}
    (occupied : ui.occupyPairer id request = some next)
    : ui.pairer.status.state ≠ .running
      ∧ next
        = { ui with
            pairer :=
              { ui.pairer with
                payload := {}
                status :=
                  { state := .running
                    total := KeypadPairer.stepCount request.family
                    message := KeypadPairer.stepLabels.getD 0 ""
                    jobId := some id } } } := by
  obtain ⟨_, taken, rfl⟩ := Option.map_eq_some_iff.mp occupied
  obtain ⟨free, rfl⟩ := BackgroundBleJob.occupy_eq_some taken
  exact ⟨free, rfl⟩

/-- The creation of the pairing task. -/
def launchPairer (ui : PairingUi) (request : KeypadPairer.Request) (created : Bool)
    : PairingUi :=
  { ui with pairer := ui.pairer.createTask request created KeypadPairer.startError }

/-- Name and job id are bound together, and the one-shot flag is armed. -/
def armPairing (ui : PairingUi) (id : JobId) (name : Bytes) : PairingUi :=
  { ui with pairingKeypadName := name, pairingJobId := some id, successNotified := false }

def pairBusy : HttpReply := .error "409 Conflict" "A keypad link job is already in progress."

def pairStarted (id : JobId) (family : KeypadFamily) : HttpReply :=
  .jobStarted id.text
    ((List.range (KeypadPairer.stepCount family).toNat).map fun i =>
      KeypadPairer.stepLabel family (.ofNat i))

-----------------------------------------------------------------------------------------
-- `handle_lock_link_`
-----------------------------------------------------------------------------------------

/-- What `handle_lock_link_` checks before it looks whether a lock is linked. -/
def linkGate (ui : PairingUi) (cloud : CloudAnswers) (mac : Bytes) : Option HttpReply :=
  if mac = [] then some (.error "400 Bad Request" "Missing lock mac.")
  else if cloud.loggedIn = false then some (.error "401 Unauthorized" "Sign in first.")
  else if ui.keypadPaired = false then
    some (.error "409 Conflict" "Link a keypad before linking a lock.")
  else none

/-- The same one-shot rule as for a keypad. -/
def lockGate (ui : PairingUi) : Option HttpReply :=
  if ui.lockLinked then
    some (.error "409 Conflict"
      ("A lock is already linked to this bridge. "
        ++ "Press the Reset button to start over."))
  else none

/-- What `handle_lock_link_` asks the cloud, and the request it builds from the answers. -/
def linkRequest (ui : PairingUi) (cloud : CloudAnswers) (mac : Bytes)
    : Except HttpReply LockLinker.Request :=
  match cloud.devices with
  | .error err => .error (.error "502 Bad Gateway" err)
  | .ok devices =>
      match findAccountDevice devices mac with
      | none => .error (.error "404 Not Found" "Lock not in this SwitchBot account.")
      | some found =>
          let model := physicalLockModelFromApiType found.deviceType
          if model = .unknown then
            .error
              (.error "400 Bad Request" "This SwitchBot device is not a supported Lock.")
          else
            match fetchCommKey16 cloud found "lock provisioning" with
            | .error err => .error (.error "502 Bad Gateway" err)
            | .ok (lockKeyId, lockKey) =>
                .ok {
                  name := found.name
                  mac := found.macPretty
                  model
                  sharedKey := ui.sharedKey
                  sharedSlotId := sharedSlotForFamily ui.keypadFamily
                  lockKeyId
                  lockKey }

/-- `LockLinker::start` up to the creation of its task. -/
def occupyLinker (ui : PairingUi) (id : JobId) : Option PairingUi :=
  (ui.linker.occupy id LockLinker.stepCount (LockLinker.stepLabels.getD 0 "") {}).map
    fun linker => { ui with linker }

/-- A lock link begins only where none runs, and takes over the board. -/
theorem occupyLinker_eq_some {ui next : PairingUi} {id : JobId}
    (occupied : ui.occupyLinker id = some next)
    : ui.linker.status.state ≠ .running
      ∧ next
        = { ui with
            linker :=
              { ui.linker with
                payload := {}
                status :=
                  { state := .running
                    total := LockLinker.stepCount
                    message := LockLinker.stepLabels.getD 0 ""
                    jobId := some id } } } := by
  obtain ⟨_, taken, rfl⟩ := Option.map_eq_some_iff.mp occupied
  obtain ⟨free, rfl⟩ := BackgroundBleJob.occupy_eq_some taken
  exact ⟨free, rfl⟩

/-- The creation of the lock-link task. -/
def launchLinker (ui : PairingUi) (request : LockLinker.Request) (created : Bool)
    : PairingUi :=
  { ui with linker := ui.linker.createTask { request } created LockLinker.startError }

def armLink (ui : PairingUi) (id : JobId) : PairingUi :=
  { ui with linkJobId := some id, linkNotified := false }

def linkBusy : HttpReply := .error "409 Conflict" "A lock-link job is already in progress."

def linkStarted (id : JobId) : HttpReply :=
  .jobStarted id.text
    ((List.range LockLinker.stepCount.toNat).map fun i => LockLinker.stepLabel (.ofNat i))

end PairingUi

end KeypadBridge
