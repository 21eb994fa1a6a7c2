import KeypadBridge.Account.DeviceKeys
import KeypadBridge.Firmware.ScanUsers

/-! The wizard with its cloud client. Handlers run one at a time on the HTTP task, which is the
only user of the client, so a job works on a device of the account that is signed in when it
starts, with the key that this account was given for it.
-/

namespace KeypadBridge
open KeypadBridge.Foundation

-----------------------------------------------------------------------------------------
-- The system
-----------------------------------------------------------------------------------------

/-- The firmware, and the cloud client of its wizard. -/
structure AccountSystem where
  firmware : Firmware
  cloud : CloudClient := {}

inductive AccountOp where
  /-- A step of any task but a handler's. -/
  | task (op : FirmwareOp)
  /-- The next step of the handler that is running. -/
  | handle (net : Network) (espMac : MacBytes) (millis : UInt32) (taskCreated : Bool)
  /-- A request to sign in. -/
  | login (email password : Bytes) (net : Network) (millis : UInt32)
  /-- A request to list what is nearby, up to its scan. -/
  | list (route : ScanRoute) (net : Network) (millis : UInt32)

/-- What is seen of a step: events of the wizard, and calls of the client. -/
structure AccountStep where
  events : List WizardEvent := []
  calls : List CloudCall := []

/-- The calls with which a handler looks a device up: the key of an unsupported device is not
asked for.
-/
def CloudClient.lookupCalls (library : JsonLibrary) (net : Network) (client : CloudClient)
    (mac : Bytes) (supported : AccountDevice → Bool)
    : List CloudCall :=
  ⟨.listDevices false, net⟩ ::
    match (client.listDevices library net false).2.answer with
    | .error _ => []
    | .ok devices =>
        match findAccountDevice devices mac with
        | none => []
        | some found => if supported found then [⟨.fetchDeviceKey found.mac, net⟩] else []

def AccountDevice.isLock (device : AccountDevice) : Bool :=
  physicalLockModelFromApiType device.deviceType ≠ .unknown

namespace AccountSystem

/-- The calls that the next step of a handler makes. -/
def handlerCalls (library : JsonLibrary) (net : Network) (system : AccountSystem)
    : List CloudCall :=
  match system.firmware.http with
  | .pairAllowed mac _ => system.cloud.lookupCalls library net mac fun _ => true
  | .linkAllowed mac => system.cloud.lookupCalls library net mac AccountDevice.isLock
  | _ => []

/-- A handler's call for the list of devices, behind the checks that come before it. -/
def listCalls (net : Network) (system : AccountSystem) (route : ScanRoute)
    : List CloudCall :=
  if system.cloud.isLoggedIn
      && (route ≠ .locks || system.firmware.device.pairingUi.keypadPaired) then
    [⟨.listDevices false, net⟩]
  else []

/-- The server takes a new request. -/
def serves (system : AccountSystem) : Bool :=
  system.firmware.device.pairingUi.server && system.firmware.http = .resting

/-- `handle_login_`, behind what it reads of the body. -/
def performLogin (library : JsonLibrary) (system : AccountSystem) (email password : Bytes)
    (net : Network) (millis : UInt32)
    : AccountSystem × AccountStep :=
  if system.serves = false then (system, {})
  else
    let firmware := (system.firmware.receiveRequest .other millis).1
    if email = [] ∨ password = [] then
      ({ system with firmware },
        { events := [.replied (.error "400 Bad Request" "Missing email or password.")] })
    else
      let (cloud, result) := system.cloud.login library net email password
      let reply : HttpReply :=
        match result.answer with
        | .error err => .error "401 Unauthorized" err
        | .ok _ => .served
      ({ firmware, cloud },
        { events := [.replied reply], calls := [⟨.login email password, net⟩] })

/-- `handle_keypads_` and `handle_locks_`, up to their scan. -/
def performList (library : JsonLibrary) (system : AccountSystem) (route : ScanRoute)
    (net : Network) (millis : UInt32)
    : AccountSystem × AccountStep :=
  if system.serves = false then (system, {})
  else
    let firmware := (system.firmware.receiveRequest .other millis).1
    let calls := system.listCalls net route
    let reply :=
      (system.firmware.device.pairingUi.scanGate (system.cloud.answers library net)
        route).getD .served
    ({ firmware, cloud := (cloudMachine library).run system.cloud calls },
      { events := [.replied reply], calls })

/-- One step. -/
def perform (keystream : Keystream) (library : JsonLibrary) (system : AccountSystem)
    : AccountOp → AccountSystem × AccountStep
  | .task (.handle _) => (system, {})
  | .task op =>
      let (firmware, events) := system.firmware.perform keystream op
      ({ system with firmware }, { events })
  | .handle net espMac millis taskCreated =>
      let cloud := system.cloud.answers library net
      let calls := system.handlerCalls library net
      let (firmware, events) :=
        system.firmware.performHandler { cloud, espMac, millis, taskCreated }
      ({ firmware, cloud := (cloudMachine library).run system.cloud calls }, { events, calls })
  | .login email password net millis =>
      system.performLogin library email password net millis
  | .list route net millis => system.performList library route net millis

/-- The system as `setup` leaves it. -/
def booted (config : DeviceConfig) (preferences : Preferences) (boot : BootEnv)
    : AccountSystem where
  firmware := .booted config preferences boot

end AccountSystem

def accountMachine (keystream : Keystream) (library : JsonLibrary)
    : Machine AccountSystem AccountOp AccountStep where
  step := AccountSystem.perform keystream library

-----------------------------------------------------------------------------------------
-- What a job was built from
-----------------------------------------------------------------------------------------

/-- The call asks for the key of a device, and the cloud returned this one to the holder of a
token.
-/
def CloudCall.ReturnsKey (library : JsonLibrary) (token region mac : Bytes) (keyId : UInt8)
    (key : AesKey) (call : CloudCall)
    : Prop :=
  call.op = .fetchDeviceKey mac
  ∧ ∃ keyIdText bytes,
      (call.net.call (CloudClient.keyRequest ⟨token, region, []⟩ mac)
        (readDeviceKey library)).answer
        = .ok (keyIdText, bytes)
      ∧ parseKeyIdHex keyIdText = some keyId
      ∧ key.toList = bytes

/-- The account that is signed in listed a device in this session, and was given its key. -/
def AccountBacked (library : JsonLibrary) (calls : List CloudCall) (device : AccountDevice)
    (keyId : UInt8) (key : AesKey)
    : Prop :=
  ∃ token region devices,
    SignedIn library token region calls
    ∧ device ∈ devices
    ∧ Lately CloudCall.IsLogin (CloudCall.Returns library token region devices) calls
    ∧ Lately CloudCall.IsLogin (CloudCall.ReturnsKey library token region device.mac keyId key)
        calls

theorem AccountBacked.append {library : JsonLibrary} {calls more : List CloudCall}
    {device : AccountDevice} {keyId : UInt8} {key : AesKey}
    (backed : AccountBacked library calls device keyId key)
    (others : ∀ call ∈ more, ¬ call.IsLogin)
    : AccountBacked library (calls ++ more) device keyId key := by
  obtain ⟨token, region, devices, signedIn, member, listed, given⟩ := backed
  exact ⟨token, region, devices, signedIn.append others, member, listed.append others,
    given.append others⟩

/-- A pairing request for a device of the account. -/
def PairBacked (library : JsonLibrary) (calls : List CloudCall)
    (request : KeypadPairer.Request) (name : Bytes)
    : Prop :=
  ∃ device keyId,
    AccountBacked library calls device keyId request.key
    ∧ request.keyId = keyId.toNat
    ∧ request.keypadMac = device.macPretty
    ∧ name = device.name

/-- A lock-link request for a lock of the account. -/
def LinkBacked (library : JsonLibrary) (calls : List CloudCall) (request : LockLinker.Request)
    : Prop :=
  ∃ device,
    AccountBacked library calls device request.lockKeyId request.lockKey
    ∧ request.mac = device.macPretty
    ∧ request.name = device.name
    ∧ request.model = physicalLockModelFromApiType device.deviceType
    ∧ request.model ≠ .unknown

/-- What a handler carries was built for the account. -/
def HttpTask.Backed (library : JsonLibrary) (calls : List CloudCall) : HttpTask → Prop
  | .pairReady request name | .pairOccupied _ request name =>
      PairBacked library calls request name
  | .linkReady request | .linkOccupied _ request => LinkBacked library calls request
  | _ => True

theorem HttpTask.Backed.append {library : JsonLibrary} {calls more : List CloudCall}
    {http : HttpTask} (backed : http.Backed library calls)
    (others : ∀ call ∈ more, ¬ call.IsLogin)
    : http.Backed library (calls ++ more) := by
  cases http with
  | pairReady | pairOccupied =>
      obtain ⟨device, keyId, account, rest⟩ := backed
      exact ⟨device, keyId, account.append others, rest⟩
  | linkReady | linkOccupied =>
      obtain ⟨device, account, rest⟩ := backed
      exact ⟨device, account.append others, rest⟩
  | _ => trivial

-----------------------------------------------------------------------------------------
-- Handlers
-----------------------------------------------------------------------------------------

namespace CloudClient

variable {library : JsonLibrary} {net : Network} {client : CloudClient}

theorem lookupCalls_others (mac : Bytes) (supported : AccountDevice → Bool)
    : ∀ call ∈ client.lookupCalls library net mac supported, ¬ call.IsLogin := by
  have listing := CloudCall.not_isLogin_listDevices false net
  have fetching (mac : Bytes) := CloudCall.not_isLogin_fetchDeviceKey mac net
  unfold lookupCalls
  split
  · simpa using listing
  · split
    · simpa using listing
    · split
      · simpa using ⟨listing, fetching _⟩
      · simpa using listing

/-- A device that was looked up and given a key belongs to the account. -/
theorem Remembers.lookup {calls : List CloudCall} {mac : Bytes}
    {supported : AccountDevice → Bool} {devices : List AccountDevice} {found : AccountDevice}
    {deviceLabel : String} {keyId : UInt8} {key : AesKey}
    (remembers : Remembers library calls client)
    (listed : (client.answers library net).devices = .ok devices)
    (finds : findAccountDevice devices mac = some found) (supports : supported found = true)
    (fetched
      : fetchCommKey16 (client.answers library net) found deviceLabel = .ok (keyId, key))
    : AccountBacked library (calls ++ client.lookupCalls library net mac supported) found keyId
        key := by
  have listing : (client.listDevices library net false).2.answer = .ok devices := listed
  obtain ⟨signedIn, returned⟩ := remembers.listed listing
  have made
      : calls ++ client.lookupCalls library net mac supported
        = (calls ++ [⟨.listDevices false, net⟩]) ++ [⟨.fetchDeviceKey found.mac, net⟩] := by
    simp [lookupCalls, listing, finds, supports]
  have given
      : CloudCall.ReturnsKey library client.authToken client.region found.mac keyId key
          ⟨.fetchDeviceKey found.mac, net⟩ := by
    obtain ⟨keyIdText, bytes, answered, parses, same⟩ := fetchCommKey16_eq_ok fetched
    have loggedIn := (fetchDeviceKey_eq_ok.mp answered).1
    refine ⟨rfl, keyIdText, bytes, ?_, parses, same⟩
    simp only [answers, fetchDeviceKey, loggedIn] at answered
    exact answered
  refine ⟨client.authToken, client.region, devices, ?_, List.mem_of_find?_eq_some finds, ?_, ?_⟩
  · exact signedIn.append (lookupCalls_others mac supported)
  · rw [made]
    exact returned.later (CloudCall.not_isLogin_fetchDeviceKey found.mac net)
  · rw [made]
    exact .now given

end CloudClient

/-- A job that is launched. -/
def WizardEvent.LaunchBacked (library : JsonLibrary) (calls : List CloudCall)
    : WizardEvent → Prop
  | .pairing (.launched _ name request) => PairBacked library calls request name
  | .link (.launched _ () request) => LinkBacked library calls request
  | _ => True

namespace AccountSystem

variable {library : JsonLibrary} {calls : List CloudCall} (system : AccountSystem)

/-- A pairing request is built for a device of the account. -/
theorem pairRequest_backed {net : Network} {espMac : MacBytes} {mac name : Bytes}
    {family : KeypadFamily} {request : KeypadPairer.Request}
    (remembers : system.cloud.Remembers library calls)
    (built
      : system.firmware.device.pairingUi.pairRequest (system.cloud.answers library net) espMac
          mac family
        = .ok (request, name))
    : PairBacked library
        (calls ++ system.cloud.lookupCalls library net mac fun _ => true) request name := by
  unfold PairingUi.pairRequest at built
  split at built
  · cases built
  rename_i devices listed
  split at built
  · cases built
  rename_i found finds
  split at built
  · cases built
  rename_i keyId key fetched
  cases built
  exact ⟨found, keyId, remembers.lookup listed finds rfl fetched, rfl, rfl, rfl⟩

/-- A lock-link request is built for a lock of the account. -/
theorem linkRequest_backed {net : Network} {mac : Bytes} {request : LockLinker.Request}
    (remembers : system.cloud.Remembers library calls)
    (built
      : system.firmware.device.pairingUi.linkRequest (system.cloud.answers library net) mac
        = .ok request)
    : LinkBacked library (calls ++ system.cloud.lookupCalls library net mac AccountDevice.isLock)
        request := by
  unfold PairingUi.linkRequest at built
  split at built
  · cases built
  rename_i devices listed
  split at built
  · cases built
  rename_i found finds
  dsimp only at built
  split at built
  · cases built
  rename_i supported
  split at built
  · cases built
  rename_i keyId key fetched
  cases built
  exact ⟨found, remembers.lookup listed finds (by simpa [AccountDevice.isLock]) fetched, rfl,
    rfl, rfl, supported⟩

/-- The step of a handler keeps what it carries backed, and launches only such a job. -/
theorem performHandler_backed (net : Network) (espMac : MacBytes) (millis : UInt32)
    (taskCreated : Bool) (remembers : system.cloud.Remembers library calls)
    (backed : system.firmware.http.Backed library calls)
    : let env : HttpEnv := {
        cloud := system.cloud.answers library net, espMac, millis, taskCreated }
      (system.firmware.performHandler env).1.http.Backed library
          (calls ++ system.handlerCalls library net)
      ∧ ∀ event ∈ (system.firmware.performHandler env).2, event.LaunchBacked library calls := by
  intro env
  obtain ⟨⟨device, main, http⟩, cloud⟩ := system
  cases http with
  | resting => exact ⟨trivial, by simp [Firmware.performHandler]⟩
  | pairAsked mac family =>
      simp only [Firmware.performHandler]
      split <;> exact ⟨trivial, by simp [Firmware.reply, WizardEvent.LaunchBacked]⟩
  | pairAllowed mac family =>
      simp only [Firmware.performHandler]
      split
      · exact ⟨trivial, by simp [Firmware.reply, WizardEvent.LaunchBacked]⟩
      · rename_i request name built
        exact ⟨pairRequest_backed _ remembers built, by simp⟩
  | pairReady request name =>
      simp only [Firmware.performHandler]
      split
      · exact ⟨trivial, by simp [Firmware.reply, WizardEvent.LaunchBacked]⟩
      · exact ⟨backed.append (by simp [handlerCalls]), by simp [WizardEvent.LaunchBacked]⟩
  | pairOccupied id request name =>
      simp only [Firmware.performHandler]
      split
      · refine ⟨trivial, fun event member => ?_⟩
        rw [List.mem_singleton.mp member]
        exact backed
      · exact ⟨trivial, by simp [WizardEvent.LaunchBacked]⟩
  | pairLaunched id family name =>
      exact ⟨trivial, by simp [Firmware.performHandler, WizardEvent.LaunchBacked]⟩
  | linkAsked mac =>
      simp only [Firmware.performHandler]
      split
      · exact ⟨trivial, by simp [Firmware.reply, WizardEvent.LaunchBacked]⟩
      · exact ⟨trivial, by simp⟩
  | linkGated mac =>
      simp only [Firmware.performHandler]
      split <;> exact ⟨trivial, by simp [Firmware.reply, WizardEvent.LaunchBacked]⟩
  | linkAllowed mac =>
      simp only [Firmware.performHandler]
      split
      · exact ⟨trivial, by simp [Firmware.reply, WizardEvent.LaunchBacked]⟩
      · rename_i request built
        exact ⟨linkRequest_backed _ remembers built, by simp [WizardEvent.LaunchBacked]⟩
  | linkReady request =>
      simp only [Firmware.performHandler]
      split
      · exact ⟨trivial, by simp [Firmware.reply, WizardEvent.LaunchBacked]⟩
      · exact ⟨backed.append (by simp [handlerCalls]), by simp [WizardEvent.LaunchBacked]⟩
  | linkOccupied id request =>
      simp only [Firmware.performHandler]
      split
      · refine ⟨trivial, fun event member => ?_⟩
        rw [List.mem_singleton.mp member]
        exact backed
      · exact ⟨trivial, by simp [WizardEvent.LaunchBacked]⟩
  | linkLaunched id =>
      exact ⟨trivial, by simp [Firmware.performHandler, WizardEvent.LaunchBacked]⟩

end AccountSystem

-----------------------------------------------------------------------------------------
-- Other tasks
-----------------------------------------------------------------------------------------

namespace Firmware

variable {library : JsonLibrary} {calls : List CloudCall} {firmware : Firmware}

/-- A new request carries nothing yet. -/
theorem receiveRequest_backed (backed : firmware.http.Backed library calls)
    (request : HttpRequest) (millis : UInt32)
    : (firmware.receiveRequest request millis).1.http.Backed library calls
      ∧ ∀ event ∈ (firmware.receiveRequest request millis).2,
          event.LaunchBacked library calls := by
  unfold receiveRequest
  split
  · cases request with
    | pair | lockLink => exact ⟨trivial, by simp⟩
    | other => exact ⟨backed, by simp [WizardEvent.LaunchBacked]⟩
  · exact ⟨backed, by simp⟩

/-- Only a handler launches a job, and only a handler changes what it carries. -/
theorem perform_backed (keystream : Keystream) {op : FirmwareOp}
    (other : ∀ env, op ≠ .handle env) (backed : firmware.http.Backed library calls)
    : (firmware.perform keystream op).1.http.Backed library calls
      ∧ ∀ event ∈ (firmware.perform keystream op).2, event.LaunchBacked library calls := by
  cases op with
  | handle env => exact (other env rfl).elim
  | request request millis => exact receiveRequest_backed backed request millis
  | main env =>
      obtain ⟨move, http⟩ := firmware.performMain_moves env
      simp only [perform, http]
      refine ⟨backed, fun event shown => ?_⟩
      have loops := move.isLoops event shown
      cases event with
      | pairing label | link label => cases label <;> trivial
      | _ => trivial
  | serve op =>
      simp only [perform]
      split <;> exact ⟨backed, by simp⟩
  | reset env =>
      simp only [perform, performReset]
      split
      · exact ⟨backed, by simp [WizardEvent.LaunchBacked]⟩
      · exact ⟨backed, by simp⟩
  | pairJob move =>
      simp only [perform, performPairJob]
      split
      · refine ⟨backed, fun event shown => ?_⟩
        rw [List.mem_singleton.mp shown]
        cases move <;> trivial
      · exact ⟨backed, by simp⟩
  | linkJob move =>
      simp only [perform, performLinkJob]
      split
      · refine ⟨backed, fun event shown => ?_⟩
        rw [List.mem_singleton.mp shown]
        cases move with
        | step | storeSlot => trivial
        | succeed | fail =>
            simp only [linkLabel]
            split <;> trivial
      · exact ⟨backed, by simp⟩

end Firmware

-----------------------------------------------------------------------------------------
-- Runs
-----------------------------------------------------------------------------------------

/-- The client remembers the calls so far, and what a handler carries belongs to the account. -/
structure AccountSystem.Sound (library : JsonLibrary) (calls : List CloudCall)
    (system : AccountSystem)
    : Prop where
  remembers : system.cloud.Remembers library calls
  http : system.firmware.http.Backed library calls

namespace AccountSystem

variable {library : JsonLibrary} {calls : List CloudCall} {system : AccountSystem}

theorem performLogin_sound (sound : system.Sound library calls) (email password : Bytes)
    (net : Network) (millis : UInt32)
    : let result := system.performLogin library email password net millis
      result.1.Sound library (calls ++ result.2.calls)
      ∧ ∀ event ∈ result.2.events, event.LaunchBacked library calls := by
  unfold performLogin
  split
  · exact ⟨by simpa using sound, by simp⟩
  rename_i serves
  -- No handler is running when the server takes a request.
  have resting : (system.firmware.receiveRequest .other millis).1.http = .resting := by
    have both
        : system.firmware.device.pairingUi.server = true ∧ system.firmware.http = .resting := by
      simpa [AccountSystem.serves] using serves
    simp only [Firmware.receiveRequest, if_pos both]
    exact both.2
  dsimp only
  split
  · refine ⟨⟨by simpa using sound.remembers, ?_⟩, by simp [WizardEvent.LaunchBacked]⟩
    rw [resting]
    trivial
  · refine ⟨⟨?_, ?_⟩, by simp [WizardEvent.LaunchBacked]⟩
    · exact system.cloud.perform_remembers ⟨.login email password, net⟩ sound.remembers
    · rw [resting]
      trivial

theorem listCalls_others (net : Network) (route : ScanRoute)
    : ∀ call ∈ system.listCalls net route, ¬ call.IsLogin := by
  unfold listCalls
  split
  · simpa using CloudCall.not_isLogin_listDevices false net
  · simp

theorem performList_sound (sound : system.Sound library calls) (route : ScanRoute)
    (net : Network) (millis : UInt32)
    : let result := system.performList library route net millis
      result.1.Sound library (calls ++ result.2.calls)
      ∧ ∀ event ∈ result.2.events, event.LaunchBacked library calls := by
  unfold performList
  split
  · exact ⟨by simpa using sound, by simp⟩
  · refine ⟨⟨sound.remembers.run, ?_⟩, by simp [WizardEvent.LaunchBacked]⟩
    exact (Firmware.receiveRequest_backed sound.http .other millis).1.append
      (listCalls_others net route)

/-- One step. -/
theorem perform_sound (sound : system.Sound library calls) (keystream : Keystream)
    (op : AccountOp)
    : let result := system.perform keystream library op
      result.1.Sound library (calls ++ result.2.calls)
      ∧ ∀ event ∈ result.2.events, event.LaunchBacked library calls := by
  cases op with
  | login email password net millis => exact performLogin_sound sound email password net millis
  | list route net millis => exact performList_sound sound route net millis
  | handle net espMac millis taskCreated =>
      obtain ⟨http, events⟩ :=
        performHandler_backed system net espMac millis taskCreated sound.remembers sound.http
      exact ⟨⟨sound.remembers.run, http⟩, events⟩
  | task op =>
      by_cases handler : ∃ env, op = .handle env
      · obtain ⟨env, rfl⟩ := handler
        have idle : system.perform keystream library (.task (.handle env)) = (system, {}) := rfl
        rw [idle]
        exact ⟨by simpa using sound, by simp⟩
      · have other : ∀ env, op ≠ .handle env := fun env same => handler ⟨env, same⟩
        obtain ⟨http, events⟩ := Firmware.perform_backed keystream other sound.http
        have performed
            : system.perform keystream library (.task op)
              = ({ system with firmware := (system.firmware.perform keystream op).1 },
                  { events := (system.firmware.perform keystream op).2 }) := by
          cases op with
          | handle env => exact (other env rfl).elim
          | _ => rfl
        rw [performed]
        exact ⟨⟨by simpa using sound.remembers, by simpa using http⟩, events⟩

/-- Whole runs, by induction over the steps. -/
theorem history_sound (keystream : Keystream) (library : JsonLibrary) (config : DeviceConfig)
    (preferences : Preferences) (boot : BootEnv) (ops : List AccountOp)
    : let machine := accountMachine keystream library
      let steps := machine.history (booted config preferences boot) ops
      (machine.run (booted config preferences boot) ops).Sound library
          (steps.flatMap AccountStep.calls)
      ∧ Along
          (fun earlier step =>
            ∀ event ∈ step.events,
              event.LaunchBacked library (earlier.flatMap AccountStep.calls))
          [] steps := by
  intro machine steps
  have initial : (booted config preferences boot).Sound library [] := ⟨.cleared {}, trivial⟩
  refine machine.history_invariant
    (fun seen system =>
      system.Sound library (seen.flatMap AccountStep.calls)
      ∧ Along
          (fun earlier step =>
            ∀ event ∈ step.events,
              event.LaunchBacked library (earlier.flatMap AccountStep.calls))
          [] seen) ⟨initial, trivial⟩ ?_ ops
  rintro seen system op ⟨sound, backed⟩
  obtain ⟨next, events⟩ := perform_sound sound keystream op
  refine ⟨?_, backed.snoc events⟩
  rw [List.flatMap_append, List.flatMap_singleton]
  exact next

end AccountSystem

/-- Every job of the wizard that is launched, in any run, works on a device that the account
which is signed in at that moment listed in this session, under the name and the address that
the cloud gave it, and with the key that this account was given for it; a lock-link job only on
a supported lock.
-/
theorem jobs_of_signed_in_account (keystream : Keystream) (library : JsonLibrary)
    (config : DeviceConfig) (preferences : Preferences) (boot : BootEnv) (ops : List AccountOp)
    : Along
        (fun earlier step =>
          ∀ event ∈ step.events,
            event.LaunchBacked library (earlier.flatMap AccountStep.calls))
        []
        ((accountMachine keystream library).history
          (AccountSystem.booted config preferences boot) ops) :=
  (AccountSystem.history_sound keystream library config preferences boot ops).2

end KeypadBridge
