import KeypadBridge.Bridge.RelaySlot
import KeypadBridge.Firmware.Attribution
import KeypadBridge.Firmware.Serving

/-! Who uses the one NimBLE scan: the battery scan window of `loop()`, the relay task that has to
discover the lock, and the wizard with its handlers and jobs. The battery scan and the relay
heed each other and the wizard's server; the relay does not heed the wizard.
-/

namespace KeypadBridge
open KeypadBridge.Foundation

/-- A task that runs a blocking scan. -/
inductive ScanUser where
  /-- The HTTP task, in `scan_nearby`. -/
  | handler
  /-- The pairing job, in `discover_target`. -/
  | pairing
  /-- The lock-link job and the relay task, in `connect_`. -/
  | linking
  | relay
  deriving DecidableEq

/-- The requests whose handlers scan. -/
inductive ScanRoute where
  | keypads
  | locks
  deriving DecidableEq

/-- `handle_keypads_` and `handle_locks_` up to their scan. -/
def PairingUi.scanGate (ui : PairingUi) (cloud : CloudAnswers) (route : ScanRoute)
    : Option HttpReply :=
  if cloud.loggedIn = false then some (.error "401 Unauthorized" "Sign in first.")
  else if route = .locks ∧ ui.keypadPaired = false then
    some (.error "409 Conflict" "Link a keypad before linking a lock.")
  else
    match cloud.devices with
    | .error err => some (.error "502 Bad Gateway" err)
    | .ok _ => none

/-- The firmware and its blocking scans. -/
structure ScanSystem where
  firmware : Firmware
  scanning : ScanUser → Bool := fun _ => false

/-- A step of the firmware, of a blocking scan, or of the relay task. -/
inductive ScanStep where
  | firmware (op : FirmwareOp)
  /-- A request to list what is nearby, up to its scan. -/
  | scanRequest (route : ScanRoute) (cloud : CloudAnswers) (millis : UInt32)
  /-- A job or the relay task turns to its scan. -/
  | begin (user : ScanUser)
  | finish (user : ScanUser)
  | relayDone

namespace ScanSystem

section

variable (system : ScanSystem)

def setScanning (user : ScanUser) (scans : Bool) : ScanSystem :=
  { system with scanning := Function.update system.scanning user scans }

/-- The task is there to scan. -/
def canScan : ScanUser → Bool
  | .handler => false
  | .pairing => system.firmware.device.pairingUi.pairer.task.isSome
  | .linking => system.firmware.device.pairingUi.linker.task.isSome
  | .relay => system.firmware.device.bridge.lockRelayBusy

/-- A task does nothing else during its scan; `httpd_stop` waits for the HTTP task. -/
def waits : FirmwareOp → Bool
  | .main _ => system.firmware.main = .stopping && system.scanning .handler
  | .request .. => system.scanning .handler
  | .pairJob _ => system.scanning .pairing
  | .linkJob _ => system.scanning .linking
  | .serve _ | .reset _ | .handle _ => false

/-- One step. -/
def perform (keystream : Keystream) : ScanStep → ScanSystem
  | .firmware op =>
      if system.waits op then system
      else { system with firmware := (system.firmware.perform keystream op).1 }
  | .scanRequest route cloud millis =>
      let ui := system.firmware.device.pairingUi
      if ui.server = true ∧ system.firmware.http = .resting ∧ system.scanning .handler = false
      then
        let touched := { system with firmware := system.firmware.withUi (ui.touchActivity millis) }
        match ui.scanGate cloud route with
        | some _ => touched
        | none => touched.setScanning .handler true
      else system
  | .begin user =>
      if system.canScan user && !system.scanning user then system.setScanning user true
      else system
  | .finish user => system.setScanning user false
  | .relayDone =>
      if system.scanning .relay then system
      else
        { system with
          firmware := { system.firmware with device := system.firmware.device.relayDone } }

end

/-- The firmware as `setup` leaves it. -/
def booted (config : DeviceConfig) (preferences : Preferences) (boot : BootEnv)
    : ScanSystem where
  firmware := .booted config preferences boot

/-- The wizard scans: a handler of its server, or one of its jobs. -/
def WizardScans (system : ScanSystem) : Prop :=
  system.scanning .handler = true ∨ system.scanning .pairing = true
  ∨ system.scanning .linking = true

/-- The scan has one user at a time: the battery scan window, the relay, or the wizard. -/
structure OneUser (system : ScanSystem) : Prop where
  windowRelay
    : ¬ (system.firmware.device.bridge.batteryScan.active = true ∧ system.scanning .relay = true)
  windowWizard
    : ¬ (system.firmware.device.bridge.batteryScan.active = true ∧ system.WizardScans)
  relayWizard : ¬ (system.scanning .relay = true ∧ system.WizardScans)

/-- The relay turns to its scan while the wizard is closed, the wizard is not opened during a
scan of the relay, and it is not closed over a job that is running.
-/
def WizardApart (system : ScanSystem) : ScanStep → Prop
  | .begin .relay => system.firmware.device.pairingUi.server = false
  | .firmware (.reset _) => system.scanning .relay = false
  | .firmware (.main _) =>
      system.firmware.main = .stopping
        → system.firmware.http = .resting
        → system.firmware.device.pairingUi.pairer.status.state ≠ .running
          ∧ system.firmware.device.pairingUi.linker.status.state ≠ .running
  | _ => True

instance (system : ScanSystem) (step : ScanStep) : Decidable (system.WizardApart step) := by
  unfold WizardApart
  split <;> infer_instance

end ScanSystem

def scanMachine (keystream : Keystream) : Machine ScanSystem ScanStep Unit where
  step system step := (system.perform keystream step, ())

-----------------------------------------------------------------------------------------
-- The battery scan window
-----------------------------------------------------------------------------------------

/-- The window is open only while the server is down and no relay is in flight. -/
def Device.WindowApart (device : Device) : Prop :=
  device.bridge.batteryScan.active = true
    → device.pairingUi.server = false ∧ device.bridge.lockRelayBusy = false

namespace Device

variable {device : Device}

theorem WindowApart.schedule (apart : device.WindowApart) (due : UInt32)
    : (device.scheduleScan due).WindowApart :=
  apart

/-- The window opens while the server is down and no relay is in flight. -/
theorem WindowApart.maybeStart (apart : device.WindowApart) (env : ScanEnv)
    : (device.maybeStartBatteryScan env).1.WindowApart := by
  unfold maybeStartBatteryScan
  dsimp only
  split
  · split
    · exact apart
    · exact fun active => absurd active Bool.false_ne_true
  split
  · exact apart
  split
  · exact apart.schedule _
  split
  · exact apart.schedule _
  · rename_i free
    split
    · intro _
      have idle : device.backgroundBleBusy env.connected = false := by
        simp only [Bool.or_eq_true, not_or] at free
        simpa using free.1
      simp only [backgroundBleBusy, Bool.or_eq_false_iff] at idle
      exact idle.1
    · exact fun active => absurd active Bool.false_ne_true

/-- The other calls of `loop()` keep the window to itself. -/
theorem WindowApart.performLoop (apart : device.WindowApart) (keystream : Keystream)
    {op : LoopOp} (notLinking : op.isLinking = false)
    : (device.performLoop keystream op).1.WindowApart := by
  cases op with
  | paired | lockLinked | applyPairing | applyLockLink => cases notLinking
  | drained event env =>
      intro active
      rcases device.bridge.drainEvent_keepsWindow keystream (device.rxEnv env) event with
        ⟨same, busy⟩ | closed
      · simp only [Device.performLoop, Device.drainEvent, same] at active ⊢
        rw [busy]
        exact apart active
      · simp [Device.performLoop, Device.drainEvent, closed] at active
  | keypadBattery env =>
      simp only [Device.performLoop, applyPendingKeypadBattery]
      split
      · exact apart
      · simp only [learnKeypad, publishKeypadBattery]
        split <;> split <;> exact apart
  | lockBattery =>
      simp only [Device.performLoop, applyPendingLockBattery]
      split
      · exact apart
      · simp only [publishLockBattery]
        split <;> exact apart
  | finishScan env =>
      simp only [Device.performLoop, maybeFinishBatteryScan]
      split
      · exact apart
      split
      · exact apart
      split
      · exact apart
      · exact fun active => absurd active Bool.false_ne_true
  | startScan env => exact apart.maybeStart env

/-- A reset closes the window before it starts the server. -/
theorem WindowApart.resetPairing (apart : device.WindowApart) (env : ResetEnv)
    : (device.resetPairing env).1.WindowApart := by
  unfold Device.resetPairing
  dsimp only
  split
  · exact fun active => absurd active Bool.false_ne_true
  · unfold importAesKey
    split <;> exact apart

/-- The calls of `loop()` free no relay. -/
theorem performLoop_lockRelayBusy (keystream : Keystream) (op : LoopOp)
    (busy : device.bridge.lockRelayBusy = true)
    : (device.performLoop keystream op).1.bridge.lockRelayBusy = true := by
  cases undrained : (StationOp.loop op).drains with
  | false =>
      exact (congrArg ReceiveState.lockRelayBusy
        (device.performLoop_receiveState keystream undrained)).trans busy
  | true =>
      cases op with
      | drained event env =>
          cases event with
          | connect | disconnect => exact busy
          | rx frame =>
              have tasks := (device.bridge.onRxFrame_tasks keystream (device.rxEnv env) frame).2
              rw [busy, Bool.true_or] at tasks
              exact tasks
      | _ => cases undrained

end Device

-----------------------------------------------------------------------------------------
-- The wizard
-----------------------------------------------------------------------------------------

namespace Firmware

/-- A handler leaves the window and the relay alone, and ends no job's task. -/
structure HandlerKeeps (before after : Device) : Prop where
  batteryScan : after.bridge.batteryScan = before.bridge.batteryScan
  lockRelayBusy : after.bridge.lockRelayBusy = before.bridge.lockRelayBusy
  pairing
    : before.pairingUi.pairer.task.isSome = true → after.pairingUi.pairer.task.isSome = true
  linking
    : before.pairingUi.linker.task.isSome = true → after.pairingUi.linker.task.isSome = true

theorem performHandler_keeps (firmware : Firmware) (env : HttpEnv)
    : HandlerKeeps firmware.device (firmware.performHandler env).1.device := by
  obtain ⟨device, main, http⟩ := firmware
  cases http with
  | pairReady =>
      simp only [performHandler]
      split
      · exact ⟨rfl, rfl, id, id⟩
      · rename_i occupied
        obtain ⟨-, rfl⟩ := PairingUi.occupyPairer_eq_some occupied
        exact ⟨rfl, rfl, id, id⟩
  | linkReady =>
      simp only [performHandler]
      split
      · exact ⟨rfl, rfl, id, id⟩
      · rename_i occupied
        obtain ⟨-, rfl⟩ := PairingUi.occupyLinker_eq_some occupied
        exact ⟨rfl, rfl, id, id⟩
  | pairOccupied =>
      simp only [performHandler, PairingUi.launchPairer, BackgroundBleJob.createTask]
      split
      · exact ⟨rfl, rfl, fun _ => rfl, id⟩
      · exact ⟨rfl, rfl, id, id⟩
  | linkOccupied =>
      simp only [performHandler, PairingUi.launchLinker, BackgroundBleJob.createTask]
      split
      · exact ⟨rfl, rfl, id, fun _ => rfl⟩
      · exact ⟨rfl, rfl, id, id⟩
  | pairAsked | pairAllowed | linkAsked | linkGated | linkAllowed =>
      simp only [performHandler]
      split <;> exact ⟨rfl, rfl, id, id⟩
  | resting | pairLaunched | linkLaunched => exact ⟨rfl, rfl, id, id⟩

end Firmware

-----------------------------------------------------------------------------------------
-- Every run
-----------------------------------------------------------------------------------------

namespace ScanSystem

/-- The window and the relay keep out of each other's way and out of the wizard's, and whoever
scans for the wizard does so behind its server.
-/
structure Apart (system : ScanSystem) : Prop where
  window : system.firmware.device.WindowApart
  served : system.firmware.Served
  pairer : system.firmware.PairerSound
  linker : system.firmware.LinkerSound
  handler : system.scanning .handler = true → system.firmware.activity.server = true
  pairing
    : system.scanning .pairing = true
      → system.firmware.device.pairingUi.pairer.task.isSome = true
  linking
    : system.scanning .linking = true
      → system.firmware.device.pairingUi.linker.task.isSome = true
  relay
    : system.scanning .relay = true
      → system.firmware.device.bridge.lockRelayBusy = true
        ∧ system.firmware.activity.server = false

variable {system : ScanSystem}

/-- The wizard scans only while its server is up. -/
theorem Apart.up (apart : system.Apart) (scans : system.WizardScans)
    : system.firmware.activity.server = true := by
  rcases scans with handler | pairing | linking
  · exact apart.handler handler
  · exact apart.served.pairing (apart.pairer.working (apart.pairing pairing))
  · obtain ⟨task, busy⟩ := Option.isSome_iff_exists.mp (apart.linking linking)
    exact apart.served.linking (apart.linker.working busy).1

/-- So the scan has one user at a time. -/
theorem Apart.oneUser (apart : system.Apart) : system.OneUser where
  windowRelay := by
    rintro ⟨active, scans⟩
    have free := (apart.window active).2
    rw [(apart.relay scans).1] at free
    cases free
  windowWizard := by
    rintro ⟨active, scans⟩
    have down : system.firmware.activity.server = false := (apart.window active).1
    rw [apart.up scans] at down
    cases down
  relayWizard := by
    rintro ⟨relays, scans⟩
    have down := (apart.relay relays).2
    rw [apart.up scans] at down
    cases down

/-- A step that changes neither the wizard's server nor its jobs, nor the window and the relay. -/
theorem Apart.aside (apart : system.Apart) {firmware : Firmware}
    (activity : firmware.activity.server = system.firmware.activity.server)
    (pairer : firmware.device.pairingUi.pairer = system.firmware.device.pairingUi.pairer)
    (linker : firmware.device.pairingUi.linker = system.firmware.device.pairingUi.linker)
    (http : firmware.http = system.firmware.http)
    (window : firmware.device.WindowApart)
    (relay
      : system.firmware.device.bridge.lockRelayBusy = true
        → firmware.device.bridge.lockRelayBusy = true)
    : Apart { system with firmware } where
  window := window
  served := by
    obtain ⟨handler, pairing, linking⟩ := apart.served
    rw [← activity] at handler pairing linking
    exact ⟨fun busy => handler (http ▸ busy), fun running => pairing (pairer ▸ running),
      fun running => linking (linker ▸ running)⟩
  pairer := apart.pairer.of_same pairer fun occupied => http ▸ occupied
  linker := apart.linker.of_same linker fun occupied => http ▸ occupied
  handler scans := activity.trans (apart.handler scans)
  pairing scans := by
    rw [pairer]
    exact apart.pairing scans
  linking scans := by
    rw [linker]
    exact apart.linking scans
  relay scans := ⟨relay (apart.relay scans).1, activity.trans (apart.relay scans).2⟩

/-- `loop()` takes its next step. -/
theorem Apart.main (apart : system.Apart) (keystream : Keystream) (env : MainEnv)
    (free : system.waits (.main env) = false) (idle : system.WizardApart (.firmware (.main env)))
    : Apart { system with firmware := (system.firmware.performMain env).1 } := by
  obtain ⟨_, pairer, linker, batteryScan, lockRelayBusy⟩ :=
    system.firmware.performMain_keeps env
  have down (before : system.firmware.activity.server = false)
      : (system.firmware.performMain env).1.activity.server = false := by
    by_cases stopping : system.firmware.main = .stopping
    · simp only [Firmware.performMain, stopping]
      split
      · rfl
      · exact before
    · rw [system.firmware.performMain_activity env stopping]
      exact before
  refine {
    window := fun active => ?_
    served := apart.served.performMain env idle
    pairer := apart.pairer.perform keystream (.main env)
    linker := apart.linker.perform keystream (.main env)
    handler := fun scans => ?_
    pairing := fun scans => ?_
    linking := fun scans => ?_
    relay := fun scans => ?_
  }
  · rw [batteryScan] at active
    rw [lockRelayBusy]
    exact ⟨down (apart.window active).1, (apart.window active).2⟩
  · have serving : system.firmware.main ≠ .stopping := by
      intro stopping
      simp only [waits, stopping, decide_true, Bool.true_and] at free
      exact absurd (free.symm.trans scans) (by decide)
    rw [system.firmware.performMain_activity env serving]
    exact apart.handler scans
  · rw [pairer]
    exact apart.pairing scans
  · rw [linker]
    exact apart.linking scans
  · rw [lockRelayBusy]
    exact ⟨(apart.relay scans).1, down (apart.relay scans).2⟩

/-- The Reset button is pressed. -/
theorem Apart.reset (apart : system.Apart) (keystream : Keystream) (env : ResetEnv)
    (still : system.scanning .relay = false)
    : Apart { system with firmware := (system.firmware.performReset env).1 } := by
  obtain ⟨books, _, _⟩ := system.firmware.performReset_keeps env
  refine {
    window := ?_
    served := apart.served.performReset env
    pairer := apart.pairer.perform keystream (.reset env)
    linker := apart.linker.perform keystream (.reset env)
    handler := fun scans => ?_
    pairing := fun scans => ?_
    linking := fun scans => ?_
    relay := fun scans => absurd (still.symm.trans scans) (by decide)
  }
  · unfold Firmware.performReset
    split
    · exact apart.window.resetPairing env
    · exact apart.window
  · rcases system.firmware.performReset_activity env with same | ⟨_, _, started⟩
    · rw [same]
      exact apart.handler scans
    · rw [started]
  · exact congrArg (fun books : JobBooks => books.pairer.task.isSome) books
      |>.trans (apart.pairing scans)
  · exact congrArg (fun books : JobBooks => books.linker.task.isSome) books
      |>.trans (apart.linking scans)

/-- A handler takes its next step. -/
theorem Apart.handle (apart : system.Apart) (keystream : Keystream) (env : HttpEnv)
    : Apart { system with firmware := (system.firmware.performHandler env).1 } := by
  obtain ⟨batteryScan, lockRelayBusy, pairing, linking⟩ :=
    system.firmware.performHandler_keeps env
  have activity := system.firmware.performHandler_activity env
  refine {
    window := fun active => ?_
    served := apart.served.performHandler env
    pairer := apart.pairer.perform keystream (.handle env)
    linker := apart.linker.perform keystream (.handle env)
    handler := fun scans => activity ▸ apart.handler scans
    pairing := fun scans => pairing (apart.pairing scans)
    linking := fun scans => linking (apart.linking scans)
    relay := fun scans => ?_
  }
  · rw [batteryScan] at active
    rw [lockRelayBusy]
    exact ⟨(congrArg ActivityClock.server activity).trans (apart.window active).1,
      (apart.window active).2⟩
  · rw [lockRelayBusy, activity]
    exact apart.relay scans

/-- A request reaches its handler. -/
theorem Apart.request (apart : system.Apart) (keystream : Keystream) (request : HttpRequest)
    (millis : UInt32)
    : Apart { system with firmware := (system.firmware.receiveRequest request millis).1 } := by
  have same
      : (system.firmware.receiveRequest request millis).1.device
          = { system.firmware.device with
              pairingUi :=
                { system.firmware.device.pairingUi with
                  lastActivityMs :=
                    (system.firmware.receiveRequest request
                      millis).1.device.pairingUi.lastActivityMs } }
        ∧ ((system.firmware.receiveRequest request millis).1.http ≠ .resting
          → system.firmware.activity.server = true) := by
    unfold Firmware.receiveRequest
    split
    · rename_i allowed
      cases request <;> exact ⟨rfl, fun _ => allowed.1⟩
    · exact ⟨rfl, apart.served.handler⟩
  obtain ⟨device, serving⟩ := same
  refine {
    window := ?_
    served := ⟨fun busy => ?_, ?_, ?_⟩
    pairer := apart.pairer.perform keystream (.request request millis)
    linker := apart.linker.perform keystream (.request request millis)
    handler := ?_
    pairing := ?_
    linking := ?_
    relay := ?_
  }
  · rw [Device.WindowApart, device]
    exact apart.window
  · rw [Firmware.activity, device]
    exact serving busy
  · rw [Firmware.activity, device]
    exact apart.served.pairing
  · rw [Firmware.activity, device]
    exact apart.served.linking
  · rw [Firmware.activity, device]
    exact apart.handler
  · rw [device]
    exact apart.pairing
  · rw [device]
    exact apart.linking
  · rw [Firmware.activity, device]
    exact apart.relay

/-- A step of the firmware. -/
theorem Apart.firmware (apart : system.Apart) (keystream : Keystream) (op : FirmwareOp)
    (free : system.waits op = false) (step : system.WizardApart (.firmware op))
    : Apart { system with firmware := (system.firmware.perform keystream op).1 } := by
  cases op with
  | main env => exact apart.main keystream env free step
  | reset env => exact apart.reset keystream env step
  | handle env => exact apart.handle keystream env
  | request request millis => exact apart.request keystream request millis
  | serve op =>
      simp only [Firmware.perform]
      split
      · rename_i allowed
        have same := congrArg LinkingState.pairingUi
          (system.firmware.device.performLoop_linkingState keystream allowed.2.1)
        exact apart.aside (congrArg PairingUi.server same) (congrArg PairingUi.pairer same)
          (congrArg PairingUi.linker same) rfl (apart.window.performLoop keystream allowed.2.1)
          (Device.performLoop_lockRelayBusy keystream op)
      · exact apart
  | pairJob move =>
      -- The job makes no move during its scan.
      have still : system.scanning .pairing = false := free
      have served := apart.served.performPairJob apart.pairer move
      have pairer := apart.pairer.perform keystream (.pairJob move)
      have linker := apart.linker.perform keystream (.pairJob move)
      obtain ⟨_, moved⟩ := system.firmware.performPairJob_ui move
      simp only [Firmware.perform, moved] at served pairer linker ⊢
      exact ⟨apart.window, served, pairer, linker, apart.handler,
        fun scans => absurd (still.symm.trans scans) (by decide), apart.linking, apart.relay⟩
  | linkJob move =>
      have still : system.scanning .linking = false := free
      have served := apart.served.performLinkJob apart.linker move
      have pairer := apart.pairer.perform keystream (.linkJob move)
      have linker := apart.linker.perform keystream (.linkJob move)
      obtain ⟨_, moved⟩ := system.firmware.performLinkJob_ui move
      simp only [Firmware.perform, moved] at served pairer linker ⊢
      exact ⟨apart.window, served, pairer, linker, apart.handler, apart.pairing,
        fun scans => absurd (still.symm.trans scans) (by decide), apart.relay⟩

/-- A task turns to its scan, where it may. -/
theorem Apart.begin (apart : system.Apart) {user : ScanUser}
    (there : system.canScan user = true) (step : system.WizardApart (.begin user))
    : (system.setScanning user true).Apart := by
  obtain ⟨window, served, pairer, linker, handler, pairing, linking, relay⟩ := apart
  cases user with
  | handler => cases there
  | pairing => exact ⟨window, served, pairer, linker, handler, fun _ => there, linking, relay⟩
  | linking => exact ⟨window, served, pairer, linker, handler, pairing, fun _ => there, relay⟩
  | relay =>
      exact ⟨window, served, pairer, linker, handler, pairing, linking, fun _ => ⟨there, step⟩⟩

/-- A scan ends. -/
theorem Apart.finish (apart : system.Apart) (user : ScanUser)
    : (system.setScanning user false).Apart := by
  obtain ⟨window, served, pairer, linker, handler, pairing, linking, relay⟩ := apart
  have still {other : ScanUser} (scans : (system.setScanning user false).scanning other = true)
      : system.scanning other = true := by
    simp only [setScanning, Function.update_apply] at scans
    split at scans
    · cases scans
    · exact scans
  exact ⟨window, served, pairer, linker, fun scans => handler (still scans),
    fun scans => pairing (still scans), fun scans => linking (still scans),
    fun scans => relay (still scans)⟩

/-- A request touches the clock of the wizard. -/
theorem Apart.touch (apart : system.Apart) (millis : UInt32)
    : Apart { system with
        firmware :=
          system.firmware.withUi (system.firmware.device.pairingUi.touchActivity millis) } :=
  apart.aside rfl rfl rfl rfl apart.window id

/-- A handler that scans runs on the server. -/
theorem Apart.scanHandler (apart : system.Apart) (up : system.firmware.activity.server = true)
    : (system.setScanning .handler true).Apart := by
  obtain ⟨window, served, pairer, linker, _, pairing, linking, relay⟩ := apart
  exact ⟨window, served, pairer, linker, fun _ => up, pairing, linking, relay⟩

/-- Every step keeps the users apart, if the relay and the wizard do. -/
theorem Apart.perform (apart : system.Apart) (keystream : Keystream) (step : ScanStep)
    (wizard : system.WizardApart step)
    : (system.perform keystream step).Apart := by
  cases step with
  | firmware op =>
      simp only [ScanSystem.perform]
      split
      · exact apart
      · rename_i free
        exact apart.firmware keystream op (by simpa using free) wizard
  | scanRequest route cloud millis =>
      simp only [ScanSystem.perform]
      split
      · rename_i serving
        split
        · exact apart.touch millis
        · exact (apart.touch millis).scanHandler serving.1
      · exact apart
  | begin user =>
      simp only [ScanSystem.perform]
      split
      · rename_i there
        rw [Bool.and_eq_true] at there
        exact apart.begin there.1 wizard
      · exact apart
  | finish user => exact apart.finish user
  | relayDone =>
      simp only [ScanSystem.perform]
      split
      · exact apart
      · rename_i still
        obtain ⟨window, served, pairer, linker, handler, pairing, linking, _⟩ := apart
        exact ⟨fun active => ⟨(window active).1, rfl⟩,
          ⟨served.handler, served.pairing, served.linking⟩, ⟨pairer.working, pairer.occupied⟩,
          ⟨linker.working, linker.occupied⟩, handler, pairing, linking,
          fun scans => absurd scans still⟩

/-- After a start nobody scans. -/
theorem booted_apart (config : DeviceConfig) (preferences : Preferences) (boot : BootEnv)
    : (booted config preferences boot).Apart := by
  obtain ⟨pairer, linker, _, _, _, _⟩ := (Device.setup_linkingState config preferences boot).1
  simp only [Device.linkingState] at pairer linker
  have kept := Device.setup_keeps config preferences boot
  have still {user : ScanUser} {P : Prop}
      (scans : (booted config preferences boot).scanning user = true)
      : P :=
    absurd scans Bool.false_ne_true
  refine ⟨?_, ⟨fun busy => absurd rfl busy, ?_, ?_⟩, ⟨?_, by simp [booted, Firmware.booted]⟩,
    (Firmware.booted_boards config preferences boot).1, still, still, still, still⟩
  · intro active
    simp only [booted, Firmware.booted, kept.batteryScan] at active
    cases active
  all_goals
    intro running
    simp [booted, Firmware.booted, pairer, linker] at running

end ScanSystem

/-- As long as the relay and the wizard keep apart, the scan has one user at a time in every run:
the battery scan window, the discovery scan of the relay, or a scan of the wizard or its jobs.
-/
theorem scan_has_one_user (keystream : Keystream) (config : DeviceConfig)
    (preferences : Preferences) (boot : BootEnv) (steps : List ScanStep)
    (wizardApart
      : ∀ step ∈ (scanMachine keystream).traced.history (.booted config preferences boot) steps,
          step.1.WizardApart step.2.1)
    : ((scanMachine keystream).run (.booted config preferences boot) steps).OneUser := by
  have kept :=
    (scanMachine keystream).run_invariant_where ScanSystem.Apart ScanSystem.WizardApart
      (ScanSystem.booted_apart config preferences boot)
      (fun _ step apart wizard => apart.perform keystream step wizard) steps wizardApart
  exact kept.oneUser

/-- A keypad and a lock are linked, and `loop()` turns to what it received. -/
def linkedHousehold : List ScanStep := (householdOps ++ loopOps 3 4).map .firmware

/-- The keypad asks for an IV and locks, the lock does not answer at its address, and the relay
task looks for it.
-/
def relayLooks : List ScanStep :=
  [.firmware (.serve (.drained (.rx (ivRequest sharedSlotVision)) workingRx)),
    .firmware (.serve (.drained (.rx ([0x57, sharedSlotVision, 0, 0] ++ frameLock)) workingRx)),
    .begin .relay]

/-- The wizard closes behind five idle minutes before the relay looks for the lock. -/
def looksWhenClosed : List ScanStep :=
  linkedHousehold ++ (loopOps 300004 8).map .firmware ++ relayLooks

theorem scan_has_one_user_closed
    : let system := (scanMachine clearStream).run (.booted {} {} firstBoot) looksWhenClosed
      system.scanning .relay = true ∧ system.OneUser :=
  ⟨by decide +kernel,
    scan_has_one_user clearStream {} {} firstBoot looksWhenClosed (by decide +kernel)⟩

/-- The browser lists the locks nearby. -/
def listLocks : ScanStep :=
  .scanRequest .locks
    { loggedIn := true
      devices := .ok [accountKeypad, accountLock]
      deviceKey := fun _ => .ok (textBytes "01", List.replicate 16 0x11) } 4

/-- The relay looks for the lock while a handler of the wizard scans. -/
theorem relay_scans_with_wizard
    : ¬ ∀ (keystream : Keystream) (config : DeviceConfig) (preferences : Preferences)
        (boot : BootEnv) (steps : List ScanStep),
          ((scanMachine keystream).run (.booted config preferences boot) steps).OneUser := by
  intro always
  have both := always clearStream {} {} firstBoot (linkedHousehold ++ [listLocks] ++ relayLooks)
  exact both.relayWizard ⟨by decide +kernel, .inl (by decide +kernel)⟩

/-- A lock-link job is started between the checks of its state and the stop of the server. -/
def stoppedOverJob : List ScanStep :=
  (pairOps 1 5 ++ [FirmwareOp.pairJob .succeed] ++ loopOps 1 8 ++ loopOps 300002 4
    ++ linkOps 300002 6 ++ loopOps 300002 1).map .firmware

-- The job scans on in the window that `loop()` opens next.
example
    : let window : ScanEnv :=
        { millis := 300002
          isScanning := false
          scanStarts := true
          connected := false
          accepts := fun _ => true }
      let system :=
        (scanMachine clearStream).run (.booted {} {} firstBoot)
          (stoppedOverJob ++ [.firmware (.serve (.startScan window)), .begin .linking])
      system.firmware.device.bridge.batteryScan.active = true
      ∧ system.scanning .linking = true := by
  decide +kernel

end KeypadBridge
