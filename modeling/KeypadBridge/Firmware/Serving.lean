import KeypadBridge.Firmware.Moves
import KeypadBridge.Firmware.Boards

/-! The wizard's server: what the tasks do to it and to the stamp of its last activity, and that
handlers and jobs run only while it is up.
-/

namespace KeypadBridge

-----------------------------------------------------------------------------------------
-- What the tasks do to the stamp
-----------------------------------------------------------------------------------------

/-- Whether the server runs, and when the wizard was active last. -/
structure ActivityClock where
  server : Bool
  lastActivityMs : UInt32

def PairingUi.activity (ui : PairingUi) : ActivityClock where
  server := ui.server
  lastActivityMs := ui.lastActivityMs

/-- A start stamps a server that was down, if it brings it up. -/
theorem PairingUi.start_activity (ui : PairingUi) (httpdStarts : Bool) (millis : UInt32)
    : (ui.start httpdStarts millis).1.activity = ui.activity
      ∨ (ui.start httpdStarts millis).1.activity = ⟨true, millis⟩ := by
  unfold start
  split
  · exact .inl rfl
  · split
    · exact .inr rfl
    · exact .inl rfl

namespace Firmware

variable (firmware : Firmware)

def activity : ActivityClock := firmware.device.pairingUi.activity

/-- `loop()` leaves the stamp alone until it stops the server. -/
theorem performMain_activity (env : MainEnv) (serving : firmware.main ≠ .stopping)
    : (firmware.performMain env).1.activity = firmware.activity := by
  obtain ⟨device, main, http⟩ := firmware
  cases main with
  | outside =>
      simp only [performMain]
      split
      · rfl
      · split <;> rfl
  | pairConfirm =>
      simp only [performMain, confirmPairing, PairingUi.confirmPairing]
      split <;> rfl
  | linkConfirm =>
      simp only [performMain, confirmLink, PairingUi.confirmLink]
      split <;> rfl
  | applyPairing =>
      simp only [performMain]
      cases device.pendingPairing <;> rfl
  | applyLockLink =>
      simp only [performMain]
      cases device.pendingLock <;> rfl
  | idlePairer | idleLinker =>
      simp only [performMain]
      split <;> rfl
  | stopping => exact absurd rfl serving
  | pairState | pairStatus | pairNotify | linkState | linkStatus | linkNotify | storePaired
  | storeFamily | storeLinked | idleCheck | tail => rfl

/-- A handler leaves the stamp alone behind its touch. -/
theorem performHandler_activity (env : HttpEnv)
    : (firmware.performHandler env).1.activity = firmware.activity := by
  obtain ⟨device, main, http⟩ := firmware
  cases http with
  | pairReady =>
      simp only [performHandler]
      split
      · rfl
      · rename_i occupied
        obtain ⟨-, rfl⟩ := PairingUi.occupyPairer_eq_some occupied
        rfl
  | linkReady =>
      simp only [performHandler]
      split
      · rfl
      · rename_i occupied
        obtain ⟨-, rfl⟩ := PairingUi.occupyLinker_eq_some occupied
        rfl
  | pairAsked | pairAllowed | pairOccupied | linkAsked | linkGated | linkAllowed
  | linkOccupied =>
      simp only [performHandler]
      split <;> rfl
  | resting | pairLaunched | linkLaunched => rfl

/-- A reset stamps a server that it brings up. -/
theorem performReset_activity (env : ResetEnv)
    : (firmware.performReset env).1.activity = firmware.activity
      ∨ firmware.main = .outside ∧ firmware.activity.server = false
        ∧ (firmware.performReset env).1.activity = ⟨true, env.millis⟩ := by
  unfold performReset
  split
  · rename_i allowed
    have same := congrArg (fun state : LinkingState => state.pairingUi.activity)
      (firmware.device.resetPairing_linkingState env)
    cases keyImport : env.keyImport with
    | none =>
        simp only [keyImport, Option.isSome_none, Bool.false_eq_true, if_false] at same
        exact .inl same
    | some id =>
        simp only [keyImport, Option.isSome_some, if_true] at same
        rcases PairingUi.start_activity
            ((((firmware.device.pairingUi.setLockLinked false).setKeypadPaired
              false).setKeypadFamily .original).setSharedKey env.randomKey) env.httpdStarts
            env.millis with kept | started
        · exact .inl (same.trans kept)
        · exact .inr ⟨allowed.1, allowed.2, same.trans started⟩
  · exact .inl rfl

/-- A reset leaves the jobs, the handler and the place of `loop()` alone. -/
theorem performReset_keeps (env : ResetEnv)
    : (firmware.performReset env).1.device.pairingUi.jobBooks
        = firmware.device.pairingUi.jobBooks
      ∧ (firmware.performReset env).1.main = firmware.main
      ∧ (firmware.performReset env).1.http = firmware.http := by
  unfold performReset
  split
  · exact ⟨firmware.device.resetPairing_jobBooks env, rfl, rfl⟩
  · exact ⟨rfl, rfl, rfl⟩

/-- What `setup` loads from flash is no activity. -/
theorem restoreLinks_activity (device : Device) (boot : BootEnv)
    : (device.restoreLinks boot).1.pairingUi.activity = device.pairingUi.activity := by
  have key : (device.restoreKey boot).pairingUi.activity = device.pairingUi.activity := by
    unfold Device.restoreKey
    split <;> rfl
  have keypad (device : Device)
      : device.restoreKeypad.1.pairingUi.activity = device.pairingUi.activity := by
    unfold Device.restoreKeypad
    dsimp only
    split <;> rfl
  have lock (device : Device)
      : (device.restoreLock boot).1.pairingUi.activity = device.pairingUi.activity := by
    unfold Device.restoreLock
    dsimp only
    split <;> split <;> rfl
  exact (lock _).trans ((keypad _).trans key)

/-- After a start the server is down, or up with the stamp of the start. -/
theorem booted_activity (config : DeviceConfig) (preferences : Preferences) (boot : BootEnv)
    : (booted config preferences boot).activity = ⟨false, 0⟩
      ∨ (booted config preferences boot).activity = ⟨true, boot.millis⟩ := by
  have down := restoreLinks_activity (Device.powerOn config preferences) boot
  simp only [booted, activity, Device.setup]
  generalize ((Device.powerOn config preferences).restoreLinks boot).1 = device at down ⊢
  have imported
      : (device.importAesKey boot.keyImport).1.pairingUi.activity = device.pairingUi.activity := by
    unfold Device.importAesKey
    split <;> rfl
  unfold Device.bringUp
  split
  · exact .inl down
  dsimp only
  split
  · exact .inl (imported.trans down)
  split
  · exact .inl (imported.trans down)
  · rcases PairingUi.start_activity
        ((device.importAesKey boot.keyImport).1.pairingUi.setSharedKey
          (device.importAesKey boot.keyImport).1.bridge.sharedKey) boot.httpdStarts boot.millis
      with kept | started
    · exact .inl (kept.trans (imported.trans down))
    · exact .inr started

end Firmware

-----------------------------------------------------------------------------------------
-- The wizard's jobs
-----------------------------------------------------------------------------------------

/-- A running pairing task has its job running. A task is yet to come where a handler is about to
create it.
-/
structure Firmware.PairerSound (firmware : Firmware) : Prop where
  working
    : firmware.device.pairingUi.pairer.task.isSome = true
      → firmware.device.pairingUi.pairer.status.state = .running
  occupied
    : ∀ {id request name},
        firmware.http = .pairOccupied id request name
        → firmware.device.pairingUi.pairer.status.state = .running
          ∧ firmware.device.pairingUi.pairer.task = none

namespace Firmware

variable {firmware : Firmware}

theorem PairerSound.of_same {next : Firmware} (sound : firmware.PairerSound)
    (pairer : next.device.pairingUi.pairer = firmware.device.pairingUi.pairer)
    (http
      : ∀ {id request name},
          next.http = .pairOccupied id request name
          → firmware.http = .pairOccupied id request name)
    : next.PairerSound := by
  refine ⟨?_, ?_⟩
  · rw [pairer]
    exact sound.working
  · intro id request name occupied
    rw [pairer]
    exact sound.occupied (http occupied)

theorem PairerSound.performHandler (sound : firmware.PairerSound) (env : HttpEnv)
    : (firmware.performHandler env).1.PairerSound := by
  obtain ⟨device, main, http⟩ := firmware
  cases http with
  | pairReady request name =>
      simp only [Firmware.performHandler]
      split
      · exact sound.of_same rfl (by simp [reply])
      · rename_i occupied
        obtain ⟨free, rfl⟩ := PairingUi.occupyPairer_eq_some occupied
        -- A job that does not run has no task.
        have idle : device.pairingUi.pairer.task = none := by
          cases busy : device.pairingUi.pairer.task with
          | none => rfl
          | some task => exact absurd (sound.working (by simp [busy])) free
        exact ⟨fun _ => rfl, fun _ => ⟨rfl, idle⟩⟩
  | pairOccupied id request name =>
      obtain ⟨running, idle⟩ := sound.occupied rfl
      simp only [Firmware.performHandler, PairingUi.launchPairer, BackgroundBleJob.createTask]
      split
      · exact ⟨fun _ => running, by simp⟩
      · exact ⟨fun busy => absurd (idle ▸ busy) (by simp), by simp⟩
  | resting => exact sound
  | linkReady request =>
      simp only [Firmware.performHandler]
      split
      · exact sound.of_same rfl (by simp [reply])
      · rename_i occupied
        obtain ⟨-, rfl⟩ := PairingUi.occupyLinker_eq_some occupied
        exact sound.of_same rfl (by simp)
  | linkOccupied id request =>
      simp only [Firmware.performHandler, PairingUi.launchLinker]
      split <;> exact sound.of_same rfl (by simp)
  | pairLaunched id family name => exact sound.of_same rfl (by simp [Firmware.performHandler])
  | linkLaunched id => exact sound.of_same rfl (by simp [Firmware.performHandler])
  | pairAsked | pairAllowed | linkAsked | linkGated | linkAllowed =>
      simp only [Firmware.performHandler]
      split <;> exact sound.of_same rfl (by simp [reply])

theorem PairerSound.performPairJob (sound : firmware.PairerSound) (move : KeypadPairer.Move)
    : (firmware.performPairJob move).1.PairerSound := by
  simp only [Firmware.performPairJob]
  split
  · rename_i request id busy named
    have running := sound.working (by simp [busy])
    refine ⟨?_, ?_⟩
    · cases move with
      | step step => exact fun _ => running
      | succeed | fail => exact fun busy => absurd busy Bool.false_ne_true
    · intro id request name occupied
      exact absurd ((sound.occupied occupied).2.symm.trans busy) (by simp)
  · exact sound

theorem PairerSound.perform (sound : firmware.PairerSound) (keystream : Keystream)
    (op : FirmwareOp)
    : (firmware.perform keystream op).1.PairerSound := by
  cases op with
  | main env =>
      have kept := firmware.performMain_keeps env
      exact sound.of_same kept.pairer (by simp [Firmware.perform, kept.http])
  | serve op =>
      simp only [Firmware.perform]
      split
      · rename_i allowed
        have same := firmware.device.performLoop_linkingState keystream allowed.2.1
        exact sound.of_same (congrArg (fun state => state.pairingUi.pairer) same) (by simp)
      · exact sound
  | reset env =>
      simp only [Firmware.perform, performReset]
      split
      · have same := firmware.device.resetPairing_jobBooks env
        exact sound.of_same (congrArg JobBooks.pairer same) (by simp)
      · exact sound
  | request request millis =>
      simp only [Firmware.perform, receiveRequest]
      split
      · cases request <;> exact sound.of_same rfl (by simp [withUi])
      · exact sound
  | handle env => exact sound.performHandler env
  | pairJob move => exact sound.performPairJob move
  | linkJob move =>
      simp only [Firmware.perform, performLinkJob]
      split
      · exact sound.of_same rfl (by simp [withUi])
      · exact sound

/-- The wizard works only while its server is up: a handler is running, or a job is. -/
structure Served (firmware : Firmware) : Prop where
  handler : firmware.http ≠ .resting → firmware.activity.server = true
  pairing
    : firmware.device.pairingUi.pairer.status.state = .running
      → firmware.activity.server = true
  linking
    : firmware.device.pairingUi.linker.status.state = .running
      → firmware.activity.server = true

/-- `loop()` keeps the wizard served, if it does not stop the server over a running job. -/
theorem Served.performMain (served : firmware.Served) (env : MainEnv)
    (idle
      : firmware.main = .stopping
        → firmware.http = .resting
        → firmware.device.pairingUi.pairer.status.state ≠ .running
          ∧ firmware.device.pairingUi.linker.status.state ≠ .running)
    : (firmware.performMain env).1.Served := by
  obtain ⟨http, pairer, linker, _, _⟩ := firmware.performMain_keeps env
  by_cases stopping : firmware.main = .stopping
  · by_cases resting : firmware.http = .resting
    · obtain ⟨pairingIdle, linkingIdle⟩ := idle stopping resting
      refine ⟨?_, ?_, ?_⟩
      · rw [http]
        exact fun busy => absurd resting busy
      · rw [pairer]
        exact fun running => absurd running pairingIdle
      · rw [linker]
        exact fun running => absurd running linkingIdle
    · simpa [Firmware.performMain, stopping, resting] using served
  · have activity := firmware.performMain_activity env stopping
    refine ⟨?_, ?_, ?_⟩
    · rw [http, activity]
      exact served.handler
    · rw [pairer, activity]
      exact served.pairing
    · rw [linker, activity]
      exact served.linking

/-- A handler that starts a job runs on the server. -/
theorem Served.performHandler (served : firmware.Served) (env : HttpEnv)
    : (firmware.performHandler env).1.Served := by
  have activity := firmware.performHandler_activity env
  by_cases resting : firmware.http = .resting
  · simpa [Firmware.performHandler, resting] using served
  · have up := served.handler resting
    rw [← activity] at up
    exact ⟨fun _ => up, fun _ => up, fun _ => up⟩

/-- The Reset button keeps the wizard served. -/
theorem Served.performReset (served : firmware.Served) (env : ResetEnv)
    : (firmware.performReset env).1.Served := by
  have activity := firmware.performReset_activity env
  obtain ⟨books, _, http⟩ := firmware.performReset_keeps env
  have up (before : firmware.activity.server = true)
      : (firmware.performReset env).1.activity.server = true := by
    rcases activity with same | ⟨_, _, started⟩
    · rw [same]
      exact before
    · rw [started]
  refine ⟨fun busy => up (served.handler (http ▸ busy)), fun running => up (served.pairing ?_),
    fun running => up (served.linking ?_)⟩
  · exact congrArg (fun books : JobBooks => books.pairer.status.state) books ▸ running
  · exact congrArg (fun books : JobBooks => books.linker.status.state) books ▸ running

/-- A pairing job's task keeps the wizard served. -/
theorem Served.performPairJob (served : firmware.Served) (sound : firmware.PairerSound)
    (move : KeypadPairer.Move)
    : (firmware.performPairJob move).1.Served := by
  simp only [Firmware.performPairJob]
  split
  · rename_i request id busy named
    have up := served.pairing (sound.working (by simp [busy]))
    exact ⟨fun _ => up, fun _ => up, fun _ => up⟩
  · exact served

/-- A lock-link job's task keeps the wizard served. -/
theorem Served.performLinkJob (served : firmware.Served) (sound : firmware.LinkerSound)
    (move : LockLinker.Move)
    : (firmware.performLinkJob move).1.Served := by
  simp only [Firmware.performLinkJob]
  split
  · rename_i task id busy named
    have up := served.linking (sound.working busy).1
    exact ⟨fun _ => up, fun _ => up, fun _ => up⟩
  · exact served

/-- A pairing job's task works on its job object only. -/
theorem performPairJob_ui (firmware : Firmware) (move : KeypadPairer.Move)
    : ∃ pairer,
        (firmware.performPairJob move).1
        = firmware.withUi { firmware.device.pairingUi with pairer } := by
  simp only [performPairJob]
  split
  · exact ⟨_, rfl⟩
  · exact ⟨firmware.device.pairingUi.pairer, rfl⟩

/-- A lock-link job's task works on its job object only. -/
theorem performLinkJob_ui (firmware : Firmware) (move : LockLinker.Move)
    : ∃ linker,
        (firmware.performLinkJob move).1
        = firmware.withUi { firmware.device.pairingUi with linker } := by
  simp only [performLinkJob]
  split
  · exact ⟨_, rfl⟩
  · exact ⟨firmware.device.pairingUi.linker, rfl⟩

end Firmware

end KeypadBridge
