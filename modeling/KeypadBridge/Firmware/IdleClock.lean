import KeypadBridge.Firmware.Attribution
import KeypadBridge.Firmware.Serving

/-! The clock behind the idle check of the wizard. `loop()` evaluates `millis()` before
`stop_if_idle` loads the stamp of the last activity, and a handler evaluates `millis()` before
it stores the stamp; time passes, and other tasks run, between any two of these.
-/

namespace KeypadBridge
open KeypadBridge.Foundation

/-- `millis()` when that many milliseconds have passed. -/
def millisAt (clock : Nat) : UInt32 := .ofNat clock

/-- A completed `touch_activity_`: when its `millis()` was evaluated, and when the stamp was
stored.
-/
structure ActivityTouch where
  sampled : Nat
  stored : Nat
  deriving DecidableEq

/-- A `stop_if_idle`: when `millis()` was evaluated for it, and the touch that had completed
last when it loaded the stamp.
-/
structure IdleCheck where
  now : Nat := 0
  touch : Option ActivityTouch := none
  deriving DecidableEq

/-- The server was stopped behind this check, at this time. -/
structure WizardStop where
  check : IdleCheck
  stopped : Nat
  deriving DecidableEq

/-- The firmware with the time that has passed, the touch that a handler is in, the time that
`loop()` has read for its idle check, and what has happened so far.
-/
structure ClockedFirmware where
  firmware : Firmware
  clock : Nat
  touching : Option (HttpRequest × Nat) := none
  idleNow : Option Nat := none
  lastTouch : Option ActivityTouch := none
  check : IdleCheck := {}
  stops : List WizardStop := []

/-- A step of the clock, of a touch, of `loop()`, or of what else the tasks do. -/
inductive ClockedOp where
  | tick (elapsed : Nat)
  | sampleClock
  | main (accepts : PrefKey → Bool)
  | beginTouch (request : HttpRequest)
  | storeTouch
  | elsewhere (op : FirmwareOp)

/-- What the tasks do apart from `loop()` and touches, with the time that they read. -/
def FirmwareOp.clocked (clock : Nat) : FirmwareOp → Option FirmwareOp
  | .main _ | .request .. => none
  | .reset env => some (.reset { env with millis := millisAt clock })
  | .handle env => some (.handle { env with millis := millisAt clock })
  | op => some op

namespace ClockedFirmware

section

variable (system : ClockedFirmware)

/-- The next step of `loop()`. The idle check takes the time that was read for it, and
`httpd_stop` waits for a handler that is in its touch.
-/
def performMain (accepts : PrefKey → Bool) : ClockedFirmware :=
  match system.firmware.main with
  | .idleCheck =>
      match system.idleNow with
      | none => system
      | some now =>
          { system with
            firmware := (system.firmware.performMain ⟨millisAt now, accepts⟩).1
            idleNow := none
            check := ⟨now, system.lastTouch⟩ }
  | .stopping =>
      if system.touching.isSome then system
      else
        let (firmware, events) := system.firmware.performMain ⟨millisAt system.clock, accepts⟩
        { system with
          firmware
          stops :=
            if .serverStopped ∈ events then system.stops ++ [⟨system.check, system.clock⟩]
            else system.stops }
  | _ =>
      { system with
        firmware := (system.firmware.performMain ⟨millisAt system.clock, accepts⟩).1 }

/-- One step. -/
def perform (keystream : Keystream) : ClockedOp → ClockedFirmware
  | .tick elapsed => { system with clock := system.clock + elapsed }
  | .sampleClock =>
      if system.firmware.main = .idleCheck ∧ system.idleNow = none then
        { system with idleNow := some system.clock }
      else system
  | .main accepts => system.performMain accepts
  | .beginTouch request =>
      if system.firmware.device.pairingUi.server = true ∧ system.firmware.http = .resting
          ∧ system.touching.isNone then
        { system with touching := some (request, system.clock) }
      else system
  | .storeTouch =>
      match system.touching with
      | none => system
      | some (request, sampled) =>
          { system with
            firmware := (system.firmware.receiveRequest request (millisAt sampled)).1
            touching := none
            lastTouch := some ⟨sampled, system.clock⟩ }
  | .elsewhere op =>
      match op.clocked system.clock with
      | none => system
      | some op => { system with firmware := (system.firmware.perform keystream op).1 }

end

/-- The firmware as `setup` leaves it at that time. -/
def booted (config : DeviceConfig) (preferences : Preferences) (boot : BootEnv) (clock : Nat)
    : ClockedFirmware where
  firmware := .booted config preferences { boot with millis := millisAt clock }
  clock

end ClockedFirmware

def clockedMachine (keystream : Keystream) : Machine ClockedFirmware ClockedOp Unit where
  step system op := (system.perform keystream op, ())

/-- The server was stopped only after the timeout had passed since the last touch that the
check could see.
-/
def WizardStop.Idle (stop : WizardStop) : Prop :=
  ∀ touch ∈ stop.check.touch, touch.sampled + PairingUi.idleTimeoutMs.toNat ≤ stop.stopped

/-- The server is stopped only behind a check whose `millis()` was not evaluated before that of
the last touch that it could see.
-/
def ClockedFirmware.StopsInOrder (system : ClockedFirmware) : ClockedOp → Prop
  | .main _ =>
      system.firmware.main = .stopping
        → ∀ touch ∈ system.check.touch, touch.sampled ≤ system.check.now
  | _ => True

instance (system : ClockedFirmware) (op : ClockedOp) : Decidable (system.StopsInOrder op) := by
  cases op <;> unfold ClockedFirmware.StopsInOrder <;> infer_instance

-----------------------------------------------------------------------------------------
-- The stamp on a 32-bit clock
-----------------------------------------------------------------------------------------

/-- The unsigned difference of two samples in order is never more than what has passed. -/
theorem millisAt_age {stamp now : Nat} (ordered : stamp ≤ now)
    : (millisAt now - millisAt stamp).toNat ≤ now - stamp := by
  simp only [millisAt, UInt32.toNat_sub, UInt32.toNat_ofNat']
  omega

/-- A wizard that is found idle at a time behind its stamp has been idle for the timeout. -/
theorem PairingUi.isIdle_since {ui : PairingUi} {stamp now : Nat}
    (stamped : ui.lastActivityMs = millisAt stamp) (ordered : stamp ≤ now)
    (idle : ui.isIdle (millisAt now) = true)
    : stamp + idleTimeoutMs.toNat ≤ now := by
  simp only [isIdle, stamped, Bool.and_eq_true, decide_eq_true_eq] at idle
  have aged : idleTimeoutMs.toNat ≤ (millisAt now - millisAt stamp).toNat :=
    UInt32.le_iff_toNat_le.mp idle.2
  have passed := millisAt_age ordered
  have positive : 0 < idleTimeoutMs.toNat := by decide
  omega

-----------------------------------------------------------------------------------------
-- The idle check
-----------------------------------------------------------------------------------------

/-- The server is about to be stopped. -/
def MainTask.isClosing : MainTask → Bool
  | .idlePairer | .idleLinker | .stopping => true
  | _ => false

@[simp] theorem MainTask.isClosing_pollLink (link : Option JobId)
    : (MainTask.pollLink link).isClosing = false := by
  cases link <;> rfl

namespace Firmware

variable (firmware : Firmware)

/-- `loop()` comes to the stop only through the idle check. -/
theorem performMain_isClosing (env : MainEnv) (elsewhere : firmware.main ≠ .idleCheck)
    (closing : (firmware.performMain env).1.main.isClosing = true)
    : firmware.main.isClosing = true := by
  obtain ⟨device, main, http⟩ := firmware
  cases main with
  | outside =>
      simp only [performMain, MainTask.poll] at closing
      split at closing
      · cases closing
      · split at closing
        · dsimp only at closing
          split at closing
          · cases closing
          · simp at closing
        · cases closing
  | pairState | pairStatus =>
      simp only [performMain] at closing
      split at closing
      · cases closing
      · simp at closing
  | pairConfirm =>
      simp only [performMain, confirmPairing] at closing
      split at closing
      · cases closing
      · simp at closing
  | pairNotify => simp [performMain] at closing
  | linkState | linkStatus =>
      simp only [performMain] at closing
      split at closing <;> cases closing
  | linkConfirm =>
      simp only [performMain, confirmLink] at closing
      split at closing <;> cases closing
  | applyPairing | applyLockLink =>
      simp only [performMain] at closing
      split at closing <;> cases closing
  | idleCheck => exact absurd rfl elsewhere
  | idlePairer | idleLinker | stopping => rfl
  | linkNotify | storePaired | storeFamily | storeLinked | tail => cases closing

/-- The idle check goes on to the stop only when it finds the wizard idle. -/
theorem performMain_idle {env : MainEnv} (checking : firmware.main = .idleCheck)
    (closing : (firmware.performMain env).1.main.isClosing = true)
    : firmware.device.pairingUi.isIdle env.millis = true := by
  simp only [performMain, checking] at closing
  split at closing
  · rename_i found
    simp only [Bool.and_eq_true] at found
    exact found.2
  · cases closing

end Firmware

-----------------------------------------------------------------------------------------
-- Every run
-----------------------------------------------------------------------------------------

namespace ClockedFirmware

/-- The stamp of the last activity is blank, or it was taken at a time that no completed touch
lies behind, and that an idle check which has read the clock is not ahead of, unless a touch
came between.
-/
def Stamped (system : ClockedFirmware) : Prop :=
  system.firmware.activity.lastActivityMs = 0
  ∨ ∃ stamp ≤ system.clock,
      system.firmware.activity.lastActivityMs = millisAt stamp
      ∧ (∀ touch ∈ system.lastTouch, touch.sampled ≤ stamp)
      ∧ ∀ now ∈ system.idleNow,
          stamp ≤ now ∨ ∃ touch ∈ system.lastTouch, touch.sampled = stamp

/-- A check that goes on to the stop: if its clock was not behind the touch that it could see,
the timeout has passed.
-/
structure IdleCheck.Passed (check : IdleCheck) (clock : Nat) : Prop where
  now : check.now ≤ clock
  touch : ∀ touch ∈ check.touch, touch.sampled ≤ touch.stored
  idle
    : ∀ touch ∈ check.touch,
        touch.sampled ≤ check.now
        → touch.sampled + PairingUi.idleTimeoutMs.toNat ≤ check.now

/-- The times are in order, and the server was stopped only when the wizard was idle. -/
structure Timely (system : ClockedFirmware) : Prop where
  stamped : system.Stamped
  lastTouch : ∀ touch ∈ system.lastTouch, touch.sampled ≤ touch.stored ∧ touch.stored ≤ system.clock
  touching
    : ∀ request sampled,
        system.touching = some (request, sampled)
        → sampled ≤ system.clock ∧ system.firmware.activity.server = true
          ∧ system.firmware.http = .resting
  idleNow : ∀ now ∈ system.idleNow, now ≤ system.clock ∧ system.firmware.main = .idleCheck
  check : system.firmware.main.isClosing = true → IdleCheck.Passed system.check system.clock
  stops : ∀ stop ∈ system.stops, stop.Idle

variable {system : ClockedFirmware}

/-- Time passes. -/
theorem Timely.tick (timely : system.Timely) (elapsed : Nat)
    : Timely { system with clock := system.clock + elapsed } := by
  obtain ⟨stamped, lastTouch, touching, idleNow, check, stops⟩ := timely
  refine ⟨?_, ?_, ?_, ?_, ?_, stops⟩
  · rcases stamped with blank | ⟨stamp, past, stamped⟩
    · exact .inl blank
    · exact .inr ⟨stamp, Nat.le_add_right_of_le past, stamped⟩
  · intro touch last
    exact ⟨(lastTouch touch last).1, Nat.le_add_right_of_le (lastTouch touch last).2⟩
  · intro request sampled waiting
    obtain ⟨past, serving, resting⟩ := touching request sampled waiting
    exact ⟨Nat.le_add_right_of_le past, serving, resting⟩
  · intro now read
    exact ⟨Nat.le_add_right_of_le (idleNow now read).1, (idleNow now read).2⟩
  · intro closing
    obtain ⟨now, touch, idle⟩ := check closing
    exact ⟨Nat.le_add_right_of_le now, touch, idle⟩

/-- A step of a task that leaves the stamp alone, does not bring `loop()` to the stop, and has
no handler come between a touch and its stamp.
-/
theorem Timely.aside (timely : system.Timely) {firmware : Firmware}
    (activity : firmware.activity = system.firmware.activity)
    (closing : firmware.main.isClosing = true → system.firmware.main.isClosing = true)
    (http : system.firmware.http = .resting → firmware.http = .resting)
    (checking : system.firmware.main = .idleCheck → firmware.main = .idleCheck)
    : Timely { system with firmware } := by
  obtain ⟨stamped, lastTouch, touching, idleNow, check, stops⟩ := timely
  refine ⟨?_, lastTouch, ?_, ?_, fun closes => check (closing closes), stops⟩
  · simpa only [Stamped, activity] using stamped
  · intro request sampled waiting
    obtain ⟨past, serving, resting⟩ := touching request sampled waiting
    exact ⟨past, activity ▸ serving, http resting⟩
  · intro now read
    exact ⟨(idleNow now read).1, checking (idleNow now read).2⟩

/-- The idle check loads the stamp. -/
theorem Timely.load (timely : system.Timely) (accepts : PrefKey → Bool) {now : Nat}
    (checking : system.firmware.main = .idleCheck) (read : system.idleNow = some now)
    : (system.performMain accepts).Timely := by
  obtain ⟨stamped, lastTouch, touching, idleNow, check, stops⟩ := timely
  have serving : system.firmware.main ≠ .stopping := by simp [checking]
  have activity := system.firmware.performMain_activity ⟨millisAt now, accepts⟩ serving
  have http := (system.firmware.performMain_keeps ⟨millisAt now, accepts⟩).http
  simp only [performMain, checking, read]
  refine ⟨?_, lastTouch, ?_, nofun, fun closing => ⟨?_, ?_, ?_⟩, stops⟩
  · rcases stamped with blank | ⟨stamp, past, stamped, behind, _⟩
    · exact .inl (activity ▸ blank)
    · exact .inr ⟨stamp, past, activity ▸ stamped, behind, nofun⟩
  · intro request sampled waiting
    obtain ⟨past, up, resting⟩ := touching request sampled waiting
    exact ⟨past, activity ▸ up, http.trans resting⟩
  · exact (idleNow now read).1
  · exact fun touch last => (lastTouch touch last).1
  · intro touch last inOrder
    have idle := system.firmware.performMain_idle checking closing
    rcases stamped with blank | ⟨stamp, past, stamped, behind, ordered⟩
    · -- A blank stamp is never idle.
      simp only [Firmware.activity, PairingUi.activity] at blank
      simp [PairingUi.isIdle, blank] at idle
    · have before : stamp ≤ now := by
        rcases ordered now read with before | ⟨other, last', same⟩
        · exact before
        · obtain rfl := Option.some.inj (last.symm.trans last')
          exact same ▸ inOrder
      exact Nat.le_trans (Nat.add_le_add_right (behind touch last) _)
        (PairingUi.isIdle_since stamped before idle)

/-- The server is stopped behind a check that was in order. -/
theorem Timely.stop (timely : system.Timely) (accepts : PrefKey → Bool)
    (stopping : system.firmware.main = .stopping)
    (inOrder : ∀ touch ∈ system.check.touch, touch.sampled ≤ system.check.now)
    : (system.performMain accepts).Timely := by
  have kept := timely
  obtain ⟨stamped, lastTouch, touching, idleNow, check, stops⟩ := timely
  obtain ⟨now, _, idle⟩ := check (by rw [stopping]; rfl)
  simp only [performMain, stopping]
  split
  · exact kept
  rename_i outside
  simp only [Firmware.performMain, stopping]
  split
  · refine ⟨.inl rfl, lastTouch, ?_, ?_, fun closes => absurd closes Bool.false_ne_true, ?_⟩
    · intro request sampled waiting
      exact absurd (Option.isSome_iff_exists.mpr ⟨_, waiting⟩) outside
    · intro now read
      have checking := (idleNow now read).2
      rw [stopping] at checking
      cases checking
    · intro stop stopped
      dsimp only at stopped
      rw [if_pos (List.mem_singleton.mpr rfl), List.mem_append, List.mem_singleton] at stopped
      rcases stopped with earlier | rfl
      · exact stops stop earlier
      · have late (touch : ActivityTouch) (seen : touch ∈ system.check.touch)
            : touch.sampled + PairingUi.idleTimeoutMs.toNat ≤ system.clock :=
          Nat.le_trans (idle touch seen (inOrder touch seen)) now
        exact late
  · simpa using kept

/-- `loop()` takes its next step. -/
theorem Timely.main (timely : system.Timely) (accepts : PrefKey → Bool)
    (inOrder : system.StopsInOrder (.main accepts))
    : (system.performMain accepts).Timely := by
  by_cases checking : system.firmware.main = .idleCheck
  · cases read : system.idleNow with
    | none => simpa [performMain, checking, read] using timely
    | some now => exact timely.load accepts checking read
  by_cases stopping : system.firmware.main = .stopping
  · exact timely.stop accepts stopping (inOrder stopping)
  have moved
      : system.performMain accepts
        = { system with
            firmware := (system.firmware.performMain ⟨millisAt system.clock, accepts⟩).1 } := by
    unfold performMain
    split
    · contradiction
    · contradiction
    · rfl
  rw [moved]
  exact timely.aside (system.firmware.performMain_activity _ stopping)
    (system.firmware.performMain_isClosing _ checking)
    (fun resting => (system.firmware.performMain_keeps _).http.trans resting)
    (fun checks => absurd checks checking)

/-- A handler stores the stamp of its touch. -/
theorem Timely.store (timely : system.Timely) {request : HttpRequest} {sampled : Nat}
    (waiting : system.touching = some (request, sampled))
    : Timely { system with
        firmware := (system.firmware.receiveRequest request (millisAt sampled)).1
        touching := none
        lastTouch := some ⟨sampled, system.clock⟩ } := by
  obtain ⟨stamped, lastTouch, touching, idleNow, check, stops⟩ := timely
  obtain ⟨past, serving, resting⟩ := touching request sampled waiting
  have main : (system.firmware.receiveRequest request (millisAt sampled)).1.main
      = system.firmware.main := by
    simp only [Firmware.receiveRequest]
    split
    · cases request <;> rfl
    · rfl
  have stamp : (system.firmware.receiveRequest request (millisAt sampled)).1.activity.lastActivityMs
      = millisAt sampled := by
    simp only [Firmware.receiveRequest]
    rw [if_pos ⟨serving, resting⟩]
    cases request <;> rfl
  refine ⟨.inr ⟨sampled, past, stamp, ?_, ?_⟩, ?_, by simp, ?_, ?_, stops⟩
  · rintro touch ⟨⟩
    exact Nat.le_refl _
  · exact fun now _ => .inr ⟨_, rfl, rfl⟩
  · rintro touch ⟨⟩
    exact ⟨past, Nat.le_refl _⟩
  · intro now read
    exact ⟨(idleNow now read).1, main.trans (idleNow now read).2⟩
  · intro closing
    rw [main] at closing
    exact check closing

/-- The Reset button stamps the server that it brings up, behind every touch. -/
theorem Timely.reset (timely : system.Timely) (env : ResetEnv)
    : Timely { system with
        firmware :=
          (system.firmware.performReset { env with millis := millisAt system.clock }).1 } := by
  have kept := timely
  obtain ⟨stamped, lastTouch, touching, idleNow, check, stops⟩ := timely
  obtain ⟨_, main, http⟩ :=
    system.firmware.performReset_keeps { env with millis := millisAt system.clock }
  rcases system.firmware.performReset_activity { env with millis := millisAt system.clock } with
    activity | ⟨outside, down, activity⟩
  · exact kept.aside activity (fun closing => main ▸ closing) (fun resting => http.trans resting)
      (fun checking => main.trans checking)
  refine ⟨.inr ⟨system.clock, Nat.le_refl _, ?_, ?_, ?_⟩, lastTouch, ?_, ?_, ?_, stops⟩
  · exact congrArg ActivityClock.lastActivityMs activity
  · exact fun touch last => Nat.le_trans (lastTouch touch last).1 (lastTouch touch last).2
  · intro now read
    have checking := (idleNow now read).2
    rw [outside] at checking
    cases checking
  · intro request sampled waiting
    have up := (touching request sampled waiting).2.1
    rw [down] at up
    cases up
  · intro now read
    exact ⟨(idleNow now read).1, main.trans (idleNow now read).2⟩
  · intro closing
    rw [main, outside] at closing
    cases closing

/-- What the tasks do apart from `loop()` and touches keeps the times in order. -/
theorem Timely.elsewhere (timely : system.Timely) (keystream : Keystream) {op done : FirmwareOp}
    (clocked : op.clocked system.clock = some done)
    : Timely { system with firmware := (system.firmware.perform keystream done).1 } := by
  cases op with
  | main | request => cases clocked
  | serve op =>
      obtain rfl := Option.some.inj clocked
      simp only [Firmware.perform]
      split
      · rename_i allowed
        have same := system.firmware.device.performLoop_linkingState keystream allowed.2.1
        exact timely.aside (congrArg (fun state => state.pairingUi.activity) same) id id id
      · exact timely
  | handle env =>
      obtain rfl := Option.some.inj clocked
      refine timely.aside (system.firmware.performHandler_activity _) ?_ ?_ ?_
      · rw [Firmware.perform, (system.firmware.performHandler_moves _).2.2]
        exact id
      · intro resting
        simp [Firmware.perform, Firmware.performHandler, resting]
      · rw [Firmware.perform, (system.firmware.performHandler_moves _).2.2]
        exact id
  | pairJob move =>
      obtain rfl := Option.some.inj clocked
      simp only [Firmware.perform, Firmware.performPairJob]
      split
      · exact timely.aside rfl id id id
      · exact timely
  | linkJob move =>
      obtain rfl := Option.some.inj clocked
      simp only [Firmware.perform, Firmware.performLinkJob]
      split
      · exact timely.aside rfl id id id
      · exact timely
  | reset env =>
      obtain rfl := Option.some.inj clocked
      exact timely.reset env

/-- The times are in order after a start. -/
theorem booted_timely (config : DeviceConfig) (preferences : Preferences) (boot : BootEnv)
    (clock : Nat)
    : (booted config preferences boot clock).Timely := by
  refine ⟨?_, nofun, nofun, nofun, nofun, nofun⟩
  rcases Firmware.booted_activity config preferences { boot with millis := millisAt clock } with
    down | up
  · exact .inl (congrArg ActivityClock.lastActivityMs down)
  · exact .inr
      ⟨clock, Nat.le_refl _, congrArg ActivityClock.lastActivityMs up, nofun, nofun⟩

/-- Every step keeps the times in order, if it stops the server in order. -/
theorem Timely.perform (timely : system.Timely) (keystream : Keystream) (op : ClockedOp)
    (inOrder : system.StopsInOrder op)
    : (system.perform keystream op).Timely := by
  have kept := timely
  obtain ⟨stamped, lastTouch, touching, idleNow, check, stops⟩ := timely
  cases op with
  | tick elapsed => exact kept.tick elapsed
  | sampleClock =>
      simp only [ClockedFirmware.perform]
      split
      · rename_i reads
        refine ⟨?_, lastTouch, touching, ?_, check, stops⟩
        · rcases stamped with blank | ⟨stamp, past, stamped, behind, _⟩
          · exact .inl blank
          · refine .inr ⟨stamp, past, stamped, behind, ?_⟩
            rintro now ⟨⟩
            exact .inl past
        · rintro now ⟨⟩
          exact ⟨Nat.le_refl _, reads.1⟩
      · exact kept
  | main accepts => exact kept.main accepts inOrder
  | beginTouch request =>
      simp only [ClockedFirmware.perform]
      split
      · rename_i begins
        refine ⟨stamped, lastTouch, ?_, idleNow, check, stops⟩
        rintro request sampled ⟨⟩
        exact ⟨Nat.le_refl _, begins.1, begins.2.1⟩
      · exact kept
  | storeTouch =>
      simp only [ClockedFirmware.perform]
      split
      · exact kept
      · rename_i waiting
        exact kept.store waiting
  | elsewhere op =>
      simp only [ClockedFirmware.perform]
      split
      · exact kept
      · rename_i clocked
        exact kept.elsewhere keystream clocked

-----------------------------------------------------------------------------------------
-- Runs of the firmware
-----------------------------------------------------------------------------------------

/-- A step is a step of the firmware, or none. -/
theorem perform_firmware (system : ClockedFirmware) (keystream : Keystream) (op : ClockedOp)
    : (system.perform keystream op).firmware = system.firmware
      ∨ ∃ done,
          (system.perform keystream op).firmware = (system.firmware.perform keystream done).1 := by
  cases op with
  | tick => exact .inl rfl
  | sampleClock | beginTouch =>
      simp only [perform]
      split <;> exact .inl rfl
  | main accepts =>
      simp only [perform, performMain]
      split
      · split
        · exact .inl rfl
        · exact .inr ⟨.main _, rfl⟩
      · split
        · exact .inl rfl
        · exact .inr ⟨.main _, rfl⟩
      · exact .inr ⟨.main _, rfl⟩
  | storeTouch =>
      simp only [perform]
      split
      · exact .inl rfl
      · exact .inr ⟨.request _ _, rfl⟩
  | elsewhere op =>
      simp only [perform]
      split
      · exact .inl rfl
      · exact .inr ⟨_, rfl⟩

end ClockedFirmware

/-- What is proved of every run of the firmware holds with the clock that its tasks read. -/
theorem clocked_run_firmware (keystream : Keystream) (config : DeviceConfig)
    (preferences : Preferences) (boot : BootEnv) (clock : Nat) (ops : List ClockedOp)
    : ∃ done,
        ((clockedMachine keystream).run (.booted config preferences boot clock) ops).firmware
        = Firmware.after keystream config preferences
            { boot with millis := millisAt clock } done := by
  refine (clockedMachine keystream).run_invariant
    (fun system =>
      ∃ done,
        system.firmware
        = Firmware.after keystream config preferences
            { boot with millis := millisAt clock } done)
    ⟨[], rfl⟩ ?_ ops
  rintro system op ⟨done, reached⟩
  rcases system.perform_firmware keystream op with same | ⟨next, moved⟩
  · exact ⟨done, same.trans reached⟩
  · refine ⟨done ++ [next], ?_⟩
    rw [Firmware.after, Machine.run_append]
    exact moved.trans (by rw [reached]; rfl)

/-- As long as `loop()` never stops the server on a clock that was read before that of the last
touch its check could see, it stops the server only when the wizard has been idle for the
timeout, wherever the 32-bit clock stands.
-/
theorem stops_when_idle (keystream : Keystream) (config : DeviceConfig)
    (preferences : Preferences) (boot : BootEnv) (clock : Nat) (ops : List ClockedOp)
    (inOrder
      : ∀ step ∈ (clockedMachine keystream).traced.history
            (.booted config preferences boot clock) ops,
          step.1.StopsInOrder step.2.1)
    : ∀ stop ∈ ((clockedMachine keystream).run (.booted config preferences boot clock) ops).stops,
        stop.Idle := by
  have kept :=
    (clockedMachine keystream).run_invariant_where ClockedFirmware.Timely
      ClockedFirmware.StopsInOrder
      (ClockedFirmware.booted_timely config preferences boot clock)
      (fun _ op timely inOrder => timely.perform keystream op inOrder) ops inOrder
  exact kept.stops

/-- A step of the household's pairing, on the clock. -/
def clockedPairing : List ClockedOp :=
  [.beginTouch (.pair accountKeypad.mac "vision"), .storeTouch]
    ++ List.replicate 5 (.elsewhere (handling 0))
    ++ [.elsewhere (.pairJob .succeed)]
    ++ List.replicate 9 (.main fun _ => true)

/-- The idle check behind its `millis()`, and the stop. -/
def closingOps : List ClockedOp := List.replicate 4 (.main fun _ => true)

/-- A keypad is paired, and the wizard is left alone for five minutes. -/
def leftIdle : List ClockedOp := clockedPairing ++ [.tick 300000, .sampleClock] ++ closingOps

theorem stops_when_idle_left
    : let stops := ((clockedMachine clearStream).run (.booted {} {} firstBoot 1) leftIdle).stops
      stops = [⟨⟨300001, some ⟨1, 1⟩⟩, 300001⟩] ∧ ∀ stop ∈ stops, stop.Idle :=
  ⟨by decide +kernel, stops_when_idle clearStream {} {} firstBoot 1 leftIdle (by decide +kernel)⟩

/-- A request comes in between the two samples of the idle check. -/
def touchedBetween : List ClockedOp :=
  clockedPairing ++ [.sampleClock, .tick 1, .beginTouch .other, .storeTouch] ++ closingOps

/-- The server is stopped in the millisecond of the request. -/
theorem stopped_while_active
    : ¬ ∀ (keystream : Keystream) (config : DeviceConfig) (preferences : Preferences)
        (boot : BootEnv) (clock : Nat) (ops : List ClockedOp),
          ∀ stop ∈ ((clockedMachine keystream).run
              (.booted config preferences boot clock) ops).stops,
            stop.Idle := by
  intro always
  have stopped
      : ⟨⟨1, some ⟨2, 2⟩⟩, 2⟩
        ∈ ((clockedMachine clearStream).run (.booted {} {} firstBoot 1) touchedBetween).stops := by
    decide +kernel
  have early := always _ _ _ _ _ _ _ stopped _ rfl
  exact absurd early (by decide)

end KeypadBridge
