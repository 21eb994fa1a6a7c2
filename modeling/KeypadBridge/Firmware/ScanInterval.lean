import KeypadBridge.Foundation.WrappingClock
import KeypadBridge.Bridge.BatteryLevels
import KeypadBridge.Firmware.IdleClock

/-! The interval between battery scans. A window that closes sets the deadline of the next one
on the 32-bit clock, where half a turn ahead is as far as a deadline can lie.
-/

namespace KeypadBridge
open KeypadBridge.Foundation

-----------------------------------------------------------------------------------------
-- The component on its clock
-----------------------------------------------------------------------------------------

/-- The component with the milliseconds that its clock has counted. -/
structure TimedStation where
  station : Station
  clock : Nat

/-- Time passes, or an operation takes place. -/
inductive TimedOp where
  | tick (elapsed : Nat)
  | call (op : StationOp)

/-- The operation with the time that it reads. -/
def StationOp.timed (clock : Nat) : StationOp → StationOp
  | .loop (.applyPairing _ accepts) => .loop (.applyPairing (millisAt clock) accepts)
  | .loop (.applyLockLink _ accepts) => .loop (.applyLockLink (millisAt clock) accepts)
  | .loop (.keypadBattery env) => .loop (.keypadBattery { env with millis := millisAt clock })
  | .loop (.finishScan env) => .loop (.finishScan { env with millis := millisAt clock })
  | .loop (.startScan env) => .loop (.startScan { env with millis := millisAt clock })
  | .reset env => .reset { env with millis := millisAt clock }
  | op => op

namespace TimedStation

/-- One step. A restart sets the clock. -/
def perform (keystream : Keystream) (timed : TimedStation)
    : TimedOp → TimedStation × StationStep
  | .tick elapsed => ({ timed with clock := timed.clock + elapsed }, {})
  | .call op =>
      let (station, shown) := timed.station.perform keystream (op.timed timed.clock)
      let clock :=
        match op with
        | .reboot env => env.millis.toNat
        | _ => timed.clock
      ({ station, clock }, shown)

/-- The component as `setup` leaves it. -/
def booted (config : DeviceConfig) (preferences : Preferences) (env : BootEnv)
    : TimedStation where
  station := .booted config preferences env
  clock := env.millis.toNat

def windowOpen (timed : TimedStation) : Bool := timed.station.device.bridge.batteryScan.active

end TimedStation

def timedMachine (keystream : Keystream) : Machine TimedStation TimedOp StationStep where
  step := TimedStation.perform keystream

/-- A step of a run: the component before it, what took place, and what it showed. -/
abbrev TimedMove := TimedStation × TimedOp × StationStep

/-- The step closes the scan window, because every target was found or its time has elapsed. -/
def TimedMove.Closes (keystream : Keystream) (move : TimedMove) : Prop :=
  (∃ env,
    move.2.1 = .call (.loop (.finishScan env)) ∨ move.2.1 = .call (.loop (.startScan env)))
  ∧ move.1.windowOpen = true
  ∧ (move.1.perform keystream move.2.1).1.windowOpen = false

/-- The step opens a scan window. -/
def TimedMove.Opens (keystream : Keystream) (move : TimedMove) : Prop :=
  move.1.windowOpen = false ∧ (move.1.perform keystream move.2.1).1.windowOpen = true

/-- No pairing or lock link is applied in the step, nor does a reset or a restart happen. -/
def TimedMove.LinksNothing (move : TimedMove) : Prop := move.2.2.milestone = none

/-- With nothing linked or reset since a window was closed, none is opened before the interval
has passed.
-/
def KeepsInterval (keystream : Keystream) (interval : UInt32) (moves : List TimedMove) : Prop :=
  ∀ before closing between opening after,
    moves = before ++ closing :: (between ++ opening :: after)
    → TimedMove.Closes keystream closing
    → (∀ move ∈ between, TimedMove.LinksNothing move)
    → TimedMove.Opens keystream opening
    → closing.1.clock + interval.toNat ≤ opening.1.clock

-----------------------------------------------------------------------------------------
-- Who opens a window and who moves the deadline
-----------------------------------------------------------------------------------------

namespace Device

variable (device : Device)

theorem applyPendingKeypadBattery_deadline (env : ScanEnv)
    : (device.applyPendingKeypadBattery env).1.nextBatteryScanAt = device.nextBatteryScanAt := by
  simp only [applyPendingKeypadBattery]
  split
  · rfl
  · simp only [learnKeypad, publishKeypadBattery]
    split <;> split <;> rfl

theorem applyPendingLockBattery_deadline
    : device.applyPendingLockBattery.1.nextBatteryScanAt = device.nextBatteryScanAt := by
  simp only [applyPendingLockBattery]
  split
  · rfl
  · simp only [publishLockBattery]
    split <;> rfl

theorem applyPendingKeypadBattery_active (env : ScanEnv)
    : (device.applyPendingKeypadBattery env).1.bridge.batteryScan.active
      = device.bridge.batteryScan.active := by
  cases parked : device.keypadAdvert with
  | none => simp [applyPendingKeypadBattery, parked]
  | some advert =>
      exact congrArg (·.scan.active) (device.applyPendingKeypadBattery_scanState parked)

theorem applyPendingLockBattery_active
    : device.applyPendingLockBattery.1.bridge.batteryScan.active
      = device.bridge.batteryScan.active := by
  cases parked : device.lockAdvert with
  | none => simp [applyPendingLockBattery, parked]
  | some value =>
      exact congrArg (·.scan.active) (device.applyPendingLockBattery_scanState parked)

/-- The rest of `loop()` opens no window, and moves the deadline only by applying a link. -/
theorem performLoop_deadline (keystream : Keystream) {op : LoopOp}
    (notStart : ∀ env, op ≠ .startScan env)
    : ((device.performLoop keystream op).1.bridge.batteryScan.active = true
        → device.bridge.batteryScan.active = true)
      ∧ ((∀ env, op ≠ .finishScan env)
        → (device.performLoop keystream op).2.milestone = none
        → (device.performLoop keystream op).1.nextBatteryScanAt = device.nextBatteryScanAt) := by
  cases op with
  | paired | lockLinked => exact ⟨id, fun _ _ => rfl⟩
  | applyPairing millis accepts =>
      simp only [performLoop, applyPendingPairing]
      cases pending : device.pendingPairing with
      | none => exact ⟨id, fun _ _ => rfl⟩
      | some => exact ⟨id, fun _ linked => by cases linked⟩
  | applyLockLink millis accepts =>
      simp only [performLoop, applyPendingLockLink]
      cases pending : device.pendingLock with
      | none => exact ⟨id, fun _ _ => rfl⟩
      | some => exact ⟨id, fun _ linked => by cases linked⟩
  | drained event env =>
      refine ⟨fun active => ?_, fun _ _ => rfl⟩
      rcases device.bridge.drainEvent_scan keystream (device.rxEnv env) event with same | closed
      · exact (congrArg BatteryScan.active same).symm.trans active
      · exact absurd ((congrArg BatteryScan.active closed).symm.trans active) Bool.false_ne_true
  | keypadBattery env =>
      exact ⟨(device.applyPendingKeypadBattery_active env).symm.trans,
        fun _ _ => device.applyPendingKeypadBattery_deadline env⟩
  | lockBattery =>
      exact ⟨device.applyPendingLockBattery_active.symm.trans,
        fun _ _ => device.applyPendingLockBattery_deadline⟩
  | finishScan env =>
      refine ⟨fun active => ?_, fun other => absurd rfl (other env)⟩
      rcases device.maybeFinishBatteryScan_unnoticed env with same | closed
      · exact (congrArg (·.scan.active) same).symm.trans active
      · exact absurd ((congrArg (·.scan.active) closed).symm.trans active) Bool.false_ne_true
  | startScan env => exact absurd rfl (notStart env)

end Device

/-- Every operation but the start of a scan opens no window, and every other one but its end
moves the deadline only by linking or resetting.
-/
theorem Station.perform_deadline (keystream : Keystream) (station : Station) {op : StationOp}
    (notStart : ∀ env, op ≠ .loop (.startScan env))
    : ((station.perform keystream op).1.device.bridge.batteryScan.active = true
        → station.device.bridge.batteryScan.active = true)
      ∧ ((∀ env, op ≠ .loop (.finishScan env))
        → (station.perform keystream op).2.milestone = none
        → (station.perform keystream op).1.device.nextBatteryScanAt
          = station.device.nextBatteryScanAt) := by
  cases op with
  | loop op =>
      obtain ⟨shut, deadline⟩ :=
        station.device.performLoop_deadline keystream fun env same => notStart env (same ▸ rfl)
      simp only [perform]
      split
      · exact ⟨shut, fun other => deadline fun env same => other env (same ▸ rfl)⟩
      · exact ⟨id, fun _ _ => rfl⟩
  | wizard | relayDone => exact ⟨id, fun _ _ => rfl⟩
  | advert adv =>
      simp only [perform]
      split <;> exact ⟨id, fun _ _ => rfl⟩
  | scanCallback =>
      obtain ⟨_, _, parked⟩ := station.device.stepScanCallback_parks station.scanCallback
      simp only [perform, parked]
      exact ⟨id, fun _ _ => trivial⟩
  | reset env =>
      refine ⟨fun active => ?_, fun _ linked => by simp [perform] at linked⟩
      simp only [perform] at active
      by_cases failed : env.keyImport = none
      · rw [Device.resetPairing_aborted failed] at active
        exact (congrArg (·.scan.active) (station.device.rotated_scanState env)).symm.trans active
      · rw [Device.resetPairing_completed failed] at active
        exact absurd active Bool.false_ne_true
  | reboot env =>
      refine ⟨fun active => ?_, fun _ linked => by simp [perform] at linked⟩
      have shut :=
        (Device.setup_scanIdle station.device.config station.device.preferences env).shut
      simp [perform, Device.reboot, shut] at active

-----------------------------------------------------------------------------------------
-- The configuration
-----------------------------------------------------------------------------------------

namespace Device

theorem bringUp_config (device : Device) (env : BootEnv)
    : (device.bringUp env).config = device.config := by
  have imported : (device.importAesKey env.keyImport).1.config = device.config := by
    unfold importAesKey
    split <;> rfl
  unfold bringUp
  split
  · rfl
  · dsimp only
    split
    · exact imported
    · split <;> exact imported

theorem setup_config (config : DeviceConfig) (preferences : Preferences) (env : BootEnv)
    : (setup config preferences env).1.config = config := by
  have keyed : ((powerOn config preferences).restoreKey env).config = config := by
    unfold restoreKey
    split <;> rfl
  have locked (device : Device) : (device.restoreLock env).1.config = device.config := by
    unfold restoreLock
    dsimp only
    split <;> split <;> rfl
  simp only [setup, restoreLinks]
  rw [bringUp_config, locked]
  exact keyed

theorem Unnoticed.config {before after : Device} (unnoticed : before.Unnoticed after)
    : after.config = before.config := by
  rcases unnoticed with same | closed
  · exact congrArg ScanState.config same
  · exact congrArg ScanState.config closed

theorem performLoop_config (keystream : Keystream) (device : Device) (op : LoopOp)
    : (device.performLoop keystream op).1.config = device.config := by
  cases op with
  | paired | lockLinked | drained => rfl
  | applyPairing millis accepts =>
      simp only [performLoop, applyPendingPairing]
      split <;> rfl
  | applyLockLink millis accepts =>
      simp only [performLoop, applyPendingLockLink]
      split <;> rfl
  | keypadBattery env =>
      cases parked : device.keypadAdvert with
      | none => simp [performLoop, applyPendingKeypadBattery, parked]
      | some advert =>
          exact congrArg ScanState.config (device.applyPendingKeypadBattery_scanState parked)
  | lockBattery =>
      cases parked : device.lockAdvert with
      | none => simp [performLoop, applyPendingLockBattery, parked]
      | some value =>
          exact congrArg ScanState.config (device.applyPendingLockBattery_scanState parked)
  | finishScan env => exact (device.maybeFinishBatteryScan_unnoticed env).config
  | startScan env =>
      rcases device.maybeStartBatteryScan_cases env with quiet | ⟨closed, _⟩ | ⟨opened, _⟩
      · exact quiet.config
      · exact congrArg ScanState.config closed
      · simp only [performLoop, opened]
        rfl

end Device

/-- No operation changes the configuration. -/
theorem Station.perform_config (keystream : Keystream) (station : Station) (op : StationOp)
    : (station.perform keystream op).1.device.config = station.device.config := by
  cases op with
  | loop op =>
      simp only [perform]
      split
      · exact station.device.performLoop_config keystream op
      · rfl
  | wizard | relayDone => rfl
  | advert adv =>
      simp only [perform]
      split <;> rfl
  | scanCallback =>
      obtain ⟨_, _, parked⟩ := station.device.stepScanCallback_parks station.scanCallback
      simp only [perform, parked]
  | reset env =>
      have rotated := congrArg ScanState.config (station.device.rotated_scanState env)
      simp only [perform]
      by_cases failed : env.keyImport = none
      · rw [Device.resetPairing_aborted failed]
        exact rotated
      · rw [Device.resetPairing_completed failed]
        exact rotated
  | reboot env => exact Device.setup_config _ _ _

namespace TimedStation

theorem perform_config (keystream : Keystream) (timed : TimedStation) (op : TimedOp)
    : (timed.perform keystream op).1.station.device.config = timed.station.device.config := by
  cases op with
  | tick => rfl
  | call op => exact timed.station.perform_config keystream _

theorem run_config (keystream : Keystream) (timed : TimedStation) (ops : List TimedOp)
    : ((timedMachine keystream).run timed ops).station.device.config
      = timed.station.device.config :=
  (timedMachine keystream).run_invariant
    (fun reached => reached.station.device.config = timed.station.device.config) rfl
    (fun reached op same => (reached.perform_config keystream op).trans same) ops

end TimedStation

-----------------------------------------------------------------------------------------
-- Behind a window that was closed
-----------------------------------------------------------------------------------------

/-- Until `due` no window is open, and the deadline is set to `due`, at most half a turn ahead. -/
def TimedStation.Waits (timed : TimedStation) (due : Nat) : Prop :=
  timed.clock < due
  → due ≤ timed.clock + 2 ^ 31
    ∧ timed.windowOpen = false
    ∧ timed.station.device.nextBatteryScanAt = millisAt due

namespace Device

/-- Before the deadline nothing starts. -/
theorem maybeStartBatteryScan_early {device : Device} (env : ScanEnv)
    (shut : device.bridge.batteryScan.active = false)
    (early : beforeDeadline env.millis device.nextBatteryScanAt = true)
    : device.maybeStartBatteryScan env = (device, []) := by
  unfold maybeStartBatteryScan
  dsimp only
  rw [if_neg (by simp [shut]), if_pos (of_decide_eq_true early)]

/-- There is no window to finish. -/
theorem maybeFinishBatteryScan_shut {device : Device} (env : ScanEnv)
    (shut : device.bridge.batteryScan.active = false)
    : device.maybeFinishBatteryScan env = (device, []) := by
  simp [maybeFinishBatteryScan, shut]

end Device

namespace TimedStation

variable {timed : TimedStation} {due : Nat}

/-- The clock goes on, unless the component restarts. -/
theorem clock_le (keystream : Keystream) (timed : TimedStation) (op : TimedOp)
    (linksNothing : (timed.perform keystream op).2.milestone = none)
    : timed.clock ≤ (timed.perform keystream op).1.clock := by
  cases op with
  | tick elapsed => exact Nat.le_add_right _ _
  | call op =>
      cases op with
      | reboot env => simp [perform, StationOp.timed, Station.perform] at linksNothing
      | _ => exact Nat.le_refl _

/-- Before the deadline a call keeps waiting: a scan does not start, there is none to finish,
and the other calls leave the deadline alone.
-/
theorem Waits.call (keystream : Keystream) (timed : TimedStation) (op : StationOp)
    (early : timed.clock < due) (near : due ≤ timed.clock + 2 ^ 31)
    (shut : timed.windowOpen = false)
    (deadline : timed.station.device.nextBatteryScanAt = millisAt due)
    : ((timed.perform keystream (.call op)).1.windowOpen = false)
      ∧ ((timed.perform keystream (.call op)).2.milestone = none
        → (timed.perform keystream (.call op)).1.station.device.nextBatteryScanAt
          = millisAt due) := by
  have passing (other : ∀ env, op.timed timed.clock ≠ .loop (.startScan env))
      (unfinished : ∀ env, op.timed timed.clock ≠ .loop (.finishScan env))
      : ((timed.perform keystream (.call op)).1.windowOpen = false)
        ∧ ((timed.perform keystream (.call op)).2.milestone = none
          → (timed.perform keystream (.call op)).1.station.device.nextBatteryScanAt
            = millisAt due) := by
    obtain ⟨active, kept⟩ := timed.station.perform_deadline keystream other
    refine ⟨?_, fun linksNothing => (kept unfinished linksNothing).trans deadline⟩
    rw [← Bool.not_eq_true]
    exact fun opened => Bool.false_ne_true (shut.symm.trans (active opened))
  cases op with
  | loop op =>
      cases op with
      | startScan env =>
          have before : beforeDeadline (millisAt timed.clock)
              timed.station.device.nextBatteryScanAt = true := by
            rw [deadline]
            exact (beforeDeadline_ofNat near (by omega)).mpr early
          have unchanged :=
            Device.maybeStartBatteryScan_early { env with millis := millisAt timed.clock } shut
              before
          simp only [perform, StationOp.timed, Station.perform, Device.performLoop, unchanged]
          split <;> exact ⟨shut, fun _ => deadline⟩
      | finishScan env =>
          have unchanged :=
            Device.maybeFinishBatteryScan_shut { env with millis := millisAt timed.clock } shut
          simp only [perform, StationOp.timed, Station.perform, Device.performLoop, unchanged]
          split <;> exact ⟨shut, fun _ => deadline⟩
      | _ => exact passing (by simp [StationOp.timed]) (by simp [StationOp.timed])
  | _ => exact passing (by simp [StationOp.timed]) (by simp [StationOp.timed])

/-- Waiting lasts over every step that links and resets nothing. -/
theorem Waits.perform (waits : timed.Waits due) (keystream : Keystream) (op : TimedOp)
    (linksNothing : (timed.perform keystream op).2.milestone = none)
    : (timed.perform keystream op).1.Waits due := by
  intro early
  have passed := clock_le keystream timed op linksNothing
  have before : timed.clock < due := Nat.lt_of_le_of_lt passed early
  obtain ⟨near, shut, deadline⟩ := waits before
  refine ⟨by omega, ?_⟩
  cases op with
  | tick elapsed => exact ⟨shut, deadline⟩
  | call op =>
      obtain ⟨still, kept⟩ := Waits.call keystream timed op before near shut deadline
      exact ⟨still, kept linksNothing⟩

/-- A window opens only when the waiting is over. -/
theorem Waits.opens (waits : timed.Waits due) {keystream : Keystream} {op : TimedOp}
    (opened : (timed.perform keystream op).1.windowOpen = true) (shut : timed.windowOpen = false)
    : due ≤ timed.clock := by
  by_contra early
  obtain ⟨near, _, deadline⟩ := waits (Nat.lt_of_not_le early)
  cases op with
  | tick elapsed => exact Bool.false_ne_true (shut.symm.trans opened)
  | call op =>
      obtain ⟨still, _⟩ :=
        Waits.call keystream timed op (Nat.lt_of_not_le early) near shut deadline
      exact Bool.false_ne_true (still.symm.trans opened)

end TimedStation

namespace Device

/-- An open window stays, or it is closed and the next one is due after the interval. -/
def StaysOrCloses (device : Device) (env : ScanEnv) (after : Device) : Prop :=
  after = device
  ∨ after
    = (device.stopBatteryScan env.isScanning).1.scheduleScan
        (env.millis + device.config.batteryScanIntervalMs)

theorem maybeFinishBatteryScan_cases (device : Device) (env : ScanEnv)
    : device.StaysOrCloses env (device.maybeFinishBatteryScan env).1 := by
  unfold maybeFinishBatteryScan
  dsimp only
  split
  · exact .inl rfl
  split
  · exact .inl rfl
  split
  · exact .inl rfl
  · exact .inr rfl

theorem maybeStartBatteryScan_open {device : Device} (env : ScanEnv)
    (opened : device.bridge.batteryScan.active = true)
    : device.StaysOrCloses env (device.maybeStartBatteryScan env).1 := by
  unfold maybeStartBatteryScan
  dsimp only
  rw [if_pos opened]
  split
  · exact .inl rfl
  · exact .inr rfl

theorem StaysOrCloses.deadline {device after : Device} {env : ScanEnv}
    (cases : device.StaysOrCloses env after) (opened : device.bridge.batteryScan.active = true)
    (closed : after.bridge.batteryScan.active = false)
    : after.nextBatteryScanAt = env.millis + device.config.batteryScanIntervalMs := by
  rcases cases with rfl | rfl
  · exact absurd (opened.symm.trans closed) (by decide)
  · rfl

end Device

/-- An interval later on a 32-bit clock. -/
theorem millisAt_add (clock : Nat) (interval : UInt32)
    : millisAt clock + interval = millisAt (clock + interval.toNat) := by
  rw [millisAt, millisAt, UInt32.ofNat_add, UInt32.ofNat_toNat]

/-- Closing a window starts the waiting, provided the interval is at most half a turn. -/
theorem TimedStation.waits_of_closes {keystream : Keystream} {timed : TimedStation}
    {op : TimedOp} {shown : StationStep}
    (closes : TimedMove.Closes keystream (timed, op, shown))
    (short : timed.station.device.config.batteryScanIntervalMs.toNat ≤ 2 ^ 31)
    : (timed.perform keystream op).1.Waits
        (timed.clock + timed.station.device.config.batteryScanIntervalMs.toNat) := by
  obtain ⟨⟨env, called⟩, opened, closed⟩ := closes
  have stays
      : timed.station.device.StaysOrCloses { env with millis := millisAt timed.clock }
          (timed.perform keystream op).1.station.device := by
    simp only at called
    rcases called with rfl | rfl
    · simp only [perform, StationOp.timed, Station.perform]
      split
      · exact Device.maybeFinishBatteryScan_cases _ _
      · exact .inl rfl
    · simp only [perform, StationOp.timed, Station.perform]
      split
      · exact Device.maybeStartBatteryScan_open _ opened
      · exact .inl rfl
  have clock : (timed.perform keystream op).1.clock = timed.clock := by
    simp only at called
    rcases called with rfl | rfl <;> rfl
  intro _
  refine ⟨by omega, closed, ?_⟩
  rw [stays.deadline opened closed]
  exact millisAt_add timed.clock timed.station.device.config.batteryScanIntervalMs

/-- With an interval of at most half a turn every run keeps it: from the step that closes a
window the waiting lasts, by induction on the steps in between.
-/
theorem keepsInterval_of_short (keystream : Keystream) (config : DeviceConfig)
    (preferences : Preferences) (env : BootEnv) (ops : List TimedOp)
    (short : config.batteryScanIntervalMs.toNat ≤ 2 ^ 31)
    : KeepsInterval keystream config.batteryScanIntervalMs
        ((timedMachine keystream).traced.history (.booted config preferences env) ops) := by
  intro before closing between opening after split closes linksNothing opens
  obtain ⟨first, closingOp, rest, rfl, rfl, rfl, later⟩ :=
    (timedMachine keystream).traced.history_split_at split
  obtain ⟨second, openingOp, third, rfl, rfl, rfl, -⟩ :=
    (timedMachine keystream).traced.history_split_at later
  have configured
      : ((timedMachine keystream).run (.booted config preferences env) first).station.device.config
        = config :=
    (TimedStation.run_config keystream _ first).trans (Device.setup_config config preferences env)
  simp only [Machine.traced_run] at closes linksNothing opens ⊢
  generalize (timedMachine keystream).run (.booted config preferences env) first = reached
    at configured closes linksNothing opens ⊢
  have waits := TimedStation.waits_of_closes closes (configured ▸ short)
  rw [configured] at waits
  have lasts :=
    (timedMachine keystream).traced.run_invariant_while
      (fun timed => timed.Waits (reached.clock + config.batteryScanIntervalMs.toNat))
      TimedMove.LinksNothing (fun _ => True) waits
      (fun timed op waits linksNothing => ⟨waits.perform keystream op linksNothing, trivial⟩)
      second linksNothing
  have waited := lasts.1
  rw [Machine.traced_run] at waited
  exact waited.opens opens.2 opens.1

-----------------------------------------------------------------------------------------
-- Longer intervals
-----------------------------------------------------------------------------------------

/-- Nothing but the deadline keeps a scan for the keypad from starting. -/
structure Device.ReadyToScan (device : Device) : Prop where
  working : device.failed = false
  sensor : device.config.hasKeypadBattery = true
  paired : device.keypadPaired = true
  free : device.backgroundBleBusy false = false

/-- A call of `loop()` in which the scan is at rest and would start. -/
def startableEnv : ScanEnv := { scanEnv with scanStarts := true }

def startScanCall : TimedOp := .call (.loop (.startScan startableEnv))

namespace TimedStation

variable {timed : TimedStation}

theorem perform_startScan (keystream : Keystream) (ready : timed.station.device.ReadyToScan)
    : (timed.perform keystream startScanCall).1
      = { timed with
          station :=
            { timed.station with
              device :=
                (timed.station.device.maybeStartBatteryScan
                  { startableEnv with millis := millisAt timed.clock }).1 } } := by
  have loops (env : ScanEnv) : timed.station.device.loops (.startScan env) = true := by
    simp [Device.loops, ready.working, ready.sensor]
  simp only [perform, startScanCall, StationOp.timed, Station.perform, loops, if_true,
    Device.performLoop]

/-- Once the deadline has passed a scan starts. -/
theorem startScan_due (keystream : Keystream) (ready : timed.station.device.ReadyToScan)
    (shut : timed.windowOpen = false)
    (due
      : beforeDeadline (millisAt timed.clock) timed.station.device.nextBatteryScanAt = false)
    : ((timed.perform keystream startScanCall).1).windowOpen = true
      ∧ ((timed.perform keystream startScanCall).1).station.device.ReadyToScan := by
  have passed : ¬ (millisAt timed.clock - timed.station.device.nextBatteryScanAt).toInt32 < 0 :=
    of_decide_eq_false due
  have inactive : timed.station.device.bridge.batteryScan.active = false := shut
  have opens
      : ∃ wantsLock,
          (timed.station.device.maybeStartBatteryScan
              { startableEnv with millis := millisAt timed.clock }).1
            = timed.station.device.openBatteryScan true wantsLock := by
    unfold Device.maybeStartBatteryScan
    dsimp only
    rw [if_neg (by simp [inactive]), if_neg passed,
      if_neg (by simp [ready.sensor, ready.paired]),
      if_neg (by simp [ready.free, startableEnv, scanEnv]), ready.sensor, ready.paired]
    exact ⟨_, rfl⟩
  obtain ⟨wantsLock, opened⟩ := opens
  rw [perform_startScan keystream ready, opened]
  exact ⟨rfl, ready.working, ready.sensor, ready.paired, ready.free⟩

/-- A window that has elapsed is closed, and due again after the interval. -/
theorem startScan_elapsed (keystream : Keystream) (ready : timed.station.device.ReadyToScan)
    (opened : timed.windowOpen = true)
    : let after := (timed.perform keystream startScanCall).1
      after.windowOpen = false
      ∧ after.station.device.ReadyToScan
      ∧ after.station.device.nextBatteryScanAt
        = millisAt timed.clock + timed.station.device.config.batteryScanIntervalMs := by
  intro after
  have closed
      : (timed.station.device.maybeStartBatteryScan
            { startableEnv with millis := millisAt timed.clock }).1
          = (timed.station.device.stopBatteryScan false).1.scheduleScan
              (millisAt timed.clock + timed.station.device.config.batteryScanIntervalMs) := by
    have active : timed.station.device.bridge.batteryScan.active = true := opened
    simp only [Device.maybeStartBatteryScan, active, startableEnv, scanEnv, if_true,
      Bool.false_eq_true, if_false]
    rfl
  simp only [after]
  rw [perform_startScan keystream ready, closed]
  exact ⟨rfl, ⟨ready.working, ready.sensor, ready.paired, ready.free⟩, rfl⟩

/-- With an interval longer than half a turn a window that has elapsed is opened again by the
next call.
-/
theorem startScan_reopens (keystream : Keystream) (ready : timed.station.device.ReadyToScan)
    (opened : timed.windowOpen = true)
    (long : 2 ^ 31 < timed.station.device.config.batteryScanIntervalMs.toNat)
    : let closed := (timed.perform keystream startScanCall).1
      TimedMove.Closes keystream
          (timed, startScanCall, (timed.perform keystream startScanCall).2)
      ∧ TimedMove.Opens keystream
          (closed, startScanCall, (closed.perform keystream startScanCall).2)
      ∧ closed.clock = timed.clock := by
  intro closed
  obtain ⟨shut, readyAgain, deadline⟩ := startScan_elapsed keystream ready opened
  have due
      : beforeDeadline (millisAt closed.clock) closed.station.device.nextBatteryScanAt = false := by
    rw [deadline, ← Bool.not_eq_true]
    exact (beforeDeadline_add (millisAt timed.clock) _).not.mpr (by omega)
  exact ⟨⟨⟨startableEnv, .inr rfl⟩, opened, shut⟩,
    ⟨shut, (startScan_due keystream readyAgain shut due).1⟩, rfl⟩

end TimedStation

theorem TimedStation.run_singleton (keystream : Keystream) (timed : TimedStation) (op : TimedOp)
    : (timedMachine keystream).run timed [op] = (timed.perform keystream op).1 :=
  rfl

/-- A run in which a window is opened by the call behind the one that closed it, at the same
time, keeps no interval.
-/
theorem not_keepsInterval_of_reopens {keystream : Keystream} {start timed : TimedStation}
    {ops : List TimedOp} (reached : (timedMachine keystream).run start ops = timed)
    (closes
      : TimedMove.Closes keystream
          (timed, startScanCall, (timed.perform keystream startScanCall).2))
    (opens
      : let closed := (timed.perform keystream startScanCall).1
        TimedMove.Opens keystream
          (closed, startScanCall, (closed.perform keystream startScanCall).2))
    (clock : (timed.perform keystream startScanCall).1.clock = timed.clock)
    {interval : UInt32} (positive : 0 < interval.toNat)
    : ¬ KeepsInterval keystream interval
        ((timedMachine keystream).traced.history start
          (ops ++ [startScanCall, startScanCall])) := by
  intro keeps
  have kept := keeps ((timedMachine keystream).traced.history start ops) _ [] _ []
    (by
      rw [Machine.history_append, Machine.traced_run, reached]
      rfl)
    closes (by simp) opens
  simp only [clock] at kept
  omega

/-- A keypad is linked, the wizard is closed, and ten seconds pass. -/
def linkedKeypad : List TimedOp :=
  (pairedAs [0x4b] ++ [StationOp.wizard {}]).map .call ++ [.tick 10000]

/-- The component with the given interval by then. -/
def linkedStation (interval : UInt32) : TimedStation :=
  (timedMachine clearStream).run (.booted { batteryScanIntervalMs := interval } {} firstBoot)
    linkedKeypad

theorem linkedStation_ready (interval : UInt32)
    : (linkedStation interval).station.device.ReadyToScan :=
  ⟨rfl, rfl, rfl, rfl⟩

theorem linkedStation_interval (interval : UInt32)
    : (linkedStation interval).station.device.config.batteryScanIntervalMs = interval :=
  rfl

theorem linkedStation_shut (interval : UInt32)
    : (linkedStation interval).windowOpen = false :=
  rfl

/-- The deadline that the pairing has set is there. -/
theorem linkedStation_due (interval : UInt32)
    : beforeDeadline (millisAt (linkedStation interval).clock)
        (linkedStation interval).station.device.nextBatteryScanAt
      = false := by
  have deadline
      : (linkedStation interval).station.device.nextBatteryScanAt = millisAt 0 + 10000 :=
    rfl
  have clock : (linkedStation interval).clock = 0 + 10000 := rfl
  rw [deadline, clock]
  decide

/-- With a longer interval a window that has elapsed is opened again at once. -/
theorem not_keepsInterval_of_long (interval : UInt32) (long : 2 ^ 31 < interval.toNat)
    : ¬ KeepsInterval clearStream interval
        ((timedMachine clearStream).traced.history
          (.booted { batteryScanIntervalMs := interval } {} firstBoot)
          ((linkedKeypad ++ [startScanCall]) ++ [startScanCall, startScanCall])) := by
  obtain ⟨opened, ready⟩ :=
    TimedStation.startScan_due clearStream (linkedStation_ready interval)
      (linkedStation_shut interval) (linkedStation_due interval)
  have configured := (linkedStation interval).perform_config clearStream startScanCall
  obtain ⟨closes, opens, clock⟩ :=
    TimedStation.startScan_reopens clearStream ready opened (by
      rw [configured, linkedStation_interval]
      exact long)
  refine not_keepsInterval_of_reopens ?_ closes opens clock (by omega)
  rw [Machine.run_append, ← linkedStation.eq_1]
  exact TimedStation.run_singleton clearStream (linkedStation interval) startScanCall

/-- Which intervals are kept: a window stays closed for the interval in every run, exactly if
the interval is at most half a turn of the 32-bit clock.
-/
theorem battery_scan_interval_iff (interval : UInt32)
    : (∀ (keystream : Keystream) (config : DeviceConfig) (preferences : Preferences)
        (env : BootEnv) (ops : List TimedOp),
        config.batteryScanIntervalMs = interval
        → KeepsInterval keystream interval
            ((timedMachine keystream).traced.history (.booted config preferences env) ops))
      ↔ interval.toNat ≤ 2 ^ 31 := by
  constructor
  · intro keeps
    by_contra long
    exact not_keepsInterval_of_long interval (Nat.lt_of_not_le long)
      (keeps clearStream { batteryScanIntervalMs := interval } {} firstBoot _ rfl)
  · rintro short keystream config preferences env ops rfl
    exact keepsInterval_of_short keystream config preferences env ops short

/-- An interval of thirty days is over at once. -/
theorem battery_scan_interval_of_thirty_days
    : ¬ ∀ (keystream : Keystream) (config : DeviceConfig) (preferences : Preferences)
        (env : BootEnv) (ops : List TimedOp),
        KeepsInterval keystream config.batteryScanIntervalMs
          ((timedMachine keystream).traced.history (.booted config preferences env) ops) := by
  intro always
  exact not_keepsInterval_of_long 2592000000 (by decide)
    (always clearStream { batteryScanIntervalMs := 2592000000 } {} firstBoot _)

end KeypadBridge
