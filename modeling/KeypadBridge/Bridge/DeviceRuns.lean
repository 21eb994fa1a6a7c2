import KeypadBridge.Bridge.BatteryScan
import KeypadBridge.Bridge.Replies

/-! Runs of the component. Its operations are the calls that the main task makes, in any
order, and the steps of the tasks beside it: the scan callback, the relay task and the
wizard. A call made by `loop()` does nothing on a component whose set-up failed.

A call of the main task is one step. The scan callback shares only the flags of the scan
window with it, which are cleared together in one place, and the parked advertisements,
which both sides take under one mutex.
-/

namespace KeypadBridge
open KeypadBridge.Foundation

/-- The component with the progress of its scan callback. -/
structure Station where
  device : Device
  scanCallback : ScanCallback := .idle

/-- A call that `loop()` makes. -/
inductive LoopOp where
  | paired (name mac : Bytes) (family : KeypadFamily)
  | lockLinked (name mac : Bytes) (model : PhysicalLockModel) (family : KeypadFamily)
  | applyPairing (millis : UInt32) (accepts : PrefKey → Bool)
  | applyLockLink (millis : UInt32) (accepts : PrefKey → Bool)
  | drained (event : QueuedEvent) (env : RxEnv)
  | keypadBattery (env : ScanEnv)
  | lockBattery
  | finishScan (env : ScanEnv)
  | startScan (env : ScanEnv)

/-- An operation on the component. The wizard's own operation leaves it with whatever jobs,
server and bookkeeping `ui` has.
-/
inductive StationOp where
  | loop (op : LoopOp)
  | wizard (ui : PairingUi)
  | relayDone
  | advert (adv : AdvertisedDevice)
  | scanCallback
  | reset (env : ResetEnv)
  | reboot (env : BootEnv)

/-- What happened to the links in one step. -/
inductive Milestone where
  | pairingApplied (pending : PendingPairing)
  | lockApplied (pending : PendingLock)
  | linksReset
  | resetAborted
  | booted
  deriving DecidableEq

/-- What one step shows. -/
structure StationStep where
  outcome : Option LockSession.FrameOutcome := none
  effects : List DeviceEffect := []
  milestone : Option Milestone := none

namespace Device

/-- The environment of a frame, with the keys that PSA Crypto holds for this component. -/
def rxEnv (device : Device) (env : RxEnv) : RxEnv :=
  { env with psa := { env.psa with keys := device.psaKeys } }

/-- One turn of the loop in which `loop()` drains its queue. -/
def drainEvent (keystream : Keystream) (device : Device) (event : QueuedEvent) (env : RxEnv)
    : Device × StationStep :=
  let env := device.rxEnv env
  let (bridge, effects) := device.bridge.drainEvent keystream env event
  ({ device with bridge },
    { outcome := event.outcome keystream env device.bridge.session
      effects := effects.map .bridge })

/-- The wizard confirms a pairing: its gate closes, and its callback runs. -/
def confirmPaired (device : Device) (name mac : Bytes) (family : KeypadFamily) : Device :=
  { device with pairingUi := device.pairingUi.setKeypadPaired true }.onPaired name mac family

/-- The wizard confirms a lock link, in the slot of the family it was requested for. -/
def confirmLinked (device : Device) (name mac : Bytes) (model : PhysicalLockModel)
    (family : KeypadFamily)
    : Device :=
  { device with pairingUi := device.pairingUi.setLockLinked true }.onLockLinked name mac model
    (sharedSlotForFamily family)

/-- One call of `loop()`. The battery is looked after only where a sensor shows it. -/
def performLoop (keystream : Keystream) (device : Device) : LoopOp → Device × StationStep
  | .paired name mac family => (device.confirmPaired name mac family, {})
  | .lockLinked name mac model family =>
      (device.confirmLinked name mac model family, {})
  | .applyPairing millis accepts =>
      let (after, effects) := device.applyPendingPairing millis accepts
      (after, { effects, milestone := device.pendingPairing.map .pairingApplied })
  | .applyLockLink millis accepts =>
      let (after, effects) := device.applyPendingLockLink millis accepts
      (after, { effects, milestone := device.pendingLock.map .lockApplied })
  | .drained event env => device.drainEvent keystream event env
  | .keypadBattery env =>
      let (after, effects) := device.applyPendingKeypadBattery env
      (after, { effects })
  | .lockBattery =>
      let (after, effects) := device.applyPendingLockBattery
      (after, { effects })
  | .finishScan env =>
      let (after, effects) := device.maybeFinishBatteryScan env
      (after, { effects })
  | .startScan env =>
      let (after, effects) := device.maybeStartBatteryScan env
      (after, { effects })

/-- What handlers and jobs of the wizard may change: all but the members that the main task
sets.
-/
def withWizard (device : Device) (ui : PairingUi) : Device :=
  { device with
    pairingUi :=
      { ui with
        sharedKey := device.pairingUi.sharedKey
        keypadFamily := device.pairingUi.keypadFamily
        keypadPaired := device.pairingUi.keypadPaired
        lockLinked := device.pairingUi.lockLinked } }

/-- The relay task has finished. -/
def relayDone (device : Device) : Device :=
  { device with bridge := { device.bridge with lockRelayBusy := false } }

end Device

namespace LoopOp

/-- The calls that `loop()` makes only where a battery sensor is configured. -/
def isBattery : LoopOp → Bool
  | .keypadBattery _ | .lockBattery | .finishScan _ | .startScan _ => true
  | _ => false

end LoopOp

/-- `loop()` makes this call on this component. -/
def Device.loops (device : Device) (op : LoopOp) : Bool :=
  !device.failed
    && (!op.isBattery || device.config.hasKeypadBattery || device.config.hasLockBattery)

namespace Station

/-- One operation. -/
def perform (keystream : Keystream) (station : Station) : StationOp → Station × StationStep
  | .loop op =>
      if station.device.loops op then
        let (device, shown) := station.device.performLoop keystream op
        ({ station with device }, shown)
      else (station, {})
  | .wizard ui => ({ station with device := station.device.withWizard ui }, {})
  | .relayDone => ({ station with device := station.device.relayDone }, {})
  | .advert adv =>
      if station.scanCallback = .idle then
        ({ station with scanCallback := station.device.receiveAdvert adv }, {})
      else (station, {})
  | .scanCallback =>
      let (scanCallback, device) := station.device.stepScanCallback station.scanCallback
      ({ device, scanCallback }, {})
  | .reset env =>
      let (device, effects) := station.device.resetPairing env
      let milestone := if env.keyImport.isSome then .linksReset else .resetAborted
      ({ station with device }, { effects, milestone := some milestone })
  | .reboot env =>
      let (device, effects) := station.device.reboot env
      ({ device, scanCallback := .idle }, { effects, milestone := some .booted })

/-- The component as `setup` leaves it, on whatever the flash holds. -/
def booted (config : DeviceConfig) (preferences : Preferences) (env : BootEnv) : Station where
  device := (Device.setup config preferences env).1

end Station

def stationMachine (keystream : Keystream) : Machine Station StationOp StationStep where
  step := Station.perform keystream

/-- The component after a run from its first start. -/
def Station.after (keystream : Keystream) (config : DeviceConfig) (preferences : Preferences)
    (env : BootEnv) (ops : List StationOp)
    : Station :=
  (stationMachine keystream).run (booted config preferences env) ops

end KeypadBridge
