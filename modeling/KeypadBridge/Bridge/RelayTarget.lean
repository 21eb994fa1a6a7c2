import KeypadBridge.Bridge.Forgetting
import KeypadBridge.Bridge.RelayOutcomes
import KeypadBridge.Client.ConfiguredLock

/-! Where a keypad's command ends up. The relay task keeps the configuration it was started
with, and the component goes on meanwhile: it takes other commands, forgets the lock or links
another one. What is written on the air still belongs to the lock, the slot and the plaintext
of the command that was accepted.
-/

namespace KeypadBridge
open KeypadBridge.Foundation
open PhysicalLockClient
open SwitchbotKeypadBridge (hexByte)

-----------------------------------------------------------------------------------------
-- The printed address
-----------------------------------------------------------------------------------------

theorem asciiBytes_append (first second : String)
    : asciiBytes (first ++ second) = asciiBytes first ++ asciiBytes second := by
  simp [asciiBytes]

/-- `%02X` prints what NimBLE prints, in upper case. -/
theorem upperMac_hexByte (byte : UInt8)
    : upperMac (asciiBytes (hexByte byte)) = upperMac (hexText byte) := by
  have every
      : ∀ byte : BitVec 8,
          upperMac (asciiBytes (hexByte ⟨byte⟩)) = upperMac (hexText ⟨byte⟩) := by
    decide +kernel
  exact every byte.toBitVec

/-- Bytes with colons between them, by induction over the bytes. -/
theorem upperMac_intercalate (bytes : List UInt8)
    : upperMac (asciiBytes (":".intercalate (bytes.map hexByte)))
      = upperMac ((bytes.map hexText).intersperse [0x3A]).flatten := by
  induction bytes with
  | nil => rfl
  | cons first rest ih =>
      cases rest with
      | nil => simpa using upperMac_hexByte first
      | cons second rest =>
          have colon : asciiBytes ":" = [0x3A] := rfl
          have head := upperMac_hexByte first
          simp only [upperMac_eq_map] at head ih ⊢
          simp only [List.map_cons, String.intercalate_cons_cons, asciiBytes_append,
            List.map_append, head, colon, List.intersperse_cons_cons, List.flatten_cons] at ih ⊢
          rw [ih, List.append_assoc]

/-- The relay's configuration names the lock that is linked. -/
theorem physicalLockConfig_names {bridge : SwitchbotKeypadBridge} (slotId : UInt8)
    (linked : bridge.linkedLockInfo.valid ≠ 0)
    : (bridge.physicalLockConfig slotId).Names bridge.linkedLockInfo.mac := by
  rw [Config.Names, Config.macBytes, SwitchbotKeypadBridge.physicalLockConfig, if_pos linked]
  exact upperMac_intercalate bridge.linkedLockInfo.mac.toList

-----------------------------------------------------------------------------------------
-- The relay on the air
-----------------------------------------------------------------------------------------

/-- The component, its relay task in flight, and the lock client that only relays use. -/
structure RelayLine where
  station : Station
  task : Option RelayTask := none
  radio : LockRadio := {}

/-- A step of the component, or the relay task with the radio it meets. -/
inductive RelayLineOp where
  | station (op : StationOp)
  | relay (env : RadioEnv)

/-- What is seen of a step: where the component stood, or what a relay did on the radio. -/
inductive RelayLineStep where
  | idle
  | component (before : Station) (op : StationOp)
  | relayed (task : RelayTask) (events : List RadioEvent)

/-- `send_plaintext` with what the task was started with. -/
def RelayTask.send (keystream : Keystream) (gcm : AesGcm) (nimble : NimbleAddresses)
    (env : RadioEnv) (task : RelayTask) (radio : LockRadio)
    : LockRadio :=
  (ClientCall.send task.config task.plaintext).perform keystream gcm nimble env
    { radio with events := [] }

namespace RelayLine

/-- One step. The relay frees itself behind its own call only, and a restart takes the task and
the client's cache with it.
-/
def perform (keystream : Keystream) (gcm : AesGcm) (nimble : NimbleAddresses)
    (line : RelayLine)
    : RelayLineOp → RelayLine × RelayLineStep
  | .station .relayDone => (line, .idle)
  | .station (.reboot env) =>
      ({ station := (line.station.perform keystream (.reboot env)).1 },
        .component line.station (.reboot env))
  | .station op =>
      let (station, step) := line.station.perform keystream op
      ({ line with station, task := step.tasks.head?.or line.task },
        .component line.station op)
  | .relay env =>
      match line.task with
      | none => (line, .idle)
      | some task =>
          let radio := task.send keystream gcm nimble env line.radio
          ({ station := (line.station.perform keystream .relayDone).1, radio },
            .relayed task radio.events)

end RelayLine

def relayLines (keystream : Keystream) (gcm : AesGcm) (nimble : NimbleAddresses)
    : Machine RelayLine RelayLineOp RelayLineStep where
  step := RelayLine.perform keystream gcm nimble

/-- A command that was handed to the relay: the step that accepted it. -/
structure HandedCommand where
  before : Station
  op : StationOp
  task : RelayTask

/-- The command on its way, by what is seen. -/
def HandedCommand.next (keystream : Keystream) (waiting : Option HandedCommand)
    : RelayLineStep → Option HandedCommand
  | .idle => waiting
  | .component before op =>
      match op with
      | .reboot _ => none
      | _ =>
          match before.relayOf keystream op with
          | some task => some ⟨before, op, task⟩
          | none => waiting
  | .relayed .. => none

def HandedCommand.waiting (keystream : Keystream) (seen : List RelayLineStep)
    : Option HandedCommand :=
  seen.foldl (next keystream) none

/-- A command was accepted by the session while a lock was linked, and its relay talks to that
lock: to its address alone, in the session's slot, under the key that was shared, and with
nothing but an IV request and the plaintext of the accepted frame.
-/
structure HandedCommand.Delivered (keystream : Keystream) (gcm : AesGcm)
    (handed : HandedCommand) (events : List RadioEvent)
    : Prop where
  accepted
    : ∃ frame env,
        handed.op = .loop (.drained (.rx frame) env)
        ∧ let outcome :=
            handed.before.device.bridge.session.processFrame keystream
              (handed.before.device.rxEnv env).toFrameEnv frame
          outcome.action = .command ∧ handed.task.plaintext = outcome.session.plaintextBytes
  linked : handed.before.device.bridge.linkedLockInfo.valid ≠ 0
  slot : handed.task.config.keyId = handed.before.device.bridge.session.slotId
  key : handed.task.config.key = handed.before.device.bridge.sharedKey
  goes
    : ∀ event ∈ events,
        event.GoesTo (SessionFrame keystream gcm handed.task.config [handed.task.plaintext])
          handed.before.device.bridge.linkedLockInfo.mac
  twice : (attempts events).length ≤ 2

/-- No command takes the place of one that is on its way, and what is relayed is the command on
its way.
-/
def RelayLineStep.Aimed (keystream : Keystream) (gcm : AesGcm) (seen : List RelayLineStep)
    : RelayLineStep → Prop
  | .idle => True
  | .component before op =>
      (before.relayOf keystream op).isSome = true → HandedCommand.waiting keystream seen = none
  | .relayed task events =>
      ∃ handed,
        HandedCommand.waiting keystream seen = some handed
        ∧ handed.task = task
        ∧ handed.Delivered keystream gcm events

-----------------------------------------------------------------------------------------
-- One step
-----------------------------------------------------------------------------------------

/-- A relay is handed the plaintext of the frame that was accepted. -/
theorem Station.relayOf_accepted {keystream : Keystream} {station : Station} {op : StationOp}
    {task : RelayTask} (relayed : station.relayOf keystream op = some task)
    : ∃ frame env,
        op = .loop (.drained (.rx frame) env)
        ∧ let outcome :=
            station.device.bridge.session.processFrame keystream
              (station.device.rxEnv env).toFrameEnv frame
          outcome.action = .command ∧ task.plaintext = outcome.session.plaintextBytes := by
  unfold Station.relayOf at relayed
  split at relayed
  · rename_i frame env
    split at relayed
    · cases relayed
    unfold SwitchbotKeypadBridge.relayOf at relayed
    dsimp only at relayed
    split at relayed
    · rename_i starts
      obtain rfl := Option.some.inj relayed
      simp only [Bool.and_eq_true, decide_eq_true_eq] at starts
      exact ⟨frame, env, rfl, starts.1.1, rfl⟩
    · cases relayed
  · cases relayed

@[simp] theorem HandedCommand.waiting_snoc (keystream : Keystream) (seen : List RelayLineStep)
    (step : RelayLineStep)
    : waiting keystream (seen ++ [step]) = next keystream (waiting keystream seen) step :=
  List.foldl_append ..

/-- A step that is no restart may hand over a command. -/
theorem HandedCommand.next_component (keystream : Keystream) (before : Station)
    {op : StationOp} (running : ∀ env, op ≠ .reboot env) (waiting : Option HandedCommand)
    : next keystream waiting (.component before op)
      = ((before.relayOf keystream op).map fun task => ⟨before, op, task⟩).or waiting := by
  cases op with
  | reboot env => exact absurd rfl (running env)
  | _ =>
      simp only [next]
      split <;> rename_i relays <;> simp [relays]

/-- The client's call for a command that was handed over. -/
theorem HandedCommand.delivered {keystream : Keystream} {gcm : AesGcm}
    {nimble : NimbleAddresses} (handed : HandedCommand) (env : RadioEnv)
    (documented : nimble.Documented) (links : handed.before.device.LinkInvariant)
    (relays : handed.before.relayOf keystream handed.op = some handed.task) {radio : LockRadio}
    (resting : radio.Resting)
    : let after := handed.task.send keystream gcm nimble env radio
      after.Resting ∧ handed.Delivered keystream gcm after.events := by
  obtain ⟨_, linked, config⟩ := Station.relayOf_config links relays
  have blank : ({ radio with events := [] } : LockRadio).Resting :=
    ⟨resting.cached, resting.closed⟩
  obtain ⟨added, called⟩ :=
    (ClientCall.send handed.task.config handed.task.plaintext).perform_called keystream gcm env
      documented blank
  have events : (handed.task.send keystream gcm nimble env radio).events = added :=
    called.appended
  have names : handed.task.config.Names handed.before.device.bridge.linkedLockInfo.mac := by
    rw [config]
    exact physicalLockConfig_names _ linked
  refine ⟨called.resting, ?_⟩
  rw [events]
  exact
    { accepted := Station.relayOf_accepted relays
      linked
      slot := by rw [config, SwitchbotKeypadBridge.physicalLockConfig, if_pos linked]
      key := by rw [config, SwitchbotKeypadBridge.physicalLockConfig, if_pos linked]
      goes := called.goes _ names
      twice := called.twice }

/-- The relay on the air, and what is seen of it. -/
structure RelayLine.Known (keystream : Keystream) (gcm : AesGcm) (seen : List RelayLineStep)
    (line : RelayLine)
    : Prop where
  links : line.station.device.LinkInvariant
  busy : line.task.isSome = true → line.station.device.bridge.lockRelayBusy = true
  task : line.task = (HandedCommand.waiting keystream seen).map HandedCommand.task
  resting : line.radio.Resting
  handed
    : ∀ handed,
        HandedCommand.waiting keystream seen = some handed
        → handed.before.device.LinkInvariant
          ∧ handed.before.relayOf keystream handed.op = some handed.task
  aimed : Along (RelayLineStep.Aimed keystream gcm) [] seen

namespace RelayLine

variable {keystream : Keystream} {gcm : AesGcm} {nimble : NimbleAddresses}
  {line : RelayLine} {seen : List RelayLineStep}

/-- A step of the component that is no restart, and that is not left to the relay. -/
theorem perform_component {op : StationOp} (kept : op ≠ .relayDone)
    (running : ∀ env, op ≠ .reboot env)
    : line.perform keystream gcm nimble (.station op)
      = ({ line with
            station := (line.station.perform keystream op).1
            task := (line.station.relayOf keystream op).or line.task },
          .component line.station op) := by
  have tasks := line.station.perform_tasks keystream op
  cases op with
  | relayDone => exact absurd rfl kept
  | reboot env => exact absurd rfl (running env)
  | _ =>
      simp only [perform, tasks]
      cases line.station.relayOf keystream _ <;> rfl

theorem Known.component (known : Known keystream gcm seen line) {op : StationOp}
    (kept : op ≠ .relayDone) (running : ∀ env, op ≠ .reboot env)
    : let after := line.perform keystream gcm nimble (.station op)
      Known keystream gcm (seen ++ [after.2]) after.1 := by
  intro after
  have performed : after = _ := perform_component kept running
  have busy := line.station.perform_lockRelayBusy keystream kept running
  have nothingWaits (starts : (line.station.relayOf keystream op).isSome = true)
      : HandedCommand.waiting keystream seen = none := by
    obtain ⟨task, relayed⟩ := Option.isSome_iff_exists.mp starts
    have free := Station.relayOf_free relayed
    cases waits : HandedCommand.waiting keystream seen with
    | none => rfl
    | some handed =>
        have inFlight := known.busy (by rw [known.task, waits]; rfl)
        rw [free] at inFlight
        cases inFlight
  have next := HandedCommand.next_component keystream line.station running
    (HandedCommand.waiting keystream seen)
  rw [performed]
  refine ⟨Station.perform_linkInvariant known.links keystream op, ?_, ?_, known.resting, ?_, ?_⟩
  · intro inFlight
    dsimp only at inFlight ⊢
    rw [busy]
    cases starts : line.station.relayOf keystream op with
    | some task => simp
    | none =>
        rw [starts, Option.none_or] at inFlight
        rw [known.busy inFlight, Bool.true_or]
  · dsimp only
    rw [HandedCommand.waiting_snoc, next]
    cases line.station.relayOf keystream op <;> simp [known.task]
  · intro handed waits
    rw [HandedCommand.waiting_snoc, next] at waits
    cases starts : line.station.relayOf keystream op with
    | some task =>
        rw [starts] at waits
        obtain rfl := Option.some.inj waits
        exact ⟨known.links, starts⟩
    | none =>
        rw [starts] at waits
        exact known.handed handed (by simpa using waits)
  · exact known.aimed.snoc nothingWaits

/-- A restart takes everything with it. -/
theorem Known.restarted (known : Known keystream gcm seen line) (env : BootEnv)
    : let after := line.perform keystream gcm nimble (.station (.reboot env))
      Known keystream gcm (seen ++ [after.2]) after.1 := by
  have links := Station.perform_linkInvariant known.links keystream (.reboot env)
  rw [perform]
  generalize (line.station.perform keystream (.reboot env)).1 = station at links
  exact
    { links
      busy := nofun
      task := by simp [HandedCommand.next]
      resting := LockRadio.resting_unused
      handed := by simp [HandedCommand.next]
      aimed := known.aimed.snoc nofun }

/-- The relay's call, on the command that it was started with. -/
theorem Known.relayed (known : Known keystream gcm seen line) (documented : nimble.Documented)
    (env : RadioEnv)
    : let after := line.perform keystream gcm nimble (.relay env)
      Known keystream gcm (seen ++ [after.2]) after.1 := by
  cases inFlight : line.task with
  | none =>
      simp only [perform, inFlight]
      exact
        { known with
          task := by simpa [HandedCommand.next] using known.task
          handed := by simpa [HandedCommand.next] using known.handed
          aimed := known.aimed.snoc trivial }
  | some task =>
      obtain ⟨handed, waits, rfl⟩ :=
        Option.map_eq_some_iff.mp (known.task.symm.trans inFlight)
      obtain ⟨links, relays⟩ := known.handed handed waits
      obtain ⟨resting, delivered⟩ := handed.delivered env documented links relays known.resting
      simp only [perform, inFlight]
      exact
        { links := Station.perform_linkInvariant known.links keystream .relayDone
          busy := nofun
          task := by simp [HandedCommand.next]
          resting
          handed := by simp [HandedCommand.next]
          aimed := known.aimed.snoc ⟨handed, waits, rfl, delivered⟩ }

theorem Known.perform (known : Known keystream gcm seen line) (documented : nimble.Documented)
    (op : RelayLineOp)
    : let after := line.perform keystream gcm nimble op
      Known keystream gcm (seen ++ [after.2]) after.1 := by
  cases op with
  | relay env => exact known.relayed documented env
  | station op =>
      by_cases freed : op = .relayDone
      · subst freed
        exact ⟨known.links, known.busy,
          by simpa [RelayLine.perform, HandedCommand.next] using known.task, known.resting,
          by simpa [RelayLine.perform, HandedCommand.next] using known.handed,
          known.aimed.snoc trivial⟩
      by_cases restarts : ∃ env, op = .reboot env
      · obtain ⟨env, rfl⟩ := restarts
        exact known.restarted env
      · exact known.component freed fun env same => restarts ⟨env, same⟩

end RelayLine

/-- Whatever the component does between the moment a keypad's command is accepted and the call
of the relay task, whatever the client did before and whatever it has cached: no accepted
command takes the place of one that is on its way, every relay belongs to the command on its
way, and it goes to the lock that was linked when that command was accepted, in the session's
slot and under the shared key of that moment, with the plaintext that the keypad sent.
-/
theorem commands_to_linked_lock (keystream : Keystream) (gcm : AesGcm)
    (nimble : NimbleAddresses) (documented : nimble.Documented) (config : DeviceConfig)
    (preferences : Preferences) (boot : BootEnv) (ops : List RelayLineOp)
    : Along (RelayLineStep.Aimed keystream gcm) []
        ((relayLines keystream gcm nimble).history
          { station := .booted config preferences boot } ops) := by
  have booted
      : RelayLine.Known keystream gcm [] { station := .booted config preferences boot } :=
    { links := Device.setup_linkInvariant config preferences boot
      busy := nofun
      task := rfl
      resting := LockRadio.resting_unused
      handed := by simp [HandedCommand.waiting]
      aimed := trivial }
  exact
    ((relayLines keystream gcm nimble).history_invariant (RelayLine.Known keystream gcm)
      booted (fun _ _ op known => known.perform documented op) ops).aimed

/-- What the relays did on the radio. -/
def onAir (seen : List RelayLineStep) : List RadioEvent :=
  seen.flatMap fun
    | .relayed _ events => events
    | _ => []

/-- The radio near the lock that `linkedOps` links; it opens an AES-CTR session. -/
def nearbyEnv : RadioEnv where
  scan _ := []
  clientCreated _ := true
  connects _ target := target = ⟨#v[0xB1, 0xB2, 0xB3, 0xB4, 0xB5, 0xB6], 0⟩
  serviceFound _ := true
  semaphoreCreated _ := true
  subscribes _ := true
  writes _ := true
  notifies _ := some ([0x01, 0x00, 0x00, 0x00] ++ List.replicate 16 0x22)
  psa _ := { keys := fun _ => none }

/-- A lock command is accepted, the links are reset, and then the relay task runs. -/
def forgottenMeanwhile : List RelayLineOp :=
  (linkedOps ++ [askedIn sharedSlotVision, lockedIn sharedSlotVision,
    .reset grantedReset]).map .station ++ [.relay nearbyEnv]

/-- The command still goes to the lock that was linked when it was accepted. -/
theorem commands_to_linked_lock_forgotten
    : let gcm : AesGcm := ⟨fun _ _ _ => none, fun _ _ _ => none⟩
      let lock : BleAddress := ⟨#v[0xB1, 0xB2, 0xB3, 0xB4, 0xB5, 0xB6], 0⟩
      let seen :=
        (relayLines clearStream gcm printedAddresses).history
          { station := .booted {} {} firstBoot } forgottenMeanwhile
      onAir seen
        = [.progress .connect, .attempted lock, .progress .discover,
            .wrote (some lock) [0x57, 0x00, 0x00, 0x00, 0x0F, 0x21, 0x03, sharedSlotVision],
            .wrote (some lock) ([0x57, sharedSlotVision, 0x22, 0x22] ++ frameLock)]
      ∧ Along (RelayLineStep.Aimed clearStream gcm) [] seen :=
  ⟨by decide +kernel,
    commands_to_linked_lock clearStream ⟨fun _ _ _ => none, fun _ _ _ => none⟩ printedAddresses
      printedAddresses_documented {} {} firstBoot forgottenMeanwhile⟩

end KeypadBridge
