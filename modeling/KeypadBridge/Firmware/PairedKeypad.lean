import KeypadBridge.Bridge.KeypadPresses
import KeypadBridge.Client.Interoperation
import KeypadBridge.Firmware.KeyAgreement
import KeypadBridge.Wizard.SharedSecret

/-! From the wizard to Home Assistant. A keypad that a pairing job gave its slot and its key speaks
to the bridge as the client of a lock does, and the bridge takes every command of it and
announces every press.
-/

namespace KeypadBridge
open KeypadBridge.Foundation
open PhysicalLockClient (ivRequestOf parseSessionResponse receive_ivRequestOf)

-----------------------------------------------------------------------------------------
-- What is said and heard
-----------------------------------------------------------------------------------------

/-- None of the four cipher functions fails. -/
structure Psa.Ciphers (psa : Psa) : Prop where
  setup : psa.setupStatus = psaSuccess
  setIv : psa.setIvStatus = psaSuccess
  update : psa.updateStatus = psaSuccess
  finish : psa.finishStatus = psaSuccess

/-- How a device with a key in a slot talks to a lock. -/
def SlotReceiver.config (held : SlotReceiver) : PhysicalLockClient.Config where
  keyId := held.slot
  key := held.key

/-- `loop()` drains a frame. -/
def heardFrame (frame : Bytes) (env : RxEnv) : StationOp := .loop (.drained (.rx frame) env)

/-- An operation of the component that handles no frame and leaves the key alone. -/
def StationOp.isAside : StationOp → Bool
  | .reset _ | .reboot _ => false
  | op => !op.drains

/-- A payload, what the component does until `loop()` drains its frame, and what that step finds
outside.
-/
structure SaidPayload where
  payload : Bytes
  meanwhile : List StationOp
  env : RxEnv

/-- The frame of a payload under the IV of a session. -/
def SaidPayload.frame (keystream : Keystream) (config : PhysicalLockClient.Config) (iv : Iv)
    (said : SaidPayload)
    : Bytes :=
  wireFrame config.keyId iv (ctrXor keystream config.key iv said.payload)

/-- What the component does from one payload to the next. -/
def SaidPayload.ops (keystream : Keystream) (config : PhysicalLockClient.Config) (iv : Iv)
    (said : SaidPayload)
    : List StationOp :=
  said.meanwhile ++ [heardFrame (said.frame keystream config iv) said.env]

/-- A payload that a frame carries, while the bridge's cipher works. -/
structure SaidPayload.Sound (said : SaidPayload) : Prop where
  nonempty : said.payload ≠ []
  fits : said.payload.length ≤ maxPayload
  ciphers : said.env.psa.Ciphers
  aside : ∀ op ∈ said.meanwhile, op.isAside = true

def SaidPayload.press (said : SaidPayload) : Option KeypadPress :=
  KeypadPress.ofCommand (decodeLockCommand said.payload)

/-- The plaintext that a step accepts. -/
def StationStep.acceptedPlaintext (step : StationStep) : Option Bytes :=
  step.outcome.bind fun outcome =>
    if outcome.action = .command then some outcome.session.plaintextBytes else none

/-- Everything that was said is accepted, in order, and every press among it is announced. -/
structure AllHeard (entity : Bool) (said : List SaidPayload) (steps : List StationStep)
    : Prop where
  accepted : steps.filterMap StationStep.acceptedPlaintext = said.map SaidPayload.payload
  announced
    : steps.flatMap StationStep.announcements
      = (said.filterMap SaidPayload.press).flatMap (KeypadPress.announcement entity)

/-- The bridge is in the middle of what a device says. -/
structure Station.Listens (keystream : Keystream) (config : PhysicalLockClient.Config) (iv : Iv)
    (entity : Bool) (sent : List Bytes) (station : Station)
    : Prop where
  working : station.device.failed = false
  key : station.device.psaKeys station.device.bridge.session.aesKey = some config.key
  present : station.device.bridge.hasKeypadEvent = entity
  serves
    : station.device.bridge.session.Serves config.keyId iv
        (LockSession.logged keystream config.key iv sent)

namespace Station

variable {keystream : Keystream} {station : Station} {config : PhysicalLockClient.Config}
  {iv : Iv} {entity : Bool} {sent : List Bytes}

/-- Listening, told of the session that the component has. -/
theorem Listens.ofSession {session : LockSession}
    (same : station.device.bridge.session = session)
    (working : station.device.failed = false)
    (key : station.device.psaKeys session.aesKey = some config.key)
    (present : station.device.bridge.hasKeypadEvent = entity)
    (serves : session.Serves config.keyId iv (LockSession.logged keystream config.key iv sent))
    : station.Listens keystream config iv entity sent := by
  subst same
  exact ⟨working, key, present, serves⟩

/-- A drained frame, in a component that works. -/
theorem perform_heardFrame (working : station.device.failed = false) (frame : Bytes)
    (env : RxEnv)
    : let found := station.device.rxEnv env
      let handled := station.device.bridge.onRxFrame keystream found frame
      station.perform keystream (heardFrame frame env)
        = ({ station with device := { station.device with bridge := handled.1 } },
            { outcome := some (station.device.bridge.session.processFrame keystream
                found.toFrameEnv frame)
              effects := handled.2.map .bridge }) := by
  intro found handled
  have loops : station.device.loops (.drained (.rx frame) env) = true := by
    rw [loops_drained, working]
    rfl
  simp only [heardFrame, perform]
  rw [if_pos loops]
  rfl

/-- An operation aside disturbs nobody who is listening, and shows nothing of a conversation. -/
theorem Listens.aside (listens : station.Listens keystream config iv entity sent)
    {op : StationOp} (aside : op.isAside = true)
    : let after := station.perform keystream op
      after.2.acceptedPlaintext = none
      ∧ after.2.announcements = []
      ∧ after.1.Listens keystream config iv entity sent := by
  intro after
  have undrained : op.drains = false := by
    cases op with
    | reset | reboot => cases aside
    | _ => simpa [StationOp.isAside] using aside
  refine ⟨?_, ?_, ?_⟩
  · have outcome : after.2.outcome = none := station.perform_outcome_undrained keystream undrained
    simp [StationStep.acceptedPlaintext, outcome]
  · exact List.filter_eq_nil_iff.mpr fun effect member =>
      Bool.eq_false_iff.mp (station.perform_unannounced keystream undrained effect member)
  · obtain ⟨working, key, present, serves⟩ := listens
    cases op with
    | loop op =>
        simp only [after, perform]
        split
        · have received := station.device.performLoop_receiveState keystream undrained
          have keys := congrArg KeyCopies.psaKeys
            (station.device.performLoop_keepsKey keystream serves.wf op).copies
          have entity := (station.device.performLoop_hushed keystream undrained).entity
          exact .ofSession (congrArg ReceiveState.session received)
            ((congrArg ReceiveState.failed received).trans working)
            ((congrFun keys _).trans key) (entity.trans present) serves
        · exact ⟨working, key, present, serves⟩
    | wizard | relayDone => exact ⟨working, key, present, serves⟩
    | advert adv =>
        simp only [after, perform]
        split <;> exact ⟨working, key, present, serves⟩
    | scanCallback =>
        obtain ⟨_, _, parked⟩ := station.device.stepScanCallback_parks station.scanCallback
        simp only [after, perform, parked]
        exact ⟨working, key, present, serves⟩
    | reset | reboot => cases aside

/-- Nor do several of them. -/
theorem Listens.meanwhile (listens : station.Listens keystream config iv entity sent)
    {ops : List StationOp} (aside : ∀ op ∈ ops, op.isAside = true)
    : ((stationMachine keystream).history station ops).filterMap StationStep.acceptedPlaintext
        = []
      ∧ ((stationMachine keystream).history station ops).flatMap StationStep.announcements = []
      ∧ ((stationMachine keystream).run station ops).Listens keystream config iv entity sent := by
  induction ops generalizing station with
  | nil => exact ⟨rfl, rfl, listens⟩
  | cons op rest ih =>
      obtain ⟨first, later⟩ := List.forall_mem_cons.mp aside
      obtain ⟨unaccepted, unannounced, still⟩ := listens.aside first
      obtain ⟨noneLater, nothingLater, stillLater⟩ := ih still later
      refine ⟨?_, ?_, stillLater⟩
      · exact (List.filterMap_cons_none unaccepted).trans noneLater
      · exact (congrArg₂ (· ++ ·) unannounced nothingLater).trans (List.nil_append _)

/-- One payload is accepted and announced, and the bridge goes on listening. -/
theorem Listens.said (listens : station.Listens keystream config iv entity sent)
    (nonzero : config.keyId ≠ 0) {said : SaidPayload} (sound : said.Sound)
    (fresh : isActionPayload said.payload = true → said.payload ∉ sent)
    : let after := station.perform keystream (heardFrame (said.frame keystream config iv) said.env)
      after.2.acceptedPlaintext = some said.payload
      ∧ after.2.announcements
        = said.press.toList.flatMap (KeypadPress.announcement entity)
      ∧ after.1.Listens keystream config iv entity (sent ++ [said.payload]) := by
  obtain ⟨working, key, present, serves⟩ := listens
  have works
      : (station.device.rxEnv said.env).psa.Works station.device.bridge.session.aesKey
          config.key :=
    ⟨key, sound.ciphers.setup, sound.ciphers.setIv, sound.ciphers.update, sound.ciphers.finish⟩
  have served
      : station.device.bridge.session.ServesCommand keystream config.keyId iv config.key sent
          said.payload
          (station.device.bridge.session.processFrame keystream
            (station.device.rxEnv said.env).toFrameEnv (said.frame keystream config iv)) :=
    serves.command _ nonzero works sound.nonempty sound.fits fresh
  have announces := station.perform_announces keystream serves.wf
    (heardFrame (said.frame keystream config iv) said.env)
  intro after
  have performed : after = _ :=
    perform_heardFrame working (said.frame keystream config iv) said.env
  have session := (SwitchbotKeypadBridge.onRxFrame_spec keystream
    (station.device.rxEnv said.env) station.device.bridge (said.frame keystream config iv)).1
  have links := station.device.bridge.onRxFrame_sameLinks keystream
    (station.device.rxEnv said.env) (said.frame keystream config iv)
  have press : after.2.press = said.press := by
    rw [performed]
    simp [StationStep.press, LockSession.FrameOutcome.press, served.action, served.plaintext,
      SaidPayload.press]
  refine ⟨?_, ?_, ?_⟩
  · rw [performed]
    simp [StationStep.acceptedPlaintext, served.action, served.plaintext]
  · rw [← press, ← present]
    exact announces.1
  · rw [performed]
    exact .ofSession session working (served.aesKey ▸ key)
      (links.hasKeypadEvent.trans present) served.serves

/-- A whole sequence of payloads, by induction over it. -/
theorem Listens.all (listens : station.Listens keystream config iv entity sent)
    (nonzero : config.keyId ≠ 0) {said : List SaidPayload} (sound : ∀ one ∈ said, one.Sound)
    (distinct : ((sent ++ said.map SaidPayload.payload).filter isActionPayload).Nodup)
    : AllHeard entity said
        ((stationMachine keystream).history station
          (said.flatMap (SaidPayload.ops keystream config iv))) := by
  induction said generalizing station sent with
  | nil => exact ⟨rfl, rfl⟩
  | cons first rest ih =>
      obtain ⟨soundFirst, soundRest⟩ := List.forall_mem_cons.mp sound
      have fresh (action : isActionPayload first.payload = true) : first.payload ∉ sent := by
        intro before
        rw [List.map_cons, List.filter_append, List.filter_cons_of_pos action] at distinct
        exact (List.nodup_append.mp distinct).2.2 first.payload
          (List.mem_filter.mpr ⟨before, action⟩) first.payload (.head _) rfl
      obtain ⟨unaccepted, unannounced, still⟩ := listens.meanwhile soundFirst.aside
      obtain ⟨accepted, announced, next⟩ := still.said nonzero soundFirst fresh
      have later := ih next soundRest (by simpa using distinct)
      have split
          : (stationMachine keystream).history station
              ((first :: rest).flatMap (SaidPayload.ops keystream config iv))
            = (stationMachine keystream).history station first.meanwhile
              ++ (((stationMachine keystream).run station first.meanwhile).perform keystream
                  (heardFrame (first.frame keystream config iv) first.env)).2
                :: (stationMachine keystream).history
                  (((stationMachine keystream).run station first.meanwhile).perform keystream
                    (heardFrame (first.frame keystream config iv) first.env)).1
                  (rest.flatMap (SaidPayload.ops keystream config iv)) := by
        rw [List.flatMap_cons, SaidPayload.ops, List.append_assoc, Machine.history_append]
        rfl
      rw [split]
      constructor
      · rw [List.filterMap_append, unaccepted, List.nil_append,
          List.filterMap_cons_some accepted, later.accepted, List.map_cons]
      · rw [List.flatMap_append, unannounced, List.nil_append, List.flatMap_cons, announced,
          later.announced]
        cases press : first.press <;> simp [press]

end Station

-----------------------------------------------------------------------------------------
-- From the pairing job to Home Assistant
-----------------------------------------------------------------------------------------

end KeypadBridge
