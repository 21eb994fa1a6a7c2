import KeypadBridge.Firmware.LinkingState

/-! What the tasks can do to the gates of the wizard: one constructor for each way in which a
step of a handler, or of `loop()`, can end.
-/

namespace KeypadBridge
open KeypadBridge.Foundation
open KeypadBridge.Foundation.JobBoard

/-- The flags that gate the requests to the wizard, and what is confirmed but not applied. -/
structure GateState where
  server : Bool
  keypadPaired : Bool
  lockLinked : Bool
  keypadFamily : KeypadFamily
  pendingPairing : Option PendingPairing
  pendingLock : Option PendingLock

def LinkingState.gates (state : LinkingState) : GateState where
  server := state.pairingUi.server
  keypadPaired := state.pairingUi.keypadPaired
  lockLinked := state.pairingUi.lockLinked
  keypadFamily := state.pairingUi.keypadFamily
  pendingPairing := state.pendingPairing
  pendingLock := state.pendingLock

def Firmware.gates (firmware : Firmware) : GateState := firmware.device.linkingState.gates

-----------------------------------------------------------------------------------------
-- Handlers
-----------------------------------------------------------------------------------------

/-- The step of a handler: where it stood, what it showed and where it stands then. -/
inductive HandlerMove (ui : PairingUi) : HttpTask → List WizardEvent → HttpTask → Prop
  | resting : HandlerMove ui .resting [] .resting
  | refused {http : HttpTask} {reply : HttpReply}
    : HandlerMove ui http [.replied reply] .resting
  | pairAllowed {mac : Bytes} {family : KeypadFamily} (unpaired : ui.keypadPaired = false)
    : HandlerMove ui (.pairAsked mac family) [.pairAllowed] (.pairAllowed mac family)
  | pairReady {mac : Bytes} {family : KeypadFamily} {request : KeypadPairer.Request}
    {name : Bytes}
    : HandlerMove ui (.pairAllowed mac family) [] (.pairReady request name)
  | pairStarted {id : JobId} {request : KeypadPairer.Request} {name : Bytes}
    (free : ui.pairer.status.state ≠ .running)
    : HandlerMove ui (.pairReady request name) [.pairing (.started id name request)]
        (.pairOccupied id request name)
  | pairLaunched {id : JobId} {request : KeypadPairer.Request} {name : Bytes}
    : HandlerMove ui (.pairOccupied id request name) [.pairing (.launched id name request)]
        (.pairLaunched id request.family name)
  | pairAbandoned {id : JobId} {request : KeypadPairer.Request} {name : Bytes}
    {reply : HttpReply}
    : HandlerMove ui (.pairOccupied id request name)
        [.pairing (.abandoned id), .replied reply] .resting
  | pairArmed {id : JobId} {family : KeypadFamily} {name : Bytes} {reply : HttpReply}
    : HandlerMove ui (.pairLaunched id family name) [.pairing (.armed id), .replied reply]
        .resting
  | linkGated {mac : Bytes} (paired : ui.keypadPaired = true)
    : HandlerMove ui (.linkAsked mac) [] (.linkGated mac)
  | linkAllowed {mac : Bytes} (unlinked : ui.lockLinked = false)
    : HandlerMove ui (.linkGated mac) [.linkAllowed] (.linkAllowed mac)
  | linkRequested {mac : Bytes} {request : LockLinker.Request}
    (slot : request.sharedSlotId = sharedSlotForFamily ui.keypadFamily)
    : HandlerMove ui (.linkAllowed mac) [.linkRequested request] (.linkReady request)
  | linkStarted {id : JobId} {request : LockLinker.Request}
    (free : ui.linker.status.state ≠ .running)
    : HandlerMove ui (.linkReady request) [.link (.started id () request)]
        (.linkOccupied id request)
  | linkLaunched {id : JobId} {request : LockLinker.Request}
    : HandlerMove ui (.linkOccupied id request) [.link (.launched id () request)]
        (.linkLaunched id)
  | linkAbandoned {id : JobId} {request : LockLinker.Request} {reply : HttpReply}
    : HandlerMove ui (.linkOccupied id request) [.link (.abandoned id), .replied reply]
        .resting
  | linkArmed {id : JobId} {reply : HttpReply}
    : HandlerMove ui (.linkLaunched id) [.link (.armed id), .replied reply] .resting

theorem PairingUi.pairGate_eq_none {ui : PairingUi} {cloud : CloudAnswers} {mac : Bytes}
    (passed : ui.pairGate cloud mac = none)
    : ui.keypadPaired = false := by
  unfold pairGate at passed
  split at passed
  · cases passed
  split at passed
  · cases passed
  split at passed
  · cases passed
  · rename_i gate
    simpa using gate

theorem PairingUi.linkGate_eq_none {ui : PairingUi} {cloud : CloudAnswers} {mac : Bytes}
    (passed : ui.linkGate cloud mac = none)
    : ui.keypadPaired = true := by
  unfold linkGate at passed
  split at passed
  · cases passed
  split at passed
  · cases passed
  split at passed
  · cases passed
  · rename_i gate
    simpa using gate

theorem PairingUi.lockGate_eq_none {ui : PairingUi} (passed : ui.lockGate = none)
    : ui.lockLinked = false := by
  unfold lockGate at passed
  split at passed
  · cases passed
  · rename_i gate
    simpa using gate

/-- A request carries the slot of the family that the wizard held when it was built. -/
theorem PairingUi.linkRequest_slot {ui : PairingUi} {cloud : CloudAnswers} {mac : Bytes}
    {request : LockLinker.Request} (built : ui.linkRequest cloud mac = .ok request)
    : request.sharedSlotId = sharedSlotForFamily ui.keypadFamily := by
  unfold linkRequest at built
  split at built
  · cases built
  split at built
  · cases built
  dsimp only at built
  split at built
  · cases built
  split at built
  · cases built
  · obtain rfl := Except.ok.inj built
    rfl

namespace Firmware

/-- Every step of a handler is one of the moves, and leaves the gates alone. -/
theorem performHandler_moves (firmware : Firmware) (env : HttpEnv)
    : HandlerMove firmware.device.pairingUi firmware.http (firmware.performHandler env).2
        (firmware.performHandler env).1.http
      ∧ (firmware.performHandler env).1.gates = firmware.gates
      ∧ (firmware.performHandler env).1.main = firmware.main := by
  obtain ⟨device, main, http⟩ := firmware
  cases http with
  | resting => exact ⟨.resting, rfl, rfl⟩
  | pairAsked mac family =>
      simp only [performHandler]
      split
      · exact ⟨.refused, rfl, rfl⟩
      · rename_i passed
        exact ⟨.pairAllowed (PairingUi.pairGate_eq_none passed), rfl, rfl⟩
  | pairAllowed mac family =>
      simp only [performHandler]
      split
      · exact ⟨.refused, rfl, rfl⟩
      · exact ⟨.pairReady, rfl, rfl⟩
  | pairReady request name =>
      simp only [performHandler]
      split
      · exact ⟨.refused, rfl, rfl⟩
      · rename_i occupied
        obtain ⟨free, rfl⟩ := PairingUi.occupyPairer_eq_some occupied
        exact ⟨.pairStarted free, rfl, rfl⟩
  | pairOccupied id request name =>
      simp only [performHandler, PairingUi.launchPairer]
      split
      · exact ⟨.pairLaunched, rfl, rfl⟩
      · exact ⟨.pairAbandoned, rfl, rfl⟩
  | pairLaunched id family name => exact ⟨.pairArmed, rfl, rfl⟩
  | linkAsked mac =>
      simp only [performHandler]
      split
      · exact ⟨.refused, rfl, rfl⟩
      · rename_i passed
        exact ⟨.linkGated (PairingUi.linkGate_eq_none passed), rfl, rfl⟩
  | linkGated mac =>
      simp only [performHandler]
      split
      · exact ⟨.refused, rfl, rfl⟩
      · rename_i passed
        exact ⟨.linkAllowed (PairingUi.lockGate_eq_none passed), rfl, rfl⟩
  | linkAllowed mac =>
      simp only [performHandler]
      split
      · exact ⟨.refused, rfl, rfl⟩
      · rename_i built
        exact ⟨.linkRequested (PairingUi.linkRequest_slot built), rfl, rfl⟩
  | linkReady request =>
      simp only [performHandler]
      split
      · exact ⟨.refused, rfl, rfl⟩
      · rename_i occupied
        obtain ⟨free, rfl⟩ := PairingUi.occupyLinker_eq_some occupied
        exact ⟨.linkStarted free, rfl, rfl⟩
  | linkOccupied id request =>
      simp only [performHandler, PairingUi.launchLinker]
      split
      · exact ⟨.linkLaunched, rfl, rfl⟩
      · exact ⟨.linkAbandoned, rfl, rfl⟩
  | linkLaunched id => exact ⟨.linkArmed, rfl, rfl⟩

end Firmware

-----------------------------------------------------------------------------------------
-- The main task
-----------------------------------------------------------------------------------------

namespace MainTask

/-- Places of the main task at which a confirmed pairing can be parked. -/
def appliesPairing : MainTask → Bool
  | .linkState _ | .linkStatus _ | .linkConfirm .. | .linkNotify _ | .applyPairing => true
  | _ => false

/-- Places of the main task at which a confirmed lock link can be parked. -/
def appliesLock : MainTask → Bool
  | .applyPairing | .storePaired _ | .storeFamily _ | .applyLockLink => true
  | _ => false

/-- The family of the pairing that the main task has in hand, be it before it is parked or after
it was taken.
-/
def familyInHand : MainTask → Option KeypadFamily
  | .pairNotify _ payload _ => some payload.family
  | .storePaired pending | .storeFamily pending => some pending.family
  | _ => none

/-- The main task has a lock link in hand. -/
def hasLockInHand : MainTask → Bool
  | .linkNotify _ | .storeLinked _ => true
  | _ => false

/-- Neither of both is in hand. -/
structure EmptyHanded (main : MainTask) : Prop where
  family : main.familyInHand = none
  lock : main.hasLockInHand = false

@[simp] theorem appliesPairing_pollLink (link : Option JobId)
    : (pollLink link).appliesPairing = true := by
  cases link <;> rfl

@[simp] theorem emptyHanded_pollLink (link : Option JobId) : (pollLink link).EmptyHanded := by
  cases link <;> exact ⟨rfl, rfl⟩

end MainTask

/-- The family of a confirmed pairing that the wizard was not given yet. -/
def Firmware.unstoredFamily (firmware : Firmware) : Option KeypadFamily :=
  firmware.main.familyInHand.or (firmware.gates.pendingPairing.map PendingPairing.family)

/-- A confirmed lock link has yet to be stored. -/
def Firmware.hasUnstoredLock (firmware : Firmware) : Bool :=
  firmware.main.hasLockInHand || firmware.gates.pendingLock.isSome

/-- A label of the observer that reports no job. -/
def isUnreported {Id Name Request Result : Type} : Label Id Name Request Result → Bool
  | .snapshot | .looked | .copied | .passed | .checked => true
  | _ => false

/-- An event at which `loop()` only looks at the jobs. -/
def WizardEvent.isLook : WizardEvent → Bool
  | .pairing label => isUnreported label
  | .link label => isUnreported label
  | _ => false

/-- The step of `loop()`: where it stood and what it found, what it showed, and where it
stands and what it leaves.
-/
inductive MainMove (before : GateState) (http : HttpTask)
    : MainTask → List WizardEvent → MainTask → GateState → Prop
  | look {main next : MainTask} {events : List WizardEvent}
    (looks : ∀ event ∈ events, event.isLook = true) (empty : main.EmptyHanded)
    (emptyNext : next.EmptyHanded)
    (pairing : main.appliesPairing = false ∨ next.appliesPairing = true)
    (lock : main.appliesLock = false ∨ next.appliesLock = true)
    : MainMove before http main events next before
  | pairingConfirmed {id : JobId} {name : Bytes} {payload : KeypadPairer.Payload}
    {link : Option JobId}
    : MainMove before http (.pairConfirm id name payload link)
        [.pairing (.fired id name payload)] (.pairNotify name payload link)
        { before with keypadPaired := true }
  | pairingNotified {name : Bytes} {payload : KeypadPairer.Payload} {link : Option JobId}
    : MainMove before http (.pairNotify name payload link) [] (.pollLink link)
        { before with pendingPairing := some ⟨name, payload.keypadMac, payload.family⟩ }
  | lockConfirmed {id : JobId} {payload : LockLinker.Payload}
    : MainMove before http (.linkConfirm id payload) [.link (.fired id () payload)]
        (.linkNotify payload) { before with lockLinked := true }
  | lockNotified {payload : LockLinker.Payload}
    : MainMove before http (.linkNotify payload) [] .applyPairing
        { before with
          pendingLock := some ⟨payload.name, payload.mac, payload.model, payload.slotId⟩ }
  | pairingTaken {pending : PendingPairing} (waiting : before.pendingPairing = some pending)
    : MainMove before http .applyPairing [] (.storePaired pending)
        { before with pendingPairing := none }
  | pairingIdle (waiting : before.pendingPairing = none)
    : MainMove before http .applyPairing [] .applyLockLink before
  | pairedStored {pending : PendingPairing}
    : MainMove before http (.storePaired pending) [] (.storeFamily pending)
        { before with keypadPaired := true }
  | familyStored {pending : PendingPairing}
    : MainMove before http (.storeFamily pending) [.milestone (.pairingApplied pending)]
        .applyLockLink { before with keypadFamily := pending.family }
  | lockTaken {pending : PendingLock} (waiting : before.pendingLock = some pending)
    : MainMove before http .applyLockLink [] (.storeLinked pending)
        { before with pendingLock := none }
  | lockIdle (waiting : before.pendingLock = none)
    : MainMove before http .applyLockLink [] .idleCheck before
  | linkedStored {pending : PendingLock}
    : MainMove before http (.storeLinked pending) [.milestone (.lockApplied pending)]
        .idleCheck { before with lockLinked := (parseMacPretty pending.mac).isSome }
  | stopped (resting : http = .resting)
    : MainMove before http .stopping [.serverStopped] .tail { before with server := false }

/-- An event of `loop()`. -/
def WizardEvent.isLoops : WizardEvent → Bool
  | .pairing (.fired ..) | .link (.fired ..) | .milestone _ | .serverStopped => true
  | event => event.isLook

theorem WizardEvent.isLoops_of_isLook {event : WizardEvent} (look : event.isLook = true)
    : event.isLoops = true := by
  cases event with
  | pairing label => cases label <;> first | rfl | exact look
  | link label => cases label <;> first | rfl | exact look
  | _ => first | rfl | exact look

theorem MainMove.isLoops {before after : GateState} {http : HttpTask} {main next : MainTask}
    {events : List WizardEvent} (move : MainMove before http main events next after)
    : ∀ event ∈ events, event.isLoops = true := by
  cases move with
  | look looks => exact fun event shown => WizardEvent.isLoops_of_isLook (looks event shown)
  | pairingNotified | lockNotified | pairingTaken | pairingIdle | pairedStored | lockTaken
  | lockIdle => simp
  | _ => simp [WizardEvent.isLoops]

/-- The record of a lock link is valid exactly when its MAC parses. -/
theorem PendingLock.lockInfo_valid (pending : PendingLock)
    : decide (pending.lockInfo.valid ≠ 0) = (parseMacPretty pending.mac).isSome := by
  unfold lockInfo
  split <;> rename_i parsed <;> simp [parsed]

/-- Every step of `loop()` is one of the moves, and leaves the handlers alone. -/
theorem Firmware.performMain_moves (firmware : Firmware) (env : MainEnv)
    : MainMove firmware.gates firmware.http firmware.main (firmware.performMain env).2
        (firmware.performMain env).1.main (firmware.performMain env).1.gates
      ∧ (firmware.performMain env).1.http = firmware.http := by
  obtain ⟨device, main, http⟩ := firmware
  cases main with
  | outside =>
      simp only [performMain]
      split
      · exact ⟨.look (by simp) ⟨rfl, rfl⟩ ⟨rfl, rfl⟩ (.inl rfl) (.inl rfl), rfl⟩
      split
      · refine ⟨.look (by simp [WizardEvent.isLook, isUnreported]) ⟨rfl, rfl⟩ ?_ (.inl rfl)
          (.inl rfl), rfl⟩
        unfold MainTask.poll
        split
        · exact ⟨rfl, rfl⟩
        · simp
      · exact ⟨.look (by simp) ⟨rfl, rfl⟩ ⟨rfl, rfl⟩ (.inl rfl) (.inl rfl), rfl⟩
  | pairState id name link =>
      refine ⟨.look (by simp [performMain, WizardEvent.isLook, isUnreported]) ⟨rfl, rfl⟩ ?_
        (.inl rfl) (.inl rfl), rfl⟩
      simp only [performMain]
      split
      · exact ⟨rfl, rfl⟩
      · simp
  | pairStatus id name link =>
      refine ⟨.look (by simp [performMain, WizardEvent.isLook, isUnreported]) ⟨rfl, rfl⟩ ?_
        (.inl rfl) (.inl rfl), rfl⟩
      simp only [performMain]
      split
      · exact ⟨rfl, rfl⟩
      · simp
  | pairConfirm id name payload link =>
      simp only [performMain, confirmPairing, PairingUi.confirmPairing]
      split
      · exact ⟨.pairingConfirmed, rfl⟩
      · exact ⟨.look (by simp [WizardEvent.isLook, isUnreported]) ⟨rfl, rfl⟩ (by simp)
          (.inl rfl) (.inl rfl), rfl⟩
  | pairNotify name payload link => exact ⟨.pairingNotified, rfl⟩
  | linkState id =>
      simp only [performMain]
      split <;>
        exact ⟨.look (by simp [WizardEvent.isLook, isUnreported]) ⟨rfl, rfl⟩ ⟨rfl, rfl⟩
          (.inr rfl) (.inl rfl), trivial⟩
  | linkStatus id =>
      simp only [performMain]
      split <;>
        exact ⟨.look (by simp [WizardEvent.isLook, isUnreported]) ⟨rfl, rfl⟩ ⟨rfl, rfl⟩
          (.inr rfl) (.inl rfl), trivial⟩
  | linkConfirm id payload =>
      simp only [performMain, confirmLink, PairingUi.confirmLink]
      split
      · exact ⟨.lockConfirmed, rfl⟩
      · exact ⟨.look (by simp [WizardEvent.isLook, isUnreported]) ⟨rfl, rfl⟩ ⟨rfl, rfl⟩
          (.inr rfl) (.inl rfl), rfl⟩
  | linkNotify payload => exact ⟨.lockNotified, rfl⟩
  | applyPairing =>
      simp only [performMain]
      cases waiting : device.pendingPairing with
      | none => exact ⟨.pairingIdle waiting, rfl⟩
      | some pending => exact ⟨.pairingTaken waiting, rfl⟩
  | storePaired pending => exact ⟨.pairedStored, rfl⟩
  | storeFamily pending => exact ⟨.familyStored, rfl⟩
  | applyLockLink =>
      simp only [performMain]
      cases waiting : device.pendingLock with
      | none => exact ⟨.lockIdle waiting, rfl⟩
      | some pending => exact ⟨.lockTaken waiting, rfl⟩
  | storeLinked pending =>
      have moved :=
        @MainMove.linkedStored (Firmware.gates ⟨device, .storeLinked pending, http⟩) http pending
      rw [← pending.lockInfo_valid] at moved
      exact ⟨moved, rfl⟩
  | idleCheck =>
      simp only [performMain]
      split <;> exact ⟨.look (by simp) ⟨rfl, rfl⟩ ⟨rfl, rfl⟩ (.inl rfl) (.inl rfl), trivial⟩
  | idlePairer =>
      simp only [performMain]
      split
      · exact ⟨.look (by simp) ⟨rfl, rfl⟩ ⟨rfl, rfl⟩ (.inl rfl) (.inl rfl), rfl⟩
      · exact ⟨.look (by simp [WizardEvent.isLook, isUnreported]) ⟨rfl, rfl⟩ ⟨rfl, rfl⟩ (.inl rfl)
          (.inl rfl), rfl⟩
  | idleLinker =>
      simp only [performMain]
      split
      · exact ⟨.look (by simp) ⟨rfl, rfl⟩ ⟨rfl, rfl⟩ (.inl rfl) (.inl rfl), rfl⟩
      · exact ⟨.look (by simp [WizardEvent.isLook, isUnreported]) ⟨rfl, rfl⟩ ⟨rfl, rfl⟩ (.inl rfl)
          (.inl rfl), rfl⟩
  | stopping =>
      simp only [performMain]
      split
      · rename_i resting
        exact ⟨.stopped resting, rfl⟩
      · exact ⟨.look (by simp) ⟨rfl, rfl⟩ ⟨rfl, rfl⟩ (.inl rfl) (.inl rfl), rfl⟩
  | tail =>
      exact ⟨.look (by simp [performMain]) ⟨rfl, rfl⟩ ⟨rfl, rfl⟩ (.inl rfl) (.inl rfl), rfl⟩

-----------------------------------------------------------------------------------------
-- Every task
-----------------------------------------------------------------------------------------

/-- A label of a job's task. -/
def isTasks {Id Name Request Result : Type} : Label Id Name Request Result → Bool
  | .worked | .succeeded _ | .failed _ => true
  | _ => false

/-- An event that has nothing to do with the gates. -/
def WizardEvent.isAside : WizardEvent → Bool
  | .pairing label => isTasks label
  | .link label => isTasks label
  | .replied _ | .milestone .resetAborted => true
  | _ => false

/-- A handler that has yet to make its checks. -/
def HttpTask.isAsked : HttpTask → Bool
  | .pairAsked .. | .linkAsked _ => true
  | _ => false

/-- The step of any task. -/
inductive FirmwareMove (before : Firmware) : List WizardEvent → Firmware → Prop
  | handler {events : List WizardEvent} {after : Firmware}
    (move : HandlerMove before.device.pairingUi before.http events after.http)
    (gates : after.gates = before.gates) (main : after.main = before.main)
    : FirmwareMove before events after
  | loop {events : List WizardEvent} {after : Firmware}
    (move : MainMove before.gates before.http before.main events after.main after.gates)
    (http : after.http = before.http)
    : FirmwareMove before events after
  | reset {after : Firmware} {server : Bool} (outside : before.main = .outside)
    (stopped : before.gates.server = false)
    (gates
      : after.gates
        = { before.gates with
            server
            keypadPaired := false
            lockLinked := false
            keypadFamily := .original })
    (main : after.main = before.main) (http : after.http = before.http)
    : FirmwareMove before [.milestone .linksReset] after
  | requested {after : Firmware} (serving : before.gates.server = true)
    (asked : after.http.isAsked = true) (gates : after.gates = before.gates)
    (main : after.main = before.main)
    : FirmwareMove before [] after
  | aside {events : List WizardEvent} {after : Firmware}
    (aside : ∀ event ∈ events, event.isAside = true) (gates : after.gates = before.gates)
    (main : after.main = before.main) (http : after.http = before.http)
    : FirmwareMove before events after

namespace Firmware

theorem performReset_moves (firmware : Firmware) (env : ResetEnv)
    : FirmwareMove firmware (firmware.performReset env).2 (firmware.performReset env).1 := by
  unfold performReset
  split
  · rename_i allowed
    have same := congrArg LinkingState.gates (firmware.device.resetPairing_linkingState env)
    cases keyImport : env.keyImport with
    | none =>
        refine .aside (by simp [WizardEvent.isAside]) ?_ rfl rfl
        simp only [keyImport, Option.isSome_none, Bool.false_eq_true, if_false] at same
        exact same
    | some id =>
        simp only [keyImport, Option.isSome_some, if_true] at same ⊢
        obtain ⟨server, _, started⟩ :=
          (((firmware.device.pairingUi.setLockLinked false).setKeypadPaired
            false).setKeypadFamily .original |>.setSharedKey env.randomKey).start_eq
              env.httpdStarts env.millis
        rw [started] at same
        exact .reset allowed.1 allowed.2 same rfl rfl
  · exact .aside (by simp) rfl rfl rfl

theorem receiveRequest_moves (firmware : Firmware) (request : HttpRequest) (millis : UInt32)
    : FirmwareMove firmware (firmware.receiveRequest request millis).2
        (firmware.receiveRequest request millis).1 := by
  unfold receiveRequest
  split
  · rename_i allowed
    cases request with
    | pair | lockLink => exact .requested allowed.1 rfl rfl rfl
    | other => exact .aside (by simp [WizardEvent.isAside]) rfl rfl rfl
  · exact .aside (by simp) rfl rfl rfl

/-- Every step of the firmware is one of the moves. -/
theorem perform_moves (keystream : Keystream) (firmware : Firmware) (op : FirmwareOp)
    : FirmwareMove firmware (firmware.perform keystream op).2
        (firmware.perform keystream op).1 := by
  cases op with
  | main env =>
      obtain ⟨move, http⟩ := firmware.performMain_moves env
      exact .loop move http
  | serve op =>
      simp only [perform]
      split
      · rename_i allowed
        have same := firmware.device.performLoop_linkingState keystream allowed.2.1
        exact .aside (by simp) (congrArg LinkingState.gates same) rfl rfl
      · exact .aside (by simp) rfl rfl rfl
  | reset env => exact firmware.performReset_moves env
  | request request millis => exact firmware.receiveRequest_moves request millis
  | handle env =>
      obtain ⟨move, gates, main⟩ := firmware.performHandler_moves env
      exact .handler move gates main
  | pairJob move =>
      simp only [perform, performPairJob]
      split
      · refine .aside ?_ rfl rfl rfl
        cases move <;> simp [WizardEvent.isAside, pairLabel, isTasks]
      · exact .aside (by simp) rfl rfl rfl
  | linkJob move =>
      simp only [perform, performLinkJob]
      split
      · rename_i task id _ _
        refine .aside ?_ rfl rfl rfl
        cases move <;> cases task.slotStored <;> simp [WizardEvent.isAside, linkLabel, isTasks]
      · exact .aside (by simp) rfl rfl rfl

end Firmware

-----------------------------------------------------------------------------------------
-- The steps that matter
-----------------------------------------------------------------------------------------

section

variable {before after : Firmware} {events : List WizardEvent}

/-- A pairing job is started by its handler while none runs, and nothing else is seen. -/
theorem FirmwareMove.startsPairing {id : JobId} {name : Bytes}
    {request : KeypadPairer.Request} (move : FirmwareMove before events after)
    (shown : .pairing (.started id name request) ∈ events)
    : events = [.pairing (.started id name request)]
      ∧ before.http = .pairReady request name
      ∧ before.device.pairingUi.pairer.status.state ≠ .running := by
  cases move with
  | handler move =>
      generalize before.http = http at move ⊢
      generalize after.http = next at move
      cases move <;> simp at shown
      rename_i free
      obtain ⟨rfl, rfl, rfl⟩ := shown
      exact ⟨rfl, rfl, free⟩
  | loop move =>
      exact absurd (move.isLoops _ shown) (by simp [WizardEvent.isLoops, WizardEvent.isLook,
        isUnreported])
  | reset => simp at shown
  | requested => simp at shown
  | aside aside => exact absurd (aside _ shown) (by simp [WizardEvent.isAside, isTasks])

/-- The same for a lock-link job. -/
theorem FirmwareMove.startsLink {id : JobId} {request : LockLinker.Request}
    (move : FirmwareMove before events after)
    (shown : .link (.started id () request) ∈ events)
    : events = [.link (.started id () request)]
      ∧ before.http = .linkReady request
      ∧ before.device.pairingUi.linker.status.state ≠ .running := by
  cases move with
  | handler move =>
      generalize before.http = http at move ⊢
      generalize after.http = next at move
      cases move <;> simp at shown
      rename_i free
      obtain ⟨rfl, rfl⟩ := shown
      exact ⟨rfl, rfl, free⟩
  | loop move =>
      exact absurd (move.isLoops _ shown) (by simp [WizardEvent.isLoops, WizardEvent.isLook,
        isUnreported])
  | reset => simp at shown
  | requested => simp at shown
  | aside aside => exact absurd (aside _ shown) (by simp [WizardEvent.isAside, isTasks])

/-- When the server stops, nothing else is seen. -/
theorem FirmwareMove.stopsServer (move : FirmwareMove before events after)
    (shown : .serverStopped ∈ events)
    : events = [.serverStopped] := by
  cases move with
  | handler move =>
      generalize before.http = http at move
      generalize after.http = next at move
      cases move <;> simp at shown
  | loop move =>
      generalize before.main = main at move
      generalize after.main = next at move
      generalize after.gates = gates at move
      cases move with
      | look looks => exact absurd (looks _ shown) (by simp [WizardEvent.isLook])
      | stopped => rfl
      | _ => simp at shown
  | reset => simp at shown
  | requested => simp at shown
  | aside aside => exact absurd (aside _ shown) (by simp [WizardEvent.isAside])

end

def WizardEvent.startsPairing : WizardEvent → Bool
  | .pairing (.started ..) => true
  | _ => false

def WizardEvent.startsLink : WizardEvent → Bool
  | .link (.started ..) => true
  | _ => false

theorem WizardEvent.eq_of_startsPairing (event : WizardEvent)
    (starts : event.startsPairing = true)
    : ∃ id name request, event = .pairing (.started id name request) := by
  unfold startsPairing at starts
  split at starts
  · exact ⟨_, _, _, rfl⟩
  · cases starts

theorem WizardEvent.eq_of_startsLink (event : WizardEvent) (starts : event.startsLink = true)
    : ∃ id request, event = .link (.started id () request) := by
  unfold startsLink at starts
  split at starts
  · exact ⟨_, _, rfl⟩
  · cases starts

end KeypadBridge
