import KeypadBridge.Bridge.Relay
import KeypadBridge.Firmware.Attribution
import KeypadBridge.Firmware.Serving
import KeypadBridge.Session.Service

/-! The key that the wizard gives away. A job carries it to a keypad or to a lock, and the bridge
works under it: until the Reset button draws another one, the copies in memory, in the wizard
and behind the session's handle are the key that the job was launched with.
-/

namespace KeypadBridge
open KeypadBridge.Foundation

-----------------------------------------------------------------------------------------
-- The copies of the key
-----------------------------------------------------------------------------------------

/-- The copies of the shared key outside flash. -/
structure KeyCopies where
  sharedKey : AesKey
  wizardKey : AesKey
  sessionKey : PsaKeyId
  psaKeys : PsaKeyId → Option AesKey

/-- All copies are this key. -/
structure KeyCopies.Are (copies : KeyCopies) (key : AesKey) : Prop where
  memory : copies.sharedKey = key
  wizard : copies.wizardKey = key
  session : copies.psaKeys copies.sessionKey = some key

/-- A key that all copies are is the one in memory. -/
theorem KeyCopies.Are.inMemory {copies : KeyCopies} {key : AesKey} (are : copies.Are key)
    : copies.Are copies.sharedKey := by
  obtain ⟨rfl, wizard, session⟩ := are
  exact ⟨rfl, wizard, session⟩

/-- A session that goes on from another one, by operations on it. -/
def LockSession.GoesOn (keystream : Keystream) (before after : LockSession) : Prop :=
  ∃ ops, (sessionMachine keystream).run before ops = after

namespace LockSession.GoesOn

variable {keystream : Keystream} {before after : LockSession}

theorem refl (keystream : Keystream) (session : LockSession)
    : session.GoesOn keystream session :=
  ⟨[], rfl⟩

theorem one (keystream : Keystream) (session : LockSession) (op : SessionOp)
    : session.GoesOn keystream (session.perform keystream op).1 :=
  ⟨[op], rfl⟩

theorem trans {last : LockSession} (first : before.GoesOn keystream after)
    (second : after.GoesOn keystream last)
    : before.GoesOn keystream last := by
  obtain ⟨earlier, rfl⟩ := first
  obtain ⟨later, rfl⟩ := second
  exact ⟨earlier ++ later, (sessionMachine keystream).run_append before earlier later⟩

theorem reachable (goesOn : before.GoesOn keystream after)
    (reachable : before.Reachable keystream)
    : after.Reachable keystream :=
  trans reachable goesOn

theorem wellFormed (goesOn : before.GoesOn keystream after) (wf : before.contexts.WellFormed)
    : after.contexts.WellFormed := by
  obtain ⟨ops, rfl⟩ := goesOn
  exact run_wellFormed keystream wf ops

end LockSession.GoesOn

namespace Device

def keyCopies (device : Device) : KeyCopies where
  sharedKey := device.bridge.sharedKey
  wizardKey := device.pairingUi.sharedKey
  sessionKey := device.bridge.session.aesKey
  psaKeys := device.psaKeys

/-- A step that leaves the key as it is. -/
structure KeepsKey (keystream : Keystream) (before after : Device) : Prop where
  copies : after.keyCopies = before.keyCopies
  session : before.bridge.session.GoesOn keystream after.bridge.session

/-- A step that touches neither the key nor the session. -/
theorem KeepsKey.still (keystream : Keystream) {before after : Device}
    (copies : after.keyCopies = before.keyCopies)
    (session : after.bridge.session = before.bridge.session)
    : KeepsKey keystream before after :=
  ⟨copies, session ▸ .refl keystream _⟩

theorem KeepsKey.trans {keystream : Keystream} {first second third : Device}
    (hl : KeepsKey keystream first second) (hr : KeepsKey keystream second third)
    : KeepsKey keystream first third :=
  ⟨hr.copies.trans hl.copies, hl.session.trans hr.session⟩

/-- A call that has nothing to do with the links, nor with the wizard. -/
theorem KeepsKey.aside (keystream : Keystream) {before after : Device}
    (aside : Aside before after) (wizard : after.linkingState = before.linkingState)
    : KeepsKey keystream before after := by
  have parts (device : Device)
      : device.keyCopies
        = ⟨device.linkCore.sharedKey, device.linkingState.pairingUi.sharedKey,
            device.linkCore.sessionKey, device.linkCore.psaKeys⟩ :=
    rfl
  refine .still keystream ?_ aside.session
  rw [parts, parts, aside.linkCore, wizard]

variable (keystream : Keystream) (device : Device)

theorem drainEvent_keepsKey (wf : device.bridge.session.contexts.WellFormed)
    (event : QueuedEvent) (env : RxEnv)
    : KeepsKey keystream device (device.drainEvent keystream event env).1 := by
  have same := device.bridge.drainEvent_sameLinks keystream (device.rxEnv env) event
  have handle := (device.bridge.drainEvent_session keystream (device.rxEnv env) wf event).1
  constructor
  · simp only [drainEvent, keyCopies, same.sharedKey, handle]
  · cases event with
    | connect | disconnect => exact .one keystream _ .resetTransport
    | rx frame =>
        have session := (SwitchbotKeypadBridge.onRxFrame_spec keystream (device.rxEnv env)
          device.bridge frame).1
        simp only [drainEvent, SwitchbotKeypadBridge.drainEvent, session]
        exact .one keystream _ (.frame (device.rxEnv env).toFrameEnv frame)

/-- Whatever `loop()` calls, it keeps the key. -/
theorem performLoop_keepsKey (wf : device.bridge.session.contexts.WellFormed) (op : LoopOp)
    : KeepsKey keystream device (device.performLoop keystream op).1 := by
  have wizard (op : LoopOp) (notLinking : op.isLinking = false)
      : (device.performLoop keystream op).1.linkingState = device.linkingState :=
    device.performLoop_linkingState keystream notLinking
  cases op with
  | paired => exact .still keystream rfl rfl
  | lockLinked => exact .still keystream rfl rfl
  | applyPairing millis accepts =>
      simp only [performLoop, applyPendingPairing]
      split <;> exact .still keystream rfl rfl
  | applyLockLink millis accepts =>
      simp only [performLoop, applyPendingLockLink]
      split <;> exact .still keystream rfl rfl
  | drained event env => exact device.drainEvent_keepsKey keystream wf event env
  | keypadBattery env =>
      simp only [performLoop, applyPendingKeypadBattery, learnKeypad, publishKeypadBattery]
      split
      · exact .still keystream rfl rfl
      · split <;> split <;> exact .still keystream rfl rfl
  | lockBattery => exact .aside keystream device.applyPendingLockBattery_aside (wizard _ rfl)
  | finishScan env =>
      exact .aside keystream (device.maybeFinishBatteryScan_aside env) (wizard _ rfl)
  | startScan env =>
      exact .aside keystream (device.maybeStartBatteryScan_aside env) (wizard _ rfl)

/-- Loading the links leaves the session as it is, and the wizard's server. -/
theorem restoreLinks_session (boot : BootEnv)
    : (device.restoreLinks boot).1.bridge.session = device.bridge.session
      ∧ (device.restoreLinks boot).1.pairingUi.server = device.pairingUi.server := by
  have key
      : (device.restoreKey boot).bridge.session = device.bridge.session
        ∧ (device.restoreKey boot).pairingUi.server = device.pairingUi.server := by
    unfold restoreKey
    split <;> exact ⟨rfl, rfl⟩
  have keypad (device : Device)
      : device.restoreKeypad.1.bridge.session = device.bridge.session
        ∧ device.restoreKeypad.1.pairingUi.server = device.pairingUi.server := by
    unfold restoreKeypad
    dsimp only
    split <;> exact ⟨rfl, rfl⟩
  have lock (device : Device)
      : (device.restoreLock boot).1.bridge.session = device.bridge.session
        ∧ (device.restoreLock boot).1.pairingUi.server = device.pairingUi.server := by
    unfold restoreLock
    dsimp only
    split <;> split <;> exact ⟨rfl, rfl⟩
  obtain ⟨keypadSession, keypadServer⟩ := keypad (device.restoreKey boot)
  obtain ⟨lockSession, lockServer⟩ := lock (device.restoreKey boot).restoreKeypad.1
  rw [restoreLinks_device]
  exact ⟨lockSession.trans (keypadSession.trans key.1),
    lockServer.trans (keypadServer.trans key.2)⟩

/-- Bringing up starts the wizard's server over a key that was imported. -/
theorem bringUp_keys (boot : BootEnv) (down : device.pairingUi.server = false)
    : device.bridge.session.GoesOn keystream (device.bringUp boot).bridge.session
      ∧ ((device.bringUp boot).pairingUi.server = true
        → (device.bringUp boot).keyCopies.Are (device.bringUp boot).bridge.sharedKey) := by
  have off {ui : PairingUi} (same : ui.server = device.pairingUi.server) {goal : Prop}
      (up : ui.server = true)
      : goal :=
    absurd (up.symm.trans (same.trans down)) (by simp)
  unfold bringUp
  split
  · exact ⟨.refl keystream _, off rfl⟩
  dsimp only
  cases keyImport : boot.keyImport with
  | none => exact ⟨.refl keystream _, off rfl⟩
  | some id =>
      have named : device.bridge.session.GoesOn keystream (device.bridge.session.setAesKey id) :=
        .one keystream _ (.setAesKey id)
      split
      · exact ⟨named, off rfl⟩
      split
      · exact ⟨named, off rfl⟩
      · refine ⟨named, fun _ => ⟨rfl, ?_, ?_⟩⟩
        · obtain ⟨_, _, started⟩ :=
            ((device.importAesKey (some id)).1.pairingUi.setSharedKey
              (device.importAesKey (some id)).1.bridge.sharedKey).start_eq boot.httpdStarts
                boot.millis
          simp only [keyCopies, started]
          rfl
        · simp [keyCopies, importAesKey, LockSession.setAesKey]

/-- A reset whose import succeeds gives every copy the new key, and the session a new start. -/
theorem resetPairing_completes {env : ResetEnv} (imported : env.keyImport ≠ none)
    (reachable : device.bridge.session.Reachable keystream)
    : (device.resetPairing env).1.keyCopies.Are env.randomKey
      ∧ (device.resetPairing env).1.bridge.session.Reachable keystream := by
  obtain ⟨id, imported⟩ := Option.ne_none_iff_exists'.mp imported
  have received := device.resetPairing_receiveState env
  have linking := device.resetPairing_linkingState env
  have core
      : (device.resetPairing env).1.linkCore.psaKeys id = some env.randomKey := by
    rw [resetPairing_completed (by simp [imported]), forgetLinks_linkCore]
    simp [rotated, importAesKey, destroyAesKey, imported, linkCore, createSharedKey, saveAndSync,
      save, sync]
  simp only [imported, Option.isSome_some, if_true] at received linking
  obtain ⟨_, _, started⟩ :=
    ((((device.pairingUi.setLockLinked false).setKeypadPaired false).setKeypadFamily
      .original).setSharedKey env.randomKey).start_eq env.httpdStarts env.millis
  have session := congrArg ReceiveState.session received
  have wizard := congrArg (PairingUi.sharedKey ∘ LinkingState.pairingUi) linking
  rw [Function.comp_apply, Function.comp_apply, started] at wizard
  change (device.resetPairing env).1.bridge.session = _ at session
  refine ⟨⟨congrArg ReceiveState.sharedKey received, wizard, ?_⟩, ?_⟩
  · have handle : (device.resetPairing env).1.keyCopies.sessionKey = id :=
      congrArg LockSession.aesKey session
    rw [handle]
    exact core
  · rw [session]
    have goesOn
        : device.bridge.session.GoesOn keystream
            (device.bridge.session.setAesKey id).reset.forgetSlot :=
      ⟨[.setAesKey id, .resetForget], rfl⟩
    exact goesOn.reachable reachable

end Device

-----------------------------------------------------------------------------------------
-- The tasks
-----------------------------------------------------------------------------------------

namespace PairingUi

variable {ui : PairingUi} {cloud : CloudAnswers} {mac : Bytes}

/-- A pairing request carries the wizard's key. -/
theorem pairRequest_key {espMac : MacBytes} {family : KeypadFamily}
    {built : KeypadPairer.Request × Bytes}
    (request : ui.pairRequest cloud espMac mac family = .ok built)
    : built.1.sharedToken = ui.sharedKey := by
  unfold pairRequest at request
  split at request
  · cases request
  split at request
  · cases request
  split at request
  · cases request
  · cases request
    rfl

/-- So does a lock-link request. -/
theorem linkRequest_key {built : LockLinker.Request}
    (request : ui.linkRequest cloud mac = .ok built)
    : built.sharedKey = ui.sharedKey := by
  unfold linkRequest at request
  split at request
  · cases request
  split at request
  · cases request
  dsimp only at request
  split at request
  · cases request
  split at request
  · cases request
  · cases request
    rfl

end PairingUi

/-- The key that a handler is about to launch a job with. -/
def HttpTask.givenKey : HttpTask → Option AesKey
  | .pairReady request _ | .pairOccupied _ request _ => some request.sharedToken
  | .linkReady request | .linkOccupied _ request => some request.sharedKey
  | _ => none

/-- The key that a job is launched with. -/
def WizardEvent.launchedKey : WizardEvent → Option AesKey
  | .pairing (.launched _ _ request) => some request.sharedToken
  | .link (.launched _ _ request) => some request.sharedKey
  | _ => none

/-- The Reset button has drawn a new key, whether or not it was imported. -/
def WizardEvent.isReset : WizardEvent → Bool
  | .milestone .linksReset | .milestone .resetAborted => true
  | _ => false

/-- While the server is up the copies of the key agree, and a handler gives away this key. -/
structure Firmware.KeysAgree (keystream : Keystream) (firmware : Firmware) : Prop where
  reachable : firmware.device.bridge.session.Reachable keystream
  handler : firmware.http ≠ .resting → firmware.activity.server = true
  served
    : firmware.activity.server = true
      → firmware.device.keyCopies.Are firmware.device.bridge.sharedKey
  given
    : ∀ key, firmware.http.givenKey = some key → key = firmware.device.bridge.sharedKey

namespace Firmware

variable (keystream : Keystream) (firmware : Firmware)

/-- `loop()` keeps the key. -/
theorem performMain_keepsKey (env : MainEnv)
    : firmware.device.KeepsKey keystream (firmware.performMain env).1.device := by
  obtain ⟨device, main, http⟩ := firmware
  cases main with
  | outside =>
      simp only [performMain]
      split
      · exact .still keystream rfl rfl
      · split <;> exact .still keystream rfl rfl
  | pairConfirm =>
      simp only [performMain, confirmPairing, PairingUi.confirmPairing]
      split <;> exact .still keystream rfl rfl
  | linkConfirm =>
      simp only [performMain, confirmLink, PairingUi.confirmLink]
      split <;> exact .still keystream rfl rfl
  | applyPairing | applyLockLink | idlePairer | idleLinker | stopping =>
      simp only [performMain]
      split <;> exact .still keystream rfl rfl
  | _ => exact .still keystream rfl rfl

/-- A handler keeps the key. -/
theorem performHandler_keepsKey (env : HttpEnv)
    : firmware.device.KeepsKey keystream (firmware.performHandler env).1.device := by
  obtain ⟨device, main, http⟩ := firmware
  cases http with
  | resting => exact .still keystream rfl rfl
  | pairAsked | pairAllowed | linkAsked | linkGated | linkAllowed =>
      simp only [performHandler]
      split <;> exact .still keystream rfl rfl
  | pairReady =>
      simp only [performHandler]
      split
      · exact .still keystream rfl rfl
      · rename_i occupied
        obtain ⟨-, rfl⟩ := PairingUi.occupyPairer_eq_some occupied
        exact .still keystream rfl rfl
  | linkReady =>
      simp only [performHandler]
      split
      · exact .still keystream rfl rfl
      · rename_i occupied
        obtain ⟨-, rfl⟩ := PairingUi.occupyLinker_eq_some occupied
        exact .still keystream rfl rfl
  | pairOccupied | linkOccupied =>
      simp only [performHandler]
      split <;> exact .still keystream rfl rfl
  | pairLaunched | linkLaunched => exact .still keystream rfl rfl

/-- A job's task keeps the key. -/
theorem performJobs_keepKey (pair : KeypadPairer.Move) (link : LockLinker.Move)
    : firmware.device.KeepsKey keystream (firmware.performPairJob pair).1.device
      ∧ firmware.device.KeepsKey keystream (firmware.performLinkJob link).1.device := by
  obtain ⟨_, pairing⟩ := firmware.performPairJob_ui pair
  obtain ⟨_, linking⟩ := firmware.performLinkJob_ui link
  rw [pairing, linking]
  exact ⟨.still keystream rfl rfl, .still keystream rfl rfl⟩

/-- Every step but a reset keeps the key. -/
theorem perform_keepsKey (wf : firmware.device.bridge.session.contexts.WellFormed)
    (op : FirmwareOp)
    (unreset : ∀ event ∈ (firmware.perform keystream op).2, event.isReset = false)
    : firmware.device.KeepsKey keystream (firmware.perform keystream op).1.device := by
  cases op with
  | main env => exact firmware.performMain_keepsKey keystream env
  | serve op =>
      simp only [perform]
      split
      · exact firmware.device.performLoop_keepsKey keystream wf op
      · exact .still keystream rfl rfl
  | reset env =>
      simp only [perform, performReset] at unreset ⊢
      split
      · rename_i allowed
        rw [if_pos allowed] at unreset
        cases keyImport : env.keyImport <;> simp [keyImport, WizardEvent.isReset] at unreset
      · exact .still keystream rfl rfl
  | request request millis =>
      simp only [perform, receiveRequest]
      split
      · cases request <;> exact .still keystream rfl rfl
      · exact .still keystream rfl rfl
  | handle env => exact firmware.performHandler_keepsKey keystream env
  | pairJob move => exact (firmware.performJobs_keepKey keystream move (.step 0)).1
  | linkJob move => exact (firmware.performJobs_keepKey keystream (.step 0) move).2

/-- What a handler is about to give away is the wizard's key, and a job gets what its handler was
about to give away.
-/
theorem performHandler_given (env : HttpEnv)
    : (∀ key,
          (firmware.performHandler env).1.http.givenKey = some key
          → firmware.http.givenKey = some key ∨ key = firmware.device.pairingUi.sharedKey)
      ∧ ∀ event ∈ (firmware.performHandler env).2,
          ∀ key, event.launchedKey = some key → firmware.http.givenKey = some key := by
  obtain ⟨device, main, http⟩ := firmware
  cases http with
  | resting | pairLaunched | linkLaunched =>
      simp [performHandler, HttpTask.givenKey, WizardEvent.launchedKey]
  | pairAsked | linkAsked | linkGated =>
      simp only [performHandler]
      split <;> simp [reply, HttpTask.givenKey, WizardEvent.launchedKey]
  | pairAllowed mac family =>
      simp only [performHandler]
      split
      · simp [reply, HttpTask.givenKey, WizardEvent.launchedKey]
      · rename_i request name built
        have same := PairingUi.pairRequest_key built
        simpa [HttpTask.givenKey] using same
  | linkAllowed mac =>
      simp only [performHandler]
      split
      · simp [reply, HttpTask.givenKey, WizardEvent.launchedKey]
      · rename_i request built
        have same := PairingUi.linkRequest_key built
        simpa [HttpTask.givenKey, WizardEvent.launchedKey] using same
  | pairReady | linkReady | pairOccupied | linkOccupied =>
      simp only [performHandler]
      split <;> simp [reply, HttpTask.givenKey, WizardEvent.launchedKey]

/-- `loop()` launches no job. -/
theorem performMain_launches (env : MainEnv)
    : ∀ event ∈ (firmware.performMain env).2, event.launchedKey = none := by
  obtain ⟨device, main, http⟩ := firmware
  cases main with
  | outside =>
      simp only [performMain]
      split
      · simp
      · split <;> simp [WizardEvent.launchedKey]
  | pairConfirm =>
      simp only [performMain, confirmPairing]
      split <;> simp [WizardEvent.launchedKey]
  | linkConfirm =>
      simp only [performMain, confirmLink]
      split <;> simp [WizardEvent.launchedKey]
  | applyPairing | applyLockLink | idlePairer | idleLinker | stopping =>
      simp only [performMain]
      split <;> simp [WizardEvent.launchedKey]
  | pairState | pairStatus | pairNotify | linkState | linkStatus | linkNotify | storePaired
  | storeFamily | storeLinked | idleCheck | tail =>
      simp [performMain, WizardEvent.launchedKey]

/-- Only a handler launches a job. -/
theorem perform_launches {op : FirmwareOp} {event : WizardEvent} {key : AesKey}
    (seen : event ∈ (firmware.perform keystream op).2) (launched : event.launchedKey = some key)
    : (∃ env, op = .handle env) ∧ firmware.http.givenKey = some key := by
  have never {goal : Prop} (none : event.launchedKey = none) : goal :=
    absurd (none.symm.trans launched) (by simp)
  cases op with
  | main env => exact never (firmware.performMain_launches env event seen)
  | serve op =>
      simp only [perform] at seen
      split at seen <;> exact absurd seen List.not_mem_nil
  | reset env =>
      simp only [perform, performReset] at seen
      split at seen
      · obtain rfl := List.mem_singleton.mp seen
        exact never rfl
      · exact absurd seen List.not_mem_nil
  | request request millis =>
      simp only [perform, receiveRequest] at seen
      split at seen
      · cases request with
        | pair | lockLink => exact absurd seen List.not_mem_nil
        | other =>
            obtain rfl := List.mem_singleton.mp seen
            exact never rfl
      · exact absurd seen List.not_mem_nil
  | handle env =>
      exact ⟨⟨env, rfl⟩, (firmware.performHandler_given env).2 event seen key launched⟩
  | pairJob move =>
      simp only [perform, performPairJob] at seen
      split at seen
      · obtain rfl := List.mem_singleton.mp seen
        cases move <;> exact never rfl
      · exact absurd seen List.not_mem_nil
  | linkJob move =>
      simp only [perform, performLinkJob] at seen
      split at seen
      · rename_i task id _ _
        obtain rfl := List.mem_singleton.mp seen
        cases move <;> cases stored : task.slotStored <;>
          exact never (by simp [linkLabel, WizardEvent.launchedKey, stored])
      · exact absurd seen List.not_mem_nil

namespace KeysAgree

variable {firmware next : Firmware} {keystream : Keystream}

/-- A step that keeps the key and starts no server. -/
theorem kept (agree : firmware.KeysAgree keystream)
    (keeps : firmware.device.KeepsKey keystream next.device)
    (server : next.activity.server = true → firmware.activity.server = true)
    (handler : next.http ≠ .resting → next.activity.server = true)
    (given
      : ∀ key,
          next.http.givenKey = some key
          → firmware.http.givenKey = some key ∨ key = firmware.device.pairingUi.sharedKey)
    : next.KeysAgree keystream := by
  have memory : next.device.bridge.sharedKey = firmware.device.bridge.sharedKey :=
    congrArg KeyCopies.sharedKey keeps.copies
  refine ⟨keeps.session.reachable agree.reachable, handler, ?_, ?_⟩
  · intro up
    rw [keeps.copies, memory]
    exact agree.served (server up)
  · intro key gives
    rw [memory]
    rcases given key gives with before | wizard
    · exact agree.given key before
    · have up : next.activity.server = true := by
        apply handler
        intro resting
        rw [resting] at gives
        cases gives
      exact wizard.trans (agree.served (server up)).wizard

/-- A step that also leaves the handler where it is, and the server up while one is running. -/
theorem beside (agree : firmware.KeysAgree keystream)
    (keeps : firmware.device.KeepsKey keystream next.device)
    (http : next.http = firmware.http)
    (server : next.activity.server = firmware.activity.server)
    : next.KeysAgree keystream := by
  refine agree.kept keeps (fun up => server ▸ up) (fun running => ?_) (fun key gives => ?_)
  · rw [server]
    exact agree.handler (http ▸ running)
  · exact .inl (http ▸ gives)

theorem performMain (agree : firmware.KeysAgree keystream) (env : MainEnv)
    : (firmware.performMain env).1.KeysAgree keystream := by
  have keeps := firmware.performMain_keepsKey keystream env
  obtain ⟨http, _⟩ := firmware.performMain_keeps env
  by_cases stopping : firmware.main = .stopping
  · by_cases resting : firmware.http = .resting
    · have after : (firmware.performMain env).1.http = .resting := http.trans resting
      refine agree.kept keeps (fun up => ?_) (fun running => absurd after running)
        (fun key gives => ?_)
      · simp [Firmware.performMain, stopping, resting, Firmware.activity, withUi, PairingUi.stop,
          PairingUi.activity] at up
      · rw [after] at gives
        cases gives
    · simpa [Firmware.performMain, stopping, resting] using agree
  · exact agree.beside keeps http
      (congrArg ActivityClock.server (firmware.performMain_activity env stopping))

theorem performReset (agree : firmware.KeysAgree keystream) (env : ResetEnv)
    : (firmware.performReset env).1.KeysAgree keystream := by
  unfold Firmware.performReset
  split
  · rename_i allowed
    have down : firmware.activity.server = false := allowed.2
    have resting : firmware.http = .resting := by
      by_contra running
      exact absurd (agree.handler running) (by simp [down])
    have received := firmware.device.resetPairing_receiveState env
    have linking := firmware.device.resetPairing_linkingState env
    have gives (key : AesKey) (given : firmware.http.givenKey = some key)
        : key = (firmware.device.resetPairing env).1.bridge.sharedKey := by
      rw [resting] at given
      cases given
    cases keyImport : env.keyImport with
    | none =>
        -- The key was drawn but not imported: the server stays down.
        simp only [keyImport, Option.isSome_none, Bool.false_eq_true, if_false]
          at received linking
        have server : (firmware.device.resetPairing env).1.pairingUi.server = false :=
          (congrArg (PairingUi.server ∘ LinkingState.pairingUi) linking).trans down
        have session
            : (firmware.device.resetPairing env).1.bridge.session
              = firmware.device.bridge.session :=
          congrArg ReceiveState.session received
        exact ⟨session ▸ agree.reachable, fun running => absurd resting running,
          fun up => absurd (server.symm.trans up) (by simp), gives⟩
    | some id =>
        have imported : env.keyImport ≠ none := by simp [keyImport]
        obtain ⟨are, reachable⟩ :=
          firmware.device.resetPairing_completes keystream imported agree.reachable
        exact ⟨reachable, fun running => absurd resting running, fun _ => are.inMemory, gives⟩
  · exact agree

theorem perform (agree : firmware.KeysAgree keystream) (op : FirmwareOp)
    : (firmware.perform keystream op).1.KeysAgree keystream := by
  have wf := agree.reachable.wellFormed
  cases op with
  | main env => exact agree.performMain env
  | serve op =>
      simp only [Firmware.perform]
      split
      · rename_i allowed
        have same := firmware.device.performLoop_linkingState keystream allowed.2.1
        exact agree.beside (firmware.device.performLoop_keepsKey keystream wf op) rfl
          (congrArg (PairingUi.server ∘ LinkingState.pairingUi) same)
      · exact agree
  | reset env => exact agree.performReset env
  | request request millis =>
      simp only [Firmware.perform, receiveRequest]
      split
      · rename_i allowed
        cases request with
        | pair | lockLink =>
            exact agree.kept (.still keystream rfl rfl) (fun up => up) (fun _ => allowed.1)
              (fun key gives => by simp [HttpTask.givenKey] at gives)
        | other => exact agree.beside (.still keystream rfl rfl) rfl rfl
      · exact agree
  | handle env =>
      have activity := firmware.performHandler_activity env
      refine agree.kept (firmware.performHandler_keepsKey keystream env)
        (fun up => activity ▸ up) (fun running => ?_) (firmware.performHandler_given env).1
      have before : firmware.http ≠ .resting := by
        intro resting
        simp [Firmware.perform, performHandler, resting] at running
      rw [show (firmware.perform keystream (.handle env)).1 = (firmware.performHandler env).1 from
        rfl, activity]
      exact agree.handler before
  | pairJob move =>
      obtain ⟨_, same⟩ := firmware.performPairJob_ui move
      simp only [Firmware.perform, same]
      exact agree.beside (.still keystream rfl rfl) rfl rfl
  | linkJob move =>
      obtain ⟨_, same⟩ := firmware.performLinkJob_ui move
      simp only [Firmware.perform, same]
      exact agree.beside (.still keystream rfl rfl) rfl rfl

end KeysAgree

/-- After a start the copies agree if the wizard's server is up. -/
theorem booted_keysAgree (keystream : Keystream) (config : DeviceConfig)
    (preferences : Preferences) (boot : BootEnv)
    : (booted config preferences boot).KeysAgree keystream := by
  obtain ⟨session, server⟩ := (Device.powerOn config preferences).restoreLinks_session boot
  obtain ⟨goesOn, served⟩ :=
    ((Device.powerOn config preferences).restoreLinks boot).1.bringUp_keys keystream boot server
  have device
      : (booted config preferences boot).device
        = ((Device.powerOn config preferences).restoreLinks boot).1.bringUp boot :=
    Device.setup_device config preferences boot
  rw [session, ← device] at goesOn
  rw [← device] at served
  exact ⟨goesOn.reachable ⟨[], rfl⟩, fun running => absurd rfl running, served,
    by simp [booted, HttpTask.givenKey]⟩

/-- Along every run the copies agree while the server is up. -/
theorem after_keysAgree (keystream : Keystream) (config : DeviceConfig)
    (preferences : Preferences) (boot : BootEnv) (ops : List FirmwareOp)
    : (after keystream config preferences boot ops).KeysAgree keystream :=
  (firmwareMachine keystream).run_invariant (KeysAgree keystream)
    (booted_keysAgree keystream config preferences boot)
    (fun _ op agree => agree.perform op) ops

/-- Steps among which no reset is keep the key. -/
theorem run_keepsKey {keystream : Keystream} {firmware : Firmware}
    (wf : firmware.device.bridge.session.contexts.WellFormed) (ops : List FirmwareOp)
    (unreset
      : ∀ events ∈ (firmwareMachine keystream).history firmware ops,
          ∀ event ∈ events, event.isReset = false)
    : firmware.device.KeepsKey keystream ((firmwareMachine keystream).run firmware ops).device := by
  induction ops generalizing firmware with
  | nil => exact .still keystream rfl rfl
  | cons op rest ih =>
      obtain ⟨first, later⟩ := List.forall_mem_cons.mp unreset
      have keeps := firmware.perform_keepsKey keystream wf op first
      exact keeps.trans (ih (keeps.session.wellFormed wf) later)

end Firmware

/-- A job that is launched gives away the key of the bridge, and nothing but a reset changes it. -/
theorem Firmware.launched_key {keystream : Keystream} {firmware : Firmware}
    (agree : firmware.KeysAgree keystream) {op : FirmwareOp} {since : List FirmwareOp}
    {event : WizardEvent} {key : AesKey}
    (seen : event ∈ (firmware.perform keystream op).2)
    (launched : event.launchedKey = some key)
    (unreset
      : ∀ events ∈ (firmwareMachine keystream).history (firmware.perform keystream op).1 since,
          ∀ event ∈ events, event.isReset = false)
    : let later := (firmwareMachine keystream).run firmware (op :: since)
      later.device.keyCopies.Are key
      ∧ later.device.bridge.session.Reachable keystream := by
  obtain ⟨⟨env, rfl⟩, gives⟩ := firmware.perform_launches keystream seen launched
  have up : firmware.activity.server = true := by
    apply agree.handler
    intro resting
    rw [resting] at gives
    cases gives
  have keeps := firmware.performHandler_keepsKey keystream env
  have later := keeps.trans
    (run_keepsKey (keeps.session.wellFormed agree.reachable.wellFormed) since unreset)
  refine ⟨?_, later.session.reachable agree.reachable⟩
  have are := agree.served up
  rw [← agree.given key gives] at are
  exact later.copies ▸ are

/-- Every job that is launched, a pairing or a lock link, gives away the key that the bridge works
under, and until the Reset button draws another one this key is the one in memory, in the wizard
and behind the handle of the session.
-/
theorem launched_key_current (keystream : Keystream) (config : DeviceConfig)
    (preferences : Preferences) (boot : BootEnv) (ops since : List FirmwareOp)
    (op : FirmwareOp) (event : WizardEvent) (key : AesKey)
    (seen
      : event ∈ ((Firmware.after keystream config preferences boot ops).perform keystream op).2)
    (launched : event.launchedKey = some key)
    (unreset
      : ∀ events ∈ (firmwareMachine keystream).history
            ((Firmware.after keystream config preferences boot ops).perform keystream op).1 since,
          ∀ event ∈ events, event.isReset = false)
    : (Firmware.after keystream config preferences boot
        (ops ++ op :: since)).device.keyCopies.Are key := by
  have agree := Firmware.after_keysAgree keystream config preferences boot ops
  rw [Firmware.after, Machine.run_append]
  exact (Firmware.launched_key agree seen launched unreset).1

/-- What the household's pairing job is launched with. -/
def householdPairing : KeypadPairer.Request where
  keypadMac := accountKeypad.macPretty
  family := .vision
  keyId := 0x01
  key := Vector.replicate 16 0x11
  sharedToken := Vector.replicate 16 0x11
  espMac := Vector.replicate 6 0

/-- The steps of the household behind the launch of its pairing job. -/
def householdSince : List FirmwareOp := householdOps.drop 5

/-- The household's bridge still works under the key that its keypad was given. -/
theorem launched_key_current_household
    : (Firmware.after clearStream {} {} firstBoot
        (householdOps.take 4 ++ handling 1 :: householdSince)).device.keyCopies.Are
          householdPairing.sharedToken :=
  launched_key_current clearStream {} {} firstBoot (householdOps.take 4) householdSince
    (handling 1) (.pairing (.launched ⟨'p', 1⟩ accountKeypad.name householdPairing)) _
    (by decide +kernel) rfl (by decide +kernel)

end KeypadBridge
