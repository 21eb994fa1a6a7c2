import KeypadBridge.Firmware.Moves

/-! The gates of the wizard along a run. What was confirmed since a handler passed its gate, and
with which family the keypad was paired, is read off the events; the flags in memory agree
with it for as long as the family of a confirmed pairing is not on its way to the wizard.
-/

namespace KeypadBridge
open KeypadBridge.Foundation

-----------------------------------------------------------------------------------------
-- What the events tell
-----------------------------------------------------------------------------------------

/-- What the events tell about the links. -/
structure GateWatch where
  /-- A pairing was confirmed since `handle_pair_` last passed its gate. -/
  pairConfirmed : Bool := false
  /-- A lock link was confirmed since `handle_lock_link_` last passed its gate. -/
  linkConfirmed : Bool := false
  /-- A lock link with an unparseable MAC was applied since the last completed reset. -/
  lockDropped : Bool := false
  /-- The family with which the paired keypad was paired. -/
  family : Option KeypadFamily := none
  deriving DecidableEq

def GateWatch.after (watch : GateWatch) : WizardEvent → GateWatch
  | .pairAllowed => { watch with pairConfirmed := false }
  | .linkAllowed => { watch with linkConfirmed := false }
  | .pairing (.fired _ _ payload) =>
      { watch with pairConfirmed := true, family := some payload.family }
  | .link (.fired ..) => { watch with linkConfirmed := true }
  | .milestone (.lockApplied pending) =>
      { watch with lockDropped := watch.lockDropped || (parseMacPretty pending.mac).isNone }
  | .milestone .linksReset => { watch with lockDropped := false, family := none }
  | _ => watch

/-- The watch behind a list of further events. -/
def GateWatch.along (watch : GateWatch) (events : List WizardEvent) : GateWatch :=
  events.foldl after watch

/-- The watch over a whole run. -/
def gateWatch (events : List WizardEvent) : GateWatch := GateWatch.along {} events

theorem gateWatch_append (first second : List WizardEvent)
    : gateWatch (first ++ second) = (gateWatch first).along second :=
  List.foldl_append ..

/-- An event that tells the watch nothing. -/
def WizardEvent.isSilent (event : WizardEvent) : Bool := event.isLook || event.isAside

theorem GateWatch.after_silent (watch : GateWatch) {event : WizardEvent}
    (silent : event.isSilent = true)
    : watch.after event = watch := by
  cases event with
  | pairing label => cases label <;> first | rfl | cases silent
  | link label => cases label <;> first | rfl | cases silent
  | milestone milestone => cases milestone <;> first | rfl | cases silent
  | replied => rfl
  | _ => cases silent

theorem GateWatch.along_silent (watch : GateWatch) {events : List WizardEvent}
    (silent : ∀ event ∈ events, event.isSilent = true)
    : watch.along events = watch := by
  induction events with
  | nil => rfl
  | cons event rest ih =>
      obtain ⟨first, later⟩ := List.forall_mem_cons.mp silent
      rw [along, List.foldl_cons, watch.after_silent first]
      exact ih later

-----------------------------------------------------------------------------------------
-- The gates
-----------------------------------------------------------------------------------------

namespace HttpTask

/-- `handle_pair_` between its gate and the start of its job. -/
def hasPairGate : HttpTask → Bool
  | .pairAllowed .. | .pairReady .. => true
  | _ => false

/-- `handle_lock_link_` between its gate for locks and the start of its job. -/
def hasLinkGate : HttpTask → Bool
  | .linkAllowed _ | .linkReady _ => true
  | _ => false

/-- `handle_lock_link_` between its gate for keypads and its request. -/
def hasKeypadGate : HttpTask → Bool
  | .linkGated _ | .linkAllowed _ => true
  | _ => false

end HttpTask

/-- The flags agree with what the events tell. -/
structure Gated (watch : GateWatch) (firmware : Firmware) : Prop where
  parkedPairing
    : firmware.gates.pendingPairing ≠ none → firmware.main.appliesPairing = true
  parkedLock : firmware.gates.pendingLock ≠ none → firmware.main.appliesLock = true
  pairing
    : ∀ family,
        firmware.unstoredFamily = some family
        → firmware.gates.keypadPaired = true ∧ watch.family = some family
  lock : firmware.hasUnstoredLock = true → firmware.gates.lockLinked = true
  serving : firmware.http ≠ .resting → firmware.gates.server = true
  pairGate
    : firmware.http.hasPairGate = true
      → firmware.gates.keypadPaired = true
      → watch.pairConfirmed = true
  linkGate
    : firmware.http.hasLinkGate = true
      → firmware.gates.lockLinked = true
      → watch.linkConfirmed = true
  keypadGate : firmware.http.hasKeypadGate = true → firmware.gates.keypadPaired = true
  family
    : firmware.gates.server = true
      → firmware.gates.keypadPaired = true
      → firmware.unstoredFamily = none
      → watch.family = some firmware.gates.keypadFamily

namespace Gated

variable {watch : GateWatch} {before after : Firmware} {events : List WizardEvent}

theorem unstored (gates : after.gates = before.gates) (main : after.main = before.main)
    : after.unstoredFamily = before.unstoredFamily
      ∧ after.hasUnstoredLock = before.hasUnstoredLock := by
  simp only [Firmware.unstoredFamily, Firmware.hasUnstoredLock, gates, main, and_self]

/-- Away from the places where a pairing is parked, none waits. -/
theorem noPairing (gated : Gated watch before) (elsewhere : before.main.appliesPairing = false)
    : before.gates.pendingPairing = none := by
  by_contra waiting
  exact absurd (elsewhere.symm.trans (gated.parkedPairing waiting)) (by decide)

/-- The same for a lock link. -/
theorem noLock (gated : Gated watch before) (elsewhere : before.main.appliesLock = false)
    : before.gates.pendingLock = none := by
  by_contra waiting
  exact absurd (elsewhere.symm.trans (gated.parkedLock waiting)) (by decide)

/-- With flags and `loop()` unmoved, only what the handler stands for is left to check. -/
theorem of_http (gated : Gated watch before) {next : GateWatch}
    (gates : after.gates = before.gates) (main : after.main = before.main)
    (family : next.family = watch.family)
    (serving : after.http ≠ .resting → before.gates.server = true)
    (pairGate
      : after.http.hasPairGate = true
        → before.gates.keypadPaired = true
        → next.pairConfirmed = true)
    (linkGate
      : after.http.hasLinkGate = true
        → before.gates.lockLinked = true
        → next.linkConfirmed = true)
    (keypadGate : after.http.hasKeypadGate = true → before.gates.keypadPaired = true)
    : Gated next after where
  parkedPairing := by
    rw [gates, main]
    exact gated.parkedPairing
  parkedLock := by
    rw [gates, main]
    exact gated.parkedLock
  pairing := by
    rw [(unstored gates main).1, gates, family]
    exact gated.pairing
  lock := by
    rw [(unstored gates main).2, gates]
    exact gated.lock
  serving := gates ▸ serving
  pairGate := gates ▸ pairGate
  linkGate := gates ▸ linkGate
  keypadGate := gates ▸ keypadGate
  family := by
    rw [(unstored gates main).1, gates, family]
    exact gated.family

/-- With the flags unmoved and nothing stored, only the place of what waits is left to check. -/
theorem of_main (gated : Gated watch before) (http : after.http = before.http)
    {pendingPairing : Option PendingPairing} {pendingLock : Option PendingLock}
    (gates : after.gates = { before.gates with pendingPairing, pendingLock })
    (parkedPairing : pendingPairing ≠ none → after.main.appliesPairing = true)
    (parkedLock : pendingLock ≠ none → after.main.appliesLock = true)
    (family : after.unstoredFamily = before.unstoredFamily)
    (lock : after.hasUnstoredLock = before.hasUnstoredLock)
    : Gated watch after where
  parkedPairing := by
    rw [gates]
    exact parkedPairing
  parkedLock := by
    rw [gates]
    exact parkedLock
  pairing := by
    rw [family, gates]
    exact gated.pairing
  lock := by
    rw [lock, gates]
    exact gated.lock
  serving := by
    rw [http, gates]
    exact gated.serving
  pairGate := by
    rw [http, gates]
    exact gated.pairGate
  linkGate := by
    rw [http, gates]
    exact gated.linkGate
  keypadGate := by
    rw [http, gates]
    exact gated.keypadGate
  family := by
    rw [family, gates]
    exact gated.family

/-- A step of a handler: it passes a gate only while the gate is open. -/
theorem handler (gated : Gated watch before)
    (move : HandlerMove before.device.pairingUi before.http events after.http)
    (gates : after.gates = before.gates) (main : after.main = before.main)
    : Gated (watch.along events) after := by
  have serving := gated.serving
  have pairGate := gated.pairGate
  have linkGate := gated.linkGate
  have keypadGate := gated.keypadGate
  generalize same : after.http = next at move
  generalize before.http = http at move serving pairGate linkGate keypadGate
  cases move with
  | pairAllowed unpaired =>
      refine gated.of_http gates main rfl (fun _ => serving nofun) ?_ ?_ ?_ <;> rw [same]
      · exact fun _ paired => absurd (unpaired.symm.trans paired) (by decide)
      · simp [HttpTask.hasLinkGate]
      · simp [HttpTask.hasKeypadGate]
  | pairReady =>
      refine gated.of_http gates main rfl (fun _ => serving nofun) ?_ ?_ ?_ <;> rw [same]
      · exact fun _ => pairGate rfl
      · simp [HttpTask.hasLinkGate]
      · simp [HttpTask.hasKeypadGate]
  | linkGated paired =>
      refine gated.of_http gates main rfl (fun _ => serving nofun) ?_ ?_ ?_ <;> rw [same]
      · simp [HttpTask.hasPairGate]
      · simp [HttpTask.hasLinkGate]
      · exact fun _ => paired
  | linkAllowed unlinked =>
      refine gated.of_http gates main rfl (fun _ => serving nofun) ?_ ?_ ?_ <;> rw [same]
      · simp [HttpTask.hasPairGate]
      · exact fun _ linked => absurd (unlinked.symm.trans linked) (by decide)
      · exact fun _ => keypadGate rfl
  | linkRequested =>
      refine gated.of_http gates main rfl (fun _ => serving nofun) ?_ ?_ ?_ <;> rw [same]
      · simp [HttpTask.hasPairGate]
      · exact fun _ => linkGate rfl
      · simp [HttpTask.hasKeypadGate]
  | resting | refused | pairAbandoned | pairArmed | linkAbandoned | linkArmed =>
      refine gated.of_http gates main rfl ?_ ?_ ?_ ?_ <;> rw [same]
      · simp
      · simp [HttpTask.hasPairGate]
      · simp [HttpTask.hasLinkGate]
      · simp [HttpTask.hasKeypadGate]
  | pairStarted | pairLaunched | linkStarted | linkLaunched =>
      refine gated.of_http gates main rfl (fun _ => serving nofun) ?_ ?_ ?_ <;> rw [same]
      · simp [HttpTask.hasPairGate]
      · simp [HttpTask.hasLinkGate]
      · simp [HttpTask.hasKeypadGate]

/-- A step of `loop()`: what it confirms, it shows, and what it applies was confirmed. -/
theorem loop (gated : Gated watch before)
    (move : MainMove before.gates before.http before.main events after.main after.gates)
    (http : after.http = before.http)
    : Gated (watch.along events) after := by
  generalize here : before.main = main at move
  generalize sameMain : after.main = next at move
  generalize sameGates : after.gates = gates at move
  have unparkedPairing (elsewhere : main.appliesPairing = false) :=
    gated.noPairing (here ▸ elsewhere)
  have unparkedLock (elsewhere : main.appliesLock = false) := gated.noLock (here ▸ elsewhere)
  have pairing := gated.pairing
  have lock := gated.lock
  have family := gated.family
  rw [Firmware.unstoredFamily, here] at pairing family
  rw [Firmware.hasUnstoredLock, here] at lock
  cases move with
  | look looks empty emptyNext ready readyLock =>
      have silent : watch.along events = watch :=
        watch.along_silent fun event shown => by simp [WizardEvent.isSilent, looks event shown]
      rw [silent]
      refine gated.of_main http sameGates ?_ ?_ ?_ ?_
      · rw [sameMain]
        exact fun waiting => ready.resolve_left (by simp [← here, gated.parkedPairing waiting])
      · rw [sameMain]
        exact fun waiting => readyLock.resolve_left (by simp [← here, gated.parkedLock waiting])
      · simp only [Firmware.unstoredFamily, here, sameMain, sameGates, empty.family,
          emptyNext.family]
      · simp only [Firmware.hasUnstoredLock, here, sameMain, sameGates, empty.lock,
          emptyNext.lock]
  | pairingNotified =>
      refine gated.of_main http sameGates ?_ ?_ ?_ ?_
      · rw [sameMain]
        exact fun _ => MainTask.appliesPairing_pollLink _
      · exact fun waiting => absurd (unparkedLock rfl) waiting
      · simp only [Firmware.unstoredFamily, here, sameMain, sameGates,
          (MainTask.emptyHanded_pollLink _).family]
        rfl
      · simp only [Firmware.hasUnstoredLock, here, sameMain, sameGates,
          (MainTask.emptyHanded_pollLink _).lock]
        rfl
  | lockNotified =>
      refine gated.of_main http sameGates ?_ ?_ ?_ ?_ <;>
        simp only [Firmware.unstoredFamily, Firmware.hasUnstoredLock, here, sameMain, sameGates]
      · exact fun _ => rfl
      · exact fun _ => rfl
      · rfl
      · rfl
  | pairingTaken waiting =>
      refine gated.of_main http sameGates ?_ ?_ ?_ ?_ <;>
        simp only [Firmware.unstoredFamily, Firmware.hasUnstoredLock, here, sameMain, sameGates,
          waiting]
      · exact fun waiting => absurd rfl waiting
      · exact fun _ => rfl
      · rfl
      · rfl
  | pairingIdle waiting =>
      refine gated.of_main http sameGates ?_ ?_ ?_ ?_ <;>
        simp only [Firmware.unstoredFamily, Firmware.hasUnstoredLock, here, sameMain, sameGates]
      · exact fun parked => absurd waiting parked
      · exact fun _ => rfl
      · rfl
      · rfl
  | lockTaken waiting =>
      refine gated.of_main http sameGates ?_ ?_ ?_ ?_ <;>
        simp only [Firmware.unstoredFamily, Firmware.hasUnstoredLock, here, sameMain, sameGates,
          waiting]
      · exact fun waiting => absurd (unparkedPairing rfl) waiting
      · exact fun waiting => absurd rfl waiting
      · rfl
      · rfl
  | lockIdle waiting =>
      refine gated.of_main http sameGates ?_ ?_ ?_ ?_ <;>
        simp only [Firmware.unstoredFamily, Firmware.hasUnstoredLock, here, sameMain, sameGates]
      · exact fun waiting => absurd (unparkedPairing rfl) waiting
      · exact fun parked => absurd waiting parked
      · rfl
      · rfl
  | pairingConfirmed =>
      refine ⟨?_, ?_, ?_, ?_, ?_, ?_, ?_, ?_, ?_⟩ <;>
        simp only [Firmware.unstoredFamily, Firmware.hasUnstoredLock, sameGates, sameMain, http]
      · exact fun waiting => absurd (unparkedPairing rfl) waiting
      · exact fun waiting => absurd (unparkedLock rfl) waiting
      · exact fun _ unstored => ⟨trivial, unstored⟩
      · exact lock
      · exact gated.serving
      · exact fun _ _ => rfl
      · exact gated.linkGate
      · exact fun _ => trivial
      · exact fun _ _ => nofun
  | lockConfirmed =>
      refine ⟨?_, ?_, ?_, ?_, ?_, ?_, ?_, ?_, ?_⟩ <;>
        simp only [Firmware.unstoredFamily, Firmware.hasUnstoredLock, sameGates, sameMain, http]
      · exact fun _ => rfl
      · exact fun waiting => absurd (unparkedLock rfl) waiting
      · exact pairing
      · exact fun _ => trivial
      · exact gated.serving
      · exact gated.pairGate
      · exact fun _ _ => rfl
      · exact gated.keypadGate
      · exact family
  | pairedStored =>
      obtain ⟨paired, known⟩ := pairing _ rfl
      refine ⟨?_, ?_, ?_, ?_, ?_, ?_, ?_, ?_, ?_⟩ <;>
        simp only [Firmware.unstoredFamily, Firmware.hasUnstoredLock, sameGates, sameMain, http]
      · exact fun waiting => absurd (unparkedPairing rfl) waiting
      · exact fun _ => rfl
      · exact fun family unstored => ⟨trivial, (pairing family unstored).2⟩
      · exact lock
      · exact gated.serving
      · exact fun gate _ => gated.pairGate gate paired
      · exact gated.linkGate
      · exact fun _ => trivial
      · exact fun _ _ => nofun
  | familyStored =>
      obtain ⟨paired, known⟩ := pairing _ rfl
      refine ⟨?_, ?_, ?_, ?_, ?_, ?_, ?_, ?_, ?_⟩ <;>
        simp only [Firmware.unstoredFamily, Firmware.hasUnstoredLock, sameGates, sameMain, http,
          unparkedPairing rfl]
      · exact fun waiting => absurd rfl waiting
      · exact fun _ => rfl
      · exact fun _ => nofun
      · exact lock
      · exact gated.serving
      · exact gated.pairGate
      · exact gated.linkGate
      · exact gated.keypadGate
      · exact fun _ _ _ => known
  | linkedStored =>
      have linked := lock rfl
      refine ⟨?_, ?_, ?_, ?_, ?_, ?_, ?_, ?_, ?_⟩ <;>
        simp only [Firmware.unstoredFamily, Firmware.hasUnstoredLock, sameGates, sameMain, http,
          unparkedLock rfl]
      · exact fun waiting => absurd (unparkedPairing rfl) waiting
      · exact fun waiting => absurd rfl waiting
      · exact pairing
      · simp [MainTask.hasLockInHand]
      · exact gated.serving
      · exact gated.pairGate
      · exact fun gate _ => gated.linkGate gate linked
      · exact gated.keypadGate
      · exact family
  | stopped resting =>
      refine ⟨?_, ?_, ?_, ?_, ?_, ?_, ?_, ?_, ?_⟩ <;>
        simp only [Firmware.unstoredFamily, Firmware.hasUnstoredLock, sameGates, sameMain, http]
      · exact fun waiting => absurd (unparkedPairing rfl) waiting
      · exact fun waiting => absurd (unparkedLock rfl) waiting
      · exact pairing
      · exact lock
      · exact fun busy => absurd resting busy
      · exact gated.pairGate
      · exact gated.linkGate
      · exact gated.keypadGate
      · exact nofun

/-- Every step of the firmware keeps the flags in agreement with the events. -/
theorem step (gated : Gated watch before) (move : FirmwareMove before events after)
    : Gated (watch.along events) after := by
  cases move with
  | handler move gates main => exact gated.handler move gates main
  | loop move http => exact gated.loop move http
  | reset outside stopped gates main http =>
      -- While the server is down no handler runs, and outside `loop()` nothing waits.
      have resting : after.http = .resting := by
        rw [http]
        by_contra busy
        exact absurd (stopped.symm.trans (gated.serving busy)) (by decide)
      have unparkedPairing := gated.noPairing (by rw [outside]; rfl)
      have unparkedLock := gated.noLock (by rw [outside]; rfl)
      refine ⟨?_, ?_, ?_, ?_, ?_, ?_, ?_, ?_, ?_⟩ <;>
        simp only [Firmware.unstoredFamily, Firmware.hasUnstoredLock, gates, main, resting,
          outside, unparkedPairing, unparkedLock]
      · exact fun waiting => absurd rfl waiting
      · exact fun waiting => absurd rfl waiting
      · exact fun _ => nofun
      · simp [MainTask.hasLockInHand]
      · simp
      · simp
      · simp
      · simp [HttpTask.hasKeypadGate]
      · simp
  | requested serving asked gates main =>
      refine gated.of_http gates main rfl (fun _ => serving) ?_ ?_ ?_ <;>
        generalize after.http = http at asked <;> cases http <;>
        simp_all [HttpTask.isAsked, HttpTask.hasPairGate, HttpTask.hasLinkGate,
          HttpTask.hasKeypadGate]
  | aside aside gates main http =>
      have silent : watch.along events = watch :=
        watch.along_silent fun event shown => by simp [WizardEvent.isSilent, aside event shown]
      rw [silent]
      refine gated.of_http gates main rfl ?_ ?_ ?_ ?_ <;> rw [http]
      · exact gated.serving
      · exact gated.pairGate
      · exact gated.linkGate
      · exact gated.keypadGate

end Gated

namespace Firmware

/-- After a start no gate was passed, and with the server up no keypad is linked. -/
theorem booted_gated (config : DeviceConfig) (preferences : Preferences) (boot : BootEnv)
    : Gated {} (booted config preferences boot) := by
  obtain ⟨⟨_, _, _, _, noPairing, noLock⟩, closed⟩ :=
    Device.setup_linkingState config preferences boot
  refine ⟨?_, ?_, ?_, ?_, ?_, ?_, ?_, ?_, ?_⟩
  · exact fun waiting => absurd noPairing waiting
  · exact fun waiting => absurd noLock waiting
  · intro family unstored
    have parked : (booted config preferences boot).gates.pendingPairing = none := noPairing
    rw [unstoredFamily, parked] at unstored
    cases unstored
  · intro unstored
    have parked : (booted config preferences boot).gates.pendingLock = none := noLock
    rw [hasUnstoredLock, parked] at unstored
    cases unstored
  · simp [booted]
  · simp [booted, HttpTask.hasPairGate]
  · simp [booted, HttpTask.hasLinkGate]
  · simp [booted, HttpTask.hasKeypadGate]
  · exact fun up paired => absurd ((closed up).symm.trans paired) (by decide)

/-- After every run the flags agree with the events. -/
theorem after_gated (keystream : Keystream) (config : DeviceConfig) (preferences : Preferences)
    (boot : BootEnv) (ops : List FirmwareOp)
    : Gated (gateWatch (events keystream config preferences boot ops))
        (after keystream config preferences boot ops) := by
  refine (firmwareMachine keystream).history_invariant
    (fun outputs firmware => Gated (gateWatch outputs.flatten) firmware)
    (booted_gated config preferences boot) ?_ ops
  intro outputs firmware op gated
  rw [List.flatten_append, gateWatch_append, List.flatten_singleton]
  exact gated.step (firmware.perform_moves keystream op)

end Firmware

end KeypadBridge
