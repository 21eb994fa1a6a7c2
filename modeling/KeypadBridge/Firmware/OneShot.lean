import KeypadBridge.Firmware.Attribution
import KeypadBridge.Firmware.Gates

/-! Linking is one-shot as long as no confirmation falls between the gate of a request and the
start of its job, and no lock link is dropped for its MAC.
-/

namespace KeypadBridge
open KeypadBridge.Foundation

/-- Behind its gate a handler starts its job before another job of the kind is confirmed; and
no lock link was dropped, which would open the gate for locks again.
-/
def WizardEvent.Unhindered (seen : List WizardEvent) (event : WizardEvent) : Prop :=
  (event.startsPairing = true → (gateWatch seen).pairConfirmed = false)
  ∧ (event.startsLink = true
    → (gateWatch seen).linkConfirmed = false ∧ (gateWatch seen).lockDropped = false)

instance (seen : List WizardEvent) (event : WizardEvent) : Decidable (event.Unhindered seen) :=
  inferInstanceAs (Decidable ((_ → _) ∧ (_ → _)))

/-- No completed reset is among the events. -/
def Unreset (events : List WizardEvent) : Prop := .milestone .linksReset ∉ events

instance (events : List WizardEvent) : Decidable (Unreset events) :=
  inferInstanceAs (Decidable (_ ∉ events))

section

variable {watch : GateWatch} {before after : Firmware} {events : List WizardEvent}

/-- Without a reset a linked keypad stays linked. -/
theorem FirmwareMove.keepsPaired (move : FirmwareMove before events after)
    (unreset : Unreset events) (paired : before.gates.keypadPaired = true)
    : after.gates.keypadPaired = true := by
  cases move with
  | handler _ gates | requested _ _ gates | aside _ gates => exact gates ▸ paired
  | loop move =>
      generalize after.gates = gates at move ⊢
      generalize before.main = main at move
      generalize after.main = next at move
      cases move with
      | pairingConfirmed | pairedStored => rfl
      | _ => exact paired
  | reset => exact absurd (List.mem_singleton.mpr rfl) unreset

/-- Without a reset a dropped lock link stays on record. -/
theorem GateWatch.along_lockDropped (unreset : Unreset events)
    (dropped : watch.lockDropped = true)
    : (watch.along events).lockDropped = true := by
  induction events generalizing watch with
  | nil => exact dropped
  | cons event rest ih =>
      refine ih (fun member => unreset (List.mem_cons_of_mem _ member)) ?_
      have other : event ≠ .milestone .linksReset := fun same => unreset (by simp [same])
      unfold GateWatch.after
      split <;> simp_all

/-- Without a reset a linked lock stays linked, or was dropped for its MAC. -/
theorem FirmwareMove.keepsLinked (move : FirmwareMove before events after)
    (unreset : Unreset events)
    (linked : before.gates.lockLinked = true ∨ watch.lockDropped = true)
    : after.gates.lockLinked = true ∨ (watch.along events).lockDropped = true := by
  rcases linked with linked | dropped
  · cases move with
    | handler _ gates | requested _ _ gates | aside _ gates => exact .inl (gates ▸ linked)
    | loop move =>
        generalize after.gates = gates at move ⊢
        generalize before.main = main at move
        generalize after.main = next at move
        cases move with
        | lockConfirmed => exact .inl rfl
        | @linkedStored pending =>
            cases parsed : parseMacPretty pending.mac with
            | some mac => exact .inl (by simp)
            | none => exact .inr (by simp [GateWatch.along, GateWatch.after, parsed])
        | _ => exact .inl linked
    | reset => exact absurd (List.mem_singleton.mpr rfl) unreset
  · exact .inr (GateWatch.along_lockDropped unreset dropped)

/-- With a keypad linked, an unhindered step starts no pairing job. -/
theorem Gated.startsNoPairing (gated : Gated watch before)
    (move : FirmwareMove before events after) (paired : before.gates.keypadPaired = true)
    (unhindered
      : ∀ event, events = [event] → event.startsPairing = true → watch.pairConfirmed = false)
    : ∀ event ∈ events, event.startsPairing = false := by
  intro event shown
  by_contra starts
  obtain ⟨id, name, request, rfl⟩ := event.eq_of_startsPairing (by simpa using starts)
  obtain ⟨alone, http, _⟩ := move.startsPairing shown
  have confirmed := gated.pairGate (by simp [http, HttpTask.hasPairGate]) paired
  exact absurd (confirmed.symm.trans (unhindered _ alone rfl)) (by decide)

/-- With a lock linked or dropped, an unhindered step starts no lock-link job. -/
theorem Gated.startsNoLink (gated : Gated watch before)
    (move : FirmwareMove before events after)
    (linked : before.gates.lockLinked = true ∨ watch.lockDropped = true)
    (unhindered
      : ∀ event,
          events = [event]
          → event.startsLink = true
          → watch.linkConfirmed = false ∧ watch.lockDropped = false)
    : ∀ event ∈ events, event.startsLink = false := by
  intro event shown
  by_contra starts
  obtain ⟨id, request, rfl⟩ := event.eq_of_startsLink (by simpa using starts)
  obtain ⟨alone, http, _⟩ := move.startsLink shown
  obtain ⟨unconfirmed, kept⟩ := unhindered _ alone rfl
  have linked := linked.resolve_right (by simp [kept])
  have confirmed := gated.linkGate (by simp [http, HttpTask.hasLinkGate]) linked
  exact absurd (confirmed.symm.trans unconfirmed) (by decide)

end

/-- What is seen of further steps. -/
def Firmware.eventsFrom (keystream : Keystream) (firmware : Firmware) (ops : List FirmwareOp)
    : List WizardEvent :=
  ((firmwareMachine keystream).history firmware ops).flatten

section

variable {keystream : Keystream} {config : DeviceConfig} {preferences : Preferences}
  {boot : BootEnv}

theorem Firmware.after_snoc (first : List FirmwareOp) (op : FirmwareOp)
    : after keystream config preferences boot (first ++ [op])
      = ((after keystream config preferences boot first).perform keystream op).1 := by
  rw [after, Machine.run_append]
  rfl

/-- What is not started while a guard is up, and leaves the guard up as long as nothing is
reset, is not started on the way, by induction on the further steps.
-/
theorem startsNone_along {starts : WizardEvent → Bool} (guarded : List FirmwareOp → Prop)
    (silent
      : ∀ first op,
          guarded first
          → (∀ event,
              ((Firmware.after keystream config preferences boot first).perform keystream op).2
                = [event]
              → event.Unhindered (Firmware.events keystream config preferences boot first))
          → ∀ event
              ∈ ((Firmware.after keystream config preferences boot first).perform keystream op).2,
              starts event = false)
    (kept
      : ∀ first op,
          Unreset
            ((Firmware.after keystream config preferences boot first).perform keystream op).2
          → guarded first
          → guarded (first ++ [op]))
    {first second rest : List FirmwareOp}
    (unhindered
      : Along WizardEvent.Unhindered []
          (Firmware.events keystream config preferences boot (first ++ second ++ rest)))
    (unreset
      : Unreset
          ((Firmware.after keystream config preferences boot first).eventsFrom keystream second))
    (guard : guarded first)
    : ∀ event
        ∈ (Firmware.after keystream config preferences boot first).eventsFrom keystream second,
        starts event = false := by
  induction second generalizing first with
  | nil => simp [Firmware.eventsFrom]
  | cons op more ih =>
      rw [List.append_assoc, List.cons_append] at unhindered
      simp only [Firmware.eventsFrom, Machine.history, List.flatten_cons, Unreset,
        List.mem_append, not_or] at unreset ⊢
      rintro event (now | later)
      · exact silent first op guard
          (fun event alone => Firmware.allowed_of_along unhindered alone) event now
      · refine @ih (first ++ [op]) ?_ ?_ (kept first op unreset.1 guard) event ?_
        · simpa using unhindered
        · rw [Firmware.after_snoc]
          exact unreset.2
        · rw [Firmware.after_snoc]
          exact later

/-- From a linked keypad on. -/
theorem startsNoPairing_along {first second rest : List FirmwareOp}
    (unhindered
      : Along WizardEvent.Unhindered []
          (Firmware.events keystream config preferences boot (first ++ second ++ rest)))
    (unreset
      : Unreset
          ((Firmware.after keystream config preferences boot first).eventsFrom keystream second))
    (paired
      : (Firmware.after keystream config preferences boot first).gates.keypadPaired = true)
    : ∀ event
        ∈ (Firmware.after keystream config preferences boot first).eventsFrom keystream second,
        event.startsPairing = false := by
  refine startsNone_along
    (fun first =>
      (Firmware.after keystream config preferences boot first).gates.keypadPaired = true)
    ?_ ?_ unhindered unreset paired
  · intro first op paired allowed
    have gated := Firmware.after_gated keystream config preferences boot first
    exact gated.startsNoPairing (Firmware.perform_moves keystream _ op) paired
      fun event alone => (allowed event alone).1
  · intro first op unreset paired
    rw [Firmware.after_snoc]
    exact (Firmware.perform_moves keystream _ op).keepsPaired unreset paired

/-- From a linked or dropped lock on. -/
theorem startsNoLink_along {first second rest : List FirmwareOp}
    (unhindered
      : Along WizardEvent.Unhindered []
          (Firmware.events keystream config preferences boot (first ++ second ++ rest)))
    (unreset
      : Unreset
          ((Firmware.after keystream config preferences boot first).eventsFrom keystream second))
    (linked
      : (Firmware.after keystream config preferences boot first).gates.lockLinked = true
        ∨ (gateWatch
            (Firmware.events keystream config preferences boot first)).lockDropped = true)
    : ∀ event
        ∈ (Firmware.after keystream config preferences boot first).eventsFrom keystream second,
        event.startsLink = false := by
  refine startsNone_along
    (fun first =>
      (Firmware.after keystream config preferences boot first).gates.lockLinked = true
      ∨ (gateWatch
          (Firmware.events keystream config preferences boot first)).lockDropped = true)
    ?_ ?_ unhindered unreset linked
  · intro first op linked allowed
    have gated := Firmware.after_gated keystream config preferences boot first
    exact gated.startsNoLink (Firmware.perform_moves keystream _ op) linked
      fun event alone => (allowed event alone).2
  · intro first op unreset linked
    rw [Firmware.after_snoc, Firmware.events_snoc, gateWatch_append]
    exact (Firmware.perform_moves keystream _ op).keepsLinked unreset linked

end

/-- In an unhindered run, once a keypad is linked no pairing job is started before a completed
reset, and once a lock is linked no lock-link job is.
-/
theorem linking_is_one_shot (keystream : Keystream) (config : DeviceConfig)
    (preferences : Preferences) (boot : BootEnv) (ops : List FirmwareOp)
    (unhindered
      : Along WizardEvent.Unhindered []
          (Firmware.events keystream config preferences boot ops))
    : ∀ first second rest,
        ops = first ++ second ++ rest
        → let before := Firmware.after keystream config preferences boot first
          let shown := before.eventsFrom keystream second
          Unreset shown
          → (before.device.pairingUi.keypadPaired = true
              → ∀ event ∈ shown, event.startsPairing = false)
            ∧ (before.device.pairingUi.lockLinked = true
              → ∀ event ∈ shown, event.startsLink = false) := by
  rintro first second rest rfl before shown unreset
  exact ⟨startsNoPairing_along unhindered unreset,
    fun linked => startsNoLink_along unhindered unreset (.inl linked)⟩

/-- With a keypad linked, another request to pair starts nothing. -/
theorem linking_is_one_shot_household
    : (Firmware.after clearStream {} {} firstBoot householdOps).device.pairingUi.keypadPaired
        = true
      ∧ ∀ event
          ∈ (Firmware.after clearStream {} {} firstBoot householdOps).eventsFrom clearStream
            (pairOps 3 5),
          event.startsPairing = false := by
  have linked
      : (Firmware.after clearStream {} {} firstBoot householdOps).device.pairingUi.keypadPaired
        = true := by decide +kernel
  exact ⟨linked,
    (linking_is_one_shot clearStream {} {} firstBoot (householdOps ++ pairOps 3 5 ++ [])
      (by decide +kernel) householdOps (pairOps 3 5) [] rfl (by decide +kernel)).1 linked⟩

/-- Behind the gate of a second request, the job of the first one succeeds and is confirmed. -/
def confirmedBehindGateOps : List FirmwareOp :=
  pairOps 1 5 ++ pairOps 2 2 ++ [.pairJob .succeed] ++ loopOps 2 4

/-- A request that passed its gate in time starts its job with a keypad linked. -/
theorem second_pairing_started
    : ¬ ∀ (keystream : Keystream) (config : DeviceConfig) (preferences : Preferences)
        (boot : BootEnv) (ops first second rest : List FirmwareOp),
          ops = first ++ second ++ rest
          → let before := Firmware.after keystream config preferences boot first
            let shown := before.eventsFrom keystream second
            Unreset shown
            → (before.device.pairingUi.keypadPaired = true
                → ∀ event ∈ shown, event.startsPairing = false)
              ∧ (before.device.pairingUi.lockLinked = true
                → ∀ event ∈ shown, event.startsLink = false) := by
  intro always
  have startsNone :=
    (always clearStream {} {} firstBoot (confirmedBehindGateOps ++ [handling 3] ++ [])
      confirmedBehindGateOps [handling 3] [] rfl (by decide +kernel)).1 (by decide +kernel)
  exact absurd startsNone (by decide +kernel)

end KeypadBridge
