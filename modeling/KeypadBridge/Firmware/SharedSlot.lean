import KeypadBridge.Firmware.Attribution
import KeypadBridge.Firmware.Gates

/-! The slot in which a lock is provisioned. A request carries the shared slot of the family
that the wizard holds, which is that of the paired keypad unless a confirmed pairing of
another family is still on its way to the wizard.
-/

namespace KeypadBridge
open KeypadBridge.Foundation

/-- The family with which the currently paired keypad was paired, if one was paired since the
start and the last completed reset.
-/
def pairedFamily (events : List WizardEvent) : Option KeypadFamily := (gateWatch events).family

/-- A request for a lock link is built by its handler, in the slot of the wizard's family. -/
theorem FirmwareMove.requestsLink {before after : Firmware} {events : List WizardEvent}
    {request : LockLinker.Request} (move : FirmwareMove before events after)
    (shown : .linkRequested request ∈ events)
    : before.http.hasKeypadGate = true
      ∧ before.http ≠ .resting
      ∧ request.sharedSlotId = sharedSlotForFamily before.gates.keypadFamily := by
  cases move with
  | handler move =>
      have family : before.gates.keypadFamily = before.device.pairingUi.keypadFamily := rfl
      generalize before.http = http at move ⊢
      generalize after.http = next at move
      cases move <;> simp at shown
      rename_i slot
      subst shown
      exact ⟨rfl, nofun, family ▸ slot⟩
  | loop move =>
      exact absurd (move.isLoops _ shown) (by simp [WizardEvent.isLoops, WizardEvent.isLook])
  | reset => simp at shown
  | requested => simp at shown
  | aside aside => exact absurd (aside _ shown) (by simp [WizardEvent.isAside])

/-- A request for a lock link carries the shared slot of the paired keypad's family exactly when
no confirmed pairing of a family with the other slot is on its way: from the critical section
that opens the gate, over the callback and the flag, until the wizard is given the family.
-/
theorem link_requested_in_keypad_slot_iff (keystream : Keystream) (config : DeviceConfig)
    (preferences : Preferences) (boot : BootEnv) (ops : List FirmwareOp) (op : FirmwareOp)
    (request : LockLinker.Request)
    (requested
      : let before := Firmware.after keystream config preferences boot ops
        .linkRequested request ∈ (before.perform keystream op).2)
    : let events := Firmware.events keystream config preferences boot ops
      let before := Firmware.after keystream config preferences boot ops
      (∃ family,
        pairedFamily events = some family
        ∧ request.sharedSlotId = sharedSlotForFamily family)
      ↔ ∀ family,
          before.unstoredFamily = some family
          → sharedSlotForFamily family
            = sharedSlotForFamily before.device.pairingUi.keypadFamily := by
  intro events before
  have gated := Firmware.after_gated keystream config preferences boot ops
  obtain ⟨gate, busy, slot⟩ := (before.perform_moves keystream op).requestsLink requested
  have paired := gated.keypadGate gate
  rw [slot]
  cases unstored : before.unstoredFamily with
  | none =>
      have known := gated.family (gated.serving busy) paired unstored
      exact ⟨fun _ => nofun, fun _ => ⟨_, known, rfl⟩⟩
  | some family =>
      have known := (gated.pairing family unstored).2
      constructor
      · rintro ⟨pairedWith, isPaired, same⟩ other onItsWay
        obtain rfl := Option.some.inj onItsWay
        obtain rfl := Option.some.inj (known.symm.trans isPaired)
        exact same.symm
      · intro same
        exact ⟨family, known, (same family rfl).symm⟩

/-- The keypad is paired as Vision, `loop()` makes some steps, and a request to link the lock
passes its gates.
-/
def linkingOps (steps : Nat) : List FirmwareOp :=
  pairOps 1 5 ++ [.pairJob .succeed] ++ loopOps 1 steps ++ linkOps 2 2

/-- The request for the household's lock, in the given slot. -/
def lockRequest (slot : UInt8) : LockLinker.Request where
  name := accountLock.name
  mac := accountLock.macPretty
  model := .lock
  sharedKey := Vector.replicate 16 0x11
  sharedSlotId := slot
  lockKeyId := 0x01
  lockKey := Vector.replicate 16 0x11

/-- With the pairing applied, the lock is to be provisioned in the keypad's slot. -/
theorem link_requested_in_keypad_slot_applied
    : (∃ family,
        pairedFamily (Firmware.events clearStream {} {} firstBoot (linkingOps 8)) = some family
        ∧ (lockRequest sharedSlotVision).sharedSlotId = sharedSlotForFamily family)
      ↔ ∀ family,
          (Firmware.after clearStream {} {} firstBoot (linkingOps 8)).unstoredFamily
            = some family
          → sharedSlotForFamily family
            = sharedSlotForFamily
                (Firmware.after clearStream {} {} firstBoot
                  (linkingOps 8)).device.pairingUi.keypadFamily :=
  link_requested_in_keypad_slot_iff clearStream {} {} firstBoot (linkingOps 8) (handling 2)
    (lockRequest sharedSlotVision) (by decide +kernel)

/-- While the new family is on its way, the lock is requested in the slot of the old one. Here
`apply_pending_pairing_` has taken the pairing and is saving it.
-/
theorem link_requested_in_stale_slot
    : ¬ ∀ (keystream : Keystream) (config : DeviceConfig) (preferences : Preferences)
        (boot : BootEnv) (ops : List FirmwareOp) (op : FirmwareOp)
        (request : LockLinker.Request),
          let events := Firmware.events keystream config preferences boot ops
          let before := Firmware.after keystream config preferences boot ops
          .linkRequested request ∈ (before.perform keystream op).2
          → ∃ family,
              pairedFamily events = some family
              ∧ request.sharedSlotId = sharedSlotForFamily family := by
  intro always
  obtain ⟨family, paired, slot⟩ :=
    always clearStream {} {} firstBoot (linkingOps 6) (handling 2)
      (lockRequest sharedSlotOriginal) (by decide +kernel)
  have vision
      : pairedFamily (Firmware.events clearStream {} {} firstBoot (linkingOps 6))
        = some .vision := by
    decide +kernel
  obtain rfl := Option.some.inj (vision.symm.trans paired)
  exact absurd slot (by decide)

/-- The same from the confirmation on, wherever `loop()` is, until the family is stored. -/
example
    : ∀ steps ∈ [4, 5, 6, 7],
        .linkRequested (lockRequest sharedSlotOriginal)
          ∈ ((Firmware.after clearStream {} {} firstBoot (linkingOps steps)).perform clearStream
              (handling 2)).2 := by
  decide +kernel

end KeypadBridge
