import KeypadBridge.Bridge.Reset
import KeypadBridge.Firmware.Boards

/-! The callbacks of the wizard belong to the jobs they report: each runs for a job that was
started here and succeeded, with the name captured for that job and what the job found, and at
most once for every job.
-/

namespace KeypadBridge
open KeypadBridge.Foundation
open KeypadBridge.Foundation.JobBoard

/-- While job ids are fresh, every callback of either kind is that of one job that succeeded,
carries the name its handler captured and the payload of its request, and is the job's first.
-/
theorem callbacks_attributed (keystream : Keystream) (config : DeviceConfig)
    (preferences : Preferences) (boot : BootEnv) (ops : List FirmwareOp)
    (freshPairing
      : Fresh (pairingLabels (Firmware.events keystream config preferences boot ops)))
    (freshLink : Fresh (linkLabels (Firmware.events keystream config preferences boot ops)))
    : let events := Firmware.events keystream config preferences boot ops
      (∀ before id name payload after,
        pairingLabels events = before ++ .fired id name payload :: after
        → (∃ request, Succeeded before id name request ∧ payload = request.payload)
          ∧ ¬ Fired before id)
      ∧ ∀ before id payload after,
          linkLabels events = before ++ .fired id () payload :: after
          → (∃ request, Succeeded before id () request ∧ payload = request.payload)
            ∧ ¬ Fired before id := by
  intro events
  obtain ⟨_, pairing, link⟩ :=
    Firmware.after_boardsRun keystream config preferences boot ops
  obtain ⟨_, blankPairing, blankLink⟩ := Firmware.booted_boards config preferences boot
  refine ⟨?_, ?_⟩
  · intro before id name payload after split
    rw [split] at pairing freshPairing
    exact pairing.fired_once blankPairing freshPairing
  · intro before id payload after split
    rw [split] at link freshLink
    exact link.fired_once blankLink freshLink

-----------------------------------------------------------------------------------------
-- A household
-----------------------------------------------------------------------------------------

def textBytes (text : String) : Bytes := text.toList.map fun char => .ofNat char.toNat

def accountKeypad : AccountDevice where
  mac := textBytes "a1b2c3d4e5f6"
  macPretty := textBytes "A1:B2:C3:D4:E5:F6"
  name := textBytes "Keypad"
  deviceType := "WoKeypad"

def accountLock : AccountDevice where
  mac := textBytes "b1b2b3b4b5b6"
  macPretty := textBytes "B1:B2:B3:B4:B5:B6"
  name := textBytes "Lock"
  deviceType := "WoLock"

/-- A handler's step in an account with a keypad and a lock, at the given time. -/
def handling (millis : UInt32) : FirmwareOp :=
  .handle {
    cloud := {
      loggedIn := true
      devices := .ok [accountKeypad, accountLock]
      deviceKey := fun _ => .ok (textBytes "01", List.replicate 16 0x11) }
    espMac := Vector.replicate 6 0
    millis
    taskCreated := true }

/-- A request to pair the keypad, and the first steps of its handler. -/
def pairOps (millis : UInt32) (steps : Nat) : List FirmwareOp :=
  .request (.pair accountKeypad.mac "vision") millis :: List.replicate steps (handling millis)

/-- A request to link the lock, and the first steps of its handler. -/
def linkOps (millis : UInt32) (steps : Nat) : List FirmwareOp :=
  .request (.lockLink accountLock.mac) millis :: List.replicate steps (handling millis)

/-- Steps of `loop()` at the given time, with flash that takes every record. -/
def loopOps (millis : UInt32) (steps : Nat) : List FirmwareOp :=
  List.replicate steps (.main { millis, accepts := fun _ => true })

/-- Keypad and lock are linked one after the other, and both jobs are reported. -/
def householdOps : List FirmwareOp :=
  pairOps 1 5 ++ [.pairJob .succeed] ++ loopOps 1 11 ++ linkOps 2 6
    ++ [.linkJob .storeSlot, .linkJob .succeed] ++ loopOps 2 5

/-- The pairing of the household is reported with the keypad's own name, MAC and family. -/
theorem callbacks_attributed_household
    : let labels := pairingLabels (Firmware.events clearStream {} {} firstBoot householdOps)
      (∃ request,
        Succeeded (labels.take 7) ⟨'p', 1⟩ accountKeypad.name request
        ∧ (⟨accountKeypad.macPretty, .vision⟩ : KeypadPairer.Payload) = request.payload)
      ∧ ¬ Fired (labels.take 7) ⟨'p', 1⟩ :=
  (callbacks_attributed clearStream {} {} firstBoot householdOps
    (Fresh.of_check (by decide +kernel)) (Fresh.of_check (by decide +kernel))).1
    _ _ _ _ ((pairingLabels (Firmware.events clearStream {} {} firstBoot householdOps)).drop 8)
    (by decide +kernel)

end KeypadBridge
