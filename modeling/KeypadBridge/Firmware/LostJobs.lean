import KeypadBridge.Firmware.Attribution
import KeypadBridge.Firmware.Moves
import KeypadBridge.Foundation.JobBoardWatch

/-! Successful jobs that nobody observes. A job can succeed behind the last look of `poll_jobs`
and be overwritten by the next job of its kind, or be left behind when the server stops.
-/

namespace KeypadBridge
open KeypadBridge.Foundation
open KeypadBridge.Foundation.JobBoard

-----------------------------------------------------------------------------------------
-- Lost jobs
-----------------------------------------------------------------------------------------

/-- Before a job is started or the server stops, the observer has met the last success of that
kind, or of either kind; and the server stops after a check that came behind the last start.
-/
def WizardEvent.Attended (seen : List WizardEvent) (event : WizardEvent) : Prop :=
  (event.startsPairing = true ∨ event = .serverStopped
    → (watch (pairingLabels seen)).Attended)
  ∧ (event.startsLink = true ∨ event = .serverStopped → (watch (linkLabels seen)).Attended)
  ∧ (event = .serverStopped
    → (watch (pairingLabels seen)).checked = true ∧ (watch (linkLabels seen)).checked = true)

instance (seen : List WizardEvent) (event : WizardEvent) : Decidable (event.Attended seen) :=
  inferInstanceAs (Decidable ((_ → _) ∧ (_ → _) ∧ (_ → _)))

/-- No successful job is lost at this event: no job that it overwrites or leaves behind is
running, or has succeeded without its callback.
-/
def WizardEvent.LosesNothing (seen : List WizardEvent) (before : Firmware)
    (event : WizardEvent)
    : Prop :=
  (event.startsPairing = true ∨ event = .serverStopped
    → Settled (pairingLabels seen) before.pairingBoard)
  ∧ (event.startsLink = true ∨ event = .serverStopped
    → Settled (linkLabels seen) before.linkBoard)

/-- In a run in which the observer attends every success in time, no successful job is lost. -/
theorem no_success_lost (keystream : Keystream) (config : DeviceConfig)
    (preferences : Preferences) (boot : BootEnv) (ops : List FirmwareOp)
    (attended
      : Along WizardEvent.Attended []
          (Firmware.events keystream config preferences boot ops))
    : ∀ first op rest,
        ops = first ++ op :: rest
        → let seen := Firmware.events keystream config preferences boot first
          let before := Firmware.after keystream config preferences boot first
          ∀ event ∈ (before.perform keystream op).2, event.LosesNothing seen before := by
  rintro first op rest rfl seen before event shown
  obtain ⟨_, pairing, link⟩ := Firmware.after_boardsRun keystream config preferences boot first
  obtain ⟨_, blankPairing, blankLink⟩ := Firmware.booted_boards config preferences boot
  have pairing := pairing.watched blankPairing
  have link := link.watched blankLink
  have move := before.perform_moves keystream op
  have met (alone : (before.perform keystream op).2 = [event]) : event.Attended seen :=
    Firmware.allowed_of_along attended alone
  refine ⟨?_, ?_⟩
  · rintro (starts | rfl)
    · obtain ⟨id, name, request, rfl⟩ := event.eq_of_startsPairing starts
      obtain ⟨alone, _, free⟩ := move.startsPairing shown
      refine pairing.settled ((met alone).1 (.inl rfl)) ?_
      simpa [Firmware.pairingBoard, JobState.progress_eq_running] using free
    · obtain ⟨met, _, checks⟩ := met (move.stopsServer shown)
      exact pairing.settled (met (.inr rfl)) (pairing.checked (checks rfl).1)
  · rintro (starts | rfl)
    · obtain ⟨id, request, rfl⟩ := event.eq_of_startsLink starts
      obtain ⟨alone, _, free⟩ := move.startsLink shown
      refine link.settled ((met alone).2.1 (.inl rfl)) ?_
      simpa [Firmware.linkBoard, JobState.progress_eq_running] using free
    · obtain ⟨_, met, checks⟩ := met (move.stopsServer shown)
      exact link.settled (met (.inr rfl)) (link.checked (checks rfl).2)

/-- The linked household is left alone for five minutes, up to the end of the server. -/
def leftAloneOps : List FirmwareOp := householdOps ++ loopOps 300002 6

/-- The server stops behind two reported jobs. -/
theorem no_success_lost_household
    : WizardEvent.serverStopped.LosesNothing
        (Firmware.events clearStream {} {} firstBoot leftAloneOps)
        (Firmware.after clearStream {} {} firstBoot leftAloneOps) :=
  no_success_lost clearStream {} {} firstBoot (leftAloneOps ++ loopOps 300002 1)
    (by decide +kernel) leftAloneOps (.main { millis := 300002, accepts := fun _ => true }) []
    rfl .serverStopped (by decide +kernel)

/-- A second request is about to start its job when the first job succeeds. -/
def supersededOps : List FirmwareOp := pairOps 1 5 ++ pairOps 2 2 ++ [.pairJob .succeed]

/-- A job that succeeds behind the gate of the next request is overwritten unobserved. -/
theorem success_overwritten
    : ¬ ∀ (keystream : Keystream) (config : DeviceConfig) (preferences : Preferences)
        (boot : BootEnv) (ops first : List FirmwareOp) (op : FirmwareOp)
        (rest : List FirmwareOp),
          ops = first ++ op :: rest
          → let seen := Firmware.events keystream config preferences boot first
            let before := Firmware.after keystream config preferences boot first
            ∀ event ∈ (before.perform keystream op).2, event.LosesNothing seen before := by
  intro always
  have losesNothing :=
    always clearStream {} {} firstBoot (supersededOps ++ [handling 3]) supersededOps (handling 3) []
      rfl
  obtain ⟨event, shown, starts⟩
      : ∃ event
          ∈ ((Firmware.after clearStream {} {} firstBoot supersededOps).perform clearStream
              (handling 3)).2,
          event.startsPairing = true := by
    decide +kernel
  have settled := (losesNothing event shown).1 (.inl starts)
  obtain ⟨_, _, reported⟩ := settled.2 (by decide +kernel)
  exact absurd reported.exists_reports (by decide +kernel)

end KeypadBridge
