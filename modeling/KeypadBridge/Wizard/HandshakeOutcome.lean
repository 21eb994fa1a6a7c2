import KeypadBridge.Wizard.KeypadHandshake

/-! What a pairing job may claim when it ends: the dialect it spoke, and that the handshake
was completed.
-/

namespace KeypadBridge

namespace KeypadPairer

section

variable {keystream : Keystream} {env : HandshakeEnv} {request : Request}

theorem attemptsOf_plaintext (plan : List PlannedCommand) (iv : Iv)
    : (attemptsOf keystream env request iv plan).map CommandAttempt.plaintext
      = plan.map PlannedCommand.plaintext := by
  induction plan generalizing iv with
  | nil => rfl
  | cons command rest ih => exact congrArg _ (ih _)

theorem triedCommands_within (plan : List PlannedCommand) : triedCommands env plan <+: plan := by
  induction plan with
  | nil => exact List.prefix_rfl
  | cons command rest ih =>
      simp only [triedCommands]
      split
      · exact (List.prefix_cons_inj command).mpr List.nil_prefix
      · exact (List.prefix_cons_inj command).mpr ih

/-- All commands are tried if none is rejected. -/
theorem triedCommands_eq {plan : List PlannedCommand}
    (accepted : ∀ command ∈ plan, ¬ command.Rejected env)
    : triedCommands env plan = plan := by
  induction plan with
  | nil => rfl
  | cons command rest ih =>
      obtain ⟨here, later⟩ := List.forall_mem_cons.mp accepted
      rw [triedCommands, if_neg here, ih later]

end

-----------------------------------------------------------------------------------------
-- The dialect
-----------------------------------------------------------------------------------------

/-- The command sequence of a family's preset. -/
def dialect (family : KeypadFamily) (request : Request) : List Bytes :=
  (commandPlan (presetFor family) request.sharedToken request.espMac).map
    PlannedCommand.plaintext

/-- The job speaks the dialect of `family` as far as it gets, and a success is one of all its
commands that reports the family.
-/
structure SpeaksDialect (family : KeypadFamily) (request : Request) (job : Handshake)
    (done : KeypadPairer)
    : Prop where
  commands : job.attempts.map CommandAttempt.plaintext <+: dialect family request
  success : done.status.state = .success
    → job.attempts.map CommandAttempt.plaintext = dialect family request
      ∧ done.payload.family = family

/-- The browser's text is read as one of the two families. -/
theorem ofName_cases (text : String)
    : KeypadFamily.ofName text = .original ∨ KeypadFamily.ofName text = .vision := by
  unfold KeypadFamily.ofName
  split
  · exact .inr rfl
  · exact .inl rfl

/-- An advertisement is recognised as one of the two families. -/
theorem identifyKeypad_family (serviceData : Bytes)
    : (identifyKeypad serviceData).family = .original
      ∨ (identifyKeypad serviceData).family = .vision := by
  unfold identifyKeypad
  dsimp only
  split
  · exact .inl rfl
  split
  · exact .inl rfl
  split
  · exact .inr rfl
  · exact .inl rfl

theorem discoverTarget_family {scan : List AdvertisedDevice} {mac : Bytes}
    {found : AdvertisedDevice × KeypadIdent} (discovered : discoverTarget scan mac = some found)
    : found.2.family = .original ∨ found.2.family = .vision := by
  obtain ⟨adv, _, rfl⟩ := Option.map_eq_some_iff.mp discovered
  exact identifyKeypad_family adv.serviceData

/-- The dialects differ in their first command. -/
theorem dialect_head_ne {family other : KeypadFamily}
    (known : family = .original ∨ family = .vision)
    (otherKnown : other = .original ∨ other = .vision) (differ : family ≠ other)
    : (presetFor family).enterPairing ≠ (presetFor other).enterPairing := by
  rcases known with rfl | rfl <;> rcases otherKnown with rfl | rfl
  · exact absurd rfl differ
  · decide
  · decide
  · exact absurd rfl differ

/-- A job with a session tries at least the first command of its request's dialect. -/
theorem dialect_head_tried (keystream : Keystream) (env : HandshakeEnv) (request : Request)
    (iv : Iv)
    : ∃ later,
        (attemptsOf keystream env request iv (triedCommands env request.plan)).map
          CommandAttempt.plaintext
        = (presetFor request.family).enterPairing :: later := by
  rw [attemptsOf_plaintext]
  exact ⟨_, rfl⟩

/-- The handshake speaks the dialect of the keypad that was seen exactly if the browser named
the same family, or the job fails before its first command.
-/
theorem handshake_dialect_iff (keystream : Keystream) (env : HandshakeEnv)
    (request : Request) (browserFamily : String) (iv : Iv) (pairer : KeypadPairer)
    (target : AdvertisedDevice) (family : KeypadFamily)
    (found : discoverTarget env.scan request.keypadMac = some (target, ⟨true, family⟩))
    : let request := { request with family := .ofName browserFamily }
      let job := Handshake.runJob keystream env request iv
      SpeaksDialect family request job (job.finish request pairer)
      ↔ KeypadFamily.ofName browserFamily = family ∨ ¬ env.Opens request.keypadMac := by
  intro browserRequest job
  have known : family = .original ∨ family = .vision := discoverTarget_family found
  by_cases opens : env.Opens browserRequest.keypadMac
  · obtain ⟨opened, _, tried, outcome⟩ :=
      Handshake.runJob_opens keystream opens iv
    have attempts : job.attempts = _ := tried
    constructor
    · intro speaks
      refine .inl (by_contra fun differ => ?_)
      obtain ⟨later, head⟩ := dialect_head_tried keystream env browserRequest opened.iv
      have prefixed := speaks.commands
      rw [attempts, head] at prefixed
      exact dialect_head_ne (ofName_cases browserFamily) known differ
        (List.cons_prefix_cons.mp prefixed).1
    · intro same
      have same : KeypadFamily.ofName browserFamily = family :=
        same.resolve_right (not_not_intro opens)
      have dialects : dialect family browserRequest
          = browserRequest.plan.map PlannedCommand.plaintext := by rw [← same]; rfl
      constructor
      · rw [attempts, attemptsOf_plaintext, dialects]
        exact (triedCommands_within browserRequest.plan).map _
      · intro success
        rcases outcome with ⟨accepted, ended⟩ | ⟨_, error, ended⟩
        · rw [attempts, attemptsOf_plaintext, triedCommands_eq accepted, dialects]
          exact ⟨rfl, (congrArg Payload.family ended.finish_succeed.2).trans same⟩
        · rw [ended.finish_fail] at success
          cases success
  · obtain ⟨silent, error, ended⟩ := Handshake.runJob_closed keystream opens iv
    refine iff_of_true ⟨?_, fun success => ?_⟩ (.inr opens)
    · rw [show job.attempts = [] from silent]
      exact List.nil_prefix
    · rw [ended.finish_fail] at success
      cases success

/-- A Vision keypad in pairing mode. -/
def visionAdvert : AdvertisedDevice where
  address := Vector.replicate 6 0x01
  serviceDataFd3d := [0x00, 0x00, 0x00, 0x11, 0x03, 0x78]

/-- A keypad that answers at once, over a link that loses nothing. -/
def visionNearby : HandshakeEnv where
  scan := [visionAdvert]
  clientCreated := true
  connected := true
  serviceFound := true
  requestWritten := true
  rounds := [[[0x01] ++ List.replicate 19 0x00]]
  sends _ := { psa := { keys := fun _ => none }, written := true }

/-- A request for that keypad, under the family that the browser named. -/
def pairingRequest (family : KeypadFamily) : Request where
  keypadMac := visionAdvert.addressText
  family
  keyId := 0x88
  key := Vector.replicate 16 0
  sharedToken := Vector.replicate 16 0
  espMac := Vector.replicate 6 0

/-- The Vision keypad is spoken to in its dialect if the browser named its family. -/
theorem handshake_dialect_vision
    : SpeaksDialect .vision { pairingRequest .vision with family := .ofName "vision" }
        (Handshake.runJob (fun _ _ _ => 0) visionNearby
          { pairingRequest .vision with family := .ofName "vision" } (Vector.replicate 16 0))
        ((Handshake.runJob (fun _ _ _ => 0) visionNearby
          { pairingRequest .vision with family := .ofName "vision" }
          (Vector.replicate 16 0)).finish
          { pairingRequest .vision with family := .ofName "vision" } { payload := {} }) :=
  (handshake_dialect_iff (fun _ _ _ => 0) visionNearby (pairingRequest .vision) "vision"
    (Vector.replicate 16 0) { payload := {} } visionAdvert .vision
    (by decide +kernel)).mpr (.inl rfl)

/-- A Vision keypad is spoken to in the Original dialect if that is what the browser named. -/
theorem vision_addressed_as_original
    : ¬ ∀ (keystream : Keystream) (env : HandshakeEnv) (request : Request) (iv : Iv)
        (pairer : KeypadPairer) (target : AdvertisedDevice) (family : KeypadFamily),
        discoverTarget env.scan request.keypadMac = some (target, ⟨true, family⟩)
        → SpeaksDialect family request (Handshake.runJob keystream env request iv)
            ((Handshake.runJob keystream env request iv).finish request pairer) := by
  intro always
  have speaks := always (fun _ _ _ => 0) visionNearby (pairingRequest .original)
    (Vector.replicate 16 0) { payload := {} } visionAdvert .vision
    (by decide +kernel)
  exact absurd (speaks.success (by decide +kernel)).2 (by decide +kernel)

-----------------------------------------------------------------------------------------
-- Completion
-----------------------------------------------------------------------------------------

/-- The commands without which the keypad does not hold the key and its target: the slot, both
key halves, the target and both commands of the Finalising step.
-/
def essentialKinds : List CommandKind :=
  [.slotInit, .keyHalf1, .keyHalf2, .target, .finalise1, .finalise2]

/-- The essential commands were encrypted and written, in order and under one session IV. -/
def Completed (request : Request) (job : Handshake) : Prop :=
  ∃ iv,
    (job.attempts.filter (·.kind ∈ essentialKinds)).map
        (fun attempt =>
          (attempt.kind, attempt.plaintext, attempt.headerIv, attempt.iv, attempt.frame.isSome))
      = (request.plan.filter (·.kind ∈ essentialKinds)).map
          (fun command => (command.kind, command.plaintext, iv, iv, true))

/-- The IVs that the header and the cipher of each command see, as the notifications set them.
-/
def HandshakeEnv.ivs (env : HandshakeEnv) : Iv → List CommandKind → List (CommandKind × Iv × Iv)
  | _, [] => []
  | iv, kind :: rest =>
      let headerIv := ivAfter iv (env.sends kind).beforeHeader
      let cipherIv := ivAfter headerIv (env.sends kind).beforeCipher
      (kind, headerIv, cipherIv) :: env.ivs cipherIv rest

/-- No notification changes the session IV from the first essential command to the last. -/
def HandshakeEnv.KeepsIv (env : HandshakeEnv) (iv : Iv) (plan : List PlannedCommand) : Prop :=
  ∃ one, ∀ entry ∈ env.ivs iv (plan.map PlannedCommand.kind),
    entry.1 ∈ essentialKinds → entry.2 = (one, one)

section

variable {keystream : Keystream} {env : HandshakeEnv} {request : Request}

/-- The essential commands of a request are all there, in order. -/
theorem plan_essential (request : Request)
    : (request.plan.filter (·.kind ∈ essentialKinds)).map PlannedCommand.kind
      = essentialKinds := by
  unfold Request.plan presetFor
  split <;> rfl

/-- `execute_` looks at every essential command but those of the Finalising step. -/
theorem plan_observed {command : PlannedCommand} (planned : command ∈ request.plan)
    (essential : command.kind ∈ essentialKinds)
    : command.error.isSome = true ∨ command.kind = .finalise1 ∨ command.kind = .finalise2 := by
  unfold Request.plan presetFor at planned
  split at planned
  all_goals
    simp only [commandPlan, visionPreset, originalPreset, Option.toList, List.map_cons,
      List.map_nil, List.cons_append, List.nil_append, List.append_nil, List.mem_cons,
      List.not_mem_nil, or_false] at planned
    grind [essentialKinds]

/-- What it takes for the traces of commands to be those of a completed handshake. -/
theorem attemptsOf_essential_iff (plan : List PlannedCommand) (start iv : Iv)
    : ((attemptsOf keystream env request start plan).filter (·.kind ∈ essentialKinds)).map
          (fun attempt =>
            (attempt.kind, attempt.plaintext, attempt.headerIv, attempt.iv,
              attempt.frame.isSome))
        = (plan.filter (·.kind ∈ essentialKinds)).map
            (fun command => (command.kind, command.plaintext, iv, iv, true))
      ↔ (∀ entry ∈ env.ivs start (plan.map PlannedCommand.kind),
          entry.1 ∈ essentialKinds → entry.2 = (iv, iv))
        ∧ ∀ command ∈ plan, command.kind ∈ essentialKinds
          → (env.sends command.kind).Succeeds := by
  induction plan generalizing start with
  | nil => simp [attemptsOf, HandshakeEnv.ivs]
  | cons command rest ih =>
      have tail := ih (attemptOf keystream env request start command).iv
      simp only [attemptsOf, List.map_cons, HandshakeEnv.ivs, List.forall_mem_cons]
      by_cases essential : command.kind ∈ essentialKinds
      · rw [List.filter_cons_of_pos (by simpa [attemptOf] using essential),
          List.filter_cons_of_pos (by simpa using essential), List.map_cons, List.map_cons,
          List.cons.injEq, tail]
        by_cases succeeds : (env.sends command.kind).Succeeds
        · simp [attemptOf, essential, succeeds, and_assoc]
        · simp [attemptOf, essential, succeeds]
      · rw [List.filter_cons_of_neg (by simpa [attemptOf] using essential),
          List.filter_cons_of_neg (by simpa using essential), tail]
        simp [attemptOf, essential]

/-- A job may claim success exactly for a completed handshake, and any other job fails with
its client gone.
-/
structure EndsTruthfully (request : Request) (job : Handshake) (done : KeypadPairer) : Prop where
  success : done.status.state = .success → Completed request job
  failure : done.status.state ≠ .success
    → done.status.state = .failed ∧ Released job.client

/-- A job that rejects no command has completed the handshake exactly if both commands of the
Finalising step were sent and the session IV stayed.
-/
theorem completed_iff (job : Handshake) {opened : Handshake}
    (accepted : ∀ command ∈ request.plan, ¬ command.Rejected env)
    (tried : job.attempts = attemptsOf keystream env request opened.iv request.plan)
    : Completed request job
      ↔ (env.sends .finalise1).Succeeds ∧ (env.sends .finalise2).Succeeds
        ∧ env.KeepsIv opened.iv request.plan := by
  have finalising : ∀ kind ∈ essentialKinds, ∃ command ∈ request.plan, command.kind = kind := by
    intro kind essential
    rw [← plan_essential request] at essential
    obtain ⟨command, member, rfl⟩ := List.mem_map.mp essential
    exact ⟨command, (List.mem_filter.mp member).1, rfl⟩
  simp only [Completed, tried, attemptsOf_essential_iff, HandshakeEnv.KeepsIv]
  constructor
  · rintro ⟨iv, steady, succeed⟩
    obtain ⟨first, firstPlanned, isFirst⟩ := finalising .finalise1 (by decide)
    obtain ⟨second, secondPlanned, isSecond⟩ := finalising .finalise2 (by decide)
    refine ⟨?_, ?_, iv, steady⟩
    · simpa [isFirst] using succeed first firstPlanned (by rw [isFirst]; decide)
    · simpa [isSecond] using succeed second secondPlanned (by rw [isSecond]; decide)
  · rintro ⟨first, second, iv, steady⟩
    refine ⟨iv, steady, fun command planned essential => ?_⟩
    rcases plan_observed planned essential with observed | isFirst | isSecond
    · exact by_contra fun failed => accepted command planned ⟨failed, observed⟩
    · rw [isFirst]
      exact first
    · rw [isSecond]
      exact second

end

/-- A pairing job ends truthfully exactly if it fails before the Finalising step (it gets no
session, or a command that `execute_` looks at is rejected), or else both commands of that step
are sent and the session IV stays.
-/
theorem success_completed_iff (keystream : Keystream) (env : HandshakeEnv)
    (request : Request) (iv : Iv) (pairer : KeypadPairer)
    : let job := Handshake.runJob keystream env request iv
      EndsTruthfully request job (job.finish request pairer)
      ↔ ¬ env.Opens request.keypadMac
        ∨ (∃ command ∈ request.plan, command.Rejected env)
        ∨ (env.sends .finalise1).Succeeds ∧ (env.sends .finalise2).Succeeds
          ∧ ∀ opened,
              Handshake.openSession env request { iv } = .ok opened
              → env.KeepsIv opened.iv request.plan := by
  intro job
  have truthful_fail {error : String} (ended : job.EndedWith (.fail error))
      : EndsTruthfully request job (job.finish request pairer) := by
    refine ⟨fun success => ?_, fun _ => ⟨ended.finish_fail, ended.client⟩⟩
    rw [ended.finish_fail] at success
    cases success
  by_cases opens : env.Opens request.keypadMac
  · obtain ⟨opened, isOpen, tried, outcome⟩ :=
      Handshake.runJob_opens keystream opens iv
    rcases outcome with ⟨accepted, ended⟩ | ⟨rejected, error, ended⟩
    · rw [triedCommands_eq accepted] at tried
      have completed := completed_iff job accepted tried
      have state : (job.finish request pairer).status.state = .success :=
        ended.finish_succeed.1
      have noneRejected : ¬ ∃ command ∈ request.plan, command.Rejected env := by
        rintro ⟨command, planned, rejected⟩
        exact accepted command planned rejected
      constructor
      · intro truthful
        obtain ⟨first, second, keeps⟩ := completed.mp (truthful.success state)
        refine .inr (.inr ⟨first, second, fun other isOther => ?_⟩)
        rw [isOpen] at isOther
        cases isOther
        exact keeps
      · rintro (closed | rejected | ⟨first, second, keeps⟩)
        · exact absurd opens closed
        · exact absurd rejected noneRejected
        · exact ⟨fun _ => completed.mpr ⟨first, second, keeps opened isOpen⟩,
            fun failed => absurd state failed⟩
    · exact iff_of_true (truthful_fail ended) (.inr (.inl rejected))
  · obtain ⟨_, error, ended⟩ := Handshake.runJob_closed keystream opens iv
    exact iff_of_true (truthful_fail ended) (.inl opens)

/-- The link drops after the target was updated: both commands of the Finalising step fail. -/
def droppedLate : HandshakeEnv :=
  { visionNearby with
    sends := fun kind =>
      { psa := { keys := fun _ => none }
        written := kind ≠ .finalise1 && kind ≠ .finalise2 && kind ≠ .doorbell } }

/-- A job whose link drops before the Finalising step still ends in a success. -/
theorem success_without_finalising
    : ¬ ∀ (keystream : Keystream) (env : HandshakeEnv) (request : Request) (iv : Iv)
        (pairer : KeypadPairer),
        EndsTruthfully request (Handshake.runJob keystream env request iv)
          ((Handshake.runJob keystream env request iv).finish request pairer) := by
  intro always
  have truthful := always (fun _ _ _ => 0) droppedLate (pairingRequest .vision)
    (Vector.replicate 16 0) { payload := {} }
  obtain ⟨iv, completed⟩ := truthful.success (by decide +kernel)
  have sent := congrArg (List.map fun entry => entry.2.2.2.2) completed
  rw [List.map_map, List.map_map] at sent
  change List.map (fun attempt : CommandAttempt => attempt.frame.isSome) _
    = List.map (fun _ => true) _ at sent
  exact absurd sent (by decide +kernel)

end KeypadPairer

end KeypadBridge
