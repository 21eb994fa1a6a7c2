import KeypadBridge.Wizard.BackgroundJob

/-! The pairing handshake: `KeypadPairer::execute_` from the discovery scan to the outcome of
the job. What the keypad, the BLE stack and the cipher do meanwhile is an input.
-/

namespace KeypadBridge

namespace KeypadPairer

-----------------------------------------------------------------------------------------
-- The dialects
-----------------------------------------------------------------------------------------

/-- The handshake constants that differ between the keypad families. -/
structure FamilyPreset where
  sharedSlot : UInt8
  slotInitNonce : UInt8
  enterPairing : Bytes
  capabilitiesProbe : Option Bytes
  finalizeTail : Bytes
  enableDoorbell : Option Bytes
  deriving DecidableEq

def originalPreset : FamilyPreset where
  sharedSlot := 0x88
  slotInitNonce := 0x69
  enterPairing := [0x0f, 0x52, 0x01, 0x07, 0x00]
  capabilitiesProbe := none
  finalizeTail := [0x00, 0x08, 0x09, 0x04, 0x05, 0x07]
  enableDoorbell := none

def visionPreset : FamilyPreset where
  sharedSlot := 0xC6
  slotInitNonce := 0x80
  enterPairing := [0x0f, 0x53, 0x01, 0x07]
  capabilitiesProbe := some [0x0f, 0x53, 0x07, 0x03]
  finalizeTail := [0x04, 0x04, 0x01, 0x05, 0x08, 0x09]
  enableDoorbell := some [0x0f, 0x52, 0x01, 0x09, 0x02, 0x01, 0x01]

/-- `preset_for`. -/
def presetFor (family : KeypadFamily) : FamilyPreset :=
  if family = .vision then visionPreset else originalPreset

/-- The commands of the handshake, by what they are for. -/
inductive CommandKind where
  | enterPairing
  | probe
  | prep
  | slotInit
  | keyHalf1
  | keyHalf2
  | target
  | finalise1
  | finalise2
  | doorbell
  deriving DecidableEq, Repr

/-- A command of `execute_`: the step that is reported before it, its plaintext, and the error
that ends the job when it cannot be sent. Without an error the job goes on.
-/
structure PlannedCommand where
  kind : CommandKind
  step : Option UInt8 := none
  plaintext : Bytes
  error : Option String := none
  deriving DecidableEq

/-- The commands that `execute_` sends after the session is open, in order. -/
def commandPlan (preset : FamilyPreset) (sharedToken : AesKey) (espMac : MacBytes)
    : List PlannedCommand :=
  [{ kind := .enterPairing
     step := some 3
     plaintext := preset.enterPairing
     error := some "enter_pairing rejected." }]
  ++ (preset.capabilitiesProbe.toList.map fun probe => { kind := .probe, plaintext := probe })
  ++ [{ kind := .prep, plaintext := [0x06, 0x03] },
    { kind := .slotInit
      plaintext := [0x0F, 0x20, 0x03, preset.sharedSlot, preset.slotInitNonce]
      error := some "Could not open the keypad's key slot." },
    { kind := .keyHalf1
      step := some 4
      plaintext := [0x0F, 0x20, 0x04, preset.sharedSlot, 0x00] ++ sharedToken.toList.take 8
      error := some "Could not write shared_key (1/2)." },
    { kind := .keyHalf2
      step := some 5
      plaintext := [0x0F, 0x20, 0x04, preset.sharedSlot, 0x01] ++ sharedToken.toList.drop 8
      error := some "Could not write shared_key (2/2)." },
    { kind := .target
      step := some 6
      plaintext := [0x06, 0x01, preset.sharedSlot] ++ espMac.toList
      error := some "Could not update target lock MAC." },
    { kind := .finalise1
      step := some 7
      plaintext := [0x0f, 0x52, 0x02, 0x02, 0x10, 0xFF, 0x05, 0x06] ++ preset.finalizeTail },
    { kind := .finalise2, plaintext := [0x0f, 0x53, 0x01, 0x06] }]
  ++ (preset.enableDoorbell.toList.map fun doorbell =>
    { kind := .doorbell, step := some 8, plaintext := doorbell })

/-- The commands for a request: its family is the browser's. -/
def Request.plan (request : Request) : List PlannedCommand :=
  commandPlan (presetFor request.family) request.sharedToken request.espMac

-----------------------------------------------------------------------------------------
-- The surroundings of a job
-----------------------------------------------------------------------------------------

/-- What happens around one `send_command_`: the notifications until its header is written,
those until its cipher runs, and what the cipher and the GATT write return.
-/
structure SendEnv where
  beforeHeader : List Bytes := []
  beforeCipher : List Bytes := []
  psa : Psa
  written : Bool

/-- What happens around one job: the results of the discovery scan, what the BLE calls return,
the notifications while the session is negotiated (before the IV request, and in each of the
waiting rounds), and the sends.
-/
structure HandshakeEnv where
  scan : List AdvertisedDevice
  clientCreated : Bool
  connected : Bool
  serviceFound : Bool
  beforeRequest : List Bytes := []
  requestWritten : Bool
  rounds : List (List Bytes)
  sends : CommandKind → SendEnv

/-- `discover_target`: the first advertiser with the wanted MAC, whose address is the target, and
what its advertisement says it is. Without one the source returns the null address.
-/
def discoverTarget (scan : List AdvertisedDevice) (macPretty : Bytes)
    : Option (AdvertisedDevice × KeypadIdent) :=
  (scan.find? fun adv => upperMac adv.addressText = upperMac macPretty).map fun adv =>
    (adv, identifyKeypad adv.serviceData)

/-- The session IV in a notification, if it is one that carries it. -/
def sessionIvOf (data : Bytes) : Option Iv :=
  if data.length = 20 ∧ data.getD 0 0 = 0x01 ∧ data.getD 1 0 = 0x00 then
    some (Vector.ofFn fun i => data.getD (4 + i.val) 0)
  else none

-----------------------------------------------------------------------------------------
-- The job's own state
-----------------------------------------------------------------------------------------

/-- The life of the BLE client of a job. -/
inductive ClientEvent where
  | created
  | connected
  | disconnected
  | deleted
  deriving DecidableEq, Repr

/-- A command that was handed to `send_command_`, the IVs that its header and its cipher saw,
and the frame if it was written.
-/
structure CommandAttempt where
  kind : CommandKind
  plaintext : Bytes
  headerIv : Iv
  iv : Iv
  frame : Option Bytes
  deriving DecidableEq

/-- A job so far: its session IV, what it reported, and what it did over BLE. -/
structure Handshake where
  iv : Iv
  ivReceived : Bool := false
  moves : List Move := []
  client : List ClientEvent := []
  attempts : List CommandAttempt := []

namespace Handshake

def report (handshake : Handshake) (move : Move) : Handshake :=
  { handshake with moves := handshake.moves ++ [move] }

def clientDid (handshake : Handshake) (events : List ClientEvent) : Handshake :=
  { handshake with client := handshake.client ++ events }

/-- `on_notify_`: the IV is stashed, anything else only wakes the task. -/
def onNotify (handshake : Handshake) (data : Bytes) : Handshake :=
  match sessionIvOf data with
  | some iv => { handshake with iv, ivReceived := true }
  | none => handshake

def onNotifyAll (handshake : Handshake) (heard : List Bytes) : Handshake :=
  heard.foldl onNotify handshake

/-- The wait for the session IV, in at most as many rounds as are given. -/
def awaitIv (handshake : Handshake) : List (List Bytes) → Handshake
  | [] => handshake
  | heard :: rounds =>
      if handshake.ivReceived then handshake else (handshake.onNotifyAll heard).awaitIv rounds

/-- `set_step_` before a command, where there is one. -/
def announce (handshake : Handshake) (command : PlannedCommand) : Handshake :=
  match command.step with
  | some step => handshake.report (.step step)
  | none => handshake

/-- An error that leaves the client disconnected and deleted. -/
def abort (handshake : Handshake) (error : String) : Handshake :=
  (handshake.clientDid [.disconnected, .deleted]).report (.fail error)

/-- `connect_switchbot_service`; the error is the text it reports. -/
def connectService (env : HandshakeEnv) (handshake : Handshake)
    : Except String Unit × Handshake :=
  if !env.clientCreated then
    (.error "Could not allocate a BLE client for the keypad.", handshake)
  else if !env.connected then
    (.error "Could not connect to the keypad.", handshake.clientDid [.created, .deleted])
  else if !env.serviceFound then
    (.error "The keypad does not expose the SwitchBot GATT service.",
      handshake.clientDid [.created, .connected, .disconnected, .deleted])
  else (.ok (), handshake.clientDid [.created, .connected])

section

variable (keystream : Keystream) (env : HandshakeEnv) (request : Request)

/-- `send_command_`. The header takes two bytes of the IV before the cipher takes all of it.
-/
def sendCommand (command : PlannedCommand) (handshake : Handshake) : Bool × Handshake :=
  let send := env.sends command.kind
  let handshake := handshake.onNotifyAll send.beforeHeader
  let headerIv := handshake.iv
  let handshake := handshake.onNotifyAll send.beforeCipher
  let frame :=
    match aesCtrXcryptRawKey keystream send.psa request.key handshake.iv command.plaintext with
    | none => none
    | some ciphertext =>
        if send.written then
          some ([0x57, UInt8.ofInt request.keyId, headerIv.seqA, headerIv.seqB] ++ ciphertext)
        else none
  (frame.isSome,
    { handshake with
      attempts := handshake.attempts ++
        [{ kind := command.kind
           plaintext := command.plaintext
           headerIv
           iv := handshake.iv
           frame }] })

/-- The commands of `execute_`, up to the first whose failure ends the job. -/
def runPlan : List PlannedCommand → Handshake → Handshake
  | [], handshake => (handshake.clientDid [.disconnected, .deleted]).report .succeed
  | command :: rest, handshake =>
      let (sent, handshake) :=
        (handshake.announce command).sendCommand keystream env request command
      match sent, command.error with
      | false, some error => handshake.abort error
      | _, _ => runPlan rest handshake

/-- `execute_` up to the session IV; the state that ended the job is the error. -/
def openSession (handshake : Handshake) : Except Handshake Handshake :=
  let handshake := handshake.report (.step 0)
  let target := (discoverTarget env.scan request.keypadMac).filter fun found =>
    !found.1.addressIsNull
  match target with
  | none =>
      .error (handshake.report
        (.fail "Could not see the keypad over BLE. Keep it within 2 m and retry."))
  | some _ =>
      match handshake.connectService env with
      | (.error error, handshake) => .error (handshake.report (.fail error))
      | (.ok (), handshake) =>
          let handshake := (handshake.report (.step 1)).report (.step 2)
          let handshake := handshake.onNotifyAll env.beforeRequest
          if !env.requestWritten then
            .error (handshake.abort "Could not request session IV from keypad.")
          else
            let handshake := handshake.awaitIv (env.rounds.take 6)
            if !handshake.ivReceived then
              .error (handshake.abort
                "Keypad did not open a session. Reset it into pairing mode and retry.")
            else .ok handshake

/-- `execute_`, from the IV that an earlier job left. -/
def runJob (iv : Iv) : Handshake :=
  match openSession env request { iv } with
  | .error ended => ended
  | .ok opened => opened.runPlan keystream env request request.plan

end

/-- The job object after the job. -/
def finish (handshake : Handshake) (request : Request) (pairer : KeypadPairer) : KeypadPairer :=
  handshake.moves.foldl (fun pairer move => pairer.execute request move) pairer

end Handshake

-----------------------------------------------------------------------------------------
-- What the notifications do
-----------------------------------------------------------------------------------------

/-- The IV after some notifications. -/
def ivAfter (iv : Iv) (heard : List Bytes) : Iv :=
  heard.foldl (fun iv data => (sessionIvOf data).getD iv) iv

/-- A session IV is among the notifications. -/
def CarriesIv (heard : List Bytes) : Prop := ∃ data ∈ heard, (sessionIvOf data).isSome = true

namespace Handshake

variable {handshake : Handshake}

/-- Notifications change the IV and nothing else of what the job has done. -/
theorem onNotifyAll_eq (heard : List Bytes)
    : handshake.onNotifyAll heard
      = { handshake with
          iv := ivAfter handshake.iv heard
          ivReceived := (handshake.onNotifyAll heard).ivReceived } := by
  induction heard generalizing handshake with
  | nil => rfl
  | cons data rest ih =>
      have tail := @ih (handshake.onNotify data)
      simp only [onNotifyAll, List.foldl_cons, ivAfter] at tail ⊢
      rw [tail]
      cases found : sessionIvOf data <;> simp [onNotify, found]

theorem onNotifyAll_ivReceived (heard : List Bytes)
    : (handshake.onNotifyAll heard).ivReceived = true
      ↔ handshake.ivReceived = true ∨ CarriesIv heard := by
  induction heard generalizing handshake with
  | nil => simp [onNotifyAll, CarriesIv]
  | cons data rest ih =>
      have tail := @ih (handshake.onNotify data)
      simp only [onNotifyAll, List.foldl_cons] at tail ⊢
      rw [tail]
      cases found : sessionIvOf data <;> simp [onNotify, found, CarriesIv]

@[simp] theorem onNotifyAll_moves (heard : List Bytes)
    : (handshake.onNotifyAll heard).moves = handshake.moves := by rw [onNotifyAll_eq]

@[simp] theorem onNotifyAll_client (heard : List Bytes)
    : (handshake.onNotifyAll heard).client = handshake.client := by rw [onNotifyAll_eq]

@[simp] theorem onNotifyAll_attempts (heard : List Bytes)
    : (handshake.onNotifyAll heard).attempts = handshake.attempts := by rw [onNotifyAll_eq]

@[simp] theorem onNotifyAll_iv (heard : List Bytes)
    : (handshake.onNotifyAll heard).iv = ivAfter handshake.iv heard := by rw [onNotifyAll_eq]

/-- The wait does nothing but hear notifications, and ends with an IV if there was one. -/
theorem awaitIv_spec (handshake : Handshake) (rounds : List (List Bytes))
    : let after := handshake.awaitIv rounds
      after.moves = handshake.moves
      ∧ after.client = handshake.client
      ∧ after.attempts = handshake.attempts
      ∧ (after.ivReceived = true
        ↔ handshake.ivReceived = true ∨ ∃ heard ∈ rounds, CarriesIv heard) := by
  induction rounds generalizing handshake with
  | nil => simp [awaitIv]
  | cons heard rest ih =>
      simp only [awaitIv]
      split
      · rename_i received
        simp [received]
      · rename_i waiting
        obtain ⟨moves, client, attempts, received⟩ := @ih (handshake.onNotifyAll heard)
        refine ⟨by simp [moves], by simp [client], by simp [attempts], ?_⟩
        rw [received, onNotifyAll_ivReceived]
        simp [or_assoc]

end Handshake

-----------------------------------------------------------------------------------------
-- How a job ends
-----------------------------------------------------------------------------------------

/-- The client never existed, or it is gone: a connected one was disconnected first. -/
def Released (client : List ClientEvent) : Prop :=
  client = [] ∨ client = [.created, .deleted]
    ∨ client = [.created, .connected, .disconnected, .deleted]

/-- The steps a job reported, and nothing else yet. -/
def OnlySteps (moves : List Move) : Prop := ∃ steps : List UInt8, moves = steps.map .step

/-- The job ended with `ending`, and its client is gone. -/
structure Handshake.EndedWith (handshake : Handshake) (ending : Move) : Prop where
  moves : ∃ steps, OnlySteps steps ∧ handshake.moves = steps ++ [ending]
  client : Released handshake.client

theorem OnlySteps.append_step {moves : List Move} (only : OnlySteps moves) (step : UInt8)
    : OnlySteps (moves ++ [.step step]) := by
  obtain ⟨steps, rfl⟩ := only
  exact ⟨steps ++ [step], by simp⟩

/-- Reported steps leave the job running for its request. -/
theorem OnlySteps.foldl_execute {moves : List Move} (only : OnlySteps moves)
    (request : Request) (pairer : KeypadPairer)
    : ∃ status,
        moves.foldl (fun pairer move => pairer.execute request move) pairer
        = { pairer with status } := by
  obtain ⟨steps, rfl⟩ := only
  induction steps generalizing pairer with
  | nil => exact ⟨pairer.status, rfl⟩
  | cons step rest ih =>
      obtain ⟨status, done⟩ := ih (pairer.execute request (.step step))
      exact ⟨status, done⟩

namespace Handshake.EndedWith

variable {handshake : Handshake} {request : Request} {pairer : KeypadPairer}

/-- A job that ended with a success reports its request's keypad and family. -/
theorem finish_succeed (ended : handshake.EndedWith .succeed)
    : (handshake.finish request pairer).status.state = .success
      ∧ (handshake.finish request pairer).payload = request.payload := by
  obtain ⟨steps, only, moves⟩ := ended.moves
  obtain ⟨status, stepped⟩ := only.foldl_execute request pairer
  simp only [finish, moves, List.foldl_append, stepped]
  exact ⟨rfl, rfl⟩

/-- A job that ended with an error is failed. -/
theorem finish_fail {error : String} (ended : handshake.EndedWith (.fail error))
    : (handshake.finish request pairer).status.state = .failed := by
  obtain ⟨steps, only, moves⟩ := ended.moves
  obtain ⟨status, stepped⟩ := only.foldl_execute request pairer
  simp only [finish, moves, List.foldl_append, stepped]
  rfl

end Handshake.EndedWith

-----------------------------------------------------------------------------------------
-- The commands of a job
-----------------------------------------------------------------------------------------

/-- The command is encrypted and written. -/
def SendEnv.Succeeds (send : SendEnv) : Prop := send.psa.Imports ∧ send.written = true

instance : DecidablePred SendEnv.Succeeds := fun _ => inferInstanceAs (Decidable (_ ∧ _))

/-- The command cannot be sent, and `execute_` looks at that. -/
def PlannedCommand.Rejected (env : HandshakeEnv) (command : PlannedCommand) : Prop :=
  ¬ (env.sends command.kind).Succeeds ∧ command.error.isSome = true

instance (env : HandshakeEnv) : DecidablePred (PlannedCommand.Rejected env) :=
  fun _ => inferInstanceAs (Decidable (_ ∧ _))

/-- The commands up to the first rejected one, which was tried. -/
def triedCommands (env : HandshakeEnv) : List PlannedCommand → List PlannedCommand
  | [] => []
  | command :: rest =>
      command :: if command.Rejected env then [] else triedCommands env rest

section

variable (keystream : Keystream) (env : HandshakeEnv) (request : Request)

/-- The trace that a command leaves, from the IV before it. -/
def attemptOf (iv : Iv) (command : PlannedCommand) : CommandAttempt :=
  let send := env.sends command.kind
  let headerIv := ivAfter iv send.beforeHeader
  let cipherIv := ivAfter headerIv send.beforeCipher
  { kind := command.kind
    plaintext := command.plaintext
    headerIv
    iv := cipherIv
    frame :=
      if send.Succeeds then
        some ([0x57, UInt8.ofInt request.keyId, headerIv.seqA, headerIv.seqB]
          ++ ctrXor keystream request.key cipherIv command.plaintext)
      else none }

/-- The trace that commands leave one after the other. -/
def attemptsOf : Iv → List PlannedCommand → List CommandAttempt
  | _, [] => []
  | iv, command :: rest =>
      let attempt := attemptOf keystream env request iv command
      attempt :: attemptsOf attempt.iv rest

end

section

variable {keystream : Keystream} {env : HandshakeEnv} {request : Request}

/-- What `send_command_` returns and leaves. -/
theorem Handshake.sendCommand_eq (keystream : Keystream) (env : HandshakeEnv)
    (request : Request) (command : PlannedCommand) (handshake : Handshake)
    : let attempt := attemptOf keystream env request handshake.iv command
      let outcome := handshake.sendCommand keystream env request command
      (outcome.1 = true ↔ (env.sends command.kind).Succeeds)
      ∧ outcome.2.iv = attempt.iv
      ∧ outcome.2.moves = handshake.moves
      ∧ outcome.2.client = handshake.client
      ∧ outcome.2.attempts = handshake.attempts ++ [attempt] := by
  simp only [sendCommand, attemptOf, onNotifyAll_iv, onNotifyAll_attempts, onNotifyAll_moves,
    onNotifyAll_client, SendEnv.Succeeds]
  by_cases imports : (env.sends command.kind).psa.Imports
  · rw [aesCtrXcryptRawKey_of_imports keystream imports]
    by_cases written : (env.sends command.kind).written = true <;> simp [imports, written]
  · rw [(aesCtrXcryptRawKey_eq_none_iff keystream).mpr imports]
    simp [imports]

theorem Handshake.announce_eq (handshake : Handshake) (command : PlannedCommand)
    : ∃ moves,
        handshake.announce command = { handshake with moves }
        ∧ (OnlySteps handshake.moves → OnlySteps moves) := by
  unfold announce
  split
  · exact ⟨_, rfl, fun only => only.append_step _⟩
  · exact ⟨_, rfl, id⟩

/-- A rejected command ends the job. -/
theorem Handshake.runPlan_cons_of_failed {command : PlannedCommand} {error : String}
    {handshake written : Handshake} (rest : List PlannedCommand)
    (failed : (handshake.announce command).sendCommand keystream env request command
      = (false, written))
    (observed : command.error = some error)
    : handshake.runPlan keystream env request (command :: rest) = written.abort error := by
  simp only [runPlan, failed, observed]

/-- After any other command the job goes on. -/
theorem Handshake.runPlan_cons_of_passed {command : PlannedCommand} {sent : Bool}
    {handshake written : Handshake} (rest : List PlannedCommand)
    (done : (handshake.announce command).sendCommand keystream env request command
      = (sent, written))
    (passed : sent = true ∨ command.error = none)
    : handshake.runPlan keystream env request (command :: rest)
      = written.runPlan keystream env request rest := by
  simp only [runPlan, done]
  rcases passed with rfl | unobserved
  · rfl
  · rw [unobserved]
    cases sent <;> rfl

/-- The commands leave the trace of those that were tried, and the job succeeds unless one of
them was rejected.
-/
theorem Handshake.runPlan_eq (keystream : Keystream) (env : HandshakeEnv) (request : Request)
    (plan : List PlannedCommand) {handshake : Handshake}
    (running : OnlySteps handshake.moves)
    : let after := handshake.runPlan keystream env request plan
      after.attempts
          = handshake.attempts
            ++ attemptsOf keystream env request handshake.iv (triedCommands env plan)
      ∧ after.client = handshake.client ++ [.disconnected, .deleted]
      ∧ ∃ steps ending,
          OnlySteps steps
          ∧ after.moves = steps ++ [ending]
          ∧ ((∀ command ∈ plan, ¬ command.Rejected env) ∧ ending = .succeed
            ∨ (∃ command ∈ plan, command.Rejected env) ∧ ∃ error, ending = .fail error) := by
  induction plan generalizing handshake with
  | nil =>
      refine ⟨by simp [runPlan, clientDid, report, triedCommands, attemptsOf], rfl,
        handshake.moves, .succeed, running, rfl, .inl ⟨?_, rfl⟩⟩
      exact fun _ member => absurd member List.not_mem_nil
  | cons command rest ih =>
      obtain ⟨moves, announced, onlySteps⟩ := handshake.announce_eq command
      obtain ⟨sent, iv, kept, client, attempts⟩ :=
        sendCommand_eq keystream env request command (handshake.announce command)
      rcases done : (handshake.announce command).sendCommand keystream env request command
        with ⟨sentFlag, written⟩
      rw [done] at sent iv kept client attempts
      rw [announced] at iv kept client attempts
      dsimp only at sent iv kept client attempts
      have running : OnlySteps written.moves := kept ▸ onlySteps running
      by_cases rejected : command.Rejected env
      · obtain ⟨error, observed⟩ := Option.isSome_iff_exists.mp rejected.2
        have unsent : sentFlag = false := by simpa using mt sent.mp rejected.1
        subst unsent
        rw [runPlan_cons_of_failed rest done observed]
        refine ⟨?_, by simp [abort, clientDid, report, client], written.moves, .fail error,
          running, rfl, .inr ⟨⟨command, .head _, rejected⟩, error, rfl⟩⟩
        simp [abort, clientDid, report, attempts, triedCommands, rejected, attemptsOf]
      · have passed : sentFlag = true ∨ command.error = none := by
          by_cases succeeds : (env.sends command.kind).Succeeds
          · exact .inl (sent.mpr succeeds)
          · exact .inr (Option.not_isSome_iff_eq_none.mp fun observed =>
              rejected ⟨succeeds, observed⟩)
        rw [runPlan_cons_of_passed rest done passed]
        obtain ⟨later, released, steps, ending, only, ended, outcome⟩ := ih running
        refine ⟨?_, by simp [released, client], steps, ending, only, ended, ?_⟩
        · simp [later, attempts, iv, triedCommands, rejected, attemptsOf]
        · simpa [rejected] using outcome

-----------------------------------------------------------------------------------------
-- The whole job
-----------------------------------------------------------------------------------------

/-- The keypad is seen, the link comes up, and a session IV arrives in time. -/
structure HandshakeEnv.Opens (env : HandshakeEnv) (macPretty : Bytes) : Prop where
  found : ∃ found, discoverTarget env.scan macPretty = some found ∧ found.1.addressIsNull = false
  clientCreated : env.clientCreated = true
  connected : env.connected = true
  serviceFound : env.serviceFound = true
  requestWritten : env.requestWritten = true
  ivReceived : ∃ heard ∈ env.beforeRequest :: env.rounds.take 6, CarriesIv heard

@[simp] theorem Handshake.attempts_abort (handshake : Handshake) (error : String)
    : (handshake.abort error).attempts = handshake.attempts := rfl

/-- An error on a live link ends the job with the client gone. -/
theorem Handshake.endedWith_abort {handshake : Handshake} (running : OnlySteps handshake.moves)
    (live : handshake.client = [.created, .connected]) (error : String)
    : (handshake.abort error).EndedWith (.fail error) where
  moves := ⟨handshake.moves, running, rfl⟩
  client := .inr (.inr (by simp [abort, clientDid, report, live]))

/-- What `connect_switchbot_service` leaves. -/
theorem Handshake.connectService_cases (env : HandshakeEnv) (handshake : Handshake)
    : (∃ error client,
        ¬ (env.clientCreated = true ∧ env.connected = true ∧ env.serviceFound = true)
        ∧ Released client
        ∧ handshake.connectService env = (.error error, handshake.clientDid client))
      ∨ (env.clientCreated = true ∧ env.connected = true ∧ env.serviceFound = true)
        ∧ handshake.connectService env
          = (.ok (), handshake.clientDid [.created, .connected]) := by
  unfold connectService
  cases created : env.clientCreated
  · exact .inl ⟨_, [], by simp, .inl rfl, by simp [clientDid]; rfl⟩
  cases connected : env.connected
  · exact .inl ⟨_, _, by simp, .inr (.inl rfl), rfl⟩
  cases found : env.serviceFound
  · exact .inl ⟨_, _, by simp, .inr (.inr rfl), rfl⟩
  · exact .inr ⟨by simp, rfl⟩

/-- A job that does not get a session ends before its first command. -/
theorem Handshake.openSession_cases (env : HandshakeEnv) (request : Request) (iv : Iv)
    : (∃ ended error,
        ¬ env.Opens request.keypadMac
        ∧ openSession env request { iv } = .error ended
        ∧ ended.attempts = []
        ∧ ended.EndedWith (.fail error))
      ∨ ∃ opened,
        env.Opens request.keypadMac
        ∧ openSession env request { iv } = .ok opened
        ∧ opened.attempts = []
        ∧ OnlySteps opened.moves
        ∧ opened.client = [.created, .connected] := by
  simp only [openSession]
  cases seen : (discoverTarget env.scan request.keypadMac).filter
      fun found => !found.1.addressIsNull with
  | none =>
      refine .inl ⟨_, _, fun opens => ?_, rfl, rfl, ⟨[.step 0], ⟨[0], rfl⟩, rfl⟩, .inl rfl⟩
      obtain ⟨found, discovered, address⟩ := opens.found
      simp [discovered, address] at seen
  | some found =>
      have discovered : discoverTarget env.scan request.keypadMac = some found
          ∧ found.1.addressIsNull = false := by
        simpa using Option.filter_eq_some_iff.mp seen
      dsimp only
      rcases connectService_cases env (report { iv } (.step 0)) with
        ⟨error, client, broken, life, connected⟩ | ⟨up, connected⟩
      · rw [connected]
        exact .inl ⟨_, error, fun opens => broken ⟨opens.clientCreated, opens.connected,
          opens.serviceFound⟩, rfl, rfl, ⟨[.step 0], ⟨[0], rfl⟩, rfl⟩, life⟩
      rw [connected]
      dsimp only
      have steps : OnlySteps [Move.step 0, .step 1, .step 2] := ⟨[0, 1, 2], rfl⟩
      generalize subscribed : ((((report { iv } (.step 0)).clientDid
        [.created, .connected]).report (.step 1)).report (.step 2)) = handshake
      have moves : handshake.moves = [.step 0, .step 1, .step 2] := by rw [← subscribed]; rfl
      have client : handshake.client = [.created, .connected] := by rw [← subscribed]; rfl
      have attempts : handshake.attempts = [] := by rw [← subscribed]; rfl
      have blank : handshake.ivReceived = false := by rw [← subscribed]; rfl
      cases written : env.requestWritten with
      | false =>
          have closed : ¬ env.Opens request.keypadMac := fun opens => by
            simpa [written] using opens.requestWritten
          refine .inl ⟨_, _, closed, rfl, ?_, endedWith_abort ?_ ?_ _⟩
          · rw [attempts_abort, onNotifyAll_attempts, attempts]
          · rw [onNotifyAll_moves, moves]
            exact steps
          · rw [onNotifyAll_client, client]
      | true =>
          obtain ⟨waitedMoves, waitedClient, waitedAttempts, received⟩ :=
            awaitIv_spec (handshake.onNotifyAll env.beforeRequest) (env.rounds.take 6)
          rw [onNotifyAll_moves, moves] at waitedMoves
          rw [onNotifyAll_client, client] at waitedClient
          rw [onNotifyAll_attempts, attempts] at waitedAttempts
          have ivReceived
              : ((handshake.onNotifyAll env.beforeRequest).awaitIv
                  (env.rounds.take 6)).ivReceived = true
                ↔ ∃ heard ∈ env.beforeRequest :: env.rounds.take 6, CarriesIv heard := by
            rw [received, onNotifyAll_ivReceived]
            simp [blank]
          simp only [Bool.not_true, Bool.false_eq_true, if_false]
          generalize (handshake.onNotifyAll env.beforeRequest).awaitIv (env.rounds.take 6)
            = waited at waitedMoves waitedClient waitedAttempts ivReceived ⊢
          cases answered : waited.ivReceived with
          | false =>
              have closed : ¬ env.Opens request.keypadMac := fun opens => by
                simpa [answered] using ivReceived.mpr opens.ivReceived
              exact .inl ⟨_, _, closed, rfl, waitedAttempts,
                endedWith_abort (waitedMoves ▸ steps) waitedClient _⟩
          | true =>
              refine .inr ⟨waited, ⟨⟨found, discovered⟩, up.1, up.2.1, up.2.2, written,
                ivReceived.mp answered⟩, rfl, waitedAttempts, ?_, waitedClient⟩
              rw [waitedMoves]
              exact steps

/-- A job without a session tries no command and fails. -/
theorem Handshake.runJob_closed (keystream : Keystream)
    (closed : ¬ env.Opens request.keypadMac) (iv : Iv)
    : let job := runJob keystream env request iv
      job.attempts = [] ∧ ∃ error, job.EndedWith (.fail error) := by
  rcases openSession_cases env request iv with
    ⟨ended, error, _, notOpened, attempts, outcome⟩ | ⟨_, opens, _⟩
  · simp only [runJob, notOpened]
    exact ⟨attempts, error, outcome⟩
  · exact absurd opens closed

/-- A job with a session tries the commands of its request up to the first rejected one, and
succeeds if there is none.
-/
theorem Handshake.runJob_opens (keystream : Keystream) (opens : env.Opens request.keypadMac)
    (iv : Iv)
    : ∃ opened,
        openSession env request { iv } = .ok opened
        ∧ let job := runJob keystream env request iv
          job.attempts
              = attemptsOf keystream env request opened.iv (triedCommands env request.plan)
          ∧ ((∀ command ∈ request.plan, ¬ command.Rejected env) ∧ job.EndedWith .succeed
            ∨ (∃ command ∈ request.plan, command.Rejected env)
              ∧ ∃ error, job.EndedWith (.fail error)) := by
  rcases openSession_cases env request iv with
    ⟨_, _, closed, _⟩ | ⟨opened, _, isOpen, attempts, running, client⟩
  · exact absurd opens closed
  refine ⟨opened, isOpen, ?_⟩
  simp only [runJob, isOpen]
  obtain ⟨tried, gone, steps, ending, only, ended, outcome⟩ :=
    runPlan_eq keystream env request request.plan running
  rw [attempts, List.nil_append] at tried
  rw [client] at gone
  have released : Released (runPlan keystream env request request.plan opened).client :=
    .inr (.inr gone)
  refine ⟨tried, ?_⟩
  rcases outcome with ⟨accepted, rfl⟩ | ⟨rejected, error, rfl⟩
  · exact .inl ⟨accepted, ⟨steps, only, ended⟩, released⟩
  · exact .inr ⟨rejected, error, ⟨steps, only, ended⟩, released⟩

end

end KeypadPairer

end KeypadBridge
