import Mathlib.Data.List.Basic
import KeypadBridge.Client.Provisioning
import KeypadBridge.Wizard.HandshakeOutcome
import KeypadBridge.Wizard.PairingUi

/-! One key in one slot of two devices: the pairing handshake writes the shared key into the
keypad, and the lock linker writes it into the lock.
-/

namespace KeypadBridge

-----------------------------------------------------------------------------------------
-- The lock linker
-----------------------------------------------------------------------------------------

namespace LockLinker

/-- `slot_nonce`. -/
def slotNonce (slotId : UInt8) : UInt8 := if slotId = sharedSlotVision then 0x80 else 0x69

/-- `make_provision_commands`. -/
def makeProvisionCommands (slotId : UInt8) (sharedKey : AesKey) : List Bytes :=
  [[0x0F, 0x20, 0x09, slotId],
    [0x0F, 0x20, 0x03, slotId, slotNonce slotId],
    [0x0F, 0x20, 0x04, slotId, 0x00] ++ sharedKey.toList.take 8,
    [0x0F, 0x20, 0x04, slotId, 0x01] ++ sharedKey.toList.drop 8]

/-- `provision_responses_plausible`. -/
def provisionResponsesPlausible (slotId : UInt8) (responses : List Bytes) : Bool :=
  let response (i : Nat) := responses.getD i []
  if responses.length ≠ 4 then false
  else if !(response 0).isEmpty
      && !((response 0).length = 1 && (response 0).getD 0 0 = slotId) then false
  else if (response 1).length ≠ 2 || (response 1).getD 0 0 ≠ slotId
      || (response 1).getD 1 0 ≠ slotNonce slotId then false
  else
    (response 2).length = 1 && (response 2).getD 0 0 = slotId
      && (response 3).length = 1 && (response 3).getD 0 0 = slotId

/-- The configurations print the address that the cloud stores. -/
def Request.macText (request : Request) : String :=
  String.ofList (request.mac.map fun byte => Char.ofNat byte.toNat)

/-- The lock under its cloud credential. -/
def Request.provisioningConfig (request : Request) : PhysicalLockClient.Config where
  mac := request.macText
  model := request.model
  keyId := request.lockKeyId
  key := request.lockKey

/-- The lock under the shared key. -/
def Request.sharedConfig (request : Request) : PhysicalLockClient.Config where
  mac := request.macText
  model := request.model
  keyId := request.slot
  key := request.sharedKey

section

variable (keystream : Keystream) (gcm : AesGcm) {Peer : Type}
  (link : PhysicalLockClient.Link Peer)

/-- What `execute_` makes of the exchange with the lock. Its error texts end the job; the
steps that it reports meanwhile are not part of this.
-/
def linkOutcome (request : Request) (peer : Peer) : Except String Unit × Peer :=
  let (exchange, peer) :=
    PhysicalLockClient.provisionAndVerifySharedKey keystream gcm link request.provisioningConfig
      (makeProvisionCommands request.slot request.sharedKey) request.sharedConfig peer
  match exchange.result with
  | .error err => (.error ("Could not link the lock shared key: " ++ err), peer)
  | .ok () =>
      if !provisionResponsesPlausible request.slot exchange.responses then
        (.error "The lock returned an unexpected shared-key provisioning response.", peer)
      else (.ok (), peer)

end

/-- The moves with which `execute_` ends. -/
def closingMoves : Except String Unit → List Move
  | .ok () => [.storeSlot, .succeed]
  | .error err => [.fail err]

/-- A move of the job's task. -/
def move (linker : LockLinker) (move : Move) : LockLinker :=
  match linker.task with
  | some task => linker.execute task move
  | none => linker

end LockLinker

-----------------------------------------------------------------------------------------
-- A device with a shared slot
-----------------------------------------------------------------------------------------

/-- What a keypad or a lock holds for the shared key. -/
structure SlotReceiver where
  slot : UInt8
  nonce : UInt8
  key : AesKey
  deriving DecidableEq

/-- One half of a key, replaced. -/
def writeKeyHalf (key : AesKey) (half : Nat) (bytes : Bytes) : AesKey :=
  Vector.ofFn fun i => if i.val / 8 = half then bytes.getD (i.val % 8) 0 else key[i]

namespace SlotReceiver

/-- A slot-init command opens a slot, a key-half command fills half of the open slot's key.
-/
def apply (receiver : SlotReceiver) : Bytes → SlotReceiver
  | [0x0F, 0x20, 0x03, slot, nonce] => { receiver with slot, nonce }
  | 0x0F :: 0x20 :: 0x04 :: slot :: half :: bytes =>
      if slot = receiver.slot ∧ bytes.length = 8 ∧ half.toNat < 2 then
        { receiver with key := writeKeyHalf receiver.key half.toNat bytes }
      else receiver
  | _ => receiver

def applyAll (receiver : SlotReceiver) (plaintexts : List Bytes) : SlotReceiver :=
  plaintexts.foldl apply receiver

end SlotReceiver

/-- A slot-init or a key-half command. -/
def isSlotCommand (plaintext : Bytes) : Bool :=
  plaintext.take 3 = [0x0F, 0x20, 0x03] || plaintext.take 3 = [0x0F, 0x20, 0x04]

/-- The slot-init and the key-half commands for a slot. -/
def slotCommands (slot nonce : UInt8) (key : AesKey) : List Bytes :=
  [[0x0F, 0x20, 0x03, slot, nonce],
    [0x0F, 0x20, 0x04, slot, 0x00] ++ key.toList.take 8,
    [0x0F, 0x20, 0x04, slot, 0x01] ++ key.toList.drop 8]

namespace SlotReceiver

variable {receiver : SlotReceiver}

theorem apply_of_other {plaintext : Bytes} (other : isSlotCommand plaintext = false)
    : receiver.apply plaintext = receiver := by
  unfold apply
  split
  · simp [isSlotCommand] at other
  · simp [isSlotCommand] at other
  · rfl

/-- Only slot commands matter. -/
theorem applyAll_filter (plaintexts : List Bytes)
    : receiver.applyAll plaintexts = receiver.applyAll (plaintexts.filter isSlotCommand) := by
  induction plaintexts generalizing receiver with
  | nil => rfl
  | cons plaintext rest ih =>
      cases kind : isSlotCommand plaintext with
      | true =>
          rw [List.filter_cons_of_pos kind]
          exact ih
      | false =>
          rw [List.filter_cons_of_neg (by simp [kind])]
          simp only [applyAll, List.foldl_cons, apply_of_other kind]
          exact ih

/-- The two halves are the whole key. -/
theorem writeKeyHalf_both (old key : AesKey)
    : writeKeyHalf (writeKeyHalf old 0 (key.toList.take 8)) 1 (key.toList.drop 8) = key := by
  apply Vector.ext
  intro i inside
  have position : i / 8 = 0 ∧ i % 8 = i ∨ i / 8 = 1 ∧ 8 + i % 8 = i := by omega
  rcases position with ⟨half, offset⟩ | ⟨half, offset⟩
  · have short : i < 8 := by omega
    simp [writeKeyHalf, half, offset, List.getD_eq_getElem?_getD, short]
  · simp [writeKeyHalf, half, List.getD_eq_getElem?_getD, offset, inside]

/-- The slot commands put the key into the slot, whatever was there. -/
theorem applyAll_slotCommands (slot nonce : UInt8) (key : AesKey)
    : receiver.applyAll (slotCommands slot nonce key) = ⟨slot, nonce, key⟩ := by
  have half1 : (key.toList.take 8).length = 8 := by simp
  have half2 : (key.toList.drop 8).length = 8 := by simp
  simp only [applyAll, slotCommands, List.foldl_cons, List.foldl_nil, apply, List.cons_append,
    List.nil_append, half1, half2]
  simp [writeKeyHalf_both]

end SlotReceiver

-----------------------------------------------------------------------------------------
-- What the keypad receives
-----------------------------------------------------------------------------------------

namespace KeypadPairer

/-- What the keypad decrypts of an attempt, if a frame reached it. -/
def CommandAttempt.received (keystream : Keystream) (key : AesKey) (attempt : CommandAttempt)
    : Option Bytes :=
  attempt.frame.map fun frame => ctrXor keystream key attempt.iv (frame.drop 4)

section

variable {keystream : Keystream} {env : HandshakeEnv} {request : Request}

/-- The keypad receives the commands that were sent, in the clear. -/
theorem attemptsOf_received (plan : List PlannedCommand) (iv : Iv)
    : (attemptsOf keystream env request iv plan).filterMap
        (CommandAttempt.received keystream request.key)
      = (plan.filter fun command => (env.sends command.kind).Succeeds).map
          PlannedCommand.plaintext := by
  induction plan generalizing iv with
  | nil => rfl
  | cons command rest ih =>
      by_cases succeeds : (env.sends command.kind).Succeeds
      · simp [attemptsOf, attemptOf, CommandAttempt.received, succeeds, ih]
      · have lost : (attemptOf keystream env request iv command).frame = none := by
          simp [attemptOf, succeeds]
        simp [attemptsOf, CommandAttempt.received, lost, succeeds, ih]

/-- Whatever follows commands that are not rejected is tried as well. -/
theorem triedCommands_append {before after : List PlannedCommand}
    (accepted : ∀ command ∈ before, ¬ command.Rejected env)
    : triedCommands env (before ++ after) = before ++ triedCommands env after := by
  induction before with
  | nil => rfl
  | cons command rest ih =>
      obtain ⟨here, later⟩ := List.forall_mem_cons.mp accepted
      rw [List.cons_append, triedCommands, if_neg here, ih later, List.cons_append]

/-- Nothing is tried after a rejected command. -/
theorem triedCommands_append_of_rejected {before after : List PlannedCommand}
    (rejected : ∃ command ∈ before, command.Rejected env)
    : triedCommands env (before ++ after) = triedCommands env before := by
  induction before with
  | nil => simp at rejected
  | cons command rest ih =>
      simp only [List.cons_append, triedCommands]
      split
      · rfl
      · rename_i here
        rw [ih (by simpa [here] using rejected)]

/-- The second key half stands behind the other slot commands, which `execute_` looks at. -/
theorem plan_split (request : Request)
    : ∃ before half2 after,
        request.plan = before ++ half2 :: after
        ∧ half2.kind = .keyHalf2
        ∧ (∀ command ∈ before, command.kind ≠ .keyHalf2)
        ∧ (∀ command ∈ before,
            isSlotCommand command.plaintext = true → command.error.isSome = true)
        ∧ (∀ command ∈ after, isSlotCommand command.plaintext = false)
        ∧ ((before ++ [half2]).map PlannedCommand.plaintext).filter isSlotCommand
          = slotCommands (presetFor request.family).sharedSlot
              (presetFor request.family).slotInitNonce request.sharedToken := by
  unfold Request.plan presetFor
  split
  · refine ⟨(commandPlan visionPreset request.sharedToken request.espMac).take 5, _,
      (commandPlan visionPreset request.sharedToken request.espMac).drop 6, rfl, rfl, ?_, ?_, ?_,
      ?_⟩
    all_goals simp [commandPlan, visionPreset, isSlotCommand, slotCommands]
  · refine ⟨(commandPlan originalPreset request.sharedToken request.espMac).take 4, _,
      (commandPlan originalPreset request.sharedToken request.espMac).drop 5, rfl, rfl, ?_, ?_, ?_,
      ?_⟩
    all_goals simp [commandPlan, originalPreset, isSlotCommand, slotCommands]

/-- Each trace is that of a tried command, and says whether it was sent. -/
theorem mem_attemptsOf {plan : List PlannedCommand} {iv : Iv} {attempt : CommandAttempt}
    (member : attempt ∈ attemptsOf keystream env request iv plan)
    : ∃ command ∈ plan,
        command.kind = attempt.kind
        ∧ (attempt.frame.isSome = true → (env.sends command.kind).Succeeds) := by
  induction plan generalizing iv with
  | nil => exact absurd member List.not_mem_nil
  | cons command rest ih =>
      rcases List.mem_cons.mp member with rfl | later
      · refine ⟨command, .head _, rfl, fun sent => by_contra fun failed => ?_⟩
        simp [attemptOf, failed] at sent
      · obtain ⟨other, planned, same, sent⟩ := ih later
        exact ⟨other, .tail _ planned, same, sent⟩

/-- The slot commands among the sent ones, once the second key half has been sent. -/
theorem sent_slotCommands {plan before after : List PlannedCommand} {half2 : PlannedCommand}
    (split : plan = before ++ half2 :: after) (isHalf2 : half2.kind = .keyHalf2)
    (first : ∀ command ∈ before, command.kind ≠ .keyHalf2)
    (observed : ∀ command ∈ before,
      isSlotCommand command.plaintext = true → command.error.isSome = true)
    (others : ∀ command ∈ after, isSlotCommand command.plaintext = false)
    (tried : ∃ command ∈ triedCommands env plan, command.kind = .keyHalf2)
    (sent : (env.sends .keyHalf2).Succeeds)
    : (((triedCommands env plan).filter fun command => (env.sends command.kind).Succeeds).map
          PlannedCommand.plaintext).filter isSlotCommand
      = ((before ++ [half2]).map PlannedCommand.plaintext).filter isSlotCommand := by
  have accepted : ∀ command ∈ before, ¬ command.Rejected env := by
    intro command member rejected
    obtain ⟨half, member', isHalf⟩ := tried
    rw [split, triedCommands_append_of_rejected ⟨command, member, rejected⟩] at member'
    exact first half ((triedCommands_within before).mem member') isHalf
  have half2Accepted : ¬ half2.Rejected env := fun rejected => rejected.1 (isHalf2 ▸ sent)
  rw [split, triedCommands_append accepted, triedCommands, if_neg half2Accepted]
  have silent : ∀ command ∈ triedCommands env after,
      isSlotCommand command.plaintext = false :=
    fun command member => others command ((triedCommands_within after).mem member)
  have succeeds : ∀ command ∈ before,
      isSlotCommand command.plaintext = true → (env.sends command.kind).Succeeds :=
    fun command member slot => by_contra fun failed =>
      accepted command member ⟨failed, observed command member slot⟩
  have kept : (before.filter fun command => (env.sends command.kind).Succeeds).filter
      (isSlotCommand ∘ PlannedCommand.plaintext)
      = before.filter (isSlotCommand ∘ PlannedCommand.plaintext) := by
    rw [List.filter_filter]
    refine List.filter_congr fun command member => ?_
    cases slot : isSlotCommand command.plaintext with
    | true => simp [slot, succeeds command member slot]
    | false => simp [slot]
  have none : ((triedCommands env after).filter fun command =>
      (env.sends command.kind).Succeeds).filter (isSlotCommand ∘ PlannedCommand.plaintext)
      = [] := by
    rw [List.filter_eq_nil_iff]
    intro command member
    simp [silent command (List.mem_filter.mp member).1]
  have half2Sent : (env.sends half2.kind).Succeeds := isHalf2 ▸ sent
  rw [List.filter_map, List.filter_map]
  congr 1
  rw [List.filter_append, List.filter_append, kept,
    List.filter_cons_of_pos (by simpa using half2Sent), List.filter_append, List.filter_cons,
    none, List.filter_cons, List.filter_nil]

/-- Once the second key half is sent, the keypad holds the shared key in the slot of the
family, under the family's nonce.
-/
theorem keypad_receives (keystream : Keystream) (env : HandshakeEnv) (request : Request)
    (iv : Iv) (receiver : SlotReceiver)
    (written : ∃ attempt ∈ (Handshake.runJob keystream env request iv).attempts,
      attempt.kind = .keyHalf2 ∧ attempt.frame.isSome = true)
    : receiver.applyAll
        ((Handshake.runJob keystream env request iv).attempts.filterMap
          (CommandAttempt.received keystream request.key))
      = ⟨(presetFor request.family).sharedSlot, (presetFor request.family).slotInitNonce,
          request.sharedToken⟩ := by
  obtain ⟨attempt, member, isHalf2, sent⟩ := written
  by_cases opens : env.Opens request.keypadMac
  · obtain ⟨opened, _, attempts, _⟩ :=
      Handshake.runJob_opens keystream opens iv
    rw [attempts] at member ⊢
    obtain ⟨command, tried, same, succeeds⟩ := mem_attemptsOf member
    have isHalf2 : command.kind = .keyHalf2 := same.trans isHalf2
    obtain ⟨before, half2, after, split, half2Kind, first, observed, others, slots⟩ :=
      plan_split request
    rw [attemptsOf_received, SlotReceiver.applyAll_filter,
      sent_slotCommands split half2Kind first observed others ⟨command, tried, isHalf2⟩
        (isHalf2 ▸ succeeds sent),
      slots, SlotReceiver.applyAll_slotCommands]
  · rw [(Handshake.runJob_closed keystream opens iv).1] at member
    exact absurd member List.not_mem_nil

end

end KeypadPairer

-----------------------------------------------------------------------------------------
-- What the lock answers
-----------------------------------------------------------------------------------------

namespace LockLinker

/-- The four answers to the provisioning commands name the slot and its nonce; the first may be
empty.
-/
def ConsistentResponses (slotId : UInt8) (responses : List Bytes) : Prop :=
  ∃ opening,
    (opening = [] ∨ opening = [slotId])
    ∧ responses = [opening, [slotId, slotNonce slotId], [slotId], [slotId]]

theorem eq_singleton_of_getD {bytes : Bytes} {byte : UInt8} (single : bytes.length = 1)
    (first : bytes.getD 0 0 = byte)
    : bytes = [byte] := by
  obtain ⟨only, rfl⟩ := List.length_eq_one_iff.mp single
  simpa using first

theorem eq_of_length_four {responses : List Bytes} (four : responses.length = 4)
    : ∃ first second third fourth, responses = [first, second, third, fourth] := by
  obtain ⟨first, rest, rfl⟩ := List.exists_cons_of_length_eq_add_one four
  obtain ⟨second, third, fourth, rfl⟩ := List.length_eq_three.mp (Nat.succ.inj four)
  exact ⟨first, second, third, fourth, rfl⟩

/-- What the check of the responses accepts. -/
theorem consistent_of_plausible {slotId : UInt8} {responses : List Bytes}
    (accepted : provisionResponsesPlausible slotId responses = true)
    : ConsistentResponses slotId responses := by
  simp only [provisionResponsesPlausible] at accepted
  split at accepted
  · cases accepted
  rename_i four
  obtain ⟨opening, slotInit, half1, half2, rfl⟩ := eq_of_length_four (not_not.mp four)
  split at accepted
  · cases accepted
  rename_i opened
  split at accepted
  · cases accepted
  rename_i initialised
  simp only [List.getD_cons_zero, List.getD_cons_succ, Bool.and_eq_true, Bool.or_eq_true,
    decide_eq_true_eq, not_or, not_not, ne_eq, decide_not, Bool.not_eq_true',
    decide_eq_false_iff_not] at accepted initialised
  obtain ⟨⟨pair, slotEcho⟩, nonceEcho⟩ := initialised
  obtain ⟨⟨⟨single1, echo1⟩, single2⟩, echo2⟩ := accepted
  refine ⟨opening, ?_, ?_⟩
  · by_cases empty : opening = []
    · exact .inl empty
    · have echoed : opening.length = 1 ∧ opening.getD 0 0 = slotId := by
        simpa [empty] using opened
      exact .inr (eq_singleton_of_getD echoed.1 echoed.2)
  · obtain ⟨slot, nonce, rfl⟩ := List.length_eq_two.mp pair
    simp only [List.getD_cons_zero, List.getD_cons_succ] at slotEcho nonceEcho
    rw [slotEcho, nonceEcho, eq_singleton_of_getD single1 echo1,
      eq_singleton_of_getD single2 echo2]

/-- What the check of the lock-info answer accepts. -/
theorem payload_of_verifyResponses {model : PhysicalLockModel} {responses : List Bytes}
    (accepted : PhysicalLockClient.verifyResponses model responses = .ok ())
    : ∃ payload later,
        responses = payload :: later ∧ model.infoResponsePlausible payload = true := by
  unfold PhysicalLockClient.verifyResponses at accepted
  split at accepted
  · cases accepted
  rename_i nonempty
  split at accepted
  · cases accepted
  rename_i accepted
  cases responses with
  | nil => simp at nonempty
  | cons payload later => exact ⟨payload, later, rfl, by simpa using accepted⟩

section

variable {keystream : Keystream} {gcm : AesGcm} {Peer : Type}
  {link : PhysicalLockClient.Link Peer} {request : Request} {peer : Peer}

variable (keystream gcm link request peer) in
/-- The provisioning session of the job, over the connection it makes. -/
def provisioningSession : PhysicalLockClient.Exchange × Peer :=
  PhysicalLockClient.runNamedSession keystream gcm link request.provisioningConfig
    "lock provisioning" (makeProvisionCommands request.slot request.sharedKey)
    (link.subscribe (link.connect request.provisioningConfig peer).2).2

variable (keystream gcm link request peer) in
/-- The lock took the provisioning commands with answers that name slot and nonce, and then
answered the lock-info request under the shared key plausibly.
-/
structure Verified : Prop where
  provisioned : (provisioningSession keystream gcm link request peer).1.result = .ok ()
  consistent : ConsistentResponses request.slot
    (provisioningSession keystream gcm link request peer).1.responses
  verified : ∃ verifyCmd payload later,
    request.model.lockInfoPlaintext = some verifyCmd
    ∧ (PhysicalLockClient.runNamedSession keystream gcm link request.sharedConfig
        "shared-key verification" [verifyCmd]
        (provisioningSession keystream gcm link request peer).2).1
      = ⟨.ok (), payload :: later⟩
    ∧ request.model.infoResponsePlausible payload = true

/-- A successful call got as far as its two sessions. -/
theorem provisionAndVerifySharedKey_eq_of_ok
    (done : (PhysicalLockClient.provisionAndVerifySharedKey keystream gcm link
      request.provisioningConfig (makeProvisionCommands request.slot request.sharedKey)
      request.sharedConfig peer).1.result = .ok ())
    : ∃ verifyCmd,
        request.model.lockInfoPlaintext = some verifyCmd
        ∧ (PhysicalLockClient.provisionAndVerifySharedKey keystream gcm link
            request.provisioningConfig (makeProvisionCommands request.slot request.sharedKey)
            request.sharedConfig peer).1
          = (PhysicalLockClient.provisionThenVerify keystream gcm link
              request.provisioningConfig request.sharedConfig
              (makeProvisionCommands request.slot request.sharedKey) verifyCmd
              (link.subscribe (link.connect request.provisioningConfig peer).2).2).1 := by
  unfold PhysicalLockClient.provisionAndVerifySharedKey at done ⊢
  have model : request.sharedConfig.model = request.model := rfl
  rw [model] at done ⊢
  rw [if_neg (by simp [makeProvisionCommands]), if_neg (by simp [makeProvisionCommands])]
    at done ⊢
  cases command : request.model.lockInfoPlaintext with
  | none =>
      simp only [command] at done
      cases done
  | some verifyCmd =>
      refine ⟨verifyCmd, rfl, ?_⟩
      simp only [command] at done ⊢
      rcases connected : link.connect request.provisioningConfig peer with ⟨_ | _, after⟩
      · simp only [connected] at done
        cases done
      simp only [connected] at done ⊢
      by_cases created : link.createSemaphore after = true
      · by_cases subscribed : (link.subscribe after).1 = true
        · simp only [created, subscribed, Bool.not_true, Bool.false_eq_true, if_false]
        · simp only [created, subscribed, Bool.not_true, Bool.not_false, Bool.false_eq_true,
            if_false, if_true] at done
          cases done
      · simp only [created, Bool.not_false, if_true] at done
        cases done

/-- A successful call provisioned the lock and verified the shared key. -/
theorem provisionAndVerifySharedKey_ok
    (done : (PhysicalLockClient.provisionAndVerifySharedKey keystream gcm link
      request.provisioningConfig (makeProvisionCommands request.slot request.sharedKey)
      request.sharedConfig peer).1.result = .ok ())
    : (provisioningSession keystream gcm link request peer).1.result = .ok ()
      ∧ (PhysicalLockClient.provisionAndVerifySharedKey keystream gcm link
          request.provisioningConfig (makeProvisionCommands request.slot request.sharedKey)
          request.sharedConfig peer).1.responses
        = (provisioningSession keystream gcm link request peer).1.responses
      ∧ ∃ verifyCmd payload later,
          request.model.lockInfoPlaintext = some verifyCmd
          ∧ (PhysicalLockClient.runNamedSession keystream gcm link request.sharedConfig
              "shared-key verification" [verifyCmd]
              (provisioningSession keystream gcm link request peer).2).1
            = ⟨.ok (), payload :: later⟩
          ∧ request.model.infoResponsePlausible payload = true := by
  obtain ⟨verifyCmd, command, body⟩ := provisionAndVerifySharedKey_eq_of_ok done
  rw [body] at done ⊢
  have session : PhysicalLockClient.runNamedSession keystream gcm link
      request.provisioningConfig "lock provisioning"
      (makeProvisionCommands request.slot request.sharedKey)
      (link.subscribe (link.connect request.provisioningConfig peer).2).2
      = provisioningSession keystream gcm link request peer := rfl
  simp only [PhysicalLockClient.provisionThenVerify, session] at done ⊢
  generalize provisioningSession keystream gcm link request peer = provisioned at done ⊢
  obtain ⟨⟨_ | _, responses⟩, after⟩ := provisioned
  · cases done
  dsimp only at done ⊢
  rcases second : PhysicalLockClient.runNamedSession keystream gcm link request.sharedConfig
    "shared-key verification" [verifyCmd] after with ⟨⟨_ | _, answers⟩, final⟩
  · rw [second] at done
    cases done
  rw [second] at done
  obtain ⟨payload, later, rfl, accepted⟩ := payload_of_verifyResponses done
  exact ⟨rfl, rfl, verifyCmd, payload, later, command, congrArg Prod.fst second, accepted⟩

/-- The job links only a lock that verified the shared key and answered consistently. -/
theorem verified_of_linkOutcome
    (linked : (linkOutcome keystream gcm link request peer).1 = .ok ())
    : Verified keystream gcm link request peer := by
  simp only [linkOutcome] at linked
  split at linked
  · cases linked
  rename_i done
  split at linked
  · cases linked
  rename_i accepted
  obtain ⟨provisioned, responses, verified⟩ := provisionAndVerifySharedKey_ok done
  rw [responses] at accepted
  exact ⟨provisioned, consistent_of_plausible (by simpa using accepted), verified⟩

/-- Reported steps leave the task where it is. -/
theorem foldl_step {linker : LockLinker} {task : Task} (steps : List UInt8)
    (running : linker.task = some task)
    : ((steps.map Move.step).foldl move linker).task = some task := by
  induction steps generalizing linker with
  | nil => exact running
  | cons step rest ih =>
      refine ih ?_
      simp only [move, running, execute]
      split
      · exact running
      · exact running

/-- A job whose exchange failed is failed. -/
theorem finish_fail {linker : LockLinker} (steps : List UInt8) (err : String)
    (running : linker.task = some { request })
    : ((steps.map Move.step ++ closingMoves (.error err)).foldl move linker).status.state
      = .failed := by
  rw [List.foldl_append]
  simp only [closingMoves, List.foldl_cons, List.foldl_nil, move, foldl_step steps running,
    execute, Bool.false_eq_true, if_false, BackgroundBleJob.markFailed]

end

end LockLinker

-----------------------------------------------------------------------------------------
-- One key in one slot
-----------------------------------------------------------------------------------------

/-- The keypad's presets and the lock's constants agree on slot and nonce. -/
theorem presetFor_slot (family : KeypadFamily)
    : (KeypadPairer.presetFor family).sharedSlot = sharedSlotForFamily family
      ∧ (KeypadPairer.presetFor family).slotInitNonce
        = LockLinker.slotNonce (sharedSlotForFamily family) := by
  unfold KeypadPairer.presetFor sharedSlotForFamily
  split <;> exact ⟨rfl, rfl⟩

/-- The lock is told the slot commands for the family's slot. -/
theorem makeProvisionCommands_receives (slot : UInt8) (key : AesKey) (lock : SlotReceiver)
    : lock.applyAll (LockLinker.makeProvisionCommands slot key)
      = ⟨slot, LockLinker.slotNonce slot, key⟩ := by
  have slots : (LockLinker.makeProvisionCommands slot key).filter isSlotCommand
      = slotCommands slot (LockLinker.slotNonce slot) key := by
    simp [LockLinker.makeProvisionCommands, isSlotCommand, slotCommands]
  rw [SlotReceiver.applyAll_filter, slots, SlotReceiver.applyAll_slotCommands]

/-- The keypad and the lock end up with the shared key in one slot, under one nonce, and a lock
is linked only if it verified the key and its four provisioning answers name slot and nonce.
-/
theorem shared_key_agreed (keystream : Keystream) (gcm : AesGcm)
    : (∀ (env : KeypadPairer.HandshakeEnv) (request : KeypadPairer.Request) (iv : Iv)
        (keypad lock : SlotReceiver),
        let job := KeypadPairer.Handshake.runJob keystream env request iv
        (∃ attempt ∈ job.attempts, attempt.kind = .keyHalf2 ∧ attempt.frame.isSome = true)
        → let keypad := keypad.applyAll (job.attempts.filterMap
            (KeypadPairer.CommandAttempt.received keystream request.key))
          let slot := sharedSlotForFamily request.family
          keypad = lock.applyAll (LockLinker.makeProvisionCommands slot request.sharedToken)
          ∧ keypad = ⟨slot, LockLinker.slotNonce slot, request.sharedToken⟩)
      ∧ ∀ (Peer : Type) (link : PhysicalLockClient.Link Peer) (request : LockLinker.Request)
        (peer : Peer) (steps : List UInt8) (linker : LockLinker),
        linker.task = some { request }
        → let outcome := (LockLinker.linkOutcome keystream gcm link request peer).1
          ((steps.map LockLinker.Move.step ++ LockLinker.closingMoves outcome).foldl
            LockLinker.move linker).status.state = .success
        → LockLinker.Verified keystream gcm link request peer := by
  constructor
  · intro env request iv keypad lock job written
    have received := KeypadPairer.keypad_receives keystream env request iv keypad written
    rw [(presetFor_slot request.family).1, (presetFor_slot request.family).2] at received
    exact ⟨received.trans (makeProvisionCommands_receives _ _ lock).symm, received⟩
  · intro Peer link request peer steps linker running outcome success
    cases result : (LockLinker.linkOutcome keystream gcm link request peer).1 with
    | ok => exact LockLinker.verified_of_linkOutcome result
    | error err =>
        have failed := LockLinker.finish_fail steps err running
        simp only [outcome, result, failed] at success
        cases success

/-- A lock that sends what it has in store, one notification a request. -/
def cannedLock : PhysicalLockClient.Link (List Bytes) where
  connect _ answers := (.ok (), answers)
  createSemaphore _ := true
  subscribe answers := (true, answers)
  writeValue _ answers := (true, answers)
  waitNotify answers := (answers.head?, answers.tail)
  disconnect answers := answers
  psa _ := { keys := fun _ => none }

/-- The notifications of a lock that takes the shared key into `slot`, in the clear. -/
def acceptingAnswers (slot : UInt8) : List Bytes :=
  let session := [0x01] ++ List.replicate 19 0x00
  let answer (response : Bytes) := [0x57, 0x00, 0x00, 0x00] ++ response
  [session, answer [], answer [slot, LockLinker.slotNonce slot], answer [slot], answer [slot],
    session, answer [0x00, 0x00, 0x00, 0x00, 0x00, 0x00]]

/-- A request to link a Lock Ultra. -/
def ultraLink : LockLinker.Request where
  name := []
  mac := []
  model := .lockUltra
  sharedKey := Vector.replicate 16 0
  sharedSlotId := 0xC6
  lockKeyId := 0x01
  lockKey := Vector.replicate 16 0

/-- A Vision keypad holds the key in slot 0xC6, and a lock that takes it there is linked. -/
theorem shared_key_agreed_vision
    : (SlotReceiver.applyAll ⟨0, 0, Vector.replicate 16 1⟩
        ((KeypadPairer.Handshake.runJob (fun _ _ _ => 0) KeypadPairer.visionNearby
          (KeypadPairer.pairingRequest .vision) (Vector.replicate 16 0)).attempts.filterMap
          (KeypadPairer.CommandAttempt.received (fun _ _ _ => 0)
            (KeypadPairer.pairingRequest .vision).key))).slot
        = 0xC6
      ∧ LockLinker.Verified (fun _ _ _ => 0) ⟨fun _ _ _ => none, fun _ _ _ => none⟩ cannedLock
          ultraLink (acceptingAnswers 0xC6) := by
  have agreed := shared_key_agreed (fun _ _ _ => 0) ⟨fun _ _ _ => none, fun _ _ _ => none⟩
  constructor
  · have held := agreed.1 KeypadPairer.visionNearby (KeypadPairer.pairingRequest .vision)
      (Vector.replicate 16 0) ⟨0, 0, Vector.replicate 16 1⟩ ⟨0, 0, Vector.replicate 16 1⟩
      (by decide +kernel)
    exact congrArg SlotReceiver.slot held.2
  · exact agreed.2 (List Bytes) cannedLock ultraLink (acceptingAnswers 0xC6) []
      { payload := {}, task := some { request := ultraLink } } rfl (by decide +kernel)

end KeypadBridge
