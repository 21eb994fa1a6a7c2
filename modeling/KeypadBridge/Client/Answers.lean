import KeypadBridge.Client.Provisioning

/-! Which notification the client takes for the answer to which request. A binary semaphore
and one buffer carry every notification, and nothing is drained before a request is written.
-/

namespace KeypadBridge
namespace PhysicalLockClient

-----------------------------------------------------------------------------------------
-- The waiter and its task
-----------------------------------------------------------------------------------------

/-- The semaphore and the buffer that the notification handler fills. -/
structure NotifyWaiter where
  sem : Bool := false
  value : Bytes := []
  deriving DecidableEq, Repr

/-- What the notification handler does: it assigns the buffer, then it gives the semaphore. -/
inductive HandlerStep where
  | assign (data : Bytes)
  | give
  deriving DecidableEq, Repr

/-- A request that was written, and the bytes copied as its answer. `waiting` tells whether
a notification was waiting at the write, in the semaphore or in the handler; `heard` are the
notifications from then to the copy.
-/
structure Transaction where
  waiting : Bool
  request : Bytes
  heard : List Bytes
  taken : Bytes
  deriving DecidableEq, Repr

namespace Transaction

/-- The answer is a notification that arrived after the request was written. -/
def Answered (transaction : Transaction) : Prop := transaction.taken ∈ transaction.heard

/-- A notification from before the request is waiting, and none arrives in time to replace
it.
-/
def Stale (transaction : Transaction) : Prop :=
  transaction.waiting = true ∧ transaction.heard = []

instance : DecidablePred Answered := fun _ => inferInstanceAs (Decidable (_ ∈ _))

instance : DecidablePred Stale := fun _ => inferInstanceAs (Decidable (_ ∧ _))

end Transaction

/-- What a connection to a lock does, by the moments of the client's steps: what its calls
return, and what the notification handler does between one step and the next.
-/
structure LinkEnv where
  connects : Config → Except String Unit := fun _ => .ok ()
  semaphoreCreated : Bool := true
  subscribes : Bool := true
  writes : Nat → Bool := fun _ => true
  arrivals : Nat → List HandlerStep
  psa : Nat → Psa

/-- The waiter and its handler between two steps of the client, the request written last, and
the requests answered so far. `handling` says that the handler has assigned the buffer and not
yet given the semaphore.
-/
structure LockChannel where
  waiter : NotifyWaiter := {}
  handling : Bool := false
  moment : Nat := 0
  waiting : Bool := false
  request : Bytes := []
  heard : List Bytes := []
  transactions : List Transaction := []

namespace LockChannel

/-- A notification is waiting: the semaphore is given, or is about to be. -/
def waits (channel : LockChannel) : Bool := channel.waiter.sem || channel.handling

/-- A step of the notification handler, which ends one notification before the next. -/
def hear (channel : LockChannel) : HandlerStep → LockChannel
  | .assign data =>
      if channel.handling then channel
      else
        { channel with
          waiter := { channel.waiter with value := data }
          handling := true
          heard := channel.heard ++ [data] }
  | .give =>
      if channel.handling then
        { channel with waiter := { channel.waiter with sem := true }, handling := false }
      else channel

/-- What the handler does until the client's next step. -/
def pause (env : LinkEnv) (channel : LockChannel) : LockChannel :=
  { (env.arrivals channel.moment).foldl hear channel with moment := channel.moment + 1 }

/-- A write: whatever is heard from now on is heard after the request. -/
def write (frame : Bytes) (channel : LockChannel) : LockChannel :=
  { channel with waiting := channel.waits, request := frame, heard := [] }

/-- `xSemaphoreTake` that succeeds. -/
def wake (channel : LockChannel) : LockChannel :=
  { channel with waiter := { channel.waiter with sem := false } }

/-- The copy of the buffer that ends `wait_notify`. -/
def copy (channel : LockChannel) : LockChannel :=
  { channel with
    transactions := channel.transactions ++
      [{ waiting := channel.waiting
         request := channel.request
         heard := channel.heard
         taken := channel.waiter.value }] }

/-- `wait_notify`: the handler runs until the semaphore is taken or the wait times out, and
between the taking and the copy.
-/
def waitNotify (env : LinkEnv) (channel : LockChannel) : Option Bytes × LockChannel :=
  let channel := channel.pause env
  if !channel.waiter.sem then (none, channel)
  else
    let channel := channel.wake.pause env
    (some channel.waiter.value, channel.copy)

end LockChannel

/-- The link to a lock whose notifications go through a waiter. -/
def notifyLink (env : LinkEnv) : Link LockChannel where
  connect config channel := (env.connects config, channel)
  createSemaphore _ := env.semaphoreCreated
  subscribe channel := (env.subscribes, { channel with waiter := {} })
  writeValue frame channel := (env.writes channel.moment, (channel.pause env).write frame)
  waitNotify := LockChannel.waitNotify env
  disconnect channel := channel
  psa channel := env.psa channel.moment

-----------------------------------------------------------------------------------------
-- What the waiter keeps
-----------------------------------------------------------------------------------------

namespace LockChannel

/-- What holds between two steps: the buffer is the last notification heard since the
request, a notification that waits was heard since the request or was waiting at it, and the
transactions that took an older notification are the stale ones.
-/
structure Coherent (channel : LockChannel) : Prop where
  value : ∀ last, channel.heard.getLast? = some last → channel.waiter.value = last
  waits : channel.waits = true → channel.waiting = true ∨ channel.heard ≠ []
  transactions : ∀ transaction ∈ channel.transactions,
    transaction.Answered ↔ ¬ transaction.Stale

variable {channel : LockChannel} {env : LinkEnv}

theorem coherent_hear (coherent : channel.Coherent) (step : HandlerStep)
    : (channel.hear step).Coherent := by
  cases step with
  | assign data =>
      simp only [hear]
      split
      · exact coherent
      · exact ⟨fun last found => by simpa using found, fun _ => .inr (by simp),
          coherent.transactions⟩
  | give =>
      simp only [hear]
      split
      · rename_i handling
        exact ⟨coherent.value, fun _ => coherent.waits (by simp [waits, handling]),
          coherent.transactions⟩
      · exact coherent

theorem coherent_hearAll (coherent : channel.Coherent) (steps : List HandlerStep)
    : (steps.foldl hear channel).Coherent := by
  induction steps generalizing channel with
  | nil => exact coherent
  | cons step rest ih => exact ih (coherent_hear coherent step)

theorem coherent_pause (env : LinkEnv) (coherent : channel.Coherent)
    : (channel.pause env).Coherent :=
  let heard := coherent_hearAll coherent (env.arrivals channel.moment)
  ⟨heard.value, heard.waits, heard.transactions⟩

theorem coherent_write (coherent : channel.Coherent) (frame : Bytes)
    : (channel.write frame).Coherent where
  value last found := by simp [write] at found
  waits waiting := .inl waiting
  transactions := coherent.transactions

/-- Taking the semaphore leaves nothing waiting but what the handler is at. -/
theorem coherent_wake (coherent : channel.Coherent) : channel.wake.Coherent where
  value := coherent.value
  waits waiting := by
    have handling : channel.handling = true := by simpa [wake, LockChannel.waits] using waiting
    exact coherent.waits (by simp [LockChannel.waits, handling])
  transactions := coherent.transactions

/-- What a step of the handler leaves alone. -/
theorem hear_fields (step : HandlerStep) (channel : LockChannel)
    : let after := channel.hear step
      after.waiting = channel.waiting
      ∧ after.request = channel.request
      ∧ after.transactions = channel.transactions
      ∧ ∃ later, after.heard = channel.heard ++ later := by
  cases step with
  | assign data =>
      simp only [hear]
      split
      · exact ⟨rfl, rfl, rfl, [], (List.append_nil _).symm⟩
      · exact ⟨rfl, rfl, rfl, [data], rfl⟩
  | give =>
      simp only [hear]
      split
      · exact ⟨rfl, rfl, rfl, [], (List.append_nil _).symm⟩
      · exact ⟨rfl, rfl, rfl, [], (List.append_nil _).symm⟩

/-- What a pause leaves alone. -/
theorem hearAll_fields (steps : List HandlerStep) (channel : LockChannel)
    : let after := steps.foldl hear channel
      after.waiting = channel.waiting
      ∧ after.request = channel.request
      ∧ after.transactions = channel.transactions
      ∧ ∃ later, after.heard = channel.heard ++ later := by
  induction steps generalizing channel with
  | nil => exact ⟨rfl, rfl, rfl, [], (List.append_nil _).symm⟩
  | cons step rest ih =>
      obtain ⟨waiting, request, transactions, first, heard⟩ := channel.hear_fields step
      obtain ⟨waiting', request', transactions', later, heard'⟩ := ih (channel.hear step)
      refine ⟨waiting'.trans waiting, request'.trans request, transactions'.trans transactions,
        first ++ later, ?_⟩
      rw [List.foldl_cons, heard', heard, List.append_assoc]

@[simp] theorem pause_waiting : (channel.pause env).waiting = channel.waiting :=
  (hearAll_fields _ channel).1

@[simp] theorem pause_request : (channel.pause env).request = channel.request :=
  (hearAll_fields _ channel).2.1

@[simp] theorem pause_transactions
    : (channel.pause env).transactions = channel.transactions :=
  (hearAll_fields _ channel).2.2.1

theorem pause_heard (env : LinkEnv)
    : ∃ later, (channel.pause env).heard = channel.heard ++ later :=
  (hearAll_fields _ channel).2.2.2

/-- The copy adds a transaction that is answered or stale. The semaphore was given when it
was taken: by a notification heard since the write, or by one that waited at the write.
-/
theorem coherent_copy (coherent : channel.Coherent)
    (given : channel.waiting = true ∨ channel.heard ≠ [])
    : channel.copy.Coherent where
  value := coherent.value
  waits := coherent.waits
  transactions := by
    intro transaction member
    rcases List.mem_append.mp member with earlier | new
    · exact coherent.transactions transaction earlier
    obtain rfl := List.mem_singleton.mp new
    cases found : channel.heard.getLast? with
    | none =>
        have silent := List.getLast?_eq_none_iff.mp found
        have waiting := given.resolve_right (absurd silent)
        simp [Transaction.Answered, Transaction.Stale, silent, waiting]
    | some last =>
        have heard := List.mem_of_getLast? found
        have nonempty : channel.heard ≠ [] := List.ne_nil_of_mem heard
        simp [Transaction.Answered, Transaction.Stale, coherent.value last found, heard, nonempty]

/-- What `wait_notify` does to the channel. -/
theorem waitNotify_cases (env : LinkEnv) (coherent : channel.Coherent)
    : let outcome := channel.waitNotify env
      outcome.2.Coherent
      ∧ (outcome.1 = none ∧ outcome.2.transactions = channel.transactions
        ∨ ∃ transaction,
            outcome.1 = some transaction.taken
            ∧ transaction.request = channel.request
            ∧ outcome.2.transactions = channel.transactions ++ [transaction]) := by
  have paused := coherent_pause env coherent
  simp only [waitNotify]
  split
  · exact ⟨paused, .inl ⟨rfl, pause_transactions⟩⟩
  · rename_i given
    have woken := coherent_pause env (coherent_wake paused)
    have waited : (channel.pause env).waiter.sem = true := by simpa using given
    have taken : (channel.pause env).waiting = true ∨ (channel.pause env).heard ≠ [] :=
      paused.waits (by simp [waits, waited])
    have still : ((channel.pause env).wake.pause env).waiting = true
        ∨ ((channel.pause env).wake.pause env).heard ≠ [] := by
      obtain ⟨later, heard⟩ := (channel.pause env).wake.pause_heard env
      rw [pause_waiting, heard]
      exact taken.imp id fun before silent => before (List.append_eq_nil_iff.mp silent).1
    refine ⟨coherent_copy woken still, .inr ⟨
      { waiting := ((channel.pause env).wake.pause env).waiting
        request := ((channel.pause env).wake.pause env).request
        heard := ((channel.pause env).wake.pause env).heard
        taken := ((channel.pause env).wake.pause env).waiter.value },
      rfl, ?_, ?_⟩⟩
    · simp [wake]
    · simp [copy, wake]

end LockChannel

-----------------------------------------------------------------------------------------
-- The transactions of a session
-----------------------------------------------------------------------------------------

section

variable (keystream : Keystream) (gcm : AesGcm) (config : Config)

/-- The commands of a session, the transactions that carried them, and the responses: each
request is its command's frame, and each response is its transaction's answer decrypted. The
session may stop before any command, and at an answer that does not decrypt.
-/
inductive CommandLedger (session : Session)
    : List Bytes → List Transaction → List Bytes → Prop
  | stopped (commands : List Bytes) : CommandLedger session commands [] []
  | unreadable {cmd : Bytes} {rest : List Bytes} {transaction : Transaction} {psa : Psa}
      (request : encryptedFrame keystream gcm psa config session cmd = .ok transaction.request)
      : CommandLedger session (cmd :: rest) [transaction] []
  | answered {cmd response : Bytes} {rest responses : List Bytes} {transaction : Transaction}
      {transactions : List Transaction} {psa laterPsa : Psa}
      (request : encryptedFrame keystream gcm psa config session cmd = .ok transaction.request)
      (answer : decryptNotify keystream gcm laterPsa config session transaction.taken
        = .ok response)
      (later : CommandLedger session rest transactions responses)
      : CommandLedger session (cmd :: rest) (transaction :: transactions)
          (response :: responses)

/-- A session: its IV is parsed from the answer to its IV request. -/
inductive SessionLedger (commands : List Bytes) : List Transaction → List Bytes → Prop
  | unopened : SessionLedger commands [] []
  | malformed {opening : Transaction} (request : opening.request = ivRequestOf config)
      : SessionLedger commands [opening] []
  | opened {opening : Transaction} {session : Session} {transactions : List Transaction}
      {responses : List Bytes} (request : opening.request = ivRequestOf config)
      (parsed : parseSessionResponse opening.taken {} = .ok session)
      (ledger : CommandLedger keystream gcm config session commands transactions responses)
      : SessionLedger commands (opening :: transactions) responses

end

/-- A call of the client. -/
inductive LockCall where
  | sequence (config : Config) (commands : List Bytes)
  | provision (provisioning : Config) (commands : List Bytes) (shared : Config)

namespace LockCall

/-- The call, from a waiter that it has just made. -/
def perform (keystream : Keystream) (gcm : AesGcm) (env : LinkEnv)
    : LockCall → Exchange × LockChannel
  | sequence config commands =>
      sendPlaintextSequence keystream gcm (notifyLink env) config commands {}
  | provision provisioning commands shared =>
      provisionAndVerifySharedKey keystream gcm (notifyLink env) provisioning commands shared {}

/-- The transactions of a call, by its sessions. -/
def Ledger (keystream : Keystream) (gcm : AesGcm) (transactions : List Transaction)
    (exchange : Exchange)
    : LockCall → Prop
  | sequence config commands =>
      SessionLedger keystream gcm config commands transactions exchange.responses
  | provision provisioning commands shared =>
      ∃ provisioned verified lockInfo,
        transactions = provisioned ++ verified
        ∧ SessionLedger keystream gcm provisioning commands provisioned exchange.responses
        ∧ SessionLedger keystream gcm shared shared.model.lockInfoPlaintext.toList verified
            lockInfo
        ∧ (exchange.result = .ok () → verifyResponses shared.model lockInfo = .ok ())

end LockCall

section

variable {keystream : Keystream} {gcm : AesGcm} {env : LinkEnv} {config : Config}

theorem coherent_writeValue (env : LinkEnv) {channel : LockChannel}
    (coherent : channel.Coherent) (frame : Bytes)
    : ((notifyLink env).writeValue frame channel).2.Coherent :=
  LockChannel.coherent_write (LockChannel.coherent_pause env coherent) frame

@[simp] theorem writeValue_transactions (frame : Bytes) (channel : LockChannel)
    : ((notifyLink env).writeValue frame channel).2.transactions = channel.transactions :=
  LockChannel.pause_transactions

/-- A command that was sent: its frame is the request now, and nothing was answered. -/
theorem sendEncrypted_notifyLink {session : Session} {cmd : Bytes} {channel after : LockChannel}
    {result : Except String Unit} (coherent : channel.Coherent)
    (sent : sendEncrypted keystream gcm (notifyLink env) config session cmd channel
      = (result, after))
    : after.Coherent
      ∧ after.transactions = channel.transactions
      ∧ (result = .ok ()
        → ∃ psa, encryptedFrame keystream gcm psa config session cmd = .ok after.request) := by
  unfold sendEncrypted at sent
  split at sent
  · obtain ⟨rfl, rfl⟩ := Prod.mk.inj sent
    exact ⟨coherent, rfl, fun succeeded => nomatch succeeded⟩
  · rename_i frame encrypted
    obtain ⟨_, rfl⟩ := Prod.mk.inj sent
    exact ⟨coherent_writeValue env coherent frame, LockChannel.pause_transactions,
      fun _ => ⟨_, encrypted⟩⟩

/-- What the waiting for an answer does to the channel. -/
theorem waitNotify_notifyLink {channel after : LockChannel} {answer : Option Bytes}
    (coherent : channel.Coherent)
    (waited : (notifyLink env).waitNotify channel = (answer, after))
    : after.Coherent
      ∧ (answer = none ∧ after.transactions = channel.transactions
        ∨ ∃ transaction,
            answer = some transaction.taken
            ∧ transaction.request = channel.request
            ∧ after.transactions = channel.transactions ++ [transaction]) := by
  have cases := LockChannel.waitNotify_cases env coherent
  rw [show channel.waitNotify env = (answer, after) from waited] at cases
  exact cases

/-- The command loop appends the transactions of its commands. -/
theorem sendCommands_ledger (keystream : Keystream) (gcm : AesGcm) (config : Config)
    (session : Session) (commands : List Bytes)
    {channel : LockChannel} (coherent : channel.Coherent)
    : let outcome := sendCommands keystream gcm (notifyLink env) config session commands channel
      outcome.2.Coherent
      ∧ ∃ transactions,
          outcome.2.transactions = channel.transactions ++ transactions
          ∧ CommandLedger keystream gcm config session commands transactions
              outcome.1.responses := by
  induction commands generalizing channel with
  | nil => exact ⟨coherent, [], (List.append_nil _).symm, .stopped []⟩
  | cons cmd rest ih =>
      simp only [sendCommands]
      rcases sent : sendEncrypted keystream gcm (notifyLink env) config session cmd channel with
        ⟨error | done, written⟩
      · obtain ⟨kept, same, _⟩ := sendEncrypted_notifyLink coherent sent
        exact ⟨kept, [], by simpa using same, .stopped _⟩
      obtain ⟨kept, same, framed⟩ := sendEncrypted_notifyLink coherent sent
      obtain ⟨psa, request⟩ := framed rfl
      dsimp only
      rcases waited : (notifyLink env).waitNotify written with ⟨answer, afterwards⟩
      obtain ⟨kept, ⟨rfl, silent⟩ | ⟨transaction, rfl, asked, answered⟩⟩ :=
        waitNotify_notifyLink kept waited
      · exact ⟨kept, [], by simp [silent, same], .stopped _⟩
      rw [← asked] at request
      dsimp only
      cases decrypted : decryptNotify keystream gcm ((notifyLink env).psa afterwards) config
          session transaction.taken with
      | error error =>
          exact ⟨kept, [transaction], by simp [answered, same], .unreadable request⟩
      | ok response =>
          obtain ⟨final, later, appended, ledger⟩ := ih kept
          refine ⟨final, transaction :: later, ?_, .answered request decrypted ledger⟩
          simp [appended, answered, same]

/-- A session over the channel appends its transactions. `runSession` and `runNamedSession`
differ in their texts alone.
-/
theorem runNamedSession_ledger (keystream : Keystream) (gcm : AesGcm) (config : Config)
    (sessionName : String) (commands : List Bytes) {channel : LockChannel}
    (coherent : channel.Coherent)
    : let outcome :=
        runNamedSession keystream gcm (notifyLink env) config sessionName commands channel
      outcome.2.Coherent
      ∧ ∃ transactions,
          outcome.2.transactions = channel.transactions ++ transactions
          ∧ SessionLedger keystream gcm config commands transactions outcome.1.responses := by
  have written := coherent_writeValue env coherent (ivRequestOf config)
  simp only [runNamedSession]
  split
  · exact ⟨written, [], by simp, .unopened⟩
  rcases waited : (notifyLink env).waitNotify
      ((notifyLink env).writeValue (ivRequestOf config) channel).2 with ⟨answer, afterwards⟩
  obtain ⟨kept, ⟨rfl, silent⟩ | ⟨opening, rfl, asked, answered⟩⟩ :=
    waitNotify_notifyLink written waited
  · exact ⟨kept, [], by simp [silent], .unopened⟩
  dsimp only
  cases parsed : parseSessionResponse opening.taken {} with
  | error error =>
      exact ⟨kept, [opening], by simp [answered], .malformed asked⟩
  | ok session =>
      obtain ⟨final, transactions, appended, ledger⟩ :=
        sendCommands_ledger keystream gcm config session commands kept
      refine ⟨final, opening :: transactions, ?_, .opened asked parsed ledger⟩
      simp [appended, answered]

/-- The sessions of the two calls differ in their error texts alone. -/
theorem runSession_eq {Peer : Type} (keystream : Keystream) (gcm : AesGcm) (config : Config)
    (link : Link Peer) (sessionName : String) (commands : List Bytes) (peer : Peer)
    : let plain := runSession keystream gcm link config commands peer
      let named := runNamedSession keystream gcm link config sessionName commands peer
      plain.2 = named.2 ∧ plain.1.responses = named.1.responses := by
  simp only [runSession, runNamedSession]
  split
  · exact ⟨rfl, rfl⟩
  rcases link.waitNotify (link.writeValue (ivRequestOf config) peer).2 with ⟨_ | notify, after⟩
  · exact ⟨rfl, rfl⟩
  dsimp only
  cases parseSessionResponse notify {} with
  | error | ok => exact ⟨rfl, rfl⟩

/-- A subscription leaves a fresh channel coherent. -/
theorem coherent_subscribed (env : LinkEnv) : ((notifyLink env).subscribe {}).2.Coherent where
  value last found := by simp [notifyLink] at found
  waits waiting := by simp [notifyLink, LockChannel.waits] at waiting
  transactions transaction member := absurd member List.not_mem_nil

end

/-- What a whole call did on its channel. -/
structure LockCall.Accounted (keystream : Keystream) (gcm : AesGcm) (call : LockCall)
    (outcome : Exchange × LockChannel)
    : Prop where
  answers : ∀ transaction ∈ outcome.2.transactions,
    transaction.Answered ↔ ¬ transaction.Stale
  ledger : call.Ledger keystream gcm outcome.2.transactions outcome.1

section

variable {keystream : Keystream} {gcm : AesGcm} {env : LinkEnv}

/-- A call that fails before its first request. -/
theorem LockCall.accounted_unopened (keystream : Keystream) (gcm : AesGcm) (call : LockCall)
    (error : String) (channel : LockChannel) (untouched : channel.transactions = [])
    : call.Accounted keystream gcm (.failed error, channel) where
  answers := by simp [untouched]
  ledger := by
    rw [untouched]
    cases call with
    | sequence => exact .unopened
    | provision => exact ⟨[], [], [], rfl, .unopened, .unopened, fun failed => nomatch failed⟩

/-- `send_plaintext_sequence` accounts for its transactions. -/
theorem sendPlaintextSequence_accounted (config : Config) (commands : List Bytes)
    : (LockCall.sequence config commands).Accounted keystream gcm
        (sendPlaintextSequence keystream gcm (notifyLink env) config commands {}) := by
  have unopened :=
    LockCall.accounted_unopened keystream gcm (LockCall.sequence config commands)
  have connect : (notifyLink env).connect config {} = (env.connects config, {}) := rfl
  simp only [sendPlaintextSequence, connect]
  split
  · exact unopened _ _ rfl
  split
  · exact unopened _ _ rfl
  cases env.connects config with
  | error error => exact unopened error _ rfl
  | ok =>
      dsimp only
      split
      · exact unopened _ _ rfl
      split
      · exact unopened _ _ rfl
      obtain ⟨sameChannel, sameResponses⟩ := runSession_eq keystream gcm config
        (notifyLink env) "" commands ((notifyLink env).subscribe {}).2
      obtain ⟨coherent, transactions, appended, ledger⟩ :=
        runNamedSession_ledger keystream gcm config "" commands (coherent_subscribed env)
      rw [← sameChannel] at coherent appended
      rw [← sameResponses] at ledger
      constructor
      · exact coherent.transactions
      · have only : (runSession keystream gcm (notifyLink env) config commands
            ((notifyLink env).subscribe {}).2).2.transactions = transactions := by
          simpa [notifyLink] using appended
        exact only ▸ ledger

/-- The two sessions of a provisioning share one channel. -/
theorem provisionThenVerify_accounted (provisioning shared : Config) (commands : List Bytes)
    {verifyCmd : Bytes} (command : shared.model.lockInfoPlaintext = some verifyCmd)
    : (LockCall.provision provisioning commands shared).Accounted keystream gcm
        (provisionThenVerify keystream gcm (notifyLink env) provisioning shared commands
          verifyCmd ((notifyLink env).subscribe {}).2) := by
  obtain ⟨coherent, provisioned, appended, ledger⟩ :=
    runNamedSession_ledger keystream gcm provisioning "lock provisioning" commands
      (coherent_subscribed env)
  simp only [provisionThenVerify]
  rcases first : runNamedSession keystream gcm (notifyLink env) provisioning
      "lock provisioning" commands ((notifyLink env).subscribe {}).2 with ⟨exchange, channel⟩
  rw [first] at coherent appended ledger
  have only : channel.transactions = provisioned := by simpa [notifyLink] using appended
  dsimp only at coherent ledger ⊢
  cases provisioningResult : exchange.result with
  | error error =>
      exact ⟨coherent.transactions, provisioned, [], [], by simp [only], ledger, .unopened,
        fun failed => nomatch failed⟩
  | ok =>
      obtain ⟨coherent, verified, appended, verifyLedger⟩ :=
        runNamedSession_ledger keystream gcm shared "shared-key verification" [verifyCmd]
          coherent
      dsimp only
      rcases second : runNamedSession keystream gcm (notifyLink env) shared
          "shared-key verification" [verifyCmd] channel with ⟨verification, channel⟩
      rw [second] at coherent appended verifyLedger
      rw [only] at appended
      dsimp only at coherent appended verifyLedger ⊢
      cases verification.result with
      | error error =>
          exact ⟨coherent.transactions, provisioned, verified, verification.responses, appended,
            ledger, by simpa [command] using verifyLedger, fun failed => nomatch failed⟩
      | ok =>
          exact ⟨coherent.transactions, provisioned, verified, verification.responses, appended,
            ledger, by simpa [command] using verifyLedger, id⟩

/-- `provision_and_verify_shared_key` accounts for its transactions. -/
theorem provisionAndVerifySharedKey_accounted (provisioning shared : Config)
    (commands : List Bytes)
    : (LockCall.provision provisioning commands shared).Accounted keystream gcm
        (provisionAndVerifySharedKey keystream gcm (notifyLink env) provisioning commands shared
          {}) := by
  have unopened :=
    LockCall.accounted_unopened keystream gcm (LockCall.provision provisioning commands shared)
  have connect : (notifyLink env).connect provisioning {} = (env.connects provisioning, {}) :=
    rfl
  simp only [provisionAndVerifySharedKey, connect]
  split
  · exact unopened _ _ rfl
  split
  · exact unopened _ _ rfl
  cases command : shared.model.lockInfoPlaintext with
  | none => exact unopened _ _ rfl
  | some verifyCmd =>
      cases env.connects provisioning with
      | error error => exact unopened error _ rfl
      | ok =>
          dsimp only
          split
          · exact unopened _ _ rfl
          split
          · exact unopened _ _ rfl
          exact provisionThenVerify_accounted provisioning shared commands command

end

/-- The answers of a call belong to their requests exactly as long as no request is written
with a notification waiting that no later one replaces in time. The requests are those of the
call's sessions in order, and the responses are the answers decrypted.
-/
theorem answers_belong_to_requests_iff (keystream : Keystream) (gcm : AesGcm) (env : LinkEnv)
    (call : LockCall)
    : let outcome := call.perform keystream gcm env
      call.Ledger keystream gcm outcome.2.transactions outcome.1
      ∧ ((∀ transaction ∈ outcome.2.transactions, transaction.Answered)
        ↔ ∀ transaction ∈ outcome.2.transactions, ¬ transaction.Stale) := by
  intro outcome
  have accounted : call.Accounted keystream gcm outcome := by
    cases call with
    | sequence config commands => exact sendPlaintextSequence_accounted config commands
    | provision provisioning commands shared =>
        exact provisionAndVerifySharedKey_accounted provisioning shared commands
  exact ⟨accounted.ledger, forall₂_congr accounted.answers⟩

/-- A lock that notifies its IV response twice. -/
def duplicatedResponse : LinkEnv where
  arrivals moment :=
    if moment = 1 ∨ moment = 3 then [.assign ([0x01] ++ List.replicate 19 0x00), .give] else []
  psa _ := { keys := fun _ => some (Vector.replicate 16 0) }

/-- The second IV response is taken for the answer to the first command. -/
theorem answer_from_before_request
    : ¬ ∀ (keystream : Keystream) (gcm : AesGcm) (env : LinkEnv) (call : LockCall),
        ∀ transaction ∈ (call.perform keystream gcm env).2.transactions,
          transaction.Answered := by
  intro always
  exact absurd
    (always (fun _ _ _ => 0) ⟨fun _ _ _ => none, fun _ _ _ => none⟩ duplicatedResponse
      (.sequence {} [[0x01]]))
    (by decide +kernel)

end PhysicalLockClient

end KeypadBridge
