import KeypadBridge.Foundation.Script
import KeypadBridge.Client.Connecting
import KeypadBridge.Client.Provisioning

/-! The progress callbacks of a provisioning. They are called on the way, and nothing of the
exchange depends on them.
-/

namespace KeypadBridge
namespace PhysicalLockClient
open KeypadBridge.Foundation

-----------------------------------------------------------------------------------------
-- A provisioning that reports
-----------------------------------------------------------------------------------------

/-- The callbacks of `provision_and_verify_shared_key`, as they change what is around it. -/
structure Callbacks (Peer : Type) where
  provisionProgress : Phase → Peer → Peer
  provisionCommandProgress : Nat → Peer → Peer
  verifyProgress : Phase → Peer → Peer

section

variable (keystream : Keystream) (gcm : AesGcm) {Peer : Type} (link : Link Peer)

/-- The command loop of `run_session`, from the command with this index. -/
def sendReportedCommands (onCommand : Nat → Peer → Peer) (config : Config) (session : Session)
    : Nat → List Bytes → Peer → Exchange × Peer
  | _, [], peer => (⟨.ok (), []⟩, peer)
  | index, cmd :: rest, peer =>
      match sendEncrypted keystream gcm link config session cmd (onCommand index peer) with
      | (.error error, peer) => (.failed error, peer)
      | (.ok (), peer) =>
          match link.waitNotify peer with
          | (none, peer) => (.failed "Lock did not answer the forwarded command.", peer)
          | (some notify, peer) =>
              match decryptNotify keystream gcm (link.psa peer) config session notify with
              | .error error => (.failed error, peer)
              | .ok response =>
                  let (later, peer) :=
                    sendReportedCommands onCommand config session (index + 1) rest peer
                  (⟨later.result, response :: later.responses⟩, peer)

/-- `run_session`, with what it reports. -/
def runReportedSession (onSession : Peer → Peer) (onCommand : Nat → Peer → Peer)
    (config : Config) (sessionName : String) (commands : List Bytes) (peer : Peer)
    : Exchange × Peer :=
  let (written, peer) := link.writeValue (ivRequestOf config) (onSession peer)
  if !written then
    (.failed ("Could not request a " ++ sessionName ++ " encryption session."), peer)
  else
    match link.waitNotify peer with
    | (none, peer) =>
        (.failed ("Lock did not open the " ++ sessionName ++ " encryption session."), peer)
    | (some notify, peer) =>
        match parseSessionResponse notify {} with
        | .error error => (.failed error, peer)
        | .ok session =>
            sendReportedCommands keystream gcm link onCommand config session 0 commands peer

/-- `provision_and_verify_shared_key` between subscription and clean-up, with its callbacks. A
session without a command callback reports its commands as a phase.
-/
def provisionThenVerifyReporting (callbacks : Callbacks Peer)
    (provisioningConfig sharedConfig : Config) (commands : List Bytes) (verifyCmd : Bytes)
    (peer : Peer)
    : Exchange × Peer :=
  let (provisioned, peer) :=
    runReportedSession keystream gcm link (callbacks.provisionProgress .session)
      callbacks.provisionCommandProgress provisioningConfig "lock provisioning" commands peer
  match provisioned.result with
  | .error error => (⟨.error error, provisioned.responses⟩, peer)
  | .ok () =>
      let (verified, peer) :=
        runReportedSession keystream gcm link (callbacks.verifyProgress .session)
          (fun _ => callbacks.verifyProgress .command) sharedConfig "shared-key verification"
          [verifyCmd] peer
      match verified.result with
      | .error error => (⟨.error error, provisioned.responses⟩, peer)
      | .ok () =>
          (⟨verifyResponses sharedConfig.model verified.responses, provisioned.responses⟩, peer)

/-- `provision_and_verify_shared_key`, with its callbacks; `connect_` reports on its own. -/
def provisionAndVerifyReporting (callbacks : Callbacks Peer) (provisioningConfig : Config)
    (provisionCommands : List Bytes) (sharedConfig : Config) (peer : Peer)
    : Exchange × Peer :=
  if provisionCommands.isEmpty then
    (.failed "Empty lock provisioning command sequence.", peer)
  else if provisionCommands.any List.isEmpty then
    (.failed "Empty lock provisioning command.", peer)
  else
    match sharedConfig.model.lockInfoPlaintext with
    | none => (.failed "Unsupported SwitchBot Lock model.", peer)
    | some verifyCmd =>
        match link.connect provisioningConfig peer with
        | (.error error, peer) => (.failed error, peer)
        | (.ok (), peer) =>
            if !link.createSemaphore peer then
              (.failed "Could not allocate lock notification semaphore.", link.disconnect peer)
            else
              let (subscribed, peer) := link.subscribe peer
              if !subscribed then
                (.failed "Could not subscribe to lock notifications.", link.disconnect peer)
              else
                let (exchange, peer) :=
                  provisionThenVerifyReporting keystream gcm link callbacks provisioningConfig
                    sharedConfig provisionCommands verifyCmd peer
                (exchange, link.disconnect peer)

end

-----------------------------------------------------------------------------------------
-- What reports do not change
-----------------------------------------------------------------------------------------

/-- Two outcomes that differ in nothing but what was reported. -/
structure Alike {Peer Result : Type} (same : Peer → Peer → Prop)
    (first second : Result × Peer)
    : Prop where
  result : first.1 = second.1
  peers : same first.2 second.2

/-- A link on which it does not matter what was reported. -/
structure Link.Deaf {Peer : Type} (link : Link Peer) (same : Peer → Peer → Prop) : Prop where
  connect
    : ∀ config first second,
        same first second → Alike same (link.connect config first) (link.connect config second)
  createSemaphore
    : ∀ first second,
        same first second → link.createSemaphore first = link.createSemaphore second
  subscribe
    : ∀ first second, same first second → Alike same (link.subscribe first) (link.subscribe second)
  writeValue
    : ∀ frame first second,
        same first second → Alike same (link.writeValue frame first) (link.writeValue frame second)
  waitNotify
    : ∀ first second,
        same first second → Alike same (link.waitNotify first) (link.waitNotify second)
  disconnect
    : ∀ first second, same first second → same (link.disconnect first) (link.disconnect second)
  psa : ∀ first second, same first second → link.psa first = link.psa second

/-- A report leaves a peer as it was, but for what was reported. -/
structure Callbacks.Apart {Peer : Type} (callbacks : Callbacks Peer)
    (same : Peer → Peer → Prop)
    : Prop where
  provision
    : ∀ phase first second,
        same first second → same (callbacks.provisionProgress phase first) second
  command
    : ∀ index first second,
        same first second → same (callbacks.provisionCommandProgress index first) second
  verify
    : ∀ phase first second,
        same first second → same (callbacks.verifyProgress phase first) second

/-- Alike outcomes as pairs. -/
theorem Alike.split {Peer Result : Type} {same : Peer → Peer → Prop}
    {first second : Result × Peer} (alike : Alike same first second)
    : ∃ result left right, first = (result, left) ∧ second = (result, right) ∧ same left right :=
  ⟨second.1, first.2, second.2, Prod.ext alike.result rfl, rfl, alike.peers⟩

section

variable (keystream : Keystream) (gcm : AesGcm) {Peer : Type} {link : Link Peer}
  {same : Peer → Peer → Prop} {first second : Peer}

namespace Link.Deaf

theorem sendEncrypted (deaf : link.Deaf same) (config : Config) (session : Session)
    (cmd : Bytes) (alike : same first second)
    : Alike same (PhysicalLockClient.sendEncrypted keystream gcm link config session cmd first)
        (PhysicalLockClient.sendEncrypted keystream gcm link config session cmd second) := by
  unfold PhysicalLockClient.sendEncrypted
  rw [deaf.psa first second alike]
  split
  · exact ⟨rfl, alike⟩
  · rename_i frame _
    have written := deaf.writeValue frame first second alike
    exact ⟨by simp only [written.result], written.peers⟩

/-- The command loop, by induction over the commands. -/
theorem sendCommands (deaf : link.Deaf same) {onCommand : Nat → Peer → Peer}
    (apart : ∀ index first second, same first second → same (onCommand index first) second)
    (config : Config) (session : Session) (index : Nat) (commands : List Bytes)
    (alike : same first second)
    : Alike same
        (sendReportedCommands keystream gcm link onCommand config session index commands first)
        (PhysicalLockClient.sendCommands keystream gcm link config session commands second) := by
  induction commands generalizing index first second with
  | nil => exact ⟨rfl, alike⟩
  | cons cmd rest ih =>
      obtain ⟨sent, left, right, reported, plain, alike⟩ :=
        (deaf.sendEncrypted keystream gcm config session cmd
          (apart index first second alike)).split
      rw [sendReportedCommands, PhysicalLockClient.sendCommands, reported, plain]
      cases sent with
      | error => exact ⟨rfl, alike⟩
      | ok =>
          obtain ⟨heard, left, right, reported, plain, alike⟩ :=
            (deaf.waitNotify left right alike).split
          dsimp only
          rw [reported, plain]
          cases heard with
          | none => exact ⟨rfl, alike⟩
          | some notify =>
              dsimp only
              rw [deaf.psa left right alike]
              cases decryptNotify keystream gcm (link.psa right) config session notify with
              | error => exact ⟨rfl, alike⟩
              | ok response =>
                  have later := ih (index + 1) alike
                  exact ⟨by simp only [later.result], later.peers⟩

/-- A session, whatever is reported before its IV request and before its commands. -/
theorem runSession (deaf : link.Deaf same) {onSession : Peer → Peer}
    (entered : ∀ first second, same first second → same (onSession first) second)
    {onCommand : Nat → Peer → Peer}
    (apart : ∀ index first second, same first second → same (onCommand index first) second)
    (config : Config) (sessionName : String) (commands : List Bytes)
    (alike : same first second)
    : Alike same
        (runReportedSession keystream gcm link onSession onCommand config sessionName commands
          first)
        (runNamedSession keystream gcm link config sessionName commands second) := by
  obtain ⟨written, left, right, reported, plain, alike⟩ :=
    (deaf.writeValue (ivRequestOf config) _ _ (entered first second alike)).split
  rw [runReportedSession, runNamedSession, reported, plain]
  cases written with
  | false => exact ⟨rfl, alike⟩
  | true =>
      obtain ⟨heard, left, right, reported, plain, alike⟩ :=
        (deaf.waitNotify left right alike).split
      simp only [Bool.not_true, Bool.false_eq_true, if_false]
      rw [reported, plain]
      cases heard with
      | none => exact ⟨rfl, alike⟩
      | some notify =>
          dsimp only
          cases parseSessionResponse notify {} with
          | error => exact ⟨rfl, alike⟩
          | ok session => exact deaf.sendCommands keystream gcm apart config session 0 commands alike

theorem provisionThenVerify (deaf : link.Deaf same) {callbacks : Callbacks Peer}
    (apart : callbacks.Apart same) (provisioning shared : Config) (commands : List Bytes)
    (verifyCmd : Bytes) (alike : same first second)
    : Alike same
        (provisionThenVerifyReporting keystream gcm link callbacks provisioning shared commands
          verifyCmd first)
        (PhysicalLockClient.provisionThenVerify keystream gcm link provisioning shared commands
          verifyCmd second) := by
  obtain ⟨⟨provisioned, responses⟩, left, right, reported, plain, alike⟩ :=
    (deaf.runSession keystream gcm (apart.provision .session) apart.command provisioning
      "lock provisioning" commands alike).split
  rw [provisionThenVerifyReporting, PhysicalLockClient.provisionThenVerify, reported, plain]
  cases provisioned with
  | error => exact ⟨rfl, alike⟩
  | ok =>
      obtain ⟨⟨verified, answers⟩, left, right, reported, plain, alike⟩ :=
        (deaf.runSession keystream gcm (apart.verify .session)
          (fun _ => apart.verify .command) shared "shared-key verification" [verifyCmd]
          alike).split
      simp only [reported, plain]
      cases verified with
      | error => exact ⟨rfl, alike⟩
      | ok => exact ⟨rfl, alike⟩

/-- A provisioning comes to the same, and does the same to the link, whoever listens. -/
theorem provisionAndVerify (deaf : link.Deaf same) {callbacks : Callbacks Peer}
    (apart : callbacks.Apart same) (provisioning : Config) (commands : List Bytes)
    (shared : Config) (alike : same first second)
    : Alike same
        (provisionAndVerifyReporting keystream gcm link callbacks provisioning commands shared
          first)
        (provisionAndVerifySharedKey keystream gcm link provisioning commands shared
          second) := by
  unfold provisionAndVerifyReporting provisionAndVerifySharedKey
  split
  · exact ⟨rfl, alike⟩
  split
  · exact ⟨rfl, alike⟩
  cases shared.model.lockInfoPlaintext with
  | none => exact ⟨rfl, alike⟩
  | some verifyCmd =>
      obtain ⟨connected, left, right, reported, plain, alike⟩ :=
        (deaf.connect provisioning first second alike).split
      simp only [reported, plain]
      cases connected with
      | error => exact ⟨rfl, alike⟩
      | ok =>
          simp only [deaf.createSemaphore left right alike]
          cases link.createSemaphore right with
          | false => exact ⟨rfl, deaf.disconnect left right alike⟩
          | true =>
              obtain ⟨subscribed, left, right, reported, plain, alike⟩ :=
                (deaf.subscribe left right alike).split
              simp only [reported, plain, Bool.not_true, Bool.false_eq_true, if_false]
              cases subscribed with
              | false => exact ⟨rfl, deaf.disconnect left right alike⟩
              | true =>
                  have sessions :=
                    deaf.provisionThenVerify keystream gcm apart provisioning shared commands
                      verifyCmd alike
                  exact ⟨sessions.result, deaf.disconnect _ _ sessions.peers⟩

end Link.Deaf

end

-----------------------------------------------------------------------------------------
-- What is reported
-----------------------------------------------------------------------------------------

/-- What is shown does not change by what happens on an open connection. -/
structure Link.Quiet {Peer Cue : Type} (link : Link Peer) (shown : Peer → List Cue) : Prop where
  subscribe : ∀ peer, shown (link.subscribe peer).2 = shown peer
  writeValue : ∀ frame peer, shown (link.writeValue frame peer).2 = shown peer
  waitNotify : ∀ peer, shown (link.waitNotify peer).2 = shown peer
  disconnect : ∀ peer, shown (link.disconnect peer) = shown peer

/-- What is made of the calls of the callbacks. -/
structure Cues (Cue : Type) where
  provision : Phase → List Cue
  command : Nat → List Cue
  verify : Phase → List Cue

/-- The callbacks show their cues. -/
structure Callbacks.Show {Peer Cue : Type} (callbacks : Callbacks Peer)
    (shown : Peer → List Cue) (cues : Cues Cue)
    : Prop where
  provision
    : ∀ phase peer,
        shown (callbacks.provisionProgress phase peer) = shown peer ++ cues.provision phase
  command
    : ∀ index peer,
        shown (callbacks.provisionCommandProgress index peer) = shown peer ++ cues.command index
  verify
    : ∀ phase peer, shown (callbacks.verifyProgress phase peer) = shown peer ++ cues.verify phase

/-- What a session of this many commands shows, from the command with this index. -/
def commandCues {Cue : Type} (cue : Nat → List Cue) (index count : Nat) : List Cue :=
  (List.range' index count).flatMap cue

/-- What both sessions of a provisioning show. -/
def Cues.script {Cue : Type} (cues : Cues Cue) (commands : List Bytes) : List Cue :=
  cues.provision .session ++ commandCues cues.command 0 commands.length
    ++ (cues.verify .session ++ cues.verify .command)

section

variable (keystream : Keystream) (gcm : AesGcm) {Peer Cue : Type} {link : Link Peer}
  {shown : Peer → List Cue}

namespace Link.Quiet

theorem sendEncrypted (quiet : link.Quiet shown) (config : Config) (session : Session)
    (cmd : Bytes) (peer : Peer)
    : shown (PhysicalLockClient.sendEncrypted keystream gcm link config session cmd peer).2
      = shown peer := by
  unfold PhysicalLockClient.sendEncrypted
  split
  · rfl
  · exact quiet.writeValue _ peer

/-- The command loop, by induction over the commands. -/
theorem sendCommands (quiet : link.Quiet shown) {onCommand : Nat → Peer → Peer}
    {cue : Nat → List Cue}
    (shows : ∀ index peer, shown (onCommand index peer) = shown peer ++ cue index)
    (config : Config) (session : Session) (index : Nat) (commands : List Bytes) (peer : Peer)
    : let outcome :=
        sendReportedCommands keystream gcm link onCommand config session index commands peer
      Performs shown (commandCues cue index commands.length) peer outcome.2
        (outcome.1.result = .ok ()) := by
  induction commands generalizing index peer with
  | nil => exact .silent rfl _
  | cons cmd rest ih =>
      have script
          : commandCues cue index (cmd :: rest).length
            = cue index ++ commandCues cue (index + 1) rest.length := by
        simp [commandCues, List.range'_succ]
      have announced : Performs shown (cue index) peer (onCommand index peer) True :=
        .whole (shows index peer) True
      have sent := quiet.sendEncrypted keystream gcm config session cmd (onCommand index peer)
      rw [script, sendReportedCommands]
      split
      · rename_i failed
        rw [failed] at sent
        exact (announced.congr sent).stopped _ nofun
      rename_i next written
      rw [written] at sent
      have heard := quiet.waitNotify next
      split
      · rename_i silent
        rw [silent] at heard
        exact (announced.congr (heard.trans sent)).stopped _ nofun
      rename_i notify after notified
      rw [notified] at heard
      have answered := announced.congr (heard.trans sent)
      split
      · exact answered.stopped _ nofun
      · exact answered.followed (ih (index + 1) after)

/-- A session. -/
theorem runSession (quiet : link.Quiet shown) {onSession : Peer → Peer} {opening : List Cue}
    (opens : ∀ peer, shown (onSession peer) = shown peer ++ opening)
    {onCommand : Nat → Peer → Peer} {cue : Nat → List Cue}
    (shows : ∀ index peer, shown (onCommand index peer) = shown peer ++ cue index)
    (config : Config) (sessionName : String) (commands : List Bytes) (peer : Peer)
    : let outcome :=
        runReportedSession keystream gcm link onSession onCommand config sessionName commands
          peer
      Performs shown (opening ++ commandCues cue 0 commands.length) peer outcome.2
        (outcome.1.result = .ok ()) := by
  have opened : Performs shown opening peer (onSession peer) True := .whole (opens peer) True
  have requested := quiet.writeValue (ivRequestOf config) (onSession peer)
  unfold runReportedSession
  dsimp only
  split
  · exact (opened.congr requested).stopped _ nofun
  have heard := quiet.waitNotify (link.writeValue (ivRequestOf config) (onSession peer)).2
  split
  · rename_i silent
    rw [silent] at heard
    exact (opened.congr (heard.trans requested)).stopped _ nofun
  rename_i notify after notified
  rw [notified] at heard
  have answered := opened.congr (heard.trans requested)
  split
  · exact answered.stopped _ nofun
  · exact answered.followed (quiet.sendCommands keystream gcm shows config _ 0 commands after)

/-- Both sessions of a provisioning. -/
theorem provisionThenVerify (quiet : link.Quiet shown) {callbacks : Callbacks Peer}
    {cues : Cues Cue} (shows : callbacks.Show shown cues) (provisioning sharedConfig : Config)
    (commands : List Bytes) (verifyCmd : Bytes) (peer : Peer)
    : let outcome :=
        provisionThenVerifyReporting keystream gcm link callbacks provisioning sharedConfig
          commands verifyCmd peer
      Performs shown (cues.script commands) peer outcome.2 (outcome.1.result = .ok ()) := by
  have provisioned :=
    quiet.runSession keystream gcm (shows.provision .session) shows.command provisioning
      "lock provisioning" commands peer
  unfold provisionThenVerifyReporting
  dsimp only at provisioned ⊢
  split
  · exact provisioned.stopped _ nofun
  rename_i done
  have first := provisioned.through_of fun _ : True => done
  generalize (runReportedSession keystream gcm link (callbacks.provisionProgress .session)
    callbacks.provisionCommandProgress provisioning "lock provisioning" commands peer).2
    = middle at first
  have verified :=
    quiet.runSession keystream gcm (shows.verify .session) (fun _ => shows.verify .command)
      sharedConfig "shared-key verification" [verifyCmd] middle
  have one
      : commandCues (fun _ => cues.verify .command) 0 [verifyCmd].length
        = cues.verify .command := by
    simp [commandCues]
  rw [one] at verified
  dsimp only at verified
  refine first.followed ?_
  split
  · rename_i failed
    rw [failed] at verified
    exact verified.through_of nofun
  · rename_i accepted
    exact verified.through_of fun _ => accepted

/-- A whole provisioning, behind what its connection shows. -/
theorem provisionAndVerify (quiet : link.Quiet shown) {callbacks : Callbacks Peer}
    {cues : Cues Cue} (shows : callbacks.Show shown cues) (provisioning : Config)
    (commands : List Bytes) (sharedConfig : Config) {peer : Peer} {connecting : List Cue}
    (connects
      : Performs shown connecting peer (link.connect provisioning peer).2
          ((link.connect provisioning peer).1 = .ok ()))
    : let outcome :=
        provisionAndVerifyReporting keystream gcm link callbacks provisioning commands
          sharedConfig peer
      Performs shown (connecting ++ cues.script commands) peer outcome.2
        (outcome.1.result = .ok ()) := by
  have refused (error : String)
      : Performs shown (connecting ++ cues.script commands) peer peer
          ((Exchange.failed error).result = .ok ()) :=
    (Performs.silent rfl True).stopped (connecting ++ cues.script commands) nofun
  unfold provisionAndVerifyReporting
  split
  · exact refused _
  split
  · exact refused _
  split
  · exact refused _
  rename_i verifyCmd _
  split
  · rename_i failed
    rw [failed] at connects
    exact connects.stopped _ nofun
  rename_i opened connected
  rw [connected] at connects
  have connects := connects.through_of fun _ : True => rfl
  split
  · exact (connects.congr (quiet.disconnect opened)).stopped _ nofun
  dsimp only
  have subscribed := connects.congr (quiet.subscribe opened)
  split
  · exact (subscribed.congr (quiet.disconnect _)).stopped _ nofun
  · have sessions :=
      quiet.provisionThenVerify keystream gcm shows provisioning sharedConfig commands verifyCmd
        (link.subscribe opened).2
    exact (subscribed.followed sessions).congr (quiet.disconnect _)

end Link.Quiet

end

end PhysicalLockClient

end KeypadBridge
