import KeypadBridge.Client.Connecting

/-! The lock at the other end. Whatever the client did before and whatever its address cache
holds, a call connects to the lock of its configuration, writes to that connection alone, and
writes nothing but its own session frames.
-/

namespace KeypadBridge
namespace PhysicalLockClient
open KeypadBridge.Foundation

-----------------------------------------------------------------------------------------
-- Named locks
-----------------------------------------------------------------------------------------

/-- A configuration names a lock by its printed address, in any case. -/
def Config.Names (config : Config) (address : MacBytes) : Prop :=
  upperMac config.macBytes = upperMac address.text

/-- A text names one lock at most. -/
theorem Config.Names.unique {config : Config} {address : MacBytes}
    (names : config.Names address) {text : Bytes} (same : upperMac text = upperMac config.macBytes)
    {other : MacBytes} (also : upperMac other.text = upperMac text)
    : other = address := by
  have first : parseMacPretty config.macBytes = some address :=
    parseMacPretty_of_upper_eq names.symm
  have second : parseMacPretty config.macBytes = some other :=
    parseMacPretty_of_upper_eq (also.trans same)
  exact Option.some.inj (second.symm.trans first)

/-- What happens on the radio concerns one lock, and only permitted frames are written to it. -/
def RadioEvent.GoesTo (frames : Bytes → Prop) (address : MacBytes) : RadioEvent → Prop
  | .progress _ | .commandProgress _ | .verifyProgress _ => True
  | .attempted target => target.value = address
  | .wrote connection frame =>
      (∃ target, connection = some target ∧ target.value = address) ∧ frames frame

/-- The addresses to which a connection was attempted. -/
def attempts (events : List RadioEvent) : List BleAddress :=
  events.filterMap fun
    | .attempted target => some target
    | _ => none

/-- Whatever was seen before a scan, it holds one attempt at most: the second one comes behind a
scan.
-/
def ScansFirst (events : List RadioEvent) : Prop :=
  ∀ shown, shown <+: events → .progress .scan ∉ shown → (attempts shown).length ≤ 1

namespace ScansFirst

variable {events : List RadioEvent}

theorem of_once (once : (attempts events).length ≤ 1) : ScansFirst events :=
  fun _ within _ => (within.sublist.filterMap _).length_le.trans once

/-- What follows a scan is behind it. -/
theorem behind_scan (once : (attempts events).length ≤ 1) (more : List RadioEvent)
    : ScansFirst (events ++ [.progress .scan] ++ more) := by
  intro shown within unscanned
  rcases List.prefix_or_prefix_of_prefix within (List.prefix_append _ more) with early | late
  · rcases List.prefix_concat_iff.mp early with rfl | before
    · simp at unscanned
    · exact of_once once shown before unscanned
  · exact absurd (late.subset (by simp)) unscanned

/-- Events without an attempt change nothing. -/
theorem append (first : ScansFirst events) {more : List RadioEvent} (quiet : attempts more = [])
    : ScansFirst (events ++ more) := by
  intro shown within unscanned
  rcases List.prefix_or_prefix_of_prefix within (List.prefix_append events more) with
    early | late
  · exact first shown early unscanned
  · obtain ⟨rest, rfl⟩ := late
    have begins : rest <+: more := (List.prefix_append_right_inj events).mp within
    have none : attempts rest = [] := by
      have within : (attempts rest).Sublist (attempts more) := begins.sublist.filterMap _
      rw [quiet] at within
      exact List.sublist_nil.mp within
    have split : attempts (events ++ rest) = attempts events ++ attempts rest :=
      List.filterMap_append
    rw [split, none, List.append_nil]
    exact first events List.prefix_rfl fun scanned =>
      unscanned (List.mem_append_left _ scanned)

end ScansFirst

-----------------------------------------------------------------------------------------
-- Connecting
-----------------------------------------------------------------------------------------

namespace LockRadio

/-- Between two calls: a cached address belongs to the lock that the cached MAC names, and no
connection is open.
-/
structure Resting (radio : LockRadio) : Prop where
  cached
    : ∀ address : MacBytes,
        radio.cachedMac ≠ ""
        → upperMac (asciiBytes radio.cachedMac) = upperMac address.text
        → radio.cachedAddr.value = address
  closed : radio.connection = none

/-- A client that was not used yet. -/
theorem resting_unused : ({} : LockRadio).Resting where
  cached _ filled := (filled rfl).elim
  closed := rfl

variable {env : RadioEnv} {nimble : NimbleAddresses} {config : Config}
  {radio : LockRadio} {target : BleAddress} {address : MacBytes}

/-- The first attempt goes to the named lock: by the cache, or by the rebuilt address. -/
theorem directTarget_value (documented : nimble.Documented) (resting : radio.Resting)
    (names : config.Names address)
    : (radio.directTarget nimble config).value = address := by
  unfold directTarget
  split
  case isTrue hit =>
    refine resting.cached address hit.1 ?_
    rw [hit.2]
    exact names
  case isFalse =>
    simp only [addressFromMac]
    rw [names, documented.reads]

/-- The second attempt goes to a device that was seen under the wanted MAC. -/
theorem discoverTarget_value (documented : nimble.Documented) (results : List BleAddress)
    (names : config.Names address)
    (seen : nimble.isNull (discoverTarget nimble results config.macBytes) = false)
    : (discoverTarget nimble results config.macBytes).value = address := by
  unfold discoverTarget at seen ⊢
  cases found
      : results.find? fun found =>
          upperMac (nimble.toString found) = upperMac config.macBytes with
  | none => simp [found, documented.null] at seen
  | some device =>
      have matched := List.find?_some found
      rw [documented.prints] at matched
      exact names.unique rfl (by simpa using matched)

/-- An attempt at a lock: what it adds to the events, and what it remembers if it succeeds. -/
structure Attempted (config : Config) (frames : Bytes → Prop) (before : LockRadio)
    (result : Except String Unit) (after : LockRadio) (added : List RadioEvent)
    : Prop where
  appended : after.events = before.events ++ added
  goes : ∀ address, config.Names address → ∀ event ∈ added, event.GoesTo frames address
  once : (attempts added).length ≤ 1
  failed
    : ∀ err,
        result = .error err
        → after.connection = before.connection ∧ after.cachedMac = before.cachedMac
  connected
    : result = .ok ()
      → after.cachedMac = config.mac
        ∧ after.connection = some after.cachedAddr
        ∧ ∀ address, config.Names address → after.cachedAddr.value = address

theorem attempt_attempted (env : RadioEnv) (radio : LockRadio) (frames : Bytes → Prop)
    (named : ∀ address, config.Names address → target.value = address)
    : ∃ added,
        Attempted config frames radio (radio.attempt env config target).1
          (radio.attempt env config target).2 added := by
  have goes (address : MacBytes) (names : config.Names address)
      : RadioEvent.GoesTo frames address (.attempted target) :=
    named address names
  simp only [attempt, connectSwitchbotService]
  split
  · rename_i failed
    split at failed
    · cases failed
      exact ⟨[.progress .connect], rfl, by simp [RadioEvent.GoesTo], by simp [attempts],
        fun _ _ => ⟨rfl, rfl⟩, nofun⟩
    have tried (result : LockRadio)
        (events : result.events = radio.events ++ [.progress .connect, .attempted target])
        (connection : result.connection = radio.connection)
        (cachedMac : result.cachedMac = radio.cachedMac) (err : String)
        : ∃ added, Attempted config frames radio (.error err) result added :=
      ⟨_, events, by simpa [RadioEvent.GoesTo] using goes, by simp [attempts],
        fun _ _ => ⟨connection, cachedMac⟩, nofun⟩
    split at failed
    · cases failed
      exact tried ((radio.report .connect).tick.emit (.attempted target))
        (by simp [emit, tick, report]) rfl rfl _
    split at failed
    · cases failed
      exact tried ((radio.report .connect).tick.emit (.attempted target))
        (by simp [emit, tick, report]) rfl rfl _
    · cases failed
  · rename_i succeeded
    split at succeeded
    · cases succeeded
    split at succeeded
    · cases succeeded
    split at succeeded
    · cases succeeded
    · cases succeeded
      refine ⟨[.progress .connect, .attempted target, .progress .discover],
        by simp [emit, tick, report], ?_, by simp [attempts], nofun,
        fun _ => ⟨rfl, rfl, named⟩⟩
      simpa [RadioEvent.GoesTo] using goes

/-- `connect_` from a client at rest: one or two attempts, the second one behind a scan. -/
structure Connects (config : Config) (frames : Bytes → Prop) (before : LockRadio)
    (result : Except String Unit) (after : LockRadio) (added : List RadioEvent)
    : Prop where
  appended : after.events = before.events ++ added
  goes : ∀ address, config.Names address → ∀ event ∈ added, event.GoesTo frames address
  twice : (attempts added).length ≤ 2
  direct : ScansFirst added
  failed : ∀ err, result = .error err → after.Resting
  connected
    : result = .ok ()
      → after.cachedMac = config.mac
        ∧ after.connection = some after.cachedAddr
        ∧ ∀ address, config.Names address → after.cachedAddr.value = address

theorem connect_connects (env : RadioEnv) (config : Config) (documented : nimble.Documented)
    (resting : radio.Resting) (frames : Bytes → Prop)
    : ∃ added,
        Connects config frames radio (radio.connect env nimble config).1
          (radio.connect env nimble config).2 added := by
  obtain ⟨added, direct⟩ :=
    attempt_attempted env radio frames fun address (names : config.Names address) =>
      directTarget_value documented resting names
  unfold connect
  generalize radio.attempt env config (radio.directTarget nimble config) = outcome at direct
  obtain ⟨result, first⟩ := outcome
  cases result with
  | ok =>
      exact ⟨added, direct.appended, direct.goes, Nat.le_succ_of_le direct.once,
        .of_once direct.once, nofun, direct.connected⟩
  | error err =>
      -- The cached address is forgotten, and a scan follows.
      have closed : first.connection = none := (direct.failed err rfl).1.trans resting.closed
      have forgotten : ({ first with cachedMac := "" }.report .scan).tick.cachedMac = "" := rfl
      have stillClosed : ({ first with cachedMac := "" }.report .scan).tick.connection = none :=
        closed
      have scanned
          : ({ first with cachedMac := "" }.report .scan).tick.events
            = radio.events ++ (added ++ [.progress .scan]) := by
        have appended : first.events = radio.events ++ added := direct.appended
        simp [tick, report, emit, appended]
      dsimp only
      generalize ({ first with cachedMac := "" }.report .scan).tick = second
        at forgotten stillClosed scanned
      have counted (more : List RadioEvent)
          : attempts (added ++ [.progress .scan] ++ more) = attempts added ++ attempts more := by
        simp [attempts]
      split
      case isTrue =>
        refine ⟨_, scanned, ?_, ?_, ?_, fun _ _ => ⟨fun _ filled => ?_, stillClosed⟩, nofun⟩
        · intro address names event member
          rcases List.mem_append.mp member with inside | last
          · exact direct.goes address names event inside
          · rw [List.mem_singleton.mp last]
            trivial
        · have count := counted []
          have nothing : attempts [] = [] := rfl
          rw [List.append_nil, nothing, List.append_nil] at count
          rw [count]
          exact Nat.le_succ_of_le direct.once
        · simpa using ScansFirst.behind_scan direct.once []
        · exact (filled forgotten).elim
      case isFalse seen =>
        obtain ⟨more, again⟩ :=
          attempt_attempted env second frames fun address (names : config.Names address) =>
            discoverTarget_value documented (env.scan second.moment) names (by simpa using seen)
        refine ⟨added ++ [.progress .scan] ++ more, ?_, ?_, ?_, ?_, ?_, again.connected⟩
        · rw [again.appended, scanned, List.append_assoc]
        · intro address names event member
          simp only [List.append_assoc, List.mem_append, List.mem_singleton] at member
          rcases member with inside | rfl | later
          · exact direct.goes address names event inside
          · trivial
          · exact again.goes address names event later
        · have first := direct.once
          have second := again.once
          rw [counted, List.length_append]
          omega
        · exact .behind_scan direct.once more
        · intro err failed
          obtain ⟨connection, cachedMac⟩ := again.failed err failed
          exact ⟨fun _ filled => (filled (cachedMac.trans forgotten)).elim,
            connection.trans stillClosed⟩

end LockRadio

-----------------------------------------------------------------------------------------
-- Writing
-----------------------------------------------------------------------------------------

/-- Behind a connection, the client only writes permitted frames to it. -/
structure Writing (frames : Bytes → Prop) (opened radio : LockRadio) : Prop where
  connection : radio.connection = opened.connection
  cachedMac : radio.cachedMac = opened.cachedMac
  cachedAddr : radio.cachedAddr = opened.cachedAddr
  events
    : ∃ added,
        radio.events = opened.events ++ added
        ∧ ∀ event ∈ added,
            ∃ frame, event = .wrote opened.connection frame ∧ frames frame

theorem radioLink_keeps (nimble : NimbleAddresses) (env : RadioEnv)
    (frames : Bytes → Prop) (opened : LockRadio)
    : (radioLink nimble env).Keeps frames (Writing frames opened) where
  subscribe _ writing := ⟨writing.connection, writing.cachedMac, writing.cachedAddr, writing.events⟩
  waitNotify _ writing :=
    ⟨writing.connection, writing.cachedMac, writing.cachedAddr, writing.events⟩
  writeValue frame radio permitted writing := by
    obtain ⟨added, events, wrote⟩ := writing.events
    refine ⟨writing.connection, writing.cachedMac, writing.cachedAddr,
      added ++ [.wrote opened.connection frame], ?_, ?_⟩
    · simp [radioLink, LockRadio.tick, LockRadio.emit, events, writing.connection]
    · intro event member
      rcases List.mem_append.mp member with earlier | new
      · exact wrote event earlier
      · exact ⟨frame, List.mem_singleton.mp new, permitted⟩

section

variable {Peer : Type} (link : Link Peer)

/-- What both kinds of exchange do around their sessions. -/
def overConnection (config : Config) (sessions : Peer → Exchange × Peer) (peer : Peer)
    : Exchange × Peer :=
  match link.connect config peer with
  | (.error error, peer) => (.failed error, peer)
  | (.ok (), peer) =>
      if !link.createSemaphore peer then
        (.failed "Could not allocate lock notification semaphore.", link.disconnect peer)
      else
        let (subscribed, peer) := link.subscribe peer
        if !subscribed then
          (.failed "Could not subscribe to lock notifications.", link.disconnect peer)
        else
          let (exchange, peer) := sessions peer
          (exchange, link.disconnect peer)

end

/-- A whole call, from rest to rest. -/
structure Called (config : Config) (frames : Bytes → Prop) (before after : LockRadio)
    (added : List RadioEvent)
    : Prop where
  appended : after.events = before.events ++ added
  goes : ∀ address, config.Names address → ∀ event ∈ added, event.GoesTo frames address
  twice : (attempts added).length ≤ 2
  direct : ScansFirst added
  resting : after.Resting

namespace Called

variable {config : Config} {frames : Bytes → Prop} {radio : LockRadio}

/-- A call that is refused before it connects. -/
theorem refused (resting : radio.Resting) : Called config frames radio radio [] where
  appended := by simp
  goes := by simp
  twice := by simp [attempts]
  direct := .of_once (by simp [attempts])
  resting := resting

/-- The end of a call on an open connection. -/
theorem closed {opened writing : LockRadio} {added : List RadioEvent}
    (connects : LockRadio.Connects config frames radio (.ok ()) opened added)
    (wrote : Writing frames opened writing)
    : ∃ more, Called config frames radio { writing with connection := none } more := by
  obtain ⟨more, events, all⟩ := wrote.events
  obtain ⟨cachedMac, connection, value⟩ := connects.connected rfl
  have quiet : attempts more = [] :=
    List.filterMap_eq_nil_iff.mpr fun event member => by
      obtain ⟨_, rfl, _⟩ := all event member
      rfl
  have sum : attempts (added ++ more) = attempts added := by
    have split : attempts (added ++ more) = attempts added ++ attempts more :=
      List.filterMap_append
    rw [split, quiet, List.append_nil]
  refine ⟨added ++ more, ?_, ?_, ?_, ?_, ?_, rfl⟩
  · rw [← List.append_assoc, ← connects.appended]
    exact events
  · intro address names event member
    rcases List.mem_append.mp member with connecting | writes
    · exact connects.goes address names event connecting
    · obtain ⟨frame, rfl, permitted⟩ := all event writes
      exact ⟨⟨opened.cachedAddr, connection, value address names⟩, permitted⟩
  · rw [sum]
    exact connects.twice
  · exact connects.direct.append quiet
  · intro address _ named
    show writing.cachedAddr.value = address
    have same : writing.cachedMac = config.mac := wrote.cachedMac.trans cachedMac
    rw [wrote.cachedAddr]
    refine value address ?_
    rw [Config.Names, Config.macBytes, ← same]
    exact named

/-- Whatever its sessions are, if they only write permitted frames. -/
theorem overConnection {nimble : NimbleAddresses} (env : RadioEnv)
    (documented : nimble.Documented) (resting : radio.Resting)
    (sessions : LockRadio → Exchange × LockRadio)
    (writes
      : ∀ opened peer, Writing frames opened peer → Writing frames opened (sessions peer).2)
    : ∃ added,
        Called config frames radio
          (PhysicalLockClient.overConnection (radioLink nimble env) config sessions radio).2
          added := by
  obtain ⟨added, connects⟩ := LockRadio.connect_connects env config documented resting frames
  unfold PhysicalLockClient.overConnection
  have connect
      : (radioLink nimble env).connect config radio = radio.connect env nimble config :=
    rfl
  rw [connect]
  generalize radio.connect env nimble config = outcome at connects
  obtain ⟨result, opened⟩ := outcome
  cases result with
  | error err =>
      exact ⟨added, connects.appended, connects.goes, connects.twice, connects.direct,
        connects.failed err rfl⟩
  | ok =>
      have still : Writing frames opened opened := ⟨rfl, rfl, rfl, [], by simp, by simp⟩
      have subscribed : Writing frames opened ((radioLink nimble env).subscribe opened).2 :=
        (radioLink_keeps nimble env frames opened).subscribe opened still
      dsimp only
      split
      · exact closed connects still
      split
      · exact closed connects subscribed
      · exact closed connects (writes opened _ subscribed)

end Called

-----------------------------------------------------------------------------------------
-- Calls
-----------------------------------------------------------------------------------------

section

variable (keystream : Keystream) (gcm : AesGcm) {Peer : Type} (link : Link Peer)

/-- `send_plaintext`: a sequence of one command, of which the response is returned. -/
def sendPlaintext (config : Config) (plaintext : Bytes) (peer : Peer)
    : Except String Bytes × Peer :=
  if plaintext.isEmpty then (.error "Empty lock command.", peer)
  else
    let (exchange, peer) := sendPlaintextSequence keystream gcm link config [plaintext] peer
    match exchange.result with
    | .error err => (.error err, peer)
    | .ok () => (.ok (exchange.responses.headD []), peer)

end

/-- A use of the client: a relayed command, or the provisioning of a shared key. -/
inductive ClientCall where
  | send (config : Config) (plaintext : Bytes)
  | provision (provisioning : Config) (commands : List Bytes) (shared : Config)

namespace ClientCall

/-- The lock that the call connects to. -/
def config : ClientCall → Config
  | .send config _ => config
  | .provision provisioning _ _ => provisioning

/-- The frames of the call's sessions. -/
def Frames (keystream : Keystream) (gcm : AesGcm) : ClientCall → Bytes → Prop
  | .send config plaintext => SessionFrame keystream gcm config [plaintext]
  | .provision provisioning commands shared => fun frame =>
      SessionFrame keystream gcm provisioning commands frame
      ∨ ∃ verifyCmd,
          shared.model.lockInfoPlaintext = some verifyCmd
          ∧ SessionFrame keystream gcm shared [verifyCmd] frame

/-- The radio behind the call. -/
def perform (keystream : Keystream) (gcm : AesGcm) (nimble : NimbleAddresses)
    (env : RadioEnv) (radio : LockRadio)
    : ClientCall → LockRadio
  | .send config plaintext =>
      (sendPlaintext keystream gcm (radioLink nimble env) config plaintext radio).2
  | .provision provisioning commands shared =>
      (provisionAndVerifySharedKey keystream gcm (radioLink nimble env) provisioning commands
        shared radio).2

variable (keystream : Keystream) (gcm : AesGcm) {nimble : NimbleAddresses}

theorem perform_called (env : RadioEnv) (documented : nimble.Documented) {radio : LockRadio}
    (resting : radio.Resting) (call : ClientCall)
    : ∃ added,
        Called call.config (call.Frames keystream gcm) radio
          (call.perform keystream gcm nimble env radio) added := by
  cases call with
  | send config plaintext =>
      by_cases empty : plaintext.isEmpty = true
      · have unsent
            : (send config plaintext).perform keystream gcm nimble env radio = radio := by
          simp [perform, sendPlaintext, empty]
        rw [unsent]
        exact ⟨[], .refused resting⟩
      · have sent
            : (send config plaintext).perform keystream gcm nimble env radio
              = (overConnection (radioLink nimble env) config
                  (runSession keystream gcm (radioLink nimble env) config [plaintext])
                  radio).2 := by
          have one : [plaintext].any List.isEmpty = false := by simpa using empty
          have sequence
              : sendPlaintextSequence keystream gcm (radioLink nimble env) config [plaintext]
                  radio
                = overConnection (radioLink nimble env) config
                    (runSession keystream gcm (radioLink nimble env) config [plaintext])
                    radio := by
            rw [sendPlaintextSequence, one]
            rfl
          rw [← sequence, perform, sendPlaintext, if_neg empty]
          generalize sendPlaintextSequence keystream gcm (radioLink nimble env) config
            [plaintext] radio = outcome
          obtain ⟨⟨result, responses⟩, after⟩ := outcome
          cases result <;> rfl
        rw [sent]
        exact Called.overConnection env documented resting _ fun opened peer writing =>
          (radioLink_keeps nimble env _ opened).runSession writing fun _ framed => framed
  | provision provisioning commands shared =>
      simp only [perform, provisionAndVerifySharedKey]
      split
      · exact ⟨[], .refused resting⟩
      split
      · exact ⟨[], .refused resting⟩
      split
      · exact ⟨[], .refused resting⟩
      · rename_i verifyCmd supported
        refine Called.overConnection env documented resting
          (provisionThenVerify keystream gcm (radioLink nimble env) provisioning shared
            commands verifyCmd) fun opened peer writing => ?_
        refine (radioLink_keeps nimble env _ opened).provisionThenVerify writing ?_
        rintro frame (first | second)
        · exact .inl first
        · exact .inr ⟨verifyCmd, supported, second⟩

end ClientCall

/-- A call, and what the client did on the radio during it. -/
structure RadioStep where
  call : ClientCall
  events : List RadioEvent

/-- The client from call to call: its cache survives, and each call meets its own radio. -/
def clientMachine (keystream : Keystream) (gcm : AesGcm) (nimble : NimbleAddresses)
    : Machine LockRadio (RadioEnv × ClientCall) RadioStep where
  step radio input :=
    let after := input.2.perform keystream gcm nimble input.1 { radio with events := [] }
    (after, { call := input.2, events := after.events })

/-- What is seen of a call concerns the lock of its configuration. -/
structure RadioStep.Aimed (keystream : Keystream) (gcm : AesGcm) (step : RadioStep) : Prop where
  goes
    : ∀ address,
        step.call.config.Names address
        → ∀ event ∈ step.events, event.GoesTo (step.call.Frames keystream gcm) address
  twice : (attempts step.events).length ≤ 2
  direct : ScansFirst step.events

/-- Whatever the calls before it were, whatever lock they talked to and however they ended, a
call of the client connects to the lock that its configuration names and to no other device,
writes to that connection alone, and writes nothing but the frames of its own sessions. It
attempts two connections at most, the second one only behind a scan, and leaves none open.
-/
theorem frames_to_configured_lock (keystream : Keystream) (gcm : AesGcm)
    (nimble : NimbleAddresses) (documented : nimble.Documented)
    (inputs : List (RadioEnv × ClientCall))
    : let machine := clientMachine keystream gcm nimble
      (machine.run {} inputs).connection = none
      ∧ ∀ step ∈ machine.history {} inputs, step.Aimed keystream gcm := by
  intro machine
  have run :=
    machine.history_invariant
      (fun seen radio => radio.Resting ∧ ∀ step ∈ seen, step.Aimed keystream gcm)
      ⟨LockRadio.resting_unused, by simp⟩
      (fun seen radio input ⟨resting, aimed⟩ => by
        have blank : ({ radio with events := [] } : LockRadio).Resting :=
          ⟨resting.cached, resting.closed⟩
        obtain ⟨added, called⟩ := input.2.perform_called keystream gcm input.1 documented blank
        have events
            : (input.2.perform keystream gcm nimble input.1 { radio with events := [] }).events
              = added :=
          called.appended
        refine ⟨called.resting, fun step member => ?_⟩
        rcases List.mem_append.mp member with earlier | new
        · exact aimed step earlier
        · rw [List.mem_singleton.mp new]
          rw [← events] at called
          exact ⟨called.goes, called.twice, called.direct⟩)
      inputs
  exact ⟨run.1.closed, run.2⟩

/-- Addresses that are printed as their bytes, and read as they are printed. -/
def printedAddresses : NimbleAddresses where
  construct text type := ⟨(parseMacPretty text).getD (Vector.replicate 6 0), type⟩
  toString address := address.value.text
  isNull address := address = .null

theorem printedAddresses_documented : printedAddresses.Documented where
  prints _ := rfl
  reads address type := by simp [printedAddresses, parseMacPretty_upper, parseMacPretty_text]
  null := rfl

/-- A lock with a random address whose MAC looks public: only a scan shows its type. -/
def misjudgedLock : BleAddress := ⟨#v[0xB0, 0xE9, 0xFE, 0x61, 0x2E, 0x75], 1⟩

/-- The radio around that lock and another one; the lock opens a session and answers. -/
def misjudgedEnv : RadioEnv where
  scan _ := [⟨#v[0xC0, 0xE9, 0xFE, 0x61, 0x2E, 0x75], 1⟩, misjudgedLock]
  clientCreated _ := true
  connects _ target := target = misjudgedLock
  serviceFound _ := true
  semaphoreCreated _ := true
  subscribes _ := true
  writes _ := true
  notifies _ := some ([0x01] ++ List.replicate 19 0x00)
  psa _ := { keys := fun _ => none }

/-- A command that is relayed to it. -/
def misjudgedCall : ClientCall := .send { mac := "b0:e9:fe:61:2e:75", keyId := 3 } [0x0F]

/-- The first call finds the lock by a scan, the second one by the cache; both ask it for an IV and
send it their command.
-/
theorem frames_to_configured_lock_misjudged
    : let machine :=
        clientMachine (fun _ _ _ => 0) ⟨fun _ _ _ => none, fun _ _ _ => none⟩ printedAddresses
      let inputs := [(misjudgedEnv, misjudgedCall), (misjudgedEnv, misjudgedCall)]
      let request := .wrote (some misjudgedLock) [0x57, 0x00, 0x00, 0x00, 0x0F, 0x21, 0x03, 0x03]
      let command := .wrote (some misjudgedLock) [0x57, 0x03, 0x00, 0x00, 0x0F]
      (machine.history {} inputs).map RadioStep.events
        = [[.progress .connect, .attempted ⟨misjudgedLock.value, 0⟩, .progress .scan,
            .progress .connect, .attempted misjudgedLock, .progress .discover, request, command],
          [.progress .connect, .attempted misjudgedLock, .progress .discover, request, command]]
      ∧ (machine.run {} inputs).connection = none :=
  ⟨by decide +kernel,
    (frames_to_configured_lock (fun _ _ _ => 0) ⟨fun _ _ _ => none, fun _ _ _ => none⟩
      printedAddresses printedAddresses_documented
      [(misjudgedEnv, misjudgedCall), (misjudgedEnv, misjudgedCall)]).1⟩

end PhysicalLockClient

end KeypadBridge
