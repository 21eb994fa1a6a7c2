import KeypadBridge.Account.CloudClient
import KeypadBridge.Foundation.Lately
import KeypadBridge.Foundation.Machine

/-! The sessions of the cloud client. What it answers belongs to the account that was signed in
last: it was asked for with the token of that login, and a cached list is one that this account
returned. Answering from the cache changes no answer of a cloud that answers alike.
-/

namespace KeypadBridge
open KeypadBridge.Foundation

-----------------------------------------------------------------------------------------
-- Calls
-----------------------------------------------------------------------------------------

inductive CloudOp where
  | login (email password : Bytes)
  | listDevices (forceRefresh : Bool)
  | fetchDeviceKey (mac : Bytes)

/-- A call of the client, and the network during the call. -/
structure CloudCall where
  op : CloudOp
  net : Network

inductive CloudAnswer where
  | login (answer : Except String Unit)
  | devices (answer : Except String (List AccountDevice))
  | deviceKey (answer : Except String (Bytes × Bytes))

/-- What is seen of a call. -/
structure CloudStep where
  answer : CloudAnswer
  sent : List CloudRequest

namespace CloudClient

/-- One call. -/
def perform (library : JsonLibrary) (client : CloudClient) (call : CloudCall)
    : CloudClient × CloudStep :=
  match call.op with
  | .login email password =>
      let (client, result) := client.login library call.net email password
      (client, ⟨.login result.answer, result.sent⟩)
  | .listDevices forceRefresh =>
      let (client, result) := client.listDevices library call.net forceRefresh
      (client, ⟨.devices result.answer, result.sent⟩)
  | .fetchDeviceKey mac =>
      let result := client.fetchDeviceKey library call.net mac
      (client, ⟨.deviceKey result.answer, result.sent⟩)

end CloudClient

def cloudMachine (library : JsonLibrary) : Machine CloudClient CloudCall CloudStep where
  step := CloudClient.perform library

/-- A client that answers nothing from its cache. -/
def CloudOp.uncached : CloudOp → CloudOp
  | .listDevices _ => .listDevices true
  | op => op

-----------------------------------------------------------------------------------------
-- Sessions
-----------------------------------------------------------------------------------------

namespace CloudCall

def IsLogin (call : CloudCall) : Prop := ∃ email password, call.op = .login email password

/-- The call is a login, and the cloud granted it this token and named this region. -/
def Grants (library : JsonLibrary) (token region : Bytes) (call : CloudCall) : Prop :=
  ∃ email password,
    call.op = .login email password
    ∧ (call.net.call (CloudClient.loginRequest library email password)
        (readToken library)).answer = .ok token
    ∧ region
      = readRegion library (call.net (CloudClient.userInfoRequest token) |>.postJson)

/-- The call asks for the devices, and the cloud returned these to the holder of a token. -/
def Returns (library : JsonLibrary) (token region : Bytes) (devices : List AccountDevice)
    (call : CloudCall)
    : Prop :=
  (∃ forceRefresh, call.op = .listDevices forceRefresh)
  ∧ (call.net.call (CloudClient.listRequest ⟨token, region, []⟩) (readDevices library)).answer
    = .ok devices

theorem not_isLogin_listDevices (forceRefresh : Bool) (net : Network)
    : ¬ IsLogin ⟨.listDevices forceRefresh, net⟩ := by
  rintro ⟨_, _, login⟩
  cases login

theorem not_isLogin_fetchDeviceKey (mac : Bytes) (net : Network)
    : ¬ IsLogin ⟨.fetchDeviceKey mac, net⟩ := by
  rintro ⟨_, _, login⟩
  cases login

end CloudCall

/-- What a client's members say about the calls so far. -/
structure CloudClient.Remembers (library : JsonLibrary) (calls : List CloudCall)
    (client : CloudClient)
    : Prop where
  session
    : client.isLoggedIn = true
      → Lately CloudCall.IsLogin (CloudCall.Grants library client.authToken client.region) calls
  cache
    : client.devicesCache ≠ []
      → Lately CloudCall.IsLogin
          (CloudCall.Returns library client.authToken client.region client.devicesCache) calls

namespace CloudClient

variable {library : JsonLibrary} {calls : List CloudCall} {client : CloudClient}

/-- A client that was just cleared remembers nothing. -/
theorem Remembers.cleared (client : CloudClient) : Remembers library calls client.clear where
  session loggedIn := by simp [clear, isLoggedIn] at loggedIn
  cache cached := (cached rfl).elim

/-- A call that leaves the client as it was, and is no login. -/
theorem Remembers.kept {call : CloudCall} (remembers : Remembers library calls client)
    (other : ¬ call.IsLogin)
    : Remembers library (calls ++ [call]) client where
  session loggedIn := (remembers.session loggedIn).later other
  cache cached := (remembers.cache cached).later other

/-- The list request depends on the session alone. -/
theorem listRequest_eq (client : CloudClient)
    : client.listRequest = listRequest ⟨client.authToken, client.region, []⟩ :=
  rfl

theorem keyRequest_eq (client : CloudClient) (mac : Bytes)
    : client.keyRequest mac = keyRequest ⟨client.authToken, client.region, []⟩ mac :=
  rfl

/-- What a plain or forced listing can do, by where its answer comes from. -/
theorem listDevices_cases (library : JsonLibrary) (net : Network) (client : CloudClient)
    (forceRefresh : Bool)
    : (client.isLoggedIn = false
        ∧ client.listDevices library net forceRefresh
          = (client, { answer := .error "Not logged in" }))
      ∨ (client.isLoggedIn = true ∧ forceRefresh = false ∧ client.devicesCache ≠ []
        ∧ client.listDevices library net forceRefresh
          = (client, { answer := .ok client.devicesCache }))
      ∨ (client.isLoggedIn = true
        ∧ (client.listDevices library net forceRefresh).2
          = net.call client.listRequest (readDevices library)
        ∧ ((∃ err,
              (net.call client.listRequest (readDevices library)).answer = .error err
              ∧ (client.listDevices library net forceRefresh).1 = client)
          ∨ ∃ devices,
              (net.call client.listRequest (readDevices library)).answer = .ok devices
              ∧ (client.listDevices library net forceRefresh).1
                = { client with devicesCache := devices })) := by
  unfold listDevices
  split
  case isTrue out => exact .inl ⟨out, rfl⟩
  case isFalse inside =>
    have loggedIn : client.isLoggedIn = true := by simpa using inside
    split
    case isTrue cached => exact .inr (.inl ⟨loggedIn, cached.1, cached.2, rfl⟩)
    case isFalse =>
      refine .inr (.inr ⟨loggedIn, ?_⟩)
      cases answered : (net.call client.listRequest (readDevices library)).answer with
      | error err => simp [answered]
      | ok devices => simp [answered]

/-- One call keeps what the client remembers in line with the calls. -/
theorem perform_remembers (client : CloudClient) (call : CloudCall)
    (remembers : Remembers library calls client)
    : Remembers library (calls ++ [call]) (client.perform library call).1 := by
  obtain ⟨op, net⟩ := call
  cases op with
  | login email password =>
      simp only [perform, login]
      split
      case h_1 => exact .cleared client
      case h_2 token granted =>
        refine ⟨fun _ => .now ⟨email, password, rfl, granted, rfl⟩, fun cached => ?_⟩
        exact (cached rfl).elim
  | listDevices forceRefresh =>
      have other := CloudCall.not_isLogin_listDevices forceRefresh net
      rcases client.listDevices_cases library net forceRefresh with
        ⟨_, same⟩ | ⟨_, _, _, same⟩ | ⟨_, _, ⟨_, _, same⟩ | ⟨devices, answered, same⟩⟩
        <;> simp only [perform, same]
      · exact remembers.kept other
      · exact remembers.kept other
      · exact remembers.kept other
      · exact ⟨(remembers.kept other).session, fun _ => .now ⟨⟨_, rfl⟩, answered⟩⟩
  | fetchDeviceKey mac => exact remembers.kept (CloudCall.not_isLogin_fetchDeviceKey mac net)

/-- Several calls, by induction over them. -/
theorem Remembers.run {more : List CloudCall} (remembers : Remembers library calls client)
    : Remembers library (calls ++ more) ((cloudMachine library).run client more) := by
  induction more generalizing calls client with
  | nil => simpa using remembers
  | cons call rest ih =>
      have next := ih (client.perform_remembers call remembers)
      rwa [List.append_assoc] at next

/-- What the client remembers after any calls. -/
theorem run_remembers (library : JsonLibrary) (calls : List CloudCall)
    : Remembers library calls ((cloudMachine library).run {} calls) :=
  (Remembers.cleared {} : Remembers library [] {}).run

/-- A request that is posted is sent a few times, or not at all. -/
theorem mem_sent {Answer : Type} {net : Network} {request sent : CloudRequest}
    {read : Bytes → Except String Answer} (member : sent ∈ (net.call request read).sent)
    : sent = request :=
  List.eq_of_mem_replicate member

/-- Signed out, the client asks nothing. -/
theorem perform_signedOut {call : CloudCall} (out : client.isLoggedIn = false)
    (other : ¬ call.IsLogin)
    : (client.perform library call).2.sent = []
      ∧ ((client.perform library call).2.answer = .devices (.error "Not logged in")
        ∨ (client.perform library call).2.answer = .deviceKey (.error "Not logged in")) := by
  obtain ⟨op, net⟩ := call
  cases op with
  | login email password => exact (other ⟨email, password, rfl⟩).elim
  | listDevices forceRefresh =>
      simp [perform, listDevices, out]
  | fetchDeviceKey mac =>
      simp [perform, fetchDeviceKey, out]

end CloudClient

/-- Some login granted this token and named this region, and it is the last one. -/
def SignedIn (library : JsonLibrary) (token region : Bytes) (calls : List CloudCall) : Prop :=
  token ≠ [] ∧ Lately CloudCall.IsLogin (CloudCall.Grants library token region) calls

/-- Only a login ends a session. -/
theorem SignedIn.append {library : JsonLibrary} {token region : Bytes}
    {calls more : List CloudCall} (signedIn : SignedIn library token region calls)
    (others : ∀ call ∈ more, ¬ call.IsLogin)
    : SignedIn library token region (calls ++ more) :=
  ⟨signedIn.1, signedIn.2.append others⟩

namespace CloudClient.Remembers

variable {library : JsonLibrary} {calls : List CloudCall} {client : CloudClient} {net : Network}

/-- A client that is logged in holds the session of the last login. -/
theorem signedIn (remembers : Remembers library calls client)
    (loggedIn : client.isLoggedIn = true)
    : SignedIn library client.authToken client.region calls :=
  ⟨by simpa [isLoggedIn] using loggedIn, remembers.session loggedIn⟩

/-- A list that is answered was returned to the session, now or before. -/
theorem listed {forceRefresh : Bool} {devices : List AccountDevice}
    (remembers : Remembers library calls client)
    (answered : (client.listDevices library net forceRefresh).2.answer = .ok devices)
    : SignedIn library client.authToken client.region calls
      ∧ Lately CloudCall.IsLogin
          (CloudCall.Returns library client.authToken client.region devices)
          (calls ++ [⟨.listDevices forceRefresh, net⟩]) := by
  rcases client.listDevices_cases library net forceRefresh with
    ⟨_, same⟩ | ⟨loggedIn, _, cached, same⟩ | ⟨loggedIn, asked, _⟩
  · rw [same] at answered
    cases answered
  · rw [same] at answered
    cases answered
    exact ⟨remembers.signedIn loggedIn,
      (remembers.cache cached).later (CloudCall.not_isLogin_listDevices forceRefresh net)⟩
  · rw [asked] at answered
    exact ⟨remembers.signedIn loggedIn, .now ⟨⟨_, rfl⟩, answered⟩⟩

/-- A request that is sent carries the token of the session. -/
theorem sent {call : CloudCall} {request : CloudRequest}
    (remembers : Remembers library calls client) (other : ¬ call.IsLogin)
    (member : request ∈ (client.perform library call).2.sent)
    : SignedIn library request.bearer client.region calls := by
  obtain ⟨op, net⟩ := call
  cases op with
  | login email password => exact (other ⟨email, password, rfl⟩).elim
  | listDevices forceRefresh =>
      simp only [perform] at member
      rcases client.listDevices_cases library net forceRefresh with
        ⟨_, same⟩ | ⟨_, _, _, same⟩ | ⟨loggedIn, asked, _⟩
      · simp [same] at member
      · simp [same] at member
      · rw [asked] at member
        rw [mem_sent member]
        exact remembers.signedIn loggedIn
  | fetchDeviceKey mac =>
      simp only [perform, fetchDeviceKey] at member
      split at member
      · simp at member
      · rename_i inside
        rw [mem_sent member]
        exact remembers.signedIn (by simpa using inside)

end CloudClient.Remembers

/-- Whatever was called before, a device list is one that the account of the last login
returned in this session, a key was returned to that account just now, every request but a
login's carries the token of the last login, and without a session nothing is sent.
-/
theorem answers_of_current_account (library : JsonLibrary) (calls : List CloudCall)
    (call : CloudCall)
    : let step := (((cloudMachine library).run {} calls).perform library call).2
      (∀ devices,
        step.answer = .devices (.ok devices)
        → ∃ token region,
            SignedIn library token region calls
            ∧ Lately CloudCall.IsLogin (CloudCall.Returns library token region devices)
                (calls ++ [call]))
      ∧ (∀ mac key,
          call.op = .fetchDeviceKey mac
          → step.answer = .deviceKey (.ok key)
          → ∃ token region,
              SignedIn library token region calls
              ∧ (call.net.call (CloudClient.keyRequest ⟨token, region, []⟩ mac)
                  (readDeviceKey library)).answer
                = .ok key)
      ∧ (¬ call.IsLogin
          → (∀ request ∈ step.sent,
              ∃ region, SignedIn library request.bearer region calls)
            ∧ ((∀ token region, ¬ SignedIn library token region calls)
              → step.sent = []
                ∧ (step.answer = .devices (.error "Not logged in")
                  ∨ step.answer = .deviceKey (.error "Not logged in")))) := by
  have remembers := CloudClient.run_remembers library calls
  generalize (cloudMachine library).run {} calls = client at remembers
  refine ⟨?_, ?_, fun other => ⟨fun _ member => ⟨_, remembers.sent other member⟩, ?_⟩⟩
  · intro devices answered
    obtain ⟨op, net⟩ := call
    cases op with
    | login | fetchDeviceKey => cases answered
    | listDevices forceRefresh =>
        simp only [CloudClient.perform, CloudAnswer.devices.injEq] at answered
        exact ⟨_, _, remembers.listed answered⟩
  · rintro mac key fetch answered
    obtain ⟨op, net⟩ := call
    subst fetch
    simp only [CloudClient.perform, CloudAnswer.deviceKey.injEq, CloudClient.fetchDeviceKey]
      at answered
    split at answered
    · cases answered
    · rename_i inside
      exact ⟨_, _, remembers.signedIn (by simpa using inside), answered⟩
  · intro nobody
    have out : client.isLoggedIn = false := by
      rw [← Bool.not_eq_true]
      exact fun loggedIn => nobody _ _ (remembers.signedIn loggedIn)
    exact CloudClient.perform_signedOut out other

-----------------------------------------------------------------------------------------
-- The cache against no cache
-----------------------------------------------------------------------------------------

/-- Two clients in one session, of which the first has cached only what the cloud would answer
again.
-/
structure SameSession (library : JsonLibrary) (net : Network) (cached plain : CloudClient)
    : Prop where
  authToken : cached.authToken = plain.authToken
  region : cached.region = plain.region
  current
    : cached.devicesCache ≠ []
      → (net.call cached.listRequest (readDevices library)).answer = .ok cached.devicesCache

namespace SameSession

variable {library : JsonLibrary} {net : Network} {cached plain : CloudClient}

theorem listRequest (same : SameSession library net cached plain)
    : cached.listRequest = plain.listRequest := by
  rw [cached.listRequest_eq, plain.listRequest_eq, same.authToken, same.region]

theorem keyRequest (same : SameSession library net cached plain) (mac : Bytes)
    : cached.keyRequest mac = plain.keyRequest mac := by
  rw [cached.keyRequest_eq, plain.keyRequest_eq, same.authToken, same.region]

theorem isLoggedIn (same : SameSession library net cached plain)
    : cached.isLoggedIn = plain.isLoggedIn := by
  simp only [CloudClient.isLoggedIn, same.authToken]

/-- A client without a cache asks for every list. -/
theorem forced_listing (library : JsonLibrary) (net : Network) (plain : CloudClient)
    (loggedIn : plain.isLoggedIn = true)
    : (plain.listDevices library net true).2
        = net.call plain.listRequest (readDevices library)
      ∧ (plain.listDevices library net true).1.authToken = plain.authToken
      ∧ (plain.listDevices library net true).1.region = plain.region := by
  rcases plain.listDevices_cases library net true with
    ⟨out, _⟩ | ⟨_, unforced, _⟩ | ⟨_, asked, ⟨_, _, same⟩ | ⟨_, _, same⟩⟩
  · simp [loggedIn] at out
  · cases unforced
  · exact ⟨asked, by rw [same], by rw [same]⟩
  · exact ⟨asked, by rw [same], by rw [same]⟩

/-- One call answers alike on both, and the cache only saves requests. -/
theorem perform (same : SameSession library net cached plain) (op : CloudOp)
    : let first := cached.perform library ⟨op, net⟩
      let second := plain.perform library ⟨op.uncached, net⟩
      first.2.answer = second.2.answer
      ∧ first.2.sent.Sublist second.2.sent
      ∧ SameSession library net first.1 second.1 := by
  cases op with
  | login email password =>
      simp only [CloudOp.uncached, CloudClient.perform, CloudClient.login]
      split
      · exact ⟨rfl, .refl _, rfl, rfl, fun cached => (cached rfl).elim⟩
      · exact ⟨rfl, .refl _, rfl, rfl, fun cached => (cached rfl).elim⟩
  | listDevices forceRefresh =>
      simp only [CloudOp.uncached, CloudClient.perform, CloudAnswer.devices.injEq]
      rcases cached.listDevices_cases library net forceRefresh with
        ⟨out, answered⟩ | ⟨loggedIn, _, filled, answered⟩ | ⟨loggedIn, asked, kept⟩
      · have alsoOut : plain.isLoggedIn = false := same.isLoggedIn ▸ out
        have refused
            : plain.listDevices library net true
              = (plain, { answer := .error "Not logged in" }) := by
          simp [CloudClient.listDevices, alsoOut]
        rw [answered, refused]
        exact ⟨rfl, .refl _, same⟩
      · obtain ⟨posted, token, region⟩ :=
          forced_listing library net plain (same.isLoggedIn ▸ loggedIn)
        rw [answered, posted, ← same.listRequest]
        exact ⟨(same.current filled).symm, List.nil_sublist _, same.authToken.trans token.symm,
          same.region.trans region.symm, same.current⟩
      · obtain ⟨posted, token, region⟩ :=
          forced_listing library net plain (same.isLoggedIn ▸ loggedIn)
        rw [asked, posted, ← same.listRequest]
        refine ⟨rfl, .refl _, ?_⟩
        rcases kept with ⟨_, _, kept⟩ | ⟨devices, answered, kept⟩
        · rw [kept]
          exact ⟨same.authToken.trans token.symm, same.region.trans region.symm, same.current⟩
        · rw [kept]
          exact ⟨same.authToken.trans token.symm, same.region.trans region.symm,
            fun _ => answered⟩
  | fetchDeviceKey mac =>
      have alike
          : cached.fetchDeviceKey library net mac = plain.fetchDeviceKey library net mac := by
        simp only [CloudClient.fetchDeviceKey, same.isLoggedIn, same.keyRequest]
      simp only [CloudOp.uncached, CloudClient.perform, alike]
      exact ⟨trivial, .refl _, same⟩

/-- Whole runs answer alike, by induction over the calls. -/
theorem histories (same : SameSession library net cached plain) (ops : List CloudOp)
    : let first :=
        (cloudMachine library).history cached (ops.map fun op => ⟨op, net⟩)
      let second :=
        (cloudMachine library).history plain (ops.map fun op => ⟨op.uncached, net⟩)
      first.map CloudStep.answer = second.map CloudStep.answer
      ∧ (first.flatMap CloudStep.sent).Sublist (second.flatMap CloudStep.sent) := by
  induction ops generalizing cached plain with
  | nil => exact ⟨rfl, .refl _⟩
  | cons op rest ih =>
      obtain ⟨answer, sent, next⟩ := same.perform op
      obtain ⟨answers, sents⟩ := ih next
      exact ⟨congrArg₂ List.cons answer answers, sent.append sents⟩

end SameSession

/-- Against a cloud that answers the same request alike, a client that uses its cache answers
every call as one that always asks, and what it sends is part of what that one sends.
-/
theorem cache_transparent (library : JsonLibrary) (net : Network) (ops : List CloudOp)
    : let cached := (cloudMachine library).history {} (ops.map fun op => ⟨op, net⟩)
      let plain := (cloudMachine library).history {} (ops.map fun op => ⟨op.uncached, net⟩)
      cached.map CloudStep.answer = plain.map CloudStep.answer
      ∧ (cached.flatMap CloudStep.sent).Sublist (plain.flatMap CloudStep.sent) :=
  SameSession.histories ⟨rfl, rfl, fun cached => (cached rfl).elim⟩ ops

end KeypadBridge
