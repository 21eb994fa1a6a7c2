import Mathlib.Data.List.Basic
import KeypadBridge.Foundation.KeyedFold
import KeypadBridge.Foundation.Machine
import KeypadBridge.Protocol.MacForms
import KeypadBridge.Wizard.PairingUi

/-! What the wizard lists: a scan tells which devices are nearby and what they advertise, and the
devices of the account are shown by it. A keypad that was identified once is listed for as long
as it is in range.
-/

namespace KeypadBridge
open KeypadBridge.Foundation

-----------------------------------------------------------------------------------------
-- The scan
-----------------------------------------------------------------------------------------

/-- A result of the scan, with its signal strength. -/
structure ScanResult where
  adv : AdvertisedDevice
  rssi : Int
  deriving DecidableEq

/-- The address under which `scan_nearby` records a result. -/
def ScanResult.mac (result : ScanResult) : Bytes := upperMac result.adv.addressText

/-- `NearbyDevice`. -/
structure NearbyDevice where
  rssi : Int := -128
  svcData : Bytes := []
  deriving DecidableEq

/-- The strongest signal is kept, and the last service data that is not empty. -/
def NearbyDevice.hear (dev : NearbyDevice) (result : ScanResult) : NearbyDevice :=
  let dev := if result.rssi > dev.rssi then { dev with rssi := result.rssi } else dev
  let sd := result.adv.serviceData
  if sd.isEmpty then dev else { dev with svcData := sd }

/-- `scan_nearby`, on the results of its scan. -/
def scanNearby (results : List ScanResult) : Bytes → Option NearbyDevice :=
  results.foldl
    (fun seen result =>
      let dev := (seen result.mac).getD {}
      Function.update seen result.mac (some (dev.hear result)))
    fun _ => none

-----------------------------------------------------------------------------------------
-- The lists
-----------------------------------------------------------------------------------------

/-- What `list_devices` lets the handlers show, or how they refuse. -/
def CloudAnswers.listing (cloud : CloudAnswers) : Except HttpReply (List AccountDevice) :=
  match cloud.devices with
  | .error err => .error (.error "502 Bad Gateway" err)
  | .ok devices => .ok devices

/-- A keypad as it is listed; every one that is listed is online. -/
structure KeypadEntry where
  mac : Bytes
  name : Bytes
  family : String
  rssi : Int
  deriving DecidableEq

/-- `identified_keypads_`. -/
abbrev IdentifiedKeypads := Bytes → Option KeypadIdent

/-- The loop of `handle_keypads_`, for one device of the account. -/
def listKeypad (nearby : Bytes → Option NearbyDevice)
    (listed : IdentifiedKeypads × List KeypadEntry) (k : AccountDevice)
    : IdentifiedKeypads × List KeypadEntry :=
  let (identified, entries) := listed
  match nearby k.macPretty with
  | none => (identified, entries)
  | some hit =>
      let live := identifyKeypad hit.svcData
      let identified :=
        if live.isKeypad then Function.update identified k.macPretty (some live)
        else identified
      let ident := if live.isKeypad then live else (identified k.macPretty).getD live
      if !ident.isKeypad then (identified, entries)
      else (identified, entries ++ [⟨k.macPretty, k.name, ident.family.name, hit.rssi⟩])

/-- `handle_keypads_`, on the results of its scan. -/
def handleKeypads (identified : IdentifiedKeypads) (cloud : CloudAnswers)
    (results : List ScanResult)
    : IdentifiedKeypads × Except HttpReply (List KeypadEntry) :=
  if cloud.loggedIn = false then
    (identified, .error (.error "401 Unauthorized" "Sign in first."))
  else
    match cloud.listing with
    | .error refusal => (identified, .error refusal)
    | .ok devices =>
        let (identified, entries) :=
          devices.foldl (listKeypad (scanNearby results)) (identified, [])
        (identified, .ok entries)

/-- A lock as it is listed; one out of range has no signal. -/
structure LockEntry where
  mac : Bytes
  name : Bytes
  model : PhysicalLockModel
  deviceType : String
  rssi : Option Int
  deriving DecidableEq

/-- `handle_locks_`, on the results of its scan. -/
def handleLocks (keypadPaired : Bool) (cloud : CloudAnswers) (results : List ScanResult)
    : Except HttpReply (List LockEntry) :=
  if cloud.loggedIn = false then .error (.error "401 Unauthorized" "Sign in first.")
  else if keypadPaired = false then
    .error (.error "409 Conflict" "Link a keypad before linking a lock.")
  else
    match cloud.listing with
    | .error refusal => .error refusal
    | .ok devices =>
        .ok (devices.filterMap fun dev =>
          let model := physicalLockModelFromApiType dev.deviceType
          if model = .unknown then none
          else
            some ⟨dev.macPretty, dev.name, model, dev.deviceType,
              (scanNearby results dev.macPretty).map NearbyDevice.rssi⟩)

-----------------------------------------------------------------------------------------
-- What a scan tells
-----------------------------------------------------------------------------------------

namespace NearbyDevice

theorem hear_eq (dev : NearbyDevice) (result : ScanResult)
    : dev.hear result
      = ⟨max dev.rssi result.rssi,
          if result.adv.serviceData.isEmpty then dev.svcData else result.adv.serviceData⟩ := by
  have strongest
      : (if result.rssi > dev.rssi then result.rssi else dev.rssi) = max dev.rssi result.rssi := by
    split <;> omega
  unfold hear
  rw [← strongest]
  dsimp only
  split <;> split <;> rfl

/-- What some results of one device make of it: the strongest signal, and the last service data
that is not empty.
-/
def heard (dev : NearbyDevice) (results : List ScanResult) : NearbyDevice where
  rssi := (results.map ScanResult.rssi).foldl max dev.rssi
  svcData :=
    ((results.map fun result => result.adv.serviceData).filter fun sd => !sd.isEmpty).getLast?.getD
      dev.svcData

theorem foldl_hear (dev : NearbyDevice) (results : List ScanResult)
    : results.foldl hear dev = dev.heard results := by
  induction results generalizing dev with
  | nil => rfl
  | cons result rest ih =>
      rw [List.foldl_cons, ih, hear_eq]
      by_cases empty : result.adv.serviceData.isEmpty = true
      · simp [heard, empty]
      · simp [heard, empty, List.getLast?_cons]

end NearbyDevice

theorem scanNearby_eq_foldItems (results : List ScanResult)
    : scanNearby results
      = foldItems ScanResult.mac NearbyDevice.hear {} (fun _ => none) results :=
  rfl

/-- A device is nearby if one of its results was heard, and nothing else counts. -/
theorem scanNearby_apply (results : List ScanResult) (mac : Bytes)
    : scanNearby results mac
      = if under ScanResult.mac mac results = [] then none
        else some (NearbyDevice.heard {} (under ScanResult.mac mac results)) := by
  rw [scanNearby_eq_foldItems, foldItems_apply]
  simp only [NearbyDevice.foldl_hear, Option.getD_none]

/-- Every device advertises one service data at most, wherever it does advertise some. -/
def SteadyData (results : List ScanResult) : Prop :=
  ∀ first ∈ results,
    ∀ second ∈ results,
      first.mac = second.mac
      → first.adv.serviceData ≠ []
      → second.adv.serviceData ≠ []
      → first.adv.serviceData = second.adv.serviceData

/-- A scan loses nothing that a device sent. What is recorded of a device is read off its own
results alone: it is there if one was heard, with the strongest signal and with the service data
of the last result that carries some, however weak that one was. The order of the results does
not matter as long as no device changes what it advertises.
-/
theorem scan_keeps_what_was_heard (results : List ScanResult)
    : (∀ mac,
        scanNearby results mac
        = if under ScanResult.mac mac results = [] then none
          else some (NearbyDevice.heard {} (under ScanResult.mac mac results)))
      ∧ (SteadyData results
        → ∀ reordered, results.Perm reordered → scanNearby reordered = scanNearby results) := by
  refine ⟨scanNearby_apply results, fun steady reordered perm => ?_⟩
  refine (foldItems_perm _ perm fun left inLeft right inRight same dev => ?_).symm
  have strongest
      : max (max dev.rssi left.rssi) right.rssi = max (max dev.rssi right.rssi) left.rssi := by
    omega
  simp only [NearbyDevice.hear_eq, strongest]
  congr 1
  by_cases emptyLeft : left.adv.serviceData = []
  · simp [emptyLeft]
  · by_cases emptyRight : right.adv.serviceData = []
    · simp [emptyRight]
    · simp [steady left inLeft right inRight same emptyLeft emptyRight]

-----------------------------------------------------------------------------------------
-- What is listed
-----------------------------------------------------------------------------------------

/-- The keypad that a device in range shows itself to be. -/
def seenKeypad (results : List ScanResult) (mac : Bytes) : Option KeypadIdent := do
  let hit ← scanNearby results mac
  let live := identifyKeypad hit.svcData
  if live.isKeypad then some live else none

/-- What the loop knows of an address: what this scan shows, or else what is cached. -/
def knownKeypad (results : List ScanResult) (identified : IdentifiedKeypads) (mac : Bytes)
    : Option KeypadIdent :=
  (seenKeypad results mac).or (identified mac)

/-- The entry of a device that is in range and known to be a keypad. -/
def keypadEntry (results : List ScanResult) (known : IdentifiedKeypads) (k : AccountDevice)
    : Option KeypadEntry := do
  let hit ← scanNearby results k.macPretty
  let ident ← known k.macPretty
  return ⟨k.macPretty, k.name, ident.family.name, hit.rssi⟩

/-- Only keypads are cached. -/
def OnlyKeypads (identified : IdentifiedKeypads) : Prop :=
  ∀ mac ident, identified mac = some ident → ident.isKeypad = true

/-- One device: it is cached if it shows itself, and listed if it is known. -/
theorem listKeypad_eq (results : List ScanResult) {identified : IdentifiedKeypads}
    (keypads : OnlyKeypads identified) (entries : List KeypadEntry) (k : AccountDevice)
    : listKeypad (scanNearby results) (identified, entries) k
      = (Function.update identified k.macPretty (knownKeypad results identified k.macPretty),
          entries ++ (keypadEntry results (knownKeypad results identified) k).toList) := by
  unfold listKeypad
  dsimp only
  cases nearby : scanNearby results k.macPretty with
  | none => simp [knownKeypad, seenKeypad, keypadEntry, nearby]
  | some hit =>
      cases live : (identifyKeypad hit.svcData).isKeypad with
      | true => simp [knownKeypad, seenKeypad, keypadEntry, nearby, live]
      | false =>
          cases cached : identified k.macPretty with
          | none => simp [knownKeypad, seenKeypad, keypadEntry, nearby, live, cached]
          | some ident =>
              have keypad := keypads _ _ cached
              simp [knownKeypad, seenKeypad, keypadEntry, nearby, live, cached, keypad]

theorem seenKeypad_isKeypad {results : List ScanResult} {mac : Bytes} {ident : KeypadIdent}
    (seen : seenKeypad results mac = some ident)
    : ident.isKeypad = true := by
  obtain ⟨hit, _, shown⟩ := Option.bind_eq_some_iff.mp seen
  dsimp only at shown
  split at shown
  · rename_i keypad
    obtain rfl := Option.some.inj shown
    exact keypad
  · cases shown

theorem OnlyKeypads.known {identified : IdentifiedKeypads} (keypads : OnlyKeypads identified)
    (results : List ScanResult)
    : OnlyKeypads (knownKeypad results identified) := by
  intro mac ident found
  rcases Option.or_eq_some_iff.mp found with seen | ⟨_, cached⟩
  · exact seenKeypad_isKeypad seen
  · exact keypads mac ident cached

/-- What is known of the other devices stays the same. -/
theorem knownKeypad_update (results : List ScanResult) (identified : IdentifiedKeypads)
    (mac : Bytes)
    : knownKeypad results
        (Function.update identified mac (knownKeypad results identified mac))
      = knownKeypad results identified := by
  funext other
  by_cases same : other = mac
  · subst same
    simp [knownKeypad, ← Option.or_assoc]
  · simp [knownKeypad, Function.update_of_ne same]

/-- The whole loop, by induction over the devices of the account. -/
theorem foldl_listKeypad (results : List ScanResult) (devices : List AccountDevice)
    {identified : IdentifiedKeypads} (keypads : OnlyKeypads identified)
    (entries : List KeypadEntry)
    : devices.foldl (listKeypad (scanNearby results)) (identified, entries)
      = ((fun mac =>
            if mac ∈ devices.map AccountDevice.macPretty then
              knownKeypad results identified mac
            else identified mac),
          entries ++ devices.filterMap (keypadEntry results (knownKeypad results identified)))
    := by
  induction devices generalizing identified entries with
  | nil => simp
  | cons k rest ih =>
      have next
          : OnlyKeypads
              (Function.update identified k.macPretty
                (knownKeypad results identified k.macPretty)) := by
        intro mac ident found
        by_cases same : mac = k.macPretty
        · subst same
          exact keypads.known results _ _ (by simpa using found)
        · exact keypads mac ident (by simpa [Function.update_of_ne same] using found)
      rw [List.foldl_cons, listKeypad_eq results keypads, ih next, knownKeypad_update]
      congr 1
      · funext mac
        by_cases same : mac = k.macPretty
        · subst same
          simp
        · simp [same]
      · cases entry : keypadEntry results (knownKeypad results identified) k <;> simp [entry]

-----------------------------------------------------------------------------------------
-- Every request
-----------------------------------------------------------------------------------------

/-- A request for the list of keypads: what the cloud answers, and what the scan finds. -/
structure KeypadsRequest where
  cloud : CloudAnswers
  results : List ScanResult

/-- `/api/keypads`, request after request. -/
def keypadsMachine
    : Machine IdentifiedKeypads KeypadsRequest (Except HttpReply (List KeypadEntry)) where
  step identified request := handleKeypads identified request.cloud request.results

/-- The devices that a request shows, or how it is refused. -/
def KeypadsRequest.listing (request : KeypadsRequest)
    : Except HttpReply (List AccountDevice) :=
  if request.cloud.loggedIn = false then
    .error (.error "401 Unauthorized" "Sign in first.")
  else request.cloud.listing

/-- What a request identifies a device of the account as. -/
def KeypadsRequest.identifies (mac : Bytes) (request : KeypadsRequest) : Option KeypadIdent :=
  match request.listing with
  | .error _ => none
  | .ok devices =>
      if mac ∈ devices.map AccountDevice.macPretty then seenKeypad request.results mac
      else none

/-- What a device was last identified as. -/
def lastIdentified (requests : List KeypadsRequest) (mac : Bytes) : Option KeypadIdent :=
  (requests.filterMap (KeypadsRequest.identifies mac)).getLast?

theorem lastIdentified_snoc (requests : List KeypadsRequest) (request : KeypadsRequest)
    (mac : Bytes)
    : lastIdentified (requests ++ [request]) mac
      = (request.identifies mac).or (lastIdentified requests mac) := by
  unfold lastIdentified
  cases now : request.identifies mac <;> simp [now]

theorem lastIdentified_onlyKeypads (requests : List KeypadsRequest)
    : OnlyKeypads (lastIdentified requests) := by
  intro mac ident last
  obtain ⟨request, _, identifies⟩ := List.mem_filterMap.mp (List.mem_of_getLast? last)
  unfold KeypadsRequest.identifies at identifies
  split at identifies
  · cases identifies
  split at identifies
  · exact seenKeypad_isKeypad identifies
  · cases identifies

/-- A request, with what the ones before it identified in the cache. -/
theorem handleKeypads_lastIdentified (requests : List KeypadsRequest)
    (request : KeypadsRequest)
    : handleKeypads (lastIdentified requests) request.cloud request.results
      = (lastIdentified (requests ++ [request]),
          match request.listing with
          | .error refusal => .error refusal
          | .ok devices =>
              .ok (devices.filterMap
                (keypadEntry request.results (lastIdentified (requests ++ [request]))))) := by
  have snoc : lastIdentified (requests ++ [request]) = fun mac =>
      (request.identifies mac).or (lastIdentified requests mac) :=
    funext (lastIdentified_snoc requests request)
  unfold handleKeypads
  cases listing : request.listing with
  | error refusal =>
      have silent (mac : Bytes) : request.identifies mac = none := by
        simp [KeypadsRequest.identifies, listing]
      simp only [silent, Option.none_or] at snoc
      unfold KeypadsRequest.listing at listing
      split at listing
      · rename_i signedOut
        cases listing
        simp [signedOut, snoc]
      · rename_i signedIn
        simp [signedIn, listing, snoc]
  | ok devices =>
      have shown : request.cloud.loggedIn = true ∧ request.cloud.listing = .ok devices := by
        unfold KeypadsRequest.listing at listing
        split at listing
        · cases listing
        · rename_i signedIn
          exact ⟨by simpa using signedIn, listing⟩
      have identifies (mac : Bytes)
          : request.identifies mac
            = if mac ∈ devices.map AccountDevice.macPretty then seenKeypad request.results mac
              else none := by
        simp [KeypadsRequest.identifies, listing]
      simp only [shown.1, shown.2, Bool.true_eq_false, if_false,
        foldl_listKeypad _ _ (lastIdentified_onlyKeypads requests), List.nil_append]
      congr 1
      · rw [snoc]
        funext mac
        rw [identifies]
        split <;> rfl
      · congr 1
        refine List.filterMap_congr fun k member => ?_
        have listed : k.macPretty ∈ devices.map AccountDevice.macPretty :=
          List.mem_map_of_mem member
        have known
            : knownKeypad request.results (lastIdentified requests) k.macPretty
              = lastIdentified (requests ++ [request]) k.macPretty := by
          rw [snoc]
          simp only [identifies, if_pos listed, knownKeypad]
        simp only [keypadEntry, known]

/-- What `/api/keypads` shows, after any requests before it: the devices of the account that are
in range in this scan and that this scan or an earlier request identified as keypads, each with
the family it was identified with last. A keypad whose service data is missed this time stays
listed for as long as it is in range.
-/
theorem keypads_listed (requests : List KeypadsRequest) (request : KeypadsRequest)
    : (keypadsMachine.step (keypadsMachine.run (fun _ => none) requests) request).2
      = match request.listing with
        | .error refusal => .error refusal
        | .ok devices =>
            .ok (devices.filterMap
              (keypadEntry request.results (lastIdentified (requests ++ [request])))) := by
  have cached
      : keypadsMachine.run (fun _ => none) requests = lastIdentified requests :=
    keypadsMachine.inputs_invariant (fun seen identified => identified = lastIdentified seen) rfl
      (fun seen identified next same => by
        rw [same]
        exact congrArg Prod.fst (handleKeypads_lastIdentified seen next))
      requests
  rw [cached]
  exact congrArg Prod.snd (handleKeypads_lastIdentified requests request)

-----------------------------------------------------------------------------------------
-- What is selected
-----------------------------------------------------------------------------------------

/-- An advertisement shows one of the two families. -/
theorem identifyKeypad_family (serviceData : Bytes)
    : (identifyKeypad serviceData).family = .original
      ∨ (identifyKeypad serviceData).family = .vision := by
  unfold identifyKeypad
  dsimp only
  split
  · exact .inl rfl
  split
  · exact .inl rfl
  split
  · exact .inr rfl
  · exact .inl rfl

/-- The browser returns the name of a family that was identified. -/
theorem lastIdentified_ofName {requests : List KeypadsRequest} {mac : Bytes}
    {ident : KeypadIdent} (last : lastIdentified requests mac = some ident)
    : KeypadFamily.ofName ident.family.name = ident.family := by
  have family : ident.family = .original ∨ ident.family = .vision := by
    obtain ⟨request, _, identifies⟩ := List.mem_filterMap.mp (List.mem_of_getLast? last)
    unfold KeypadsRequest.identifies at identifies
    split at identifies
    · cases identifies
    split at identifies
    · obtain ⟨hit, _, shown⟩ := Option.bind_eq_some_iff.mp identifies
      dsimp only at shown
      split at shown
      · obtain rfl := Option.some.inj shown
        exact identifyKeypad_family hit.svcData
      · cases shown
    · cases identifies
  rcases family with original | vision
  · rw [original]
    rfl
  · rw [vision]
    rfl

namespace AccountDevice

/-- The compact form of the address that a listed device shows. -/
theorem compactMac_listed (mac : Bytes) (name : Option Bytes) (deviceType : Option String)
    : compactMac (listed mac name deviceType).macPretty = (listed mac name deviceType).mac
      ∧ compactMac (listed mac name deviceType).mac = (listed mac name deviceType).mac
      ∧ (listed mac name deviceType).macPretty = prettyMac (listed mac name deviceType).mac := by
  simp [listed, compactMac_prettyMac, compactMac_compactMac]

/-- Under the address of a listed device, a device is found that shows that address. -/
theorem exists_found {items : List (Bytes × Option Bytes × Option String)}
    {device : AccountDevice}
    (member : device ∈ items.map fun item => listed item.1 item.2.1 item.2.2)
    : ∃ found ∈ items.map fun item => listed item.1 item.2.1 item.2.2,
        findAccountDevice (items.map fun item => listed item.1 item.2.1 item.2.2)
            device.macPretty
          = some found
        ∧ found.macPretty = device.macPretty := by
  obtain ⟨found, finds⟩
      : ∃ found,
          findAccountDevice (items.map fun item => listed item.1 item.2.1 item.2.2)
              device.macPretty
            = some found :=
    Option.isSome_iff_exists.mp (List.find?_isSome.mpr ⟨device, member, by simp⟩)
  refine ⟨found, List.mem_of_find?_eq_some finds, finds, ?_⟩
  obtain ⟨item, _, rfl⟩ := List.mem_map.mp member
  obtain ⟨other, _, rfl⟩ := List.mem_map.mp (List.mem_of_find?_eq_some finds)
  have matched := List.find?_some finds
  simp only [Bool.or_eq_true, decide_eq_true_eq] at matched
  rcases matched with same | compact
  · exact same
  · obtain ⟨shown, _, pretty⟩ := compactMac_listed item.1 item.2.1 item.2.2
    obtain ⟨_, own, otherPretty⟩ := compactMac_listed other.1 other.2.1 other.2.2
    have same := congrArg compactMac compact
    rw [own, shown] at same
    rw [otherPretty, same, pretty]

end AccountDevice

/-- NimBLE prints the address of every result in some characters. -/
def ShowsAddresses (results : List ScanResult) : Prop :=
  ∀ result ∈ results, result.adv.addressText ≠ []

/-- A device in range has an address that can be sent. -/
theorem scanNearby_address {results : List ScanResult} (shows : ShowsAddresses results)
    {mac : Bytes} {hit : NearbyDevice} (seen : scanNearby results mac = some hit)
    : mac ≠ [] := by
  rw [scanNearby_apply] at seen
  split at seen
  case isTrue => cases seen
  case isFalse heard =>
    obtain ⟨result, member⟩ := List.exists_mem_of_ne_nil _ heard
    obtain ⟨inScan, named⟩ := List.mem_filter.mp member
    rw [← of_decide_eq_true named]
    exact fun blank => shows result inScan (List.map_eq_nil_iff.mp blank)

/-- On a bridge without a linked keypad, a keypad that `/api/keypads` lists can be paired. If the
browser returns the address and the family of an entry, `handle_pair_` lets the request through,
the account's device is found, and the pairing works on that very address, in the family that the
keypad was identified with last; what can still fail is the cloud.
-/
theorem listed_keypad_pairs (ui : PairingUi) (unpaired : ui.keypadPaired = false)
    (espMac : MacBytes) (requests : List KeypadsRequest)
    (items : List (Bytes × Option Bytes × Option String))
    (deviceKey : Bytes → Except String (Bytes × Bytes)) (results : List ScanResult)
    (shows : ShowsAddresses results)
    : let devices := items.map fun item => AccountDevice.listed item.1 item.2.1 item.2.2
      let cloud : CloudAnswers := { loggedIn := true, devices := .ok devices, deviceKey }
      let seen := requests ++ [⟨cloud, results⟩]
      ∃ entries,
        (keypadsMachine.step (keypadsMachine.run (fun _ => none) requests) ⟨cloud, results⟩).2
          = .ok entries
        ∧ ∀ entry ∈ entries,
            ui.pairGate cloud entry.mac = none
            ∧ ∃ ident, ∃ device ∈ devices,
                lastIdentified seen entry.mac = some ident
                ∧ device.macPretty = entry.mac
                ∧ ui.pairRequest cloud espMac entry.mac (.ofName entry.family)
                  = match fetchCommKey16 cloud device "keypad" with
                    | .error err => .error (.error "502 Bad Gateway" err)
                    | .ok (keyId, key) =>
                        .ok ({
                          keypadMac := entry.mac
                          family := ident.family
                          keyId := keyId.toNat
                          key
                          sharedToken := ui.sharedKey
                          espMac }, device.name) := by
  intro devices cloud seen
  refine ⟨devices.filterMap (keypadEntry results (lastIdentified seen)),
    keypads_listed requests ⟨cloud, results⟩, fun entry shown => ?_⟩
  obtain ⟨k, member, made⟩ := List.mem_filterMap.mp shown
  obtain ⟨hit, inRange, made⟩ := Option.bind_eq_some_iff.mp made
  obtain ⟨ident, last, made⟩ := Option.bind_eq_some_iff.mp made
  obtain rfl := Option.some.inj made
  obtain ⟨found, inAccount, finds, address⟩ := AccountDevice.exists_found member
  have sent : k.macPretty ≠ [] := scanNearby_address shows inRange
  refine ⟨by simp [PairingUi.pairGate, cloud, sent, unpaired], ident, found, inAccount, last,
    address, ?_⟩
  have listed : cloud.devices = .ok devices := rfl
  change findAccountDevice devices k.macPretty = some found at finds
  cases fetched : fetchCommKey16 cloud found "keypad" with
  | error err => simp only [PairingUi.pairRequest, listed, finds, fetched]
  | ok commKey =>
      simp only [PairingUi.pairRequest, listed, finds, address, fetched,
        lastIdentified_ofName last]

/-- A Vision keypad in range. -/
def nearbyKeypad : ScanResult where
  adv :=
    { address := Vector.replicate 6 0x01, serviceDataFd3d := [0x00, 0x00, 0x00, 0x11, 0x03, 0x78] }
  rssi := -60

/-- An account with that keypad. -/
def nearbyAccount : CloudAnswers where
  loggedIn := true
  devices := .ok [.listed nearbyKeypad.adv.addressText none none]
  deviceKey := fun _ => .ok ([0x30, 0x31], List.replicate 16 0x11)

/-- That keypad is listed, and it pairs as the Vision keypad that it is. -/
theorem listed_keypad_pairs_vision
    : ∃ entry request name,
        (keypadsMachine.step (fun _ => none) ⟨nearbyAccount, [nearbyKeypad]⟩).2 = .ok [entry]
        ∧ PairingUi.pairGate {} nearbyAccount entry.mac = none
        ∧ PairingUi.pairRequest {} nearbyAccount (Vector.replicate 6 0) entry.mac
            (.ofName entry.family)
          = .ok (request, name)
        ∧ request.family = .vision := by
  obtain ⟨entries, listed, pairs⟩ :=
    listed_keypad_pairs {} rfl (Vector.replicate 6 0) []
      [(nearbyKeypad.adv.addressText, none, none)]
      (fun _ => .ok ([0x30, 0x31], List.replicate 16 0x11)) [nearbyKeypad]
      (by unfold ShowsAddresses; decide +kernel)
  have shown
      : (keypadsMachine.step (fun _ => none) ⟨nearbyAccount, [nearbyKeypad]⟩).2
        = .ok [⟨nearbyKeypad.mac, nearbyKeypad.mac, "vision", -60⟩] := by
    decide +kernel
  obtain rfl := Except.ok.inj (shown.symm.trans listed)
  obtain ⟨passes, ident, device, member, identified, _, built⟩ :=
    pairs _ (List.mem_singleton.mpr rfl)
  obtain rfl := List.mem_singleton.mp member
  have vision : lastIdentified [⟨nearbyAccount, [nearbyKeypad]⟩] nearbyKeypad.mac
      = some ⟨true, .vision⟩ := by
    decide +kernel
  obtain rfl := Option.some.inj (identified.symm.trans vision)
  exact ⟨_, _, _, shown, passes, built, rfl⟩

/-- The same for a lock on a bridge with a keypad and no lock, if the account names one type of
device under its address.
-/
theorem listed_lock_links (ui : PairingUi) (paired : ui.keypadPaired = true)
    (unlinked : ui.lockLinked = false) (items : List (Bytes × Option Bytes × Option String))
    (deviceKey : Bytes → Except String (Bytes × Bytes)) (results : List ScanResult)
    : let devices := items.map fun item => AccountDevice.listed item.1 item.2.1 item.2.2
      let cloud : CloudAnswers := { loggedIn := true, devices := .ok devices, deviceKey }
      ∃ entries,
        handleLocks ui.keypadPaired cloud results = .ok entries
        ∧ ∀ entry ∈ entries,
            entry.mac ≠ []
            → (∀ device ∈ devices,
                device.macPretty = entry.mac → device.deviceType = entry.deviceType)
            → ui.linkGate cloud entry.mac = none
              ∧ ui.lockGate = none
              ∧ ∃ device ∈ devices,
                  device.macPretty = entry.mac
                  ∧ ui.linkRequest cloud entry.mac
                    = match fetchCommKey16 cloud device "lock provisioning" with
                      | .error err => .error (.error "502 Bad Gateway" err)
                      | .ok (lockKeyId, lockKey) =>
                          .ok {
                            name := device.name
                            mac := entry.mac
                            model := entry.model
                            sharedKey := ui.sharedKey
                            sharedSlotId := sharedSlotForFamily ui.keypadFamily
                            lockKeyId
                            lockKey } := by
  intro devices cloud
  refine ⟨_, by simp only [handleLocks, paired, CloudAnswers.listing, cloud]; rfl,
    fun entry shown sent oneType => ?_⟩
  obtain ⟨dev, member, made⟩ := List.mem_filterMap.mp shown
  split at made
  · cases made
  rename_i supported
  obtain rfl := Option.some.inj made
  obtain ⟨found, inAccount, finds, address⟩ := AccountDevice.exists_found member
  refine ⟨by simpa [PairingUi.linkGate, cloud, paired] using sent,
    by simp [PairingUi.lockGate, unlinked], found, inAccount, address, ?_⟩
  have type : found.deviceType = dev.deviceType := oneType found inAccount address
  have listed : cloud.devices = .ok devices := rfl
  change findAccountDevice devices dev.macPretty = some found at finds
  cases fetched : fetchCommKey16 cloud found "lock provisioning" with
  | error err =>
      simp only [PairingUi.linkRequest, listed, finds, type, if_neg supported, fetched]
  | ok commKey =>
      simp only [PairingUi.linkRequest, listed, finds, address, type, if_neg supported, fetched]

end KeypadBridge
