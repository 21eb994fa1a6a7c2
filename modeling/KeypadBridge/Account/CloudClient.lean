import KeypadBridge.Bridge.LinkedAddress
import KeypadBridge.Client.Connecting
import KeypadBridge.Wizard.PairingUi

/-! The client of the SwitchBot cloud: what it sends, what it reads of the answers, and what it
keeps of them. The network and the JSON library are inputs.
-/

namespace KeypadBridge

-----------------------------------------------------------------------------------------
-- JSON
-----------------------------------------------------------------------------------------

/-- A JSON value as cJSON holds it. A number is read through its `valueint`. -/
inductive Json where
  | null
  | bool (value : Bool)
  | number (valueInt : Int)
  | string (value : Bytes)
  | array (items : List Json)
  | object (fields : List (Bytes × Json))

namespace Json

/-- `cJSON_GetObjectItemCaseSensitive`: the first field of that name. Names are C strings, and
only the items of an object have one.
-/
def item (json : Json) (key : String) : Option Json :=
  match json with
  | object fields =>
      (fields.find? fun field => cString field.1 = asciiBytes key).map fun field => field.2
  | _ => none

/-- `cJSON_IsString` and the C string behind `valuestring`. -/
def valueString : Json → Option Bytes
  | string value => some (cString value)
  | _ => none

/-- `cJSON_IsArray` and the items. -/
def items : Json → Option (List Json)
  | array items => some items
  | _ => none

/-- `cJSON_IsObject`. -/
def isObject : Json → Bool
  | object _ => true
  | _ => false

end Json

/-- What the component uses of cJSON: `cJSON_ParseWithLength` and `cJSON_PrintUnformatted`. -/
structure JsonLibrary where
  parse : Bytes → Option Json
  print : Json → Option Bytes

/-- `Envelope`: every endpoint wraps its payload in a status code, a message and a body. -/
structure Envelope where
  root : Option Json := none
  statusCode : Int := -1
  message : Bytes := []

namespace Envelope

def ofResponse (library : JsonLibrary) (raw : Bytes) : Envelope :=
  match library.parse raw with
  | none => {}
  | some root =>
      { root := some root
        statusCode :=
          match root.item "statusCode" with
          | some (.number valueInt) => valueInt
          | _ => -1
        message := ((root.item "message").bind Json.valueString).getD [] }

variable (envelope : Envelope)

def isJson : Bool := envelope.root.isSome

def ok : Bool := envelope.isJson && envelope.statusCode = 100

/-- The API's own error message, or `fallback` when it did not send one. -/
def errorOr (fallback : String) : String :=
  if envelope.message = [] then fallback else asciiText envelope.message

def body : Option Json := envelope.root.bind (·.item "body")

def bodyItem (key : String) : Option Json := envelope.body.bind (·.item key)

/-- The two checks that a call makes of its response. -/
def accept (notJson rejected : String) : Except String Unit :=
  if envelope.isJson = false then .error notJson
  else if envelope.ok = false then .error (envelope.errorOr rejected)
  else .ok ()

end Envelope

-----------------------------------------------------------------------------------------
-- Hexadecimal keys
-----------------------------------------------------------------------------------------

/-- `parse_hex_byte`. -/
def parseHexByte (first second : UInt8) : Option UInt8 := do
  let high ← hexDigit first
  let low ← hexDigit second
  return high <<< 4 ||| low

/-- The loop of `parse_hex_string`. -/
def parseHexPairs : Bytes → Option Bytes
  | first :: second :: rest => do return (← parseHexByte first second) :: (← parseHexPairs rest)
  | _ => some []

/-- `parse_hex_string`. -/
def parseHexString (hex : Bytes) : Option Bytes :=
  if hex.length % 2 ≠ 0 then none else parseHexPairs hex

-----------------------------------------------------------------------------------------
-- HTTPS
-----------------------------------------------------------------------------------------

/-- A look at the clock while it is not set yet. -/
structure ClockReading where
  time : Int
  /-- The milliseconds since the wait began. -/
  waited : Nat

/-- The wait of `post_json_` for SNTP, up to the reading that ends it. -/
def clockSet : List ClockReading → Bool
  | [] => false
  | reading :: later =>
      if reading.time ≥ 1700000000 then true
      else if reading.waited > 10000 then false
      else clockSet later

/-- One `esp_http_client_perform`: the body as it comes in, and the status code or the name of
the error.
-/
structure HttpAttempt where
  data : List Bytes
  result : Except String Int

/-- What `post_json_` finds outside. -/
structure HttpExchange where
  clock : List ClockReading
  clientInit : Bool
  first : HttpAttempt
  second : HttpAttempt

/-- What `post_json_` returns, what it leaves in `out`, and how often it sent the request. -/
structure Posted where
  out : Bytes
  result : Except String Unit
  performed : Nat

def clockError : String :=
  "Device clock not set — TLS needs a valid system time. Add `time: - platform: sntp` to the "
    ++ "YAML, or wait until Home Assistant connects (its API component syncs the clock)."

/-- The handler of `HTTP_EVENT_ON_DATA`, over all data of an attempt. -/
def HttpAttempt.received (attempt : HttpAttempt) (out : Bytes) : Bytes :=
  attempt.data.foldl (· ++ ·) out

/-- `post_json_` behind its last attempt. -/
def HttpAttempt.finish (attempt : HttpAttempt) (out : Bytes) (performed : Nat) : Posted where
  out := attempt.received out
  result :=
    match attempt.result with
    | .error name => .error ("HTTPS request failed: " ++ name)
    | .ok status =>
        if status.tdiv 100 ≠ 2 then .error ("HTTP " ++ toString status) else .ok ()
  performed

/-- `post_json_`: a request that failed in transport is sent once more. -/
def HttpExchange.postJson (net : HttpExchange) : Posted :=
  if clockSet net.clock = false then { out := [], result := .error clockError, performed := 0 }
  else if net.clientInit = false then
    { out := [], result := .error "esp_http_client_init failed", performed := 0 }
  else
    match net.first.result with
    | .ok _ => net.first.finish [] 1
    | .error _ =>
        -- What the failed attempt received is dropped.
        net.second.finish [] 2

/-- A request as `post_json_` is given it; without a bearer it has no authorization header. -/
structure CloudRequest where
  url : Bytes
  body : Bytes
  bearer : Bytes
  deriving DecidableEq

/-- What the network does with the requests of one call. -/
abbrev Network := CloudRequest → HttpExchange

/-- What a call of the client answers, and the requests it sent. -/
structure CloudResult (Answer : Type) where
  answer : Except String Answer
  sent : List CloudRequest := []

-----------------------------------------------------------------------------------------
-- The client
-----------------------------------------------------------------------------------------

def loginUrl : Bytes := asciiBytes "https://account.api.switchbot.net/account/api/v1/user/login"

def userInfoUrl : Bytes :=
  asciiBytes "https://account.api.switchbot.net/account/api/v1/user/userinfo"

/-- `build_login_body`. -/
def buildLoginBody (library : JsonLibrary) (email password : Bytes) : Bytes :=
  (library.print
    (.object [
      (asciiBytes "clientId", .string (asciiBytes "5nnwmhmsa9xxskm14hd85lm9bm")),
      (asciiBytes "username", .string (cString email)),
      (asciiBytes "password", .string (cString password)),
      (asciiBytes "grantType", .string (asciiBytes "password")),
      (asciiBytes "verifyCode", .string [])
    ])).getD (asciiBytes "{}")

/-- `CloudClient`. -/
structure CloudClient where
  authToken : Bytes := []
  region : Bytes := []
  devicesCache : List AccountDevice := []

/-- The device that `list_devices` makes of an item of the account; one without a MAC is left
out.
-/
def AccountDevice.ofItem (item : Json) : Option AccountDevice := do
  let mac ← (← item.item "device_mac").valueString
  let name := (item.item "device_name").bind Json.valueString
  let type := ((item.item "device_detail").bind (·.item "device_type")).bind Json.valueString
  return .listed mac name (type.map asciiText)

namespace CloudClient

/-- `clear`. -/
def clear (_ : CloudClient) : CloudClient := {}

variable (client : CloudClient)

/-- `is_logged_in`. -/
def isLoggedIn : Bool := !client.authToken.isEmpty

/-- `wonderlabs_base_`. -/
def wonderlabsBase : Bytes :=
  asciiBytes "https://wonderlabs."
    ++ (if client.region = [] then asciiBytes "us" else client.region)
    ++ asciiBytes ".api.switchbot.net"

/-- The first request of `login`. -/
def loginRequest (library : JsonLibrary) (email password : Bytes) : CloudRequest where
  url := loginUrl
  body := buildLoginBody library email password
  bearer := []

/-- The second request of `login`. -/
def userInfoRequest (token : Bytes) : CloudRequest where
  url := userInfoUrl
  body := asciiBytes "{}"
  bearer := token

/-- The request of `list_devices`. -/
def listRequest : CloudRequest where
  url := client.wonderlabsBase ++ asciiBytes "/wonder/device/v3/getdevice"
  body := asciiBytes "\x7b\"required_type\":\"All\"\x7d"
  bearer := client.authToken

/-- The request of `fetch_device_key`. -/
def keyRequest (mac : Bytes) : CloudRequest where
  url := client.wonderlabsBase ++ asciiBytes "/wonder/keys/v1/communicate"
  body :=
    asciiBytes "\x7b\"device_mac\":\"" ++ compactMac mac
      ++ asciiBytes "\",\"keyType\":\"user\"\x7d"
  bearer := client.authToken

end CloudClient

/-- The token that a login response carries. -/
def readToken (library : JsonLibrary) (response : Bytes) : Except String Bytes := do
  let envelope := Envelope.ofResponse library response
  envelope.accept "Login response was not valid JSON" "Login rejected"
  match (envelope.bodyItem "access_token").bind Json.valueString with
  | none => .error "Login succeeded but no access_token returned"
  | some token => .ok token

/-- The region of a `userinfo` response, `us` where it names none. -/
def readRegion (library : JsonLibrary) (posted : Posted) : Bytes :=
  match posted.result with
  | .error _ => asciiBytes "us"
  | .ok _ =>
      let envelope := Envelope.ofResponse library posted.out
      let region := if envelope.ok then envelope.bodyItem "botRegion" else none
      match region.bind Json.valueString with
      | some (first :: rest) => first :: rest
      | _ => asciiBytes "us"

/-- The devices of a list response that have a MAC. -/
def readDevices (library : JsonLibrary) (response : Bytes)
    : Except String (List AccountDevice) := do
  let envelope := Envelope.ofResponse library response
  envelope.accept "Device list response was not valid JSON" "Device list rejected"
  match (envelope.bodyItem "Items").bind Json.items with
  | none => .error "Device list missing Items array"
  | some items => .ok (items.filterMap AccountDevice.ofItem)

/-- The key id and the key of a `communicate` response. -/
def readDeviceKey (library : JsonLibrary) (response : Bytes) : Except String (Bytes × Bytes) := do
  let envelope := Envelope.ofResponse library response
  envelope.accept "communicate response was not valid JSON" "communicate rejected"
  match envelope.bodyItem "communicationKey" with
  | none => .error "communicate response missing communicationKey"
  | some key =>
      if key.isObject = false then .error "communicate response missing communicationKey"
      else
        match (key.item "keyId").bind Json.valueString,
          (key.item "key").bind Json.valueString with
        | some keyId, some hex =>
            match parseHexString hex with
            | none => .error "communicate returned a malformed AES key"
            | some bytes =>
                if bytes.length ≠ 16 then .error "communicate returned a malformed AES key"
                else .ok (keyId, bytes)
        | _, _ => .error "communicate response missing keyId/key"

/-- The request is posted, and the response is read. -/
def Network.call {Answer : Type} (net : Network) (request : CloudRequest)
    (read : Bytes → Except String Answer)
    : CloudResult Answer :=
  let posted := net request |>.postJson
  { answer := posted.result.bind fun _ => read posted.out
    sent := .replicate posted.performed request }

namespace CloudClient

variable (library : JsonLibrary) (net : Network) (client : CloudClient)

/-- `login`: the account is left first, and a missing region is no failure. -/
def login (email password : Bytes) : CloudClient × CloudResult Unit :=
  let granted := net.call (loginRequest library email password) (readToken library)
  match granted.answer with
  | .error err => (client.clear, { answer := .error err, sent := granted.sent })
  | .ok token =>
      let posted := net (userInfoRequest token) |>.postJson
      ({ client.clear with authToken := token, region := readRegion library posted },
        { answer := .ok ()
          sent := granted.sent ++ .replicate posted.performed (userInfoRequest token) })

/-- `list_devices`. -/
def listDevices (forceRefresh : Bool) : CloudClient × CloudResult (List AccountDevice) :=
  if client.isLoggedIn = false then (client, { answer := .error "Not logged in" })
  else if forceRefresh = false ∧ client.devicesCache ≠ [] then
    (client, { answer := .ok client.devicesCache })
  else
    let listed := net.call client.listRequest (readDevices library)
    match listed.answer with
    | .error _ => (client, listed)
    | .ok devices => ({ client with devicesCache := devices }, listed)

/-- `fetch_device_key`. -/
def fetchDeviceKey (mac : Bytes) : CloudResult (Bytes × Bytes) :=
  if client.isLoggedIn = false then { answer := .error "Not logged in" }
  else net.call (client.keyRequest mac) (readDeviceKey library)

end CloudClient

end KeypadBridge
