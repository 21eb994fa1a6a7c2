import KeypadBridge.Account.CloudSessions

/-! The keys of the account's devices: a key is accepted exactly when the cloud spells it in 32
hexadecimal digits, of either case, and it is then the bytes that these digits stand for.
-/

namespace KeypadBridge
open KeypadBridge.Foundation

-----------------------------------------------------------------------------------------
-- Hexadecimal texts
-----------------------------------------------------------------------------------------

theorem hexDigit_lt {byte digit : UInt8} (reads : hexDigit byte = some digit)
    : digit.toNat < 16 := by
  rcases hexDigit_eq_some reads with place | place | place <;> omega

/-- Two nibbles side by side are a sum, since they share no bit. -/
theorem nibbles_eq {high low : UInt8} (smallHigh : high.toNat < 16) (smallLow : low.toNat < 16)
    : high <<< 4 ||| low = high * 16 + low := by
  have shifted : (high <<< 4).toNat = high.toNat <<< 4 := by
    have small : high.toNat <<< 4 < 2 ^ 8 := by
      rw [Nat.shiftLeft_eq]
      omega
    rw [UInt8.toNat_shiftLeft]
    exact Nat.mod_eq_of_lt small
  have product : (high * 16).toNat = high.toNat * 16 := by
    rw [UInt8.toNat_mul]
    exact Nat.mod_eq_of_lt (by simp only [UInt8.reduceToNat]; omega)
  rw [← UInt8.toNat_inj, UInt8.toNat_or, shifted, UInt8.toNat_add, product,
    ← Nat.shiftLeft_add_eq_or_of_lt (by omega), Nat.shiftLeft_eq, Nat.mod_eq_of_lt (by omega)]

/-- A byte is read from two digits, and from nothing else. -/
theorem parseHexByte_eq_some {first second byte : UInt8}
    : parseHexByte first second = some byte
      ↔ (hexDigit first).isSome = true ∧ (hexDigit second).isSome = true
        ∧ byte = (hexDigit first).getD 0 * 16 + (hexDigit second).getD 0 := by
  unfold parseHexByte
  cases readsFirst : hexDigit first with
  | none => simp
  | some high =>
      cases readsSecond : hexDigit second with
      | none => simp
      | some low =>
          simp [nibbles_eq (hexDigit_lt readsFirst) (hexDigit_lt readsSecond), eq_comm]

/-- The loop reads digits of even number, and nothing else, by induction over the pairs. -/
theorem parseHexPairs_eq_some {hex bytes : Bytes} (even : hex.length % 2 = 0)
    : parseHexPairs hex = some bytes ↔ IsHexText hex ∧ bytes = hexPairs hex := by
  fun_induction parseHexPairs hex generalizing bytes with
  | case1 first second rest ih =>
      have later (bytes : Bytes) := @ih bytes (by simp only [List.length_cons] at even; omega)
      have split
          : IsHexText (first :: second :: rest)
            ↔ (hexDigit first).isSome = true ∧ (hexDigit second).isSome = true
              ∧ IsHexText rest := by
        simp [IsHexText]
      rw [split, hexPairs]
      constructor
      · intro reads
        simp only [Option.bind_eq_bind, Option.bind_eq_some_iff, Option.pure_def,
          Option.some.injEq] at reads
        obtain ⟨byte, readsByte, tail, readsTail, rfl⟩ := reads
        obtain ⟨isFirst, isSecond, rfl⟩ := parseHexByte_eq_some.mp readsByte
        obtain ⟨hexTail, rfl⟩ := (later tail).mp readsTail
        exact ⟨⟨isFirst, isSecond, hexTail⟩, rfl⟩
      · rintro ⟨⟨isFirst, isSecond, hexTail⟩, rfl⟩
        have readsByte := parseHexByte_eq_some.mpr ⟨isFirst, isSecond, rfl⟩
        simp [readsByte, (later _).mpr ⟨hexTail, rfl⟩]
  | case2 hex single =>
      rw [eq_nil_of_even single even]
      simp only [Option.some.injEq, hexPairs]
      exact ⟨fun same => ⟨by simp [IsHexText], same.symm⟩, fun same => same.2.symm⟩

/-- `parse_hex_string` accepts the hexadecimal texts of even length. -/
theorem parseHexString_eq_some {hex bytes : Bytes}
    : parseHexString hex = some bytes
      ↔ hex.length % 2 = 0 ∧ IsHexText hex ∧ bytes = hexPairs hex := by
  unfold parseHexString
  split
  case isTrue odd => simp [odd]
  case isFalse notOdd =>
    have even : hex.length % 2 = 0 := Decidable.not_not.mp notOdd
    simp [even, parseHexPairs_eq_some even]

-----------------------------------------------------------------------------------------
-- Accepted keys
-----------------------------------------------------------------------------------------

/-- The text of a key: 32 hexadecimal digits. -/
def IsKeyText (hex : Bytes) : Prop := hex.length = 32 ∧ IsHexText hex

/-- A vector is filled from a list of its length. -/
theorem toList_keyOf {bytes : Bytes} (sixteen : bytes.length = 16)
    : (Vector.ofFn fun i : Fin 16 => bytes.getD i 0).toList = bytes := by
  apply List.ext_getElem
  · simp [sixteen]
  · intro i inside bounded
    simp [bounded]

theorem Except.of_bind_eq_ok {Error Value Answer : Type} {first : Except Error Value}
    {rest : Value → Except Error Answer} {answer : Answer}
    (succeeds : (first >>= rest) = .ok answer)
    : ∃ value, first = .ok value ∧ rest value = .ok answer := by
  cases first with
  | error err => cases succeeds
  | ok value => exact ⟨value, rfl, succeeds⟩

/-- A response that carries a device key: status 100, and both texts where the API puts them. -/
def CarriesKey (library : JsonLibrary) (response keyId hex : Bytes) : Prop :=
  let envelope := Envelope.ofResponse library response
  envelope.ok = true
  ∧ ∃ key,
      envelope.bodyItem "communicationKey" = some key
      ∧ key.isObject = true
      ∧ (key.item "keyId").bind Json.valueString = some keyId
      ∧ (key.item "key").bind Json.valueString = some hex

theorem Envelope.accept_eq_ok {envelope : Envelope} {notJson rejected : String}
    : envelope.accept notJson rejected = .ok () ↔ envelope.ok = true := by
  unfold accept
  split
  case isTrue noJson => simp [Envelope.ok, noJson]
  case isFalse =>
    split
    case isTrue refused => simp [refused]
    case isFalse accepted => simpa using accepted

/-- The loop keeps sixteen bytes of exactly 32 digits. -/
theorem parseHexString_key {hex bytes : Bytes}
    : (parseHexString hex = some bytes ∧ bytes.length = 16)
      ↔ IsKeyText hex ∧ bytes = hexPairs hex := by
  rw [parseHexString_eq_some]
  constructor
  · rintro ⟨⟨even, digits, rfl⟩, sixteen⟩
    rw [length_hexPairs] at sixteen
    exact ⟨⟨by omega, digits⟩, rfl⟩
  · rintro ⟨⟨length, digits⟩, rfl⟩
    exact ⟨⟨by omega, digits, rfl⟩, by rw [length_hexPairs, length]⟩

/-- A key is read from a response that carries one in 32 digits, and from no other. -/
theorem readDeviceKey_eq_ok {library : JsonLibrary} {response keyId bytes : Bytes}
    : readDeviceKey library response = .ok (keyId, bytes)
      ↔ ∃ hex,
          CarriesKey library response keyId hex ∧ IsKeyText hex ∧ bytes = hexPairs hex := by
  unfold readDeviceKey CarriesKey
  generalize Envelope.ofResponse library response = envelope
  dsimp only
  constructor
  · intro reads
    obtain ⟨⟨⟩, accepted, reads⟩ := Except.of_bind_eq_ok reads
    have ok := Envelope.accept_eq_ok.mp accepted
    split at reads
    · cases reads
    · rename_i key found
      split at reads
      · cases reads
      · rename_i isObject
        split at reads
        · rename_i id hex readsId readsHex
          split at reads
          · cases reads
          · rename_i parsed parses
            split at reads
            · cases reads
            · rename_i sixteen
              cases reads
              exact ⟨hex, ⟨ok, key, found, by simpa using isObject, readsId, readsHex⟩,
                parseHexString_key.mp ⟨parses, Decidable.not_not.mp sixteen⟩⟩
        · cases reads
  · rintro ⟨hex, ⟨ok, key, found, isObject, readsId, readsHex⟩, spelled⟩
    obtain ⟨parses, sixteen⟩ := parseHexString_key.mpr spelled
    have accepted
        : envelope.accept "communicate response was not valid JSON" "communicate rejected"
          = .ok () :=
      Envelope.accept_eq_ok.mpr ok
    simp only [accepted, found, isObject, readsId, readsHex, parses, sixteen]
    rfl

-----------------------------------------------------------------------------------------
-- The keys of the jobs
-----------------------------------------------------------------------------------------

/-- What a handler of the wizard reads of the client. A key is asked for behind the device list,
which changes neither token nor region.
-/
def CloudClient.answers (library : JsonLibrary) (net : Network) (client : CloudClient)
    : CloudAnswers where
  loggedIn := client.isLoggedIn
  devices := (client.listDevices library net false).2.answer
  deviceKey mac := (client.fetchDeviceKey library net mac).answer

/-- The key of a device is returned to a signed-in client only, and as the response spells it. -/
theorem CloudClient.fetchDeviceKey_eq_ok {library : JsonLibrary} {net : Network}
    {client : CloudClient} {mac keyId bytes : Bytes}
    : (client.fetchDeviceKey library net mac).answer = .ok (keyId, bytes)
      ↔ client.isLoggedIn = true
        ∧ (net (client.keyRequest mac)).postJson.result = .ok ()
        ∧ readDeviceKey library (net (client.keyRequest mac)).postJson.out
          = .ok (keyId, bytes) := by
  unfold fetchDeviceKey Network.call
  split
  case isTrue out => simp [out]
  case isFalse inside =>
    have loggedIn : client.isLoggedIn = true := by simpa using inside
    simp only [loggedIn, true_and]
    cases (net (client.keyRequest mac)).postJson.result with
    | error err => simp [Except.bind]
    | ok done => simp [Except.bind]

/-- The key that a handler accepts is the one that the client answered. -/
theorem fetchCommKey16_eq_ok {cloud : CloudAnswers} {device : AccountDevice}
    {deviceLabel : String} {keyId : UInt8} {key : AesKey}
    (fetched : fetchCommKey16 cloud device deviceLabel = .ok (keyId, key))
    : ∃ keyIdText bytes,
        cloud.deviceKey device.mac = .ok (keyIdText, bytes)
        ∧ parseKeyIdHex keyIdText = some keyId
        ∧ key.toList = bytes := by
  obtain ⟨⟨keyIdText, bytes⟩, answered, checked⟩ := Except.of_bind_eq_ok fetched
  dsimp only at checked
  split at checked
  · cases checked
  rename_i sixteen
  split at checked
  · cases checked
  rename_i id parses
  cases checked
  exact ⟨keyIdText, bytes, answered, parses, toList_keyOf (Decidable.not_not.mp sixteen)⟩

/-- A job gets a device's key exactly when a client that is logged in receives a response with
status 100, a key id that fits a byte and a key of 32 hexadecimal digits, and the key is the
bytes of these digits. The size check behind the client never rejects one.
-/
theorem comm_key_accepted_iff (library : JsonLibrary) (net : Network) (client : CloudClient)
    (device : AccountDevice) (deviceLabel : String) (keyId : UInt8) (key : AesKey)
    : let posted := (net (client.keyRequest device.mac)).postJson
      fetchCommKey16 (client.answers library net) device deviceLabel = .ok (keyId, key)
      ↔ client.isLoggedIn = true
        ∧ posted.result = .ok ()
        ∧ ∃ keyIdText hex,
            CarriesKey library posted.out keyIdText hex
            ∧ parseKeyIdHex keyIdText = some keyId
            ∧ IsKeyText hex
            ∧ key.toList = hexPairs hex := by
  intro posted
  constructor
  · intro fetched
    obtain ⟨keyIdText, bytes, answered, parses, same⟩ := fetchCommKey16_eq_ok fetched
    obtain ⟨loggedIn, arrived, reads⟩ := CloudClient.fetchDeviceKey_eq_ok.mp answered
    obtain ⟨hex, carries, spelled, rfl⟩ := readDeviceKey_eq_ok.mp reads
    exact ⟨loggedIn, arrived, keyIdText, hex, carries, parses, spelled, same⟩
  · rintro ⟨loggedIn, arrived, keyIdText, hex, carries, parses, spelled, same⟩
    have sixteen : (hexPairs hex).length = 16 := by rw [length_hexPairs, spelled.1]
    have answered
        : (client.answers library net).deviceKey device.mac = .ok (keyIdText, hexPairs hex) :=
      CloudClient.fetchDeviceKey_eq_ok.mpr
        ⟨loggedIn, arrived, readDeviceKey_eq_ok.mpr ⟨hex, carries, spelled, rfl⟩⟩
    have key_eq : key = Vector.ofFn fun i => (hexPairs hex).getD i 0 :=
      Vector.toList_inj.mp (same.trans (toList_keyOf sixteen).symm)
    have checked : ¬ (hexPairs hex).length ≠ 16 := by simp [sixteen]
    rw [fetchCommKey16, answered, key_eq]
    simp only [bind, Except.bind, if_neg checked, parses]

end KeypadBridge
