import KeypadBridge.Protocol.MacForms
import KeypadBridge.Bridge.Device

/-! The address of the linked lock, from the device list of the cloud to the configuration of
the relay. What is stored in between are the six bytes, and they are printed as they were
spelled.
-/

namespace KeypadBridge
open SwitchbotKeypadBridge (hexByte)

/-- The text of ASCII bytes. -/
def asciiText (bytes : Bytes) : String :=
  String.ofList (bytes.map fun byte => Char.ofNat byte.toNat)

theorem asciiText_append (first second : Bytes)
    : asciiText (first ++ second) = asciiText first ++ asciiText second := by
  simp [asciiText]

-----------------------------------------------------------------------------------------
-- Printing
-----------------------------------------------------------------------------------------

/-- The digits of `%02X`, by their place in ASCII. -/
theorem printedDigit_eq
    : ∀ digit < 16,
        "0123456789ABCDEF".toList.getD digit '0'
          = Char.ofNat (if digit < 10 then digit + 0x30 else digit + 0x37) := by
  decide

/-- An upper-case digit is printed as it was read. -/
theorem printedDigit_of_reads {byte digit : UInt8} (upper : toUpper byte = byte)
    (reads : hexDigit byte = some digit)
    : digit.toNat < 16
      ∧ "0123456789ABCDEF".toList.getD digit.toNat '0' = Char.ofNat byte.toNat := by
  have place := hexDigit_eq_some reads
  have notLower : ¬ (0x61 ≤ byte.toNat ∧ byte.toNat ≤ 0x7A) := by
    intro lower
    have moved := toUpper_toNat byte
    rw [upper, if_pos lower] at moved
    omega
  have small : digit.toNat < 16 := by omega
  refine ⟨small, ?_⟩
  rw [printedDigit_eq _ small]
  congr 1
  split <;> omega

/-- A byte is printed as the two upper-case digits it was read from. -/
theorem hexByte_reads {first second high low : UInt8} (upperFirst : toUpper first = first)
    (upperSecond : toUpper second = second) (readsFirst : hexDigit first = some high)
    (readsSecond : hexDigit second = some low)
    : hexByte (high * 16 + low) = asciiText [first, second] := by
  obtain ⟨smallHigh, printedHigh⟩ := printedDigit_of_reads upperFirst readsFirst
  obtain ⟨smallLow, printedLow⟩ := printedDigit_of_reads upperSecond readsSecond
  have value : (high * 16 + low).toNat = high.toNat * 16 + low.toNat := by
    rw [UInt8.toNat_add, UInt8.toNat_mul]
    simp only [UInt8.reduceToNat]
    omega
  have quotient : (high.toNat * 16 + low.toNat) / 16 = high.toNat := by omega
  have remainder : (high.toNat * 16 + low.toNat) % 16 = low.toNat := by omega
  simp only [hexByte, value, quotient, remainder, printedHigh, printedLow, asciiText,
    List.map_cons, List.map_nil]

/-- The pairs of a compact text are printed with colons between them, by induction over the
pairs.
-/
theorem intercalate_hexPairs {first second : UInt8} {rest : Bytes}
    (compact : IsCompactMac (first :: second :: rest))
    (hex : IsHexText (first :: second :: rest)) (even : rest.length % 2 = 0)
    : ":".intercalate ((hexPairs (first :: second :: rest)).map hexByte)
      = asciiText (first :: second :: separated rest) := by
  obtain ⟨high, readsFirst⟩ := Option.isSome_iff_exists.mp (hex first (by simp))
  obtain ⟨low, readsSecond⟩ := Option.isSome_iff_exists.mp (hex second (by simp))
  fun_induction separated rest generalizing first second high low with
  | case1 third fourth rest ih =>
      have laterHex : IsHexText (third :: fourth :: rest) := fun byte member =>
        hex byte (.tail _ (.tail _ member))
      have laterCompact : IsCompactMac (third :: fourth :: rest) := fun byte member =>
        compact byte (.tail _ (.tail _ member))
      obtain ⟨_, readsThird⟩ := Option.isSome_iff_exists.mp (laterHex third (by simp))
      obtain ⟨_, readsFourth⟩ := Option.isSome_iff_exists.mp (laterHex fourth (by simp))
      have evenRest : rest.length % 2 = 0 := by
        simp only [List.length_cons] at even
        omega
      have later := ih laterCompact laterHex evenRest _ readsThird _ readsFourth
      have head := hexByte_reads (compact first (by simp)).2 (compact second (by simp)).2
        readsFirst readsSecond
      have colon : ":" = asciiText [0x3A] := rfl
      simp only [hexPairs, List.map_cons] at later ⊢
      rw [String.intercalate_cons_cons, later, readsFirst, readsSecond, Option.getD_some,
        Option.getD_some, head, colon, ← asciiText_append, ← asciiText_append]
      rfl
  | case2 rest single =>
      have head := hexByte_reads (compact first (by simp)).2 (compact second (by simp)).2
        readsFirst readsSecond
      rw [eq_nil_of_even single even]
      simp [hexPairs, readsFirst, readsSecond, head]

-----------------------------------------------------------------------------------------
-- The linked lock
-----------------------------------------------------------------------------------------

/-- The relay prints the address it has stored. -/
theorem physicalLockConfig_mac {bridge : SwitchbotKeypadBridge} (slotId : UInt8)
    (linked : bridge.linkedLockInfo.valid ≠ 0)
    : (bridge.physicalLockConfig slotId).mac
      = ":".intercalate (bridge.linkedLockInfo.mac.toList.map hexByte) := by
  rw [SwitchbotKeypadBridge.physicalLockConfig, if_pos linked]

/-- Twelve hexadecimal digits parse to an address that the relay prints in the colon form. -/
theorem parsed_prints {text : Bytes} (twelve : (compactMac text).length = 12)
    (hex : IsHexText (compactMac text))
    : ∃ mac,
        parseMacPretty (prettyMac text) = some mac
        ∧ ":".intercalate (mac.toList.map hexByte) = asciiText (prettyMac text) := by
  obtain ⟨mac, parsed, bytes, first, second, rest, compact, pretty⟩ :=
    parseMacPretty_prettyMac twelve hex
  refine ⟨mac, parsed, ?_⟩
  have upper := compactMac_isCompact text
  rw [compact] at twelve hex upper bytes
  rw [bytes, pretty]
  exact intercalate_hexPairs upper hex (by simp only [List.length_cons] at twelve; omega)

/-- The conversions agree on the address. When the cloud names twelve hexadecimal digits, the
six bytes parse, and a relay to the lock linked under that address prints the colon form that
the device list shows.
-/
theorem mac_forms_agree (text : Bytes)
    : compactMac (compactMac text) = compactMac text
      ∧ prettyMac (prettyMac text) = prettyMac text
      ∧ compactMac (prettyMac text) = compactMac text
      ∧ ((compactMac text).length = 12
        → IsHexText (compactMac text)
        → (∃ mac,
              parseMacPretty (prettyMac text) = some mac
              ∧ ∀ (bridge : SwitchbotKeypadBridge) slotId,
                  bridge.linkedLockInfo.valid ≠ 0
                  → bridge.linkedLockInfo.mac = mac
                  → (bridge.physicalLockConfig slotId).mac = asciiText (prettyMac text))
          ∧ ∀ name deviceType (pending : PendingLock) (bridge : SwitchbotKeypadBridge) slotId,
              let device := AccountDevice.listed text name deviceType
              pending.mac = device.macPretty
              → bridge.linkedLockInfo = pending.lockInfo
              → (bridge.physicalLockConfig slotId).mac = asciiText device.macPretty
                ∧ device.macPretty = prettyMac text) := by
  refine ⟨compactMac_compactMac text, prettyMac_prettyMac text, compactMac_prettyMac text, ?_⟩
  intro twelve hex
  obtain ⟨mac, parsed, printed⟩ := parsed_prints twelve hex
  refine ⟨⟨mac, parsed, ?_⟩, ?_⟩
  · intro bridge slotId linked same
    rw [physicalLockConfig_mac slotId linked, same, printed]
  · intro name deviceType pending bridge slotId device chosen stored
    have listed : device.macPretty = prettyMac text := prettyMac_compactMac twelve
    have info : pending.lockInfo.mac = mac ∧ pending.lockInfo.valid = 1 := by
      rw [PendingLock.lockInfo, chosen, listed, parsed]
      exact ⟨rfl, rfl⟩
    have linked : bridge.linkedLockInfo.valid ≠ 0 := by
      rw [stored, info.2]
      decide
    refine ⟨?_, listed⟩
    rw [physicalLockConfig_mac slotId linked, stored, info.1, printed, listed]

/-- `b0-E9-fe612e:75`. -/
def mixedMac : Bytes :=
  [0x62, 0x30, 0x2D, 0x45, 0x39, 0x2D, 0x66, 0x65, 0x36, 0x31, 0x32, 0x65, 0x3A, 0x37, 0x35]

/-- The link to a lock that the cloud lists under that address. -/
def mixedLock : PendingLock where
  name := []
  mac := (AccountDevice.listed mixedMac none none).macPretty
  model := .lockPro
  slotId := 0xC6

/-- A relay to that lock connects to `B0:E9:FE:61:2E:75`. -/
theorem mac_forms_agree_mixed
    : (({ linkedLockInfo := mixedLock.lockInfo } : SwitchbotKeypadBridge).physicalLockConfig
        0xC6).mac
      = "B0:E9:FE:61:2E:75" := by
  have digits : (compactMac mixedMac).all (fun byte => (hexDigit byte).isSome) = true := by decide
  have hex : IsHexText (compactMac mixedMac) := List.all_eq_true.mp digits
  have named := ((mac_forms_agree mixedMac).2.2.2 (by decide) hex).2 none none mixedLock
    { linkedLockInfo := mixedLock.lockInfo } 0xC6 rfl rfl
  rw [named.1]
  decide

end KeypadBridge
