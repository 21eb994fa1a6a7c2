import KeypadBridge.Protocol.MacForms

/-! Addresses that are compared as texts. Two texts that agree but for their case name the same
six bytes, and the text that NimBLE prints for an address names that address.
-/

namespace KeypadBridge

-----------------------------------------------------------------------------------------
-- Case
-----------------------------------------------------------------------------------------

theorem upperMac_eq_map (text : Bytes) : upperMac text = text.map toUpper := rfl

/-- The byte of a digit in upper case stands for the same digit. -/
theorem hexDigit_toUpper (byte : UInt8) : hexDigit (toUpper byte) = hexDigit byte := by
  have every : ∀ byte : BitVec 8, hexDigit (toUpper ⟨byte⟩) = hexDigit ⟨byte⟩ := by decide +kernel
  exact every byte.toBitVec

theorem isSpace_toUpper (byte : UInt8) : isSpace (toUpper byte) = isSpace byte := by
  have every : ∀ byte : BitVec 8, isSpace (toUpper ⟨byte⟩) = isSpace ⟨byte⟩ := by decide +kernel
  exact every byte.toBitVec

/-- A byte that is no letter is its own upper case, and of no other byte. -/
theorem toUpper_eq_iff {byte other : UInt8} (plain : other.toNat < 0x41)
    : toUpper byte = other ↔ byte = other := by
  rw [← UInt8.toNat_inj, ← UInt8.toNat_inj, toUpper_toNat]
  split <;> omega

/-- The conversion `%2x` reads letters of either case. -/
theorem scanHex2_upper (input : Bytes)
    : scanHex2 (upperMac input)
      = (scanHex2 input).map fun scanned => (scanned.1, upperMac scanned.2) := by
  have unspaced
      : (upperMac input).dropWhile isSpace = upperMac (input.dropWhile isSpace) := by
    rw [upperMac_eq_map, upperMac_eq_map, List.dropWhile_map]
    congr 2
    funext byte
    exact isSpace_toUpper byte
  unfold scanHex2
  rw [unspaced]
  match input.dropWhile isSpace with
  | [] => rfl
  | first :: rest =>
      have plus : toUpper first = 0x2B ↔ first = 0x2B := toUpper_eq_iff (by decide)
      have minus : toUpper first = 0x2D ↔ first = 0x2D := toUpper_eq_iff (by decide)
      have zero : toUpper first = 0x30 ↔ first = 0x30 := toUpper_eq_iff (by decide)
      simp only [upperMac_eq_map, List.map_cons, plus, minus]
      by_cases sign : first = 0x2B ∨ first = 0x2D
      · match rest with
        | [] => simp [sign]
        | second :: rest =>
            simp only [List.map_cons, hexDigit_toUpper]
            cases hexDigit second <;> simp [sign]
      · simp only [hexDigit_toUpper]
        match hexDigit first, rest with
        | none, _ => simp [sign]
        | some high, [] => simp [sign]
        | some high, second :: rest =>
            have cross
                : (toUpper second = 0x78 ∨ toUpper second = 0x58)
                  ↔ second = 0x78 ∨ second = 0x58 := by
              have every
                  : ∀ byte : BitVec 8,
                      (toUpper ⟨byte⟩ = 0x78 ∨ toUpper ⟨byte⟩ = 0x58)
                      ↔ (⟨byte⟩ : UInt8) = 0x78 ∨ (⟨byte⟩ : UInt8) = 0x58 := by
                decide +kernel
              exact every second.toBitVec
            simp only [List.map_cons, hexDigit_toUpper]
            cases hexDigit second with
            | some low => simp [sign]
            | none =>
                by_cases prefixed : first = 0x30 ∧ (second = 0x78 ∨ second = 0x58)
                · obtain ⟨rfl, isX⟩ := prefixed
                  have upper : toUpper 0x30 = 0x30 := rfl
                  simp [upper, cross, isX]
                · simp [sign, zero, cross, prefixed]

/-- A whole address, by induction over its conversions. -/
theorem scanMac_upper (count : Nat) (input : Bytes)
    : scanMac count (upperMac input) = scanMac count input := by
  fun_induction scanMac count input with
  | case1 => rfl
  | case2 input => simp [scanMac, scanHex2_upper, Function.comp_def]
  | case3 count input byte rest scanned ih =>
      have colon : upperMac (0x3A :: rest) = 0x3A :: upperMac rest := rfl
      simp only [scanMac, scanHex2_upper, scanned, Option.map_some, colon, ih]
  | case4 count input other =>
      rw [scanMac, scanHex2_upper]
      split
      · rename_i byte rest scanned
        obtain ⟨⟨read, left⟩, found, same⟩ := Option.map_eq_some_iff.mp scanned
        obtain ⟨rfl, upper⟩ := Prod.mk.inj same
        cases left with
        | nil => cases upper
        | cons first left =>
            have first_eq : first = 0x3A :=
              (toUpper_eq_iff (by decide)).mp (List.cons.inj upper).1
            exact (other read left (first_eq ▸ found)).elim
      · rfl

/-- The address that a text names does not depend on the case of its letters. -/
theorem parseMacPretty_upper (text : Bytes)
    : parseMacPretty (upperMac text) = parseMacPretty text := by
  have shown : cString (upperMac text) = upperMac (cString text) := by
    rw [cString, cString, upperMac_eq_map, upperMac_eq_map, List.takeWhile_map]
    congr 2
    funext byte
    simp [toUpper_eq_iff (show (0 : UInt8).toNat < 0x41 by decide)]
  rw [parseMacPretty, shown, scanMac_upper, parseMacPretty]

-----------------------------------------------------------------------------------------
-- Printed addresses
-----------------------------------------------------------------------------------------

/-- A printed byte is read as that byte. -/
theorem scanHex2_hexText (byte : UInt8) (rest : Bytes)
    : scanHex2 (hexText byte ++ rest) = some (byte, rest) := by
  have digits
      : ∀ bits : BitVec 8,
          let byte : UInt8 := ⟨bits⟩
          hexDigit (lowerHexDigit (byte >>> 4)) = some (byte >>> 4)
          ∧ hexDigit (lowerHexDigit (byte &&& 0x0F)) = some (byte &&& 0x0F)
          ∧ (byte >>> 4) * 16 + (byte &&& 0x0F) = byte := by
    decide +kernel
  obtain ⟨high, low, sum⟩ := digits byte.toBitVec
  have scanned := scanHex2_digits rest high low
  rw [sum] at scanned
  exact scanned

/-- Printed bytes with colons between them are scanned as these bytes, by induction over them.
-/
theorem scanMac_printed (first : UInt8) (rest : Bytes)
    : scanMac (rest.length + 1) (((first :: rest).map hexText).intersperse [0x3A]).flatten
      = some (first :: rest) := by
  induction rest generalizing first with
  | nil =>
      have scanned := scanHex2_hexText first []
      rw [List.append_nil] at scanned
      simp [scanMac, scanned]
  | cons second rest ih =>
      have split
          : (((first :: second :: rest).map hexText).intersperse [0x3A]).flatten
            = hexText first
              ++ 0x3A :: (((second :: rest).map hexText).intersperse [0x3A]).flatten := by
        simp
      rw [split, List.length_cons, scanMac, scanHex2_hexText]
      simp only [ih second, Option.map_some]

/-- Digits and colons are no NUL, by induction over the printed bytes. -/
theorem ne_zero_of_mem_printed {bytes : Bytes} {char : UInt8}
    (member : char ∈ ((bytes.map hexText).intersperse [0x3A]).flatten)
    : char ≠ 0 := by
  have digit (byte : UInt8) (printed : char ∈ hexText byte) : char ≠ 0 := by
    have every : ∀ bits : BitVec 8, (0 : UInt8) ∉ hexText ⟨bits⟩ := by decide +kernel
    rintro rfl
    exact every byte.toBitVec printed
  induction bytes with
  | nil => simp at member
  | cons first rest ih =>
      match rest, ih with
      | [], _ => exact digit first (by simpa using member)
      | second :: rest, ih =>
          have split
              : char ∈ hexText first ∨ char = 0x3A
                ∨ char ∈ (((second :: rest).map hexText).intersperse [0x3A]).flatten := by
            simpa using member
          rcases split with printed | rfl | later
          · exact digit first printed
          · decide
          · exact ih later

/-- The text that NimBLE prints for an address names it. -/
theorem parseMacPretty_text (address : MacBytes) : parseMacPretty address.text = some address := by
  have shown : cString address.text = address.text :=
    List.takeWhile_eq_self_iff.mpr fun char member => by
      simpa using ne_zero_of_mem_printed member
  have six : address.toList.length = 6 := by simp
  match bytes : address.toList, six with
  | first :: rest, six =>
      have five : rest.length = 5 := by simpa using six
      have scanned := scanMac_printed first rest
      rw [five, ← bytes] at scanned
      rw [parseMacPretty, shown, MacBytes.text, scanned]
      apply congrArg some
      apply Vector.ext
      intro i inside
      simp

/-- Texts that are taken for each other name the same address. -/
theorem parseMacPretty_of_upper_eq {text : Bytes} {address : MacBytes}
    (same : upperMac address.text = upperMac text)
    : parseMacPretty text = some address := by
  rw [← parseMacPretty_upper, ← same, parseMacPretty_upper, parseMacPretty_text]

end KeypadBridge
