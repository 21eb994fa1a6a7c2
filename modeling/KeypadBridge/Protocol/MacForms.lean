import Mathlib.Data.List.TakeWhile
import KeypadBridge.Protocol.MacUtils

/-! The spellings of a MAC address: as the cloud sends it, compact, and with colons. The
conversions agree on which address is meant, and the colon form of twelve hexadecimal digits
scans to the six bytes they stand for.
-/

namespace KeypadBridge

-----------------------------------------------------------------------------------------
-- Compact texts
-----------------------------------------------------------------------------------------

/-- A text without separators and lower-case letters. -/
def IsCompactMac (text : Bytes) : Prop :=
  ∀ byte ∈ text, isMacSeparator byte = false ∧ toUpper byte = byte

theorem toUpper_toNat (byte : UInt8)
    : (toUpper byte).toNat
      = if 0x61 ≤ byte.toNat ∧ byte.toNat ≤ 0x7A then byte.toNat - 0x20 else byte.toNat := by
  have range : (0x61 ≤ byte && byte ≤ 0x7A) = true ↔ 0x61 ≤ byte.toNat ∧ byte.toNat ≤ 0x7A := by
    simp [UInt8.le_iff_toNat_le]
  unfold toUpper
  split
  case isTrue lower =>
    obtain ⟨low, high⟩ := range.mp lower
    rw [if_pos ⟨low, high⟩, UInt8.toNat_sub_of_le _ _ (UInt8.le_iff_toNat_le.mpr (by simp; omega))]
    rfl
  case isFalse other => rw [if_neg fun lower => other (range.mpr lower)]

theorem toUpper_toUpper (byte : UInt8) : toUpper (toUpper byte) = toUpper byte := by
  rw [← UInt8.toNat_inj, toUpper_toNat (toUpper byte), if_neg]
  rw [toUpper_toNat]
  split <;> omega

theorem isMacSeparator_iff {byte : UInt8}
    : isMacSeparator byte = true ↔ byte.toNat = 0x3A ∨ byte.toNat = 0x2D := by
  simp [isMacSeparator, ← UInt8.toNat_inj]

theorem isMacSeparator_toUpper {byte : UInt8} (letter : isMacSeparator byte = false)
    : isMacSeparator (toUpper byte) = false := by
  rw [← Bool.not_eq_true, isMacSeparator_iff] at letter ⊢
  rw [toUpper_toNat]
  split <;> omega

theorem compactMac_isCompact (text : Bytes) : IsCompactMac (compactMac text) := by
  intro byte member
  obtain ⟨original, kept, rfl⟩ := List.mem_map.mp member
  have letter : isMacSeparator original = false := by
    simpa using (List.mem_filter.mp kept).2
  exact ⟨isMacSeparator_toUpper letter, toUpper_toUpper original⟩

/-- There is nothing to do for a compact text. -/
theorem IsCompactMac.compactMac_eq {text : Bytes} (compact : IsCompactMac text)
    : compactMac text = text := by
  have all : text.filter (!isMacSeparator ·) = text :=
    List.filter_eq_self.mpr fun byte member => by simp [(compact byte member).1]
  rw [compactMac, all]
  exact (List.map_congr_left fun byte member => (compact byte member).2).trans text.map_id

/-- `compact_mac` is idempotent. -/
theorem compactMac_compactMac (text : Bytes) : compactMac (compactMac text) = compactMac text :=
  (compactMac_isCompact text).compactMac_eq

theorem compactMac_append (first second : Bytes)
    : compactMac (first ++ second) = compactMac first ++ compactMac second := by
  simp [compactMac]

-----------------------------------------------------------------------------------------
-- Colons
-----------------------------------------------------------------------------------------

/-- A text that does not begin with a pair is at most one byte. -/
theorem length_le_one {text : Bytes}
    (single : ∀ first second rest, text = first :: second :: rest → False)
    : text.length ≤ 1 := by
  match text, single with
  | [], _ => simp
  | [_], _ => simp
  | first :: second :: rest, single => exact (single first second rest rfl).elim

theorem eq_nil_of_even {text : Bytes}
    (single : ∀ first second rest, text = first :: second :: rest → False)
    (even : text.length % 2 = 0)
    : text = [] := by
  have short := length_le_one single
  exact List.eq_nil_of_length_eq_zero (by omega)

/-- The colons of the loop are skipped again, by induction over the pairs. -/
theorem compactMac_joinPairs (out rest : Bytes) (even : rest.length % 2 = 0)
    : compactMac (joinPairs out rest) = compactMac (out ++ rest) := by
  fun_induction joinPairs out rest with
  | case1 out first second rest ih =>
      rw [ih (by simp only [List.length_cons] at even; omega)]
      have colon : compactMac [0x3A] = [] := rfl
      split
      · simp
      · simp only [List.append_assoc, compactMac_append, colon, List.nil_append]
        simp only [← compactMac_append, List.cons_append, List.nil_append]
  | case2 rest out single =>
      rw [eq_nil_of_even single even, List.append_nil]

/-- Both forms name the same address. -/
theorem compactMac_prettyMac (text : Bytes) : compactMac (prettyMac text) = compactMac text := by
  simp only [prettyMac]
  split
  case isTrue => rfl
  case isFalse twelve =>
    have length : (compactMac text).length = 12 := Decidable.not_not.mp twelve
    rw [compactMac_joinPairs _ _ (by rw [length]), List.nil_append, compactMac_compactMac]

/-- `pretty_mac` is idempotent, since it depends on the compact form alone. -/
theorem prettyMac_prettyMac (text : Bytes) : prettyMac (prettyMac text) = prettyMac text := by
  by_cases twelve : (compactMac text).length = 12
  · simp only [prettyMac.eq_1 (prettyMac text), compactMac_prettyMac]
    simp [prettyMac, twelve]
  · have raw : prettyMac text = text := by simp [prettyMac, twelve]
    rw [raw, raw]

/-- The cloud's compact form has the colon form of the text it came from. -/
theorem prettyMac_compactMac {text : Bytes} (twelve : (compactMac text).length = 12)
    : prettyMac (compactMac text) = prettyMac text := by
  simp [prettyMac, compactMac_compactMac, twelve]

-----------------------------------------------------------------------------------------
-- Hexadecimal digits
-----------------------------------------------------------------------------------------

/-- Hexadecimal digits, of either case, and nothing else. -/
def IsHexText (text : Bytes) : Prop := ∀ byte ∈ text, (hexDigit byte).isSome = true

/-- The bytes that pairs of hexadecimal digits stand for. -/
def hexPairs : Bytes → Bytes
  | first :: second :: rest =>
      (((hexDigit first).getD 0) * 16 + (hexDigit second).getD 0) :: hexPairs rest
  | _ => []

/-- The pairs of a text, each behind a colon. -/
def separated : Bytes → Bytes
  | first :: second :: rest => 0x3A :: first :: second :: separated rest
  | _ => []

theorem joinPairs_eq {out : Bytes} (started : out ≠ []) (rest : Bytes)
    : joinPairs out rest = out ++ separated rest := by
  fun_induction joinPairs out rest with
  | case1 out first second rest ih =>
      have pushed : out.isEmpty = false := by simpa using started
      simp only [pushed, Bool.false_eq_true, if_false] at ih ⊢
      rw [ih (by simp), separated]
      simp
  | case2 rest out single =>
      rw [separated.eq_2 rest single, List.append_nil]

/-- The colon form of a compact text that begins with a pair. -/
theorem joinPairs_cons (first second : UInt8) (rest : Bytes)
    : joinPairs [] (first :: second :: rest) = first :: second :: separated rest := by
  rw [joinPairs, joinPairs_eq (by simp)]
  rfl

/-- What counts as a digit, by its place in ASCII. -/
theorem hexDigit_eq_some {byte digit : UInt8} (reads : hexDigit byte = some digit)
    : 0x30 ≤ byte.toNat ∧ byte.toNat ≤ 0x39 ∧ byte.toNat = digit.toNat + 0x30
      ∨ 0x41 ≤ byte.toNat ∧ byte.toNat ≤ 0x46 ∧ byte.toNat = digit.toNat + 0x37
      ∨ 0x61 ≤ byte.toNat ∧ byte.toNat ≤ 0x66 ∧ byte.toNat = digit.toNat + 0x57 := by
  have above (base : UInt8) (below : base.toNat ≤ byte.toNat)
      : byte.toNat = (byte - base).toNat + base.toNat := by
    rw [UInt8.toNat_sub_of_le _ _ (UInt8.le_iff_toNat_le.mpr below)]
    omega
  simp only [hexDigit, Bool.and_eq_true, decide_eq_true_eq, UInt8.le_iff_toNat_le,
    UInt8.reduceToNat] at reads
  split at reads
  case isTrue decimal =>
    cases reads
    exact .inl ⟨decimal.1, decimal.2, above 0x30 decimal.1⟩
  split at reads
  case isTrue upper =>
    cases reads
    exact .inr (.inl ⟨upper.1, upper.2, above 0x37 (Nat.le_trans (by decide) upper.1)⟩)
  split at reads
  case isTrue lower =>
    cases reads
    exact .inr (.inr ⟨lower.1, lower.2, above 0x57 (Nat.le_trans (by decide) lower.1)⟩)
  cases reads

/-- Two digits are scanned as their byte: they are neither white space nor a sign. -/
theorem scanHex2_digits {first second high low : UInt8} (rest : Bytes)
    (readsFirst : hexDigit first = some high) (readsSecond : hexDigit second = some low)
    : scanHex2 (first :: second :: rest) = some (high * 16 + low, rest) := by
  have place := hexDigit_eq_some readsFirst
  have notSpace : isSpace first = false := by
    rw [← Bool.not_eq_true]
    simp only [isSpace, Bool.or_eq_true, Bool.and_eq_true, decide_eq_true_eq,
      UInt8.le_iff_toNat_le, ← UInt8.toNat_inj, UInt8.reduceToNat]
    omega
  have notSign : ¬ (first = 0x2B || first = 0x2D) = true := by
    simp only [Bool.or_eq_true, decide_eq_true_eq, ← UInt8.toNat_inj, UInt8.reduceToNat]
    omega
  simp only [scanHex2, List.dropWhile_cons, notSpace, Bool.false_eq_true, if_false, notSign,
    readsFirst, readsSecond]

/-- The colon form of hexadecimal digits is scanned as the bytes of its pairs, by induction
over the pairs.
-/
theorem scanMac_separated {first second : UInt8} {rest : Bytes}
    (hex : IsHexText (first :: second :: rest)) (even : rest.length % 2 = 0)
    : scanMac (rest.length / 2 + 1) (first :: second :: separated rest)
      = some (hexPairs (first :: second :: rest)) := by
  obtain ⟨high, readsFirst⟩ := Option.isSome_iff_exists.mp (hex first (by simp))
  obtain ⟨low, readsSecond⟩ := Option.isSome_iff_exists.mp (hex second (by simp))
  fun_induction separated rest generalizing first second high low with
  | case1 third fourth rest ih =>
      have later : IsHexText (third :: fourth :: rest) := fun byte member =>
        hex byte (.tail _ (.tail _ member))
      obtain ⟨_, readsThird⟩ := Option.isSome_iff_exists.mp (later third (by simp))
      obtain ⟨_, readsFourth⟩ := Option.isSome_iff_exists.mp (later fourth (by simp))
      have evenRest : rest.length % 2 = 0 := by
        simp only [List.length_cons] at even
        omega
      have scanned := ih later evenRest _ readsThird _ readsFourth
      simp only [List.length_cons, show (rest.length + 1 + 1) / 2 = rest.length / 2 + 1 by omega]
      rw [scanMac, scanHex2_digits _ readsFirst readsSecond]
      simp [scanned, hexPairs, readsFirst, readsSecond]
  | case2 rest single =>
      rw [eq_nil_of_even single even]
      simp [scanMac, scanHex2_digits _ readsFirst readsSecond, hexPairs, readsFirst, readsSecond]

theorem mem_separated {rest : Bytes} {byte : UInt8} (member : byte ∈ separated rest)
    : byte = 0x3A ∨ byte ∈ rest := by
  fun_induction separated rest with
  | case1 first second rest ih =>
      simp only [List.mem_cons] at member ⊢
      rcases member with colon | same | same | later
      · exact .inl colon
      · exact .inr (.inl same)
      · exact .inr (.inr (.inl same))
      · rcases ih later with colon | inside
        · exact .inl colon
        · exact .inr (.inr (.inr inside))
  | case2 => simp at member

/-- Digits are not NUL, so `c_str()` shows the whole colon form. -/
theorem cString_separated {first second : UInt8} {rest : Bytes}
    (hex : IsHexText (first :: second :: rest))
    : cString (first :: second :: separated rest) = first :: second :: separated rest := by
  refine List.takeWhile_eq_self_iff.mpr ?_
  intro byte member
  have digits : byte = 0x3A ∨ byte ∈ first :: second :: rest := by
    simp only [List.mem_cons] at member ⊢
    rcases member with same | same | later
    · exact .inr (.inl same)
    · exact .inr (.inr (.inl same))
    · exact (mem_separated later).imp_right fun inside => .inr (.inr inside)
  rw [decide_eq_true_eq]
  rintro rfl
  rcases digits with colon | digit
  · exact absurd colon (by decide)
  · exact absurd (hex _ digit) (by decide)

theorem length_hexPairs {text : Bytes} : (hexPairs text).length = text.length / 2 := by
  fun_induction hexPairs text with
  | case1 first second rest ih =>
      simp only [List.length_cons, ih]
      omega
  | case2 text single =>
      have short := length_le_one single
      rw [List.length_nil]
      omega

/-- The address that twelve hexadecimal digits spell: the bytes of their pairs. -/
theorem parseMacPretty_prettyMac {text : Bytes} (twelve : (compactMac text).length = 12)
    (hex : IsHexText (compactMac text))
    : ∃ mac,
        parseMacPretty (prettyMac text) = some mac
        ∧ mac.toList = hexPairs (compactMac text)
        ∧ ∃ first second rest,
            compactMac text = first :: second :: rest
            ∧ prettyMac text = first :: second :: separated rest := by
  have pretty : prettyMac text = joinPairs [] (compactMac text) := by simp [prettyMac, twelve]
  match compact : compactMac text with
  | [] | [_] => simp [compact] at twelve
  | first :: second :: rest =>
      rw [compact] at twelve hex pretty
      have ten : rest.length = 10 := by simpa using twelve
      rw [joinPairs_cons] at pretty
      have scanned := scanMac_separated hex (by rw [ten])
      simp only [ten] at scanned
      refine ⟨Vector.ofFn fun i => (hexPairs (first :: second :: rest)).getD i 0, ?_, ?_, first,
        second, rest, rfl, pretty⟩
      · rw [pretty, parseMacPretty, cString_separated hex, scanned]
        rfl
      · have six : (hexPairs (first :: second :: rest)).length = 6 := by
          rw [length_hexPairs, twelve]
        apply List.ext_getElem
        · simp [six]
        · intro i inside bounded
          simp [bounded]

end KeypadBridge
