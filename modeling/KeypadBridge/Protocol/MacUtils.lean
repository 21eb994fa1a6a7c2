import KeypadBridge.Protocol.LockProtocol

/-! MAC addresses as the cloud spells them and as six bytes. -/

namespace KeypadBridge

/-- A MAC address, big-endian as printed. -/
abbrev MacBytes := Vector UInt8 6

/-- The characters that `compact_mac` skips. -/
def isMacSeparator (byte : UInt8) : Bool := byte = 0x3A || byte = 0x2D

/-- `toupper` in the C locale. -/
def toUpper (byte : UInt8) : UInt8 := if 0x61 ≤ byte && byte ≤ 0x7A then byte - 0x20 else byte

/-- `compact_mac`: any separators, any case. -/
def compactMac (text : Bytes) : Bytes := (text.filter (!isMacSeparator ·)).map toUpper

/-- The loop of `pretty_mac`, behind what it has pushed so far. -/
def joinPairs : (out rest : Bytes) → Bytes
  | out, first :: second :: rest =>
      joinPairs ((if out.isEmpty then out else out ++ [0x3A]) ++ [first, second]) rest
  | out, _ => out

/-- `pretty_mac`: `B0E9FE612E75` with its colons; what is not twelve characters stays. -/
def prettyMac (raw : Bytes) : Bytes :=
  let compact := compactMac raw
  if compact.length ≠ 12 then raw else joinPairs [] compact

/-- The bytes of a `std::string` up to its first NUL, as `c_str()` shows them. -/
def cString (text : Bytes) : Bytes := text.takeWhile (· ≠ 0)

/-- `isspace` in the C locale. -/
def isSpace (byte : UInt8) : Bool := (0x09 ≤ byte && byte ≤ 0x0D) || byte = 0x20

def hexDigit (byte : UInt8) : Option UInt8 :=
  if 0x30 ≤ byte && byte ≤ 0x39 then some (byte - 0x30)
  else if 0x41 ≤ byte && byte ≤ 0x46 then some (byte - 0x37)
  else if 0x61 ≤ byte && byte ≤ 0x66 then some (byte - 0x57)
  else none

/-- The conversion `%2x` of `sscanf`, cut down to the byte that is kept of its result: white
space, then at most two characters of an optionally signed hexadecimal number.
-/
def scanHex2 (input : Bytes) : Option (UInt8 × Bytes) :=
  match input.dropWhile isSpace with
  | [] => none
  | first :: rest =>
      if first = 0x2B || first = 0x2D then
        match rest with
        | [] => none
        | second :: rest =>
            (hexDigit second).map fun digit =>
              (if first = 0x2D then 0 - digit else digit, rest)
      else
        match hexDigit first, rest with
        | none, _ => none
        | some high, [] => some (high, [])
        | some high, second :: rest =>
            match hexDigit second with
            | some low => some (high * 16 + low, rest)
            | none =>
                -- A lone `0x` starts a number that the field width cuts off.
                if first = 0x30 && (second = 0x78 || second = 0x58) then none
                else some (high, second :: rest)

/-- `%2x:%2x:…` with `count` conversions. -/
def scanMac : (count : Nat) → Bytes → Option Bytes
  | 0, _ => some []
  | 1, input => (scanHex2 input).map fun scanned => [scanned.1]
  | count + 2, input =>
      match scanHex2 input with
      | some (byte, 0x3A :: rest) => (scanMac (count + 1) rest).map (byte :: ·)
      | _ => none

/-- `parse_mac_pretty`: `B0:E9:FE:11:22:33`, in any case. -/
def parseMacPretty (mac : Bytes) : Option MacBytes :=
  (scanMac 6 (cString mac)).map fun bytes => Vector.ofFn fun i => bytes.getD i 0

/-- `upper_mac`, for comparisons that ignore case. -/
def upperMac (mac : Bytes) : Bytes :=
  mac.map fun c => if 0x61 ≤ c && c ≤ 0x7A then c - 0x20 else c

/-- A hexadecimal digit, in lower case. -/
def lowerHexDigit (nibble : UInt8) : UInt8 :=
  if nibble < 10 then 0x30 + nibble else 0x57 + nibble

/-- A byte in two hexadecimal digits. -/
def hexText (byte : UInt8) : Bytes := [lowerHexDigit (byte >>> 4), lowerHexDigit (byte &&& 0x0F)]

/-- A MAC address as NimBLE prints it. -/
def MacBytes.text (mac : MacBytes) : Bytes := ((mac.toList.map hexText).intersperse [0x3A]).flatten

example : MacBytes.text #v[0xB0, 0xE9, 0xFE, 0x11, 0x22, 0x0A]
    = "b0:e9:fe:11:22:0a".toList.map fun c => UInt8.ofNat c.toNat := by decide +kernel

end KeypadBridge
