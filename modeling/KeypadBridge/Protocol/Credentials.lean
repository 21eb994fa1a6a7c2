import KeypadBridge.Protocol.LockProtocol

/-! Which credential an unlock names. Two keypad families write the slot of a credential into
the same byte, one of them biased, and the decoder tells them apart by the byte alone.
-/

namespace KeypadBridge

-----------------------------------------------------------------------------------------
-- The shape of an unlock
-----------------------------------------------------------------------------------------

/-- What makes a plaintext an unlock. -/
theorem decodeLockCommand_unlock {plaintext : Bytes}
    (unlock : (decodeLockCommand plaintext).type = .unlock)
    : 8 ≤ plaintext.length
      ∧ plaintext.take frameAction.length = frameAction
      ∧ plaintext.getD unlockMarkerOffset 0 = unlockMarker := by
  unfold decodeLockCommand at unlock
  split at unlock
  · simp at unlock
  split at unlock
  · simp at unlock
  split at unlock
  · simp at unlock
  split at unlock
  · assumption
  · simp at unlock

/-- A plaintext with the shape of an unlock decodes to one, and to nothing else. -/
theorem decodeLockCommand_of_unlock {plaintext : Bytes} (long : 8 ≤ plaintext.length)
    (action : plaintext.take frameAction.length = frameAction)
    (marker : plaintext.getD unlockMarkerOffset 0 = unlockMarker)
    : decodeLockCommand plaintext
      = { type := .unlock
          method := ⟨plaintext.getD unlockMethodOffset 0⟩
          credentialIndex := credentialIndexOf (plaintext.getD unlockIndexOffset 0) } := by
  have notLock : plaintext ≠ frameLock := by
    rintro rfl
    simp [frameLock, unlockMarkerOffset, unlockMarker] at marker
  have notShort : plaintext.length ≠ 4 := by omega
  have notDoorbell : plaintext.length ≠ frameDoorbell.length := by
    simp only [frameDoorbell, List.length_cons, List.length_nil]
    omega
  simp only [decodeLockCommand, notLock, notShort, notDoorbell, false_and, and_false, if_false,
    ge_iff_le, long, action, marker, true_and, if_true]

-----------------------------------------------------------------------------------------
-- Credential slots
-----------------------------------------------------------------------------------------

/-- How a keypad writes a credential slot into the index byte of an unlock. -/
inductive CredentialEncoding where
  /-- The Original keypad adds `0x0A`. -/
  | original
  /-- The Keypad Vision writes the slot as it is. -/
  | vision
  deriving DecidableEq

namespace CredentialEncoding

/-- The last slot whose encoding is a byte. -/
def lastSlot : CredentialEncoding → Nat
  | original => 245
  | vision => 255

def indexByte (encoding : CredentialEncoding) (slot : Nat) : UInt8 :=
  match encoding with
  | original => .ofNat (0x0A + slot)
  | vision => .ofNat slot

/-- The slot that the decoder takes an encoded slot for. -/
def reportedSlot (encoding : CredentialEncoding) (slot : Nat) : Nat :=
  match encoding with
  | original => slot
  | vision => if slot < 10 then slot else slot - 10

end CredentialEncoding

/-- An unlock by `method` with the given index byte and whatever the keypad sends behind. -/
def unlockFrame (method indexByte : UInt8) (tail : Bytes) : Bytes :=
  frameAction ++ [method, unlockMarker, indexByte] ++ tail

/-- An unlock frame decodes to its method and to what its index byte stands for. -/
theorem decodeLockCommand_unlockFrame (method indexByte : UInt8) {tail : Bytes}
    (long : 8 ≤ (unlockFrame method indexByte tail).length)
    : decodeLockCommand (unlockFrame method indexByte tail)
      = { type := .unlock, method := ⟨method⟩, credentialIndex := credentialIndexOf indexByte } :=
  decodeLockCommand_of_unlock long rfl rfl

/-- The decoder's threshold, on numbers. -/
theorem credentialIndexOf_eq (indexByte : UInt8)
    : credentialIndexOf indexByte
      = ((if indexByte.toNat < 10 then indexByte.toNat else indexByte.toNat - 10 : Nat) : Int) := by
  have threshold : indexByte ≥ unlockIndexBase ↔ 10 ≤ indexByte.toNat := UInt8.le_iff_toNat_le
  unfold credentialIndexOf
  split
  · rename_i biased
    rw [threshold] at biased
    have base : unlockIndexBase.toNat = 10 := rfl
    rw [if_neg (by omega), base]
    omega
  · rename_i raw
    rw [threshold] at raw
    rw [if_pos (by omega)]

namespace CredentialEncoding

variable {encoding : CredentialEncoding} {slot : Nat}

/-- An encoded slot reads as the reported one, by the encoding and the decoder's threshold. -/
theorem credentialIndexOf_indexByte (inside : slot ≤ encoding.lastSlot)
    : credentialIndexOf (encoding.indexByte slot) = encoding.reportedSlot slot := by
  rw [credentialIndexOf_eq]
  cases encoding with
  | original =>
      have byte : (original.indexByte slot).toNat = 10 + slot := by
        simp only [indexByte, UInt8.toNat_ofNat', lastSlot] at inside ⊢
        omega
      have biased : ¬ 10 + slot < 10 := by omega
      simp only [byte, biased, if_false, reportedSlot]
      omega
  | vision =>
      have byte : (vision.indexByte slot).toNat = slot := by
        simp only [indexByte, UInt8.toNat_ofNat', lastSlot] at inside ⊢
        omega
      simp only [byte, reportedSlot]

/-- Two slots are reported as one exactly if they are one, or if they are ten apart on a Vision
keypad and the lower one is below ten.
-/
theorem reportedSlot_eq_iff {other : Nat}
    : encoding.reportedSlot slot = encoding.reportedSlot other
      ↔ slot = other
        ∨ encoding = vision
          ∧ (slot < 10 ∧ other = slot + 10 ∨ other < 10 ∧ slot = other + 10) := by
  cases encoding with
  | original => simp [reportedSlot]
  | vision =>
      simp only [reportedSlot, true_and]
      split <;> split <;> omega

end CredentialEncoding

/-- An unlock is attributed to the credential slot of an Original keypad, and to that of a
Vision keypad below ten. From there on a Vision slot is taken for a biased one, ten too low.
-/
theorem unlock_attributed (encoding : CredentialEncoding) (method : UInt8) (tail : Bytes)
    (slot : Nat) (inside : slot ≤ encoding.lastSlot)
    (long : 8 ≤ (unlockFrame method (encoding.indexByte slot) tail).length)
    : let command := decodeLockCommand (unlockFrame method (encoding.indexByte slot) tail)
      command
          = { type := .unlock
              method := ⟨method⟩
              credentialIndex := encoding.reportedSlot slot }
      ∧ ∀ other otherTail,
          other ≤ encoding.lastSlot
          → 8 ≤ (unlockFrame method (encoding.indexByte other) otherTail).length
          → let decoded :=
              decodeLockCommand (unlockFrame method (encoding.indexByte other) otherTail)
            (command.method, command.credentialIndex)
                = (decoded.method, decoded.credentialIndex)
              ↔ slot = other
                ∨ encoding = .vision
                  ∧ (slot < 10 ∧ other = slot + 10 ∨ other < 10 ∧ slot = other + 10) := by
  intro command
  have command_eq : command = _ := decodeLockCommand_unlockFrame method _ long
  rw [encoding.credentialIndexOf_indexByte inside] at command_eq
  refine ⟨command_eq, ?_⟩
  intro other otherTail otherInside otherLong decoded
  have decoded_eq : decoded = _ := decodeLockCommand_unlockFrame method _ otherLong
  rw [encoding.credentialIndexOf_indexByte otherInside] at decoded_eq
  rw [command_eq, decoded_eq, ← CredentialEncoding.reportedSlot_eq_iff]
  simp only [Prod.mk.injEq, true_and]
  exact Int.ofNat_inj

/-- Slot 12 of an Original keypad is reported as 12. -/
theorem unlock_attributed_original
    : (decodeLockCommand
        (unlockFrame 0x04 (CredentialEncoding.original.indexByte 12) [0x00])).credentialIndex
      = 12 := by
  rw [(unlock_attributed .original 0x04 [0x00] 12 (by decide) (by decide)).1]
  rfl

/-- Slots 0 and 10 of a Vision keypad are reported as one. -/
theorem unlock_attributed_to_another
    : ¬ ∀ (encoding : CredentialEncoding) (method : UInt8) (tail : Bytes) (slot : Nat),
        slot ≤ encoding.lastSlot
        → 8 ≤ (unlockFrame method (encoding.indexByte slot) tail).length
        → decodeLockCommand (unlockFrame method (encoding.indexByte slot) tail)
          = { type := .unlock, method := ⟨method⟩, credentialIndex := slot } := by
  intro always
  exact absurd (always .vision 0x04 [0x00] 10 (by decide) (by decide)) (by decide)

end KeypadBridge
