import KeypadBridge.Foundation.StreamCipher
import KeypadBridge.Protocol.LockProtocol

/-! AES-128-CTR on top of PSA Crypto. The PSA library itself is outside the repository: it
enters as its key store, the statuses its calls return, and AES-CTR's keystream, a fixed
but arbitrary function of key and IV.
-/

namespace KeypadBridge
open KeypadBridge.Foundation

abbrev AesKey := Vector UInt8 16
abbrev Iv := Vector UInt8 16

/-- The first byte of an IV, which frames under it carry as `seq_a`. -/
def Iv.seqA (iv : Iv) : UInt8 := iv[0]

/-- The second byte of an IV, which frames under it carry as `seq_b`. -/
def Iv.seqB (iv : Iv) : UInt8 := iv[1]

@[simp] theorem Iv.seqB_setIfInBounds (iv : Iv) (byte : UInt8)
    : Iv.seqB (iv.setIfInBounds 1 byte) = byte := by
  simp [Iv.seqB]

/-- The CTR keystream: the byte that masks position `i` under a key and an IV. -/
abbrev Keystream := AesKey → Iv → Nat → UInt8

/-- The mask of each position under a keystream. -/
def xorMask (stream : Nat → UInt8) (i : Nat) (byte : UInt8) : UInt8 := byte ^^^ stream i

/-- AES-CTR in either direction. -/
def ctrXor (keystream : Keystream) (key : AesKey) (iv : Iv) (input : Bytes) : Bytes :=
  applyStream (xorMask (keystream key iv)) input

abbrev PsaKeyId := UInt32
abbrev PsaStatus := Int

def psaKeyIdNull : PsaKeyId := 0
def psaSuccess : PsaStatus := 0
def psaErrorInvalidHandle : PsaStatus := -136

/-- PSA Crypto as one call of the program finds it: the imported keys, the status each
cipher function returns when its arguments are in order, and what an import would return.
-/
structure Psa where
  keys : PsaKeyId → Option AesKey
  setupStatus : PsaStatus := psaSuccess
  setIvStatus : PsaStatus := psaSuccess
  updateStatus : PsaStatus := psaSuccess
  finishStatus : PsaStatus := psaSuccess
  importStatus : PsaStatus := psaSuccess
  importedId : PsaKeyId := 1

namespace Psa

/-- `psa_cipher_encrypt_setup`: an id that names no imported key is refused. -/
def cipherEncryptSetup (psa : Psa) (id : PsaKeyId) : PsaStatus :=
  match psa.keys id with
  | none => psaErrorInvalidHandle
  | some _ => psa.setupStatus

/-- PSA holds `key` under `id` and none of the four cipher functions fails. -/
structure Works (psa : Psa) (id : PsaKeyId) (key : AesKey) : Prop where
  stored : psa.keys id = some key
  setup : psa.setupStatus = psaSuccess
  setIv : psa.setIvStatus = psaSuccess
  update : psa.updateStatus = psaSuccess
  finish : psa.finishStatus = psaSuccess

/-- PSA imports keys, and none of the four cipher functions fails. -/
structure Imports (psa : Psa) : Prop where
  imported : psa.importStatus = psaSuccess
  setup : psa.setupStatus = psaSuccess
  setIv : psa.setIvStatus = psaSuccess
  update : psa.updateStatus = psaSuccess
  finish : psa.finishStatus = psaSuccess

instance : DecidablePred Imports := fun psa =>
  decidable_of_iff
    (psa.importStatus = psaSuccess ∧ psa.setupStatus = psaSuccess
      ∧ psa.setIvStatus = psaSuccess ∧ psa.updateStatus = psaSuccess
      ∧ psa.finishStatus = psaSuccess)
    ⟨fun ⟨imported, setup, setIv, update, finish⟩ => ⟨imported, setup, setIv, update, finish⟩,
      fun imports =>
        ⟨imports.imported, imports.setup, imports.setIv, imports.update, imports.finish⟩⟩

/-- The store after `psa_import_key` put `key` under the id it handed out. -/
def withImported (psa : Psa) (key : AesKey) : Psa :=
  { psa with keys := fun id => if id = psa.importedId then some key else psa.keys id }

end Psa

section

variable (keystream : Keystream)

/-- `aes_ctr_xcrypt`: run AES-128-CTR over `input` with an imported key; `none` on failure. -/
def aesCtrXcrypt (psa : Psa) (id : PsaKeyId) (iv : Iv) (input : Bytes) : Option Bytes :=
  let status := psa.cipherEncryptSetup id
  let status := if status = psaSuccess then psa.setIvStatus else status
  let status := if status = psaSuccess then psa.updateStatus else status
  let status := if status = psaSuccess then psa.finishStatus else status
  if status ≠ psaSuccess then none
  else (psa.keys id).map fun key => ctrXor keystream key iv input

/-- `aes_ctr_xcrypt_raw_key`: the one-shot variant, importing the key around the call. -/
def aesCtrXcryptRawKey (psa : Psa) (key : AesKey) (iv : Iv) (input : Bytes)
    : Option Bytes :=
  if psa.importStatus ≠ psaSuccess then none
  else aesCtrXcrypt keystream (psa.withImported key) psa.importedId iv input

/-- A success decrypts under the stored key: the four statuses were all `PSA_SUCCESS`. -/
theorem aesCtrXcrypt_eq_some {psa : Psa} {id : PsaKeyId} {iv : Iv} {input output : Bytes}
    (done : aesCtrXcrypt keystream psa id iv input = some output)
    : ∃ key, psa.Works id key ∧ output = ctrXor keystream key iv input := by
  unfold aesCtrXcrypt at done
  cases stored : psa.keys id with
  | none => simp [stored] at done
  | some key =>
      simp only [Psa.cipherEncryptSetup, stored] at done
      by_cases setup : psa.setupStatus = psaSuccess
      · by_cases setIv : psa.setIvStatus = psaSuccess
        · by_cases update : psa.updateStatus = psaSuccess
          · by_cases finish : psa.finishStatus = psaSuccess
            · refine ⟨key, ⟨stored, setup, setIv, update, finish⟩, ?_⟩
              simpa [setup, setIv, update, finish, eq_comm] using done
            · simp [setup, setIv, update, finish] at done
          · simp [setup, setIv, update] at done
        · simp [setup, setIv] at done
      · simp [setup] at done

/-- A working PSA masks the input by the stored key's keystream. -/
theorem aesCtrXcrypt_of_works {psa : Psa} {id : PsaKeyId} {key : AesKey}
    (works : psa.Works id key) (iv : Iv) (input : Bytes)
    : aesCtrXcrypt keystream psa id iv input = some (ctrXor keystream key iv input) := by
  simp [aesCtrXcrypt, Psa.cipherEncryptSetup, works.stored, works.setup, works.setIv,
    works.update, works.finish]

/-- The one-shot variant masks the input by the keystream of the key it is given. -/
theorem aesCtrXcryptRawKey_of_imports {psa : Psa} (imports : psa.Imports) (key : AesKey)
    (iv : Iv) (input : Bytes)
    : aesCtrXcryptRawKey keystream psa key iv input
      = some (ctrXor keystream key iv input) := by
  have works : (psa.withImported key).Works psa.importedId key :=
    ⟨by simp [Psa.withImported], imports.setup, imports.setIv, imports.update,
      imports.finish⟩
  simp [aesCtrXcryptRawKey, imports.imported, aesCtrXcrypt_of_works keystream works]

/-- The one-shot variant fails exactly if one of the PSA calls does. -/
theorem aesCtrXcryptRawKey_eq_none_iff {psa : Psa} {key : AesKey} {iv : Iv} {input : Bytes}
    : aesCtrXcryptRawKey keystream psa key iv input = none ↔ ¬ psa.Imports := by
  constructor
  · intro failed imports
    rw [aesCtrXcryptRawKey_of_imports keystream imports] at failed
    cases failed
  · intro broken
    unfold aesCtrXcryptRawKey
    split
    · rfl
    rename_i imported
    cases done : aesCtrXcrypt keystream (psa.withImported key) psa.importedId iv input with
    | none => rfl
    | some output =>
        obtain ⟨_, works, _⟩ := aesCtrXcrypt_eq_some keystream done
        exact absurd ⟨not_not.mp imported, works.setup, works.setIv, works.update, works.finish⟩
          broken

end

/-! ### The keystream mask -/

theorem xorMask_involutive (stream : Nat → UInt8) (i : Nat)
    : Function.Involutive (xorMask stream i) := by
  intro byte
  rw [xorMask, xorMask, UInt8.xor_assoc, UInt8.xor_self, UInt8.xor_zero]

/-- Decryption undoes encryption under the same key and IV. -/
@[simp] theorem ctrXor_ctrXor (keystream : Keystream) (key : AesKey) (iv : Iv)
    (data : Bytes)
    : ctrXor keystream key iv (ctrXor keystream key iv data) = data :=
  applyStream_involutive (xorMask_involutive _) data

@[simp] theorem length_ctrXor (keystream : Keystream) (key : AesKey) (iv : Iv)
    (data : Bytes)
    : (ctrXor keystream key iv data).length = data.length :=
  length_applyStream _ data

end KeypadBridge
