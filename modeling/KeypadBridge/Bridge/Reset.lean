import KeypadBridge.Bridge.Links

/-! What a reset does to the copies of the shared key and the links. When the new key is
imported the reset goes through on every copy. When it is not, the reset reports itself as
aborted, but the key in memory and in flash has been replaced by then, and the session's key
has been destroyed.
-/

namespace KeypadBridge
open KeypadBridge.Foundation

/-- A reset that went through. Memory, the preference store, PSA Crypto and the wizard hold
the new key; no link is left in memory or in the store; the session starts over. When flash
takes every record, nothing is left waiting for it.
-/
structure ResetCompleted (env : ResetEnv) (after : Device) : Prop where
  memoryKey : after.bridge.sharedKey = env.randomKey
  storedKey : after.preferences.load .sharedKey = some env.randomKey
  sessionKey : after.psaKeys after.bridge.session.aesKey = some env.randomKey
  wizardKey : after.pairingUi.sharedKey = env.randomKey
  keypad : after.keypadPaired = false ∧ after.keypadInfo = {}
  lock : after.bridge.lockLinked = false ∧ after.bridge.linkedLockInfo = {}
  wizard : after.pairingUi.keypadPaired = false ∧ after.pairingUi.lockLinked = false
  storedName : after.preferences.load .keypadName = some (Vector.replicate 48 0)
  storedKeypad : after.preferences.load .keypadInfo = some {}
  storedLock : after.preferences.load .linkedLock = some {}
  contexts : after.bridge.session.contexts = .blank 0
  written : WriteBack.AcceptsAll env.acceptsLinks → after.preferences.Clean

/-- A reset that left everything as it was: the key in memory, in the store and in the wizard,
the key that the session can use, the links, and the session.
-/
structure ResetWithoutTrace (before after : Device) : Prop where
  memoryKey : after.bridge.sharedKey = before.bridge.sharedKey
  storedKey : after.preferences.load .sharedKey = before.preferences.load .sharedKey
  sessionKey
    : after.psaKeys after.bridge.session.aesKey = before.psaKeys before.bridge.session.aesKey
  wizardKey : after.pairingUi.sharedKey = before.pairingUi.sharedKey
  keypad : after.keypadPaired = before.keypadPaired ∧ after.keypadInfo = before.keypadInfo
  lock
    : after.bridge.lockLinked = before.bridge.lockLinked
      ∧ after.bridge.linkedLockInfo = before.bridge.linkedLockInfo
  storedName : after.preferences.load .keypadName = before.preferences.load .keypadName
  storedKeypad : after.preferences.load .keypadInfo = before.preferences.load .keypadInfo
  storedLock : after.preferences.load .linkedLock = before.preferences.load .linkedLock
  session : after.bridge.session = before.bridge.session

/-- All or nothing: a reset goes through, or its import fails and it leaves no trace. -/
def ResetAllOrNothing (before : Device) (env : ResetEnv) : Prop :=
  let after := (before.resetPairing env).1
  if env.keyImport.isSome then ResetCompleted env after else ResetWithoutTrace before after

namespace Device

/-- A reset whose import succeeds goes through. -/
theorem resetCompleted (device : Device) {env : ResetEnv} (imported : env.keyImport ≠ none)
    : ResetCompleted env (device.resetPairing env).1 := by
  have stored := createSharedKey_stored device env.randomKey env.acceptsKey
  rw [resetPairing_completed imported]
  have core := (device.rotated env).forgetLinks_linkCore env
  have store
      : ((device.rotated env).forgetLinks env).1.preferences
        = forgottenPreferences (device.rotated env).preferences env :=
    congrArg LinkCore.preferences core
  have rotatedStore
      : (device.rotated env).preferences.load .sharedKey = some env.randomKey := by
    unfold rotated importAesKey
    split <;> exact stored
  have rotatedKey : (device.rotated env).bridge.sharedKey = env.randomKey := by
    unfold rotated importAesKey
    split <;> rfl
  have sessionKey
      : (device.rotated env).psaKeys (device.rotated env).bridge.session.aesKey
        = some env.randomKey := by
    obtain ⟨id, imported⟩ := Option.ne_none_iff_exists'.mp imported
    simp [rotated, importAesKey, imported, LockSession.setAesKey, destroyAesKey, createSharedKey,
      saveAndSync, save, sync]
  obtain ⟨server, lastActivityMs, ui⟩ := PairingUi.start_eq _ env.httpdStarts env.millis
  refine {
    memoryKey := rotatedKey
    storedKey := ?_
    sessionKey := sessionKey
    wizardKey := (congrArg PairingUi.sharedKey ui).trans rotatedKey
    keypad := ⟨rfl, rfl⟩
    lock := ⟨rfl, rfl⟩
    wizard := ⟨congrArg PairingUi.keypadPaired ui, congrArg PairingUi.lockLinked ui⟩
    storedName := ?_
    storedKeypad := ?_
    storedLock := ?_
    contexts := rfl
    written := fun accepts => store ▸ WriteBack.clean_sync accepts
  } <;> rw [store]
  · simpa [forgottenPreferences, WriteBack.load_save_of_ne] using rotatedStore
  · simp [forgottenPreferences, WriteBack.load_save_of_ne]
  · simp [forgottenPreferences, WriteBack.load_save_of_ne]
  · simp [forgottenPreferences]

/-- An aborted reset leaves no trace only where there was nothing to lose: the drawn key is the
one in use already, and the session had no key behind a handle.
-/
theorem resetWithoutTrace_iff {device : Device} (invariant : device.LinkInvariant)
    {env : ResetEnv} (failed : env.keyImport = none)
    : ResetWithoutTrace device (device.resetPairing env).1
      ↔ device.aesKeyHandle = psaKeyIdNull ∧ env.randomKey = device.bridge.sharedKey := by
  have halfway
      : device.rotated env
        = (device.createSharedKey env.randomKey env.acceptsKey).destroyAesKey := by
    simp [rotated, importAesKey, failed]
  rw [resetPairing_aborted failed, halfway]
  constructor
  · intro untouched
    refine ⟨?_, untouched.memoryKey⟩
    -- A handle that was held has been destroyed, and the session still names it.
    by_contra held
    obtain ⟨named, usable⟩ := invariant.core.key.usable held
    simp only [linkCore] at named usable
    have lost := untouched.sessionKey
    simp [destroyAesKey, createSharedKey, saveAndSync, save, sync, named, usable, held]
      at lost
  · rintro ⟨noHandle, sameKey⟩
    have stored := invariant.core.key.stored
    have kept {key : PrefKey} (other : key ≠ .sharedKey)
        : (device.createSharedKey env.randomKey env.acceptsKey).preferences.load key
          = device.preferences.load key := by
      simp [createSharedKey, saveAndSync, save, sync, WriteBack.load_save_of_ne, other]
    refine {
      memoryKey := sameKey
      storedKey := ?_
      sessionKey := ?_
      wizardKey := rfl
      keypad := ⟨rfl, rfl⟩
      lock := ⟨rfl, rfl⟩
      storedName := kept (by decide)
      storedKeypad := kept (by decide)
      storedLock := kept (by decide)
      session := rfl
    }
    · have created := createSharedKey_stored device env.randomKey env.acceptsKey
      exact created.trans ((congrArg some sameKey).trans stored.symm)
    · simp [destroyAesKey, createSharedKey, saveAndSync, save, sync, noHandle]

end Device

/-- A reset is all or nothing exactly when its import succeeds, or when an import had failed
before, so that no key was in use, and the generator draws the very key in memory.
-/
theorem reset_all_or_nothing_iff (keystream : Keystream) (config : DeviceConfig)
    (preferences : Preferences) (boot : BootEnv) (ops : List StationOp) (env : ResetEnv)
    : let before := (Station.after keystream config preferences boot ops).device
      ResetAllOrNothing before env
      ↔ env.keyImport ≠ none
        ∨ before.aesKeyHandle = psaKeyIdNull ∧ env.randomKey = before.bridge.sharedKey := by
  intro before
  have invariant : before.LinkInvariant :=
    Station.after_linkInvariant keystream config preferences boot ops
  unfold ResetAllOrNothing
  by_cases failed : env.keyImport = none
  · simpa [failed] using Device.resetWithoutTrace_iff invariant failed
  · simpa [failed, Option.isSome_iff_ne_none] using before.resetCompleted failed

/-- A first start at which everything succeeds. -/
def firstBoot : BootEnv where
  millis := 0
  randomKey := Vector.replicate 16 0x11
  cryptoInit := psaSuccess
  keyImport := some ⟨1, by decide⟩
  bleReady := true
  httpdStarts := true
  acceptsKey _ := true
  acceptsLock _ := true

/-- A reset at which PSA Crypto refuses the new key. -/
def refusedReset : ResetEnv where
  millis := 0
  randomKey := Vector.replicate 16 0x22
  keyImport := none
  isScanning := false
  httpdStarts := true
  acceptsKey _ := true
  acceptsLinks _ := true

/-- A refused import aborts a reset that has changed the key in memory already. -/
theorem aborted_reset_rotates_key
    : ¬ ∀ (keystream : Keystream) (config : DeviceConfig) (preferences : Preferences)
        (boot : BootEnv) (ops : List StationOp) (env : ResetEnv),
          ResetAllOrNothing (Station.after keystream config preferences boot ops).device
            env := by
  intro always
  have untouched : ResetWithoutTrace _ _ := always clearStream {} {} firstBoot [] refusedReset
  exact absurd untouched.memoryKey (by decide +kernel)

end KeypadBridge
