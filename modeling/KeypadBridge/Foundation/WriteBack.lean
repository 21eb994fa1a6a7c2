import Mathlib.Logic.Function.Basic

/-! A write-back store. A save lands in volatile memory at once, and synchronising the store
moves what the persistent medium accepts onto it. Each key has its own type of record.
-/

namespace KeypadBridge.Foundation

/-- Records waiting for the medium, and the records on it. -/
structure WriteBack {Key : Type} (Record : Key → Type) where
  queued : (key : Key) → Option (Record key) := fun _ => none
  stored : (key : Key) → Option (Record key) := fun _ => none

namespace WriteBack

variable {Key : Type} {Record : Key → Type}

/-- A queued record hides the stored one. -/
def load (store : WriteBack Record) (key : Key) : Option (Record key) :=
  (store.queued key).or (store.stored key)

def save [DecidableEq Key] (store : WriteBack Record) (key : Key) (record : Record key)
    : WriteBack Record :=
  { store with queued := Function.update store.queued key (some record) }

/-- The queued records that the medium accepts move onto it, the others stay queued. -/
def sync (store : WriteBack Record) (accepts : Key → Bool) : WriteBack Record where
  queued key := if accepts key then none else store.queued key
  stored key := if accepts key then store.load key else store.stored key

/-- What a loss of power leaves: the medium alone. -/
def restarted (store : WriteBack Record) : WriteBack Record :=
  { store with queued := fun _ => none }

/-- Nothing waits for the medium. -/
def Clean (store : WriteBack Record) : Prop := ∀ key, store.queued key = none

/-- The medium accepts every record. -/
def AcceptsAll (accepts : Key → Bool) : Prop := ∀ key, accepts key = true

@[simp] theorem load_sync (store : WriteBack Record) (accepts : Key → Bool) (key : Key)
    : (store.sync accepts).load key = store.load key := by
  cases accepted : accepts key <;> simp [sync, load, accepted]

/-- A medium that accepts everything empties the queue. -/
theorem clean_sync {store : WriteBack Record} {accepts : Key → Bool}
    (all : AcceptsAll accepts)
    : (store.sync accepts).Clean := by
  intro key
  simp [sync, all key]

/-- What a restart finds: the records that were accepted, and else those of before. -/
theorem load_restarted_sync (store : WriteBack Record) (accepts : Key → Bool) (key : Key)
    : (store.sync accepts).restarted.load key
      = if accepts key then store.load key else store.restarted.load key := by
  cases accepted : accepts key <;> simp [sync, restarted, load, accepted]

theorem clean_restarted (store : WriteBack Record) : store.restarted.Clean := fun _ => rfl

/-- A store with nothing queued survives a restart unchanged. -/
@[simp] theorem Clean.load_restarted {store : WriteBack Record} (clean : store.Clean)
    (key : Key)
    : store.restarted.load key = store.load key := by
  simp [restarted, load, clean key]

section

variable [DecidableEq Key]

@[simp] theorem load_save_self (store : WriteBack Record) (key : Key) (record : Record key)
    : (store.save key record).load key = some record := by
  simp [save, load]

theorem load_save_of_ne (store : WriteBack Record) {key other : Key} (record : Record key)
    (different : other ≠ key)
    : (store.save key record).load other = store.load other := by
  simp [save, load, different]

/-- A save alone does not survive a restart. -/
@[simp] theorem restarted_save (store : WriteBack Record) (key : Key) (record : Record key)
    : (store.save key record).restarted = store.restarted :=
  rfl

end

end WriteBack

end KeypadBridge.Foundation
