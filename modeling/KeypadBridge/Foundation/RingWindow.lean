/-! A ring of cells as a sliding window over an append-only log. Each append overwrites the
cell at the head and advances the head, so the ring holds exactly the latest entries.
-/

namespace KeypadBridge.Foundation

variable {Cell Entry : Type} {size : Nat}

/-- The ring `cells` with write position `head` holds the last `size` entries of `log`.
`represents` says that a cell holds an entry, `blank` that it was never written.
-/
structure RingWindow (represents : Cell → Entry → Prop) (blank : Cell → Prop)
    (cells : Vector Cell size) (head : Nat) (log : List Entry)
    : Prop where
  head_eq : head = log.length % size
  recent
    : ∀ age (known : age < log.length) place (inside : place < size),
        log.length ≤ age + size
        → age % size = place
        → represents cells[place] log[age]
  unused : ∀ place (inside : place < size), log.length ≤ place → blank cells[place]

namespace RingWindow

variable {represents : Cell → Entry → Prop} {blank : Cell → Prop}
variable {cells : Vector Cell size} {head : Nat} {log : List Entry}

/-- A ring of blank cells is the window over the empty log. -/
theorem empty (fresh : ∀ place (inside : place < size), blank cells[place])
    : RingWindow represents blank cells 0 [] where
  head_eq := by simp
  recent := by simp
  unused := fun place inside _ => fresh place inside

/-- Two ages less than a full turn apart do not share a place. -/
private theorem place_ne {older newer : Nat} (order : older < newer)
    (close : newer < older + size)
    : older % size ≠ newer % size := by
  intro same
  have divides : (newer - older) % size = 0 := Nat.sub_mod_eq_zero_of_mod_eq same.symm
  rw [Nat.mod_eq_of_lt (by omega)] at divides
  omega

/-- Writing an entry at the head slides the window by one. -/
theorem push (window : RingWindow represents blank cells head log)
    {cell : Cell} {entry : Entry} (written : represents cell entry)
    : RingWindow represents blank (cells.setIfInBounds head cell) ((head + 1) % size)
        (log ++ [entry]) where
  head_eq := by simp [window.head_eq]
  recent := by
    intro age known place inside near lands
    simp only [List.length_append, List.length_singleton] at known near
    rw [Vector.getElem_setIfInBounds inside]
    rcases Nat.lt_or_eq_of_le (Nat.le_of_lt_succ known) with earlier | latest
    · have elsewhere : head ≠ place := by
        rw [window.head_eq, ← lands]
        exact (place_ne earlier (by omega)).symm
      rw [if_neg elsewhere, List.getElem_append_left earlier]
      exact window.recent age earlier place inside (by omega) lands
    · subst latest
      rw [if_pos (window.head_eq.trans lands)]
      simpa using written
  unused := by
    intro place inside beyond
    simp only [List.length_append, List.length_singleton] at beyond
    have elsewhere : head ≠ place := by
      rw [window.head_eq, Nat.mod_eq_of_lt (by omega)]
      omega
    rw [Vector.getElem_setIfInBounds inside, if_neg elsewhere]
    exact window.unused place inside (by omega)

/-- Looking an entry up in the ring finds exactly the entries of the window, provided the
lookup tells represented entries apart and never hits a blank cell.
-/
theorem lookup_iff (window : RingWindow represents blank cells head log)
    (hit : Cell → Bool) {entry : Entry}
    (exact_hit : ∀ cell held, represents cell held → (hit cell = true ↔ held = entry))
    (no_hit : ∀ cell, blank cell → hit cell = false)
    : (∃ place, ∃ inside : place < size, hit cells[place] = true)
      ↔ entry ∈ log.drop (log.length - size) := by
  constructor
  · rintro ⟨place, inside, found⟩
    by_cases written : place < log.length
    · -- The latest age that landed on this place is the one still held.
      let age := log.length - 1 - (log.length - 1 - place) % size
      have turn : (log.length - 1 - place) % size < size := Nat.mod_lt _ (by omega)
      have known : age < log.length := by omega
      have lands : age % size = place := by
        have whole := Nat.div_add_mod (log.length - 1 - place) size
        have split : age = place + size * ((log.length - 1 - place) / size) := by
          have bounded := Nat.mod_le (log.length - 1 - place) size
          omega
        rw [split, Nat.add_mul_mod_self_left, Nat.mod_eq_of_lt inside]
      have held := window.recent age known place inside (by omega) lands
      rw [← (exact_hit _ _ held).mp found]
      exact List.mem_drop_iff_getElem.mpr
        ⟨age - (log.length - size), by omega, by simp only [show
          log.length - size + (age - (log.length - size)) = age by omega]⟩
    · exact absurd found (by simp [no_hit _ (window.unused place inside (by omega))])
  · intro member
    obtain ⟨offset, known, rfl⟩ := List.mem_drop_iff_getElem.mp member
    have positive : 0 < size := by omega
    have inside := Nat.mod_lt (log.length - size + offset) positive
    refine ⟨(log.length - size + offset) % size, inside, ?_⟩
    exact (exact_hit _ _ (window.recent _ (by omega) _ inside (by omega) rfl)).mpr rfl

/-- An entry followed by fewer than `size` others is still inside the window. -/
theorem mem_window_of_recent {before after : List Entry} {entry : Entry}
    (recent : after.length < size)
    : entry ∈ (before ++ entry :: after).drop ((before ++ entry :: after).length - size) := by
  apply List.mem_drop_iff_getElem.mpr
  simp only [List.length_append, List.length_cons]
  refine ⟨before.length - (before.length + (after.length + 1) - size), by omega, ?_⟩
  simp only [show before.length + (after.length + 1) - size
      + (before.length - (before.length + (after.length + 1) - size)) = before.length by omega]
  simp

end RingWindow

end KeypadBridge.Foundation
