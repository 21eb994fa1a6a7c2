import Mathlib.Logic.Function.Basic

/-! Stores that fold each item into the value under its key. What is stored under one key depends
on the items with that key alone, and their order matters only where their updates do not
commute.
-/

namespace KeypadBridge.Foundation

variable {Item Key Value : Type} [DecidableEq Key]

section

variable (key : Item → Key) (update : Value → Item → Value) (blank : Value)

/-- One item is folded into the value under its key, which is blank on first sight. -/
def foldItem (store : Key → Option Value) (item : Item) : Key → Option Value :=
  Function.update store (key item) (some (update ((store (key item)).getD blank) item))

def foldItems (store : Key → Option Value) (items : List Item) : Key → Option Value :=
  items.foldl (foldItem key update blank) store

/-- The items under a key, in order. -/
def under (wanted : Key) (items : List Item) : List Item :=
  items.filter fun item => key item = wanted

end

variable {key : Item → Key} {update : Value → Item → Value} {blank : Value}

theorem foldItem_of_ne {store : Key → Option Value} {item : Item} {wanted : Key}
    (other : key item ≠ wanted)
    : foldItem key update blank store item wanted = store wanted :=
  Function.update_of_ne (Ne.symm other) _ _

/-- A value that is there is folded further, by induction over the items. -/
theorem foldItems_some (items : List Item) {store : Key → Option Value} {wanted : Key}
    {value : Value} (there : store wanted = some value)
    : foldItems key update blank store items wanted
      = some ((under key wanted items).foldl update value) := by
  induction items generalizing store value with
  | nil => exact there
  | cons item rest ih =>
      by_cases same : key item = wanted
      · have next : foldItem key update blank store item wanted = some (update value item) := by
          simp [foldItem, same, there]
        have mine : under key wanted (item :: rest) = item :: under key wanted rest := by
          simp [under, same]
        rw [mine]
        exact ih next
      · have next : foldItem key update blank store item wanted = some value :=
          (foldItem_of_ne same).trans there
        have mine : under key wanted (item :: rest) = under key wanted rest := by
          simp [under, same]
        rw [mine]
        exact ih next

/-- What is stored under a key is what its items make of what was there, or of the blank value.
-/
theorem foldItems_apply (items : List Item) (store : Key → Option Value) (wanted : Key)
    : foldItems key update blank store items wanted
      = if under key wanted items = [] then store wanted
        else some ((under key wanted items).foldl update ((store wanted).getD blank)) := by
  induction items generalizing store with
  | nil => rfl
  | cons item rest ih =>
      by_cases same : key item = wanted
      · have next
            : foldItem key update blank store item wanted
              = some (update ((store wanted).getD blank) item) := by
          simp [foldItem, same]
        have mine : under key wanted (item :: rest) = item :: under key wanted rest := by
          simp [under, same]
        rw [mine, if_neg (List.cons_ne_nil _ _)]
        exact foldItems_some rest next
      · have mine : under key wanted (item :: rest) = under key wanted rest := by
          simp [under, same]
        have rest := ih (foldItem key update blank store item)
        rw [foldItem_of_ne same] at rest
        rw [mine]
        exact rest

/-- The items can come in any order if those under one key can. -/
theorem foldItems_perm {first second : List Item} (store : Key → Option Value)
    (perm : first.Perm second)
    (commute
      : ∀ left ∈ first,
          ∀ right ∈ first,
            key left = key right
            → ∀ value, update (update value left) right = update (update value right) left)
    : foldItems key update blank store first = foldItems key update blank store second := by
  funext wanted
  have mine : (under key wanted first).Perm (under key wanted second) := perm.filter _
  have commuted (value : Value)
      : (under key wanted first).foldl update value
        = (under key wanted second).foldl update value := by
    refine mine.foldl_eq' (fun left inLeft right inRight value => ?_) value
    obtain ⟨memberLeft, keyLeft⟩ := List.mem_filter.mp inLeft
    obtain ⟨memberRight, keyRight⟩ := List.mem_filter.mp inRight
    have same : key left = key right := by simp_all
    exact commute left memberLeft right memberRight same value
  rw [foldItems_apply, foldItems_apply, commuted]
  have empty : under key wanted first = [] ↔ under key wanted second = [] :=
    ⟨fun none => List.perm_nil.mp (none ▸ mine.symm), fun none => List.perm_nil.mp (none ▸ mine)⟩
  simp only [empty]

end KeypadBridge.Foundation
