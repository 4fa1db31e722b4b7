import Mathlib.Data.List.AList

namespace GroupChat

/-! Two finite maps that are kept inverse to each other. -/

abbrev FinMap (α β : Type) := AList fun _ : α => β

namespace FinMap

variable {α β : Type}

section Lookup

variable [DecidableEq α]

theorem lookup_insert_eq (map : FinMap α β) (key other : α) (value : β) :
    (map.insert key value).lookup other =
      if other = key then some value else map.lookup other := by
  by_cases same : other = key
  · subst same
    simp
  · simp [same]

theorem lookup_erase_eq (map : FinMap α β) (key other : α) :
    (map.erase key).lookup other =
      if other = key then none else map.lookup other := by
  by_cases same : other = key
  · subst same
    simp
  · simp [same]

theorem mem_entries {map : FinMap α β} {entry : Sigma fun _ : α => β} :
    entry ∈ map.entries ↔ map.lookup entry.1 = some entry.2 :=
  AList.mem_lookup_iff.symm

end Lookup

variable [DecidableEq α] [DecidableEq β]

/-- Each entry of one map is an entry of the other, turned around. -/
def Inverse (forward : FinMap α β) (backward : FinMap β α) : Prop :=
  ∀ key value, forward.lookup key = some value ↔
    backward.lookup value = some key

namespace Inverse

variable {forward : FinMap α β} {backward : FinMap β α}

theorem empty : Inverse (∅ : FinMap α β) (∅ : FinMap β α) := by
  intro key value
  simp

theorem insert (inverse : Inverse forward backward) {key : α} {value : β}
    (freshKey : forward.lookup key = none)
    (freshValue : backward.lookup value = none) :
    Inverse (AList.insert key value forward)
      (AList.insert value key backward) := by
  intro other image
  rw [lookup_insert_eq, lookup_insert_eq]
  by_cases sameKey : other = key
  · subst sameKey
    by_cases sameValue : image = value
    · simp [sameValue]
    · have absent : backward.lookup image ≠ some other := by
        intro present
        rw [(inverse other image).mpr present] at freshKey
        contradiction
      simp [sameValue, absent, Ne.symm sameValue]
  · by_cases sameValue : image = value
    · subst sameValue
      have absent : forward.lookup other ≠ some image := by
        intro present
        rw [(inverse other image).mp present] at freshValue
        contradiction
      simp [sameKey, absent, Ne.symm sameKey]
    · simp [sameKey, sameValue, inverse other image]

theorem erase (inverse : Inverse forward backward) {key : α} {value : β}
    (present : forward.lookup key = some value) :
    Inverse (AList.erase key forward) (AList.erase value backward) := by
  intro other image
  rw [lookup_erase_eq, lookup_erase_eq]
  by_cases sameKey : other = key
  · subst sameKey
    by_cases sameValue : image = value
    · simp [sameValue]
    · have absent : backward.lookup image ≠ some other := by
        intro stored
        rw [(inverse other image).mpr stored] at present
        exact sameValue (Option.some.inj present)
      simp [sameValue, absent]
  · by_cases sameValue : image = value
    · subst sameValue
      have absent : forward.lookup other ≠ some image := by
        intro stored
        have back := (inverse other image).mp stored
        rw [(inverse key image).mp present] at back
        exact sameKey (Option.some.inj back).symm
      simp [sameKey, absent]
    · simp [sameKey, sameValue, inverse other image]

theorem value_injective (inverse : Inverse forward backward)
    {first second : α} {value : β}
    (left : forward.lookup first = some value)
    (right : forward.lookup second = some value) : first = second := by
  have back := (inverse first value).mp left
  rw [(inverse second value).mp right] at back
  exact (Option.some.inj back).symm

theorem fresh_iff (inverse : Inverse forward backward) (value : β) :
    (∀ entry ∈ forward.entries, entry.2 ≠ value) ↔
      backward.lookup value = none := by
  constructor
  · intro fresh
    cases found : backward.lookup value with
    | none => rfl
    | some key =>
        have present := (inverse key value).mpr found
        exact absurd rfl (fresh ⟨key, value⟩ (mem_entries.mpr present))
  · intro unused entry member same
    have present := (inverse entry.1 entry.2).mp (mem_entries.mp member)
    rw [same, unused] at present
    contradiction

end Inverse

end FinMap

end GroupChat
