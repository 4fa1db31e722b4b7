import Mathlib.Data.List.Nodup
import Mathlib.Data.List.Perm.Subperm
import Mathlib.Data.List.Range

namespace GroupChat

/-! Numbers below a limit, and the lowest number that is free. -/

theorem length_le_of_below {numbers : List Nat} {limit : Nat}
    (distinct : numbers.Nodup) (below : ∀ number ∈ numbers, number < limit) :
    numbers.length ≤ limit := by
  have fewer : numbers.Subperm (List.range limit) :=
    List.subperm_of_subset distinct fun number member =>
      List.mem_range.mpr (below number member)
  simpa only [List.length_range] using fewer.length_le

structure LowestFree (used : Nat → Prop) (number : Nat) : Prop where
  free : ¬ used number
  lowest : ∀ other, other < number → used other

theorem LowestFree.lt_iff {used : Nat → Prop} {number limit : Nat}
    (lowest : LowestFree used number) {below : List Nat}
    (distinct : below.Nodup)
    (members : ∀ other, other ∈ below ↔ used other ∧ other < limit) :
    number < limit ↔ below.length < limit := by
  constructor
  · intro inside
    have fresh : number ∉ below := fun member =>
      lowest.free ((members number).mp member).1
    have bounded : ∀ other ∈ number :: below, other < limit := by
      intro other member
      rcases List.mem_cons.mp member with rfl | member
      · exact inside
      · exact ((members other).mp member).2
    exact length_le_of_below (List.nodup_cons.mpr ⟨fresh, distinct⟩) bounded
  · intro room
    by_contra outside
    have whole : (List.range limit).Subperm below :=
      List.subperm_of_subset List.nodup_range fun other member =>
        (members other).mpr ⟨lowest.lowest other
          (Nat.lt_of_lt_of_le (List.mem_range.mp member)
            (Nat.le_of_not_lt outside)), List.mem_range.mp member⟩
    have many := whole.length_le
    rw [List.length_range] at many
    omega

end GroupChat
