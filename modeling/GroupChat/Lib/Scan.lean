import Mathlib.Data.List.Basic

namespace GroupChat

/-! A scan over the numbers from low to high, and the list of those it picks. -/

structure Scan (picked : List Nat) (wanted : Nat → Prop) (bound : Nat) :
    Prop where
  sorted : picked.Pairwise (· < ·)
  mem_iff : ∀ number, number ∈ picked ↔ wanted number ∧ number < bound

namespace Scan

variable {picked : List Nat} {wanted wanted' : Nat → Prop} {bound bound' : Nat}

theorem start (above : ∀ number, wanted number → bound ≤ number) :
    Scan [] wanted bound where
  sorted := .nil
  mem_iff := by
    intro number
    constructor
    · intro member
      cases member
    · rintro ⟨wants, below⟩
      exact absurd below (Nat.not_lt.mpr (above number wants))

theorem congr (scan : Scan picked wanted bound)
    (same : ∀ number < bound, wanted number ↔ wanted' number) :
    Scan picked wanted' bound where
  sorted := scan.sorted
  mem_iff := fun number =>
    (scan.mem_iff number).trans (and_congr_left (same number))

theorem skip (scan : Scan picked wanted bound) (other : ¬ wanted bound) :
    Scan picked wanted (bound + 1) where
  sorted := scan.sorted
  mem_iff := by
    intro number
    rw [scan.mem_iff]
    constructor
    · exact fun here => ⟨here.1, Nat.lt_succ_of_lt here.2⟩
    · rintro ⟨wants, below⟩
      refine ⟨wants, Nat.lt_of_le_of_ne (Nat.le_of_lt_succ below) ?_⟩
      rintro rfl
      exact other wants

theorem take (scan : Scan picked wanted bound) (here : wanted bound) :
    Scan (picked ++ [bound]) wanted (bound + 1) where
  sorted := by
    apply List.pairwise_append.mpr
    refine ⟨scan.sorted, List.pairwise_singleton _ _, ?_⟩
    intro number member last same
    cases List.mem_singleton.mp same
    exact ((scan.mem_iff number).mp member).2
  mem_iff := by
    intro number
    rw [List.mem_append, List.mem_singleton, scan.mem_iff]
    constructor
    · rintro (⟨wants, below⟩ | rfl)
      · exact ⟨wants, Nat.lt_succ_of_lt below⟩
      · exact ⟨here, Nat.lt_succ_self _⟩
    · rintro ⟨wants, below⟩
      rcases Nat.lt_or_eq_of_le (Nat.le_of_lt_succ below) with less | same
      · exact .inl ⟨wants, less⟩
      · exact .inr same

theorem past (scan : Scan picked wanted bound)
    (all : ∀ number, wanted number → number < bound) (number : Nat) :
    number ∈ picked ↔ wanted number :=
  (scan.mem_iff number).trans (and_iff_left_of_imp (all number))

end Scan

end GroupChat
