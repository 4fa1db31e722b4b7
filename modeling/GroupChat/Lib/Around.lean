import Mathlib.Data.List.Nodup

namespace GroupChat.Around

/-! Lists around one of their entries. -/

variable {α κ : Type}

theorem countP_eq_one_iff {p : α → Bool} {list : List α} :
    list.countP p = 1 ↔ ∃ before entry after,
      list = before ++ entry :: after ∧ p entry = true ∧
        ∀ other ∈ before ++ after, p other = false := by
  constructor
  · intro one
    rw [List.countP_eq_length_filter, List.length_eq_one_iff] at one
    obtain ⟨entry, only⟩ := one
    obtain ⟨before, after, split, none, holds, rest⟩ :=
      List.filter_eq_cons_iff.mp only
    refine ⟨before, entry, after, split, holds, ?_⟩
    intro other member
    apply Bool.eq_false_iff.mpr
    rcases List.mem_append.mp member with earlier | later
    · exact none other earlier
    · exact List.filter_eq_nil_iff.mp rest other later
  · rintro ⟨before, entry, after, rfl, holds, rest⟩
    have none : (before ++ after).countP p = 0 :=
      List.countP_eq_zero.mpr fun other member => by simp [rest other member]
    rw [List.countP_append] at none
    rw [List.countP_append, List.countP_cons_of_pos holds]
    omega

theorem countP_eq_one_iff_filter {p : α → Bool} {list : List α} :
    list.countP p = 1 ↔ ∃ before entry after,
      list = before ++ entry :: after ∧ p entry = true ∧
        (list.filter fun other => !p other) = before ++ after := by
  constructor
  · intro one
    obtain ⟨before, entry, after, rfl, holds, rest⟩ :=
      countP_eq_one_iff.mp one
    refine ⟨before, entry, after, rfl, holds, ?_⟩
    have kept : (before ++ after).filter (fun other => !p other) =
        before ++ after :=
      List.filter_eq_self.mpr fun other member => by simp [rest other member]
    rw [List.filter_append] at kept
    rw [List.filter_append, List.filter_cons_of_neg (by simp [holds]), kept]
  · rintro ⟨before, entry, after, rfl, holds, kept⟩
    have lengths := congrArg List.length kept
    have parts := List.length_eq_countP_add_countP p
      (l := before ++ entry :: after)
    rw [← List.countP_eq_length_filter, List.length_append] at lengths
    have same : (before ++ entry :: after).countP (fun other => !p other) =
        (before ++ entry :: after).countP fun other => ¬ p other = true := by
      simp
    rw [List.length_append, List.length_cons, ← same, lengths] at parts
    omega

theorem map_eq_split_iff {f : α → α} {before after : List α} {entry : α} :
    (before ++ entry :: after).map f = before ++ f entry :: after ↔
      ∀ other ∈ before ++ after, f other = other := by
  have fixed (list : List α) :
      list.map f = list ↔ ∀ other ∈ list, f other = other := by
    have same := @List.map_inj_left _ _ list f id
    rwa [List.map_id] at same
  rw [List.map_append, List.map_cons, ← fixed, List.map_append]
  constructor
  · intro same
    obtain ⟨front, rest⟩ := List.append_inj same (List.length_map f)
    rw [front, (List.cons.inj rest).2]
  · intro same
    obtain ⟨front, back⟩ := List.append_inj same (List.length_map f)
    rw [front, back]

theorem mem_around_iff {key : α → κ} {before after : List α} {entry : α}
    (distinct : ((before ++ entry :: after).map key).Nodup) {other : α} :
    other ∈ before ++ after ↔
      other ∈ before ++ entry :: after ∧ key other ≠ key entry := by
  have apart : key entry ∉ (before ++ after).map key := by
    have moved := (List.perm_middle.map key).nodup_iff.mp distinct
    exact (List.nodup_cons.mp moved).1
  constructor
  · intro member
    refine ⟨?_, fun same => apart (same ▸ List.mem_map_of_mem member)⟩
    exact List.perm_middle.mem_iff.mpr (.tail entry member)
  · rintro ⟨member, other⟩
    rcases List.mem_cons.mp (List.perm_middle.mem_iff.mp member) with
      rfl | around
    · exact absurd rfl other
    · exact around

end GroupChat.Around
