import GroupChat.Lib.Path

namespace GroupChat.Machine

/-! Machines whose steps, seen through a view, are steps of another one. -/

variable {State Label State' Label' : Type}

/-- A step of the first machine is one of the second, which it means; or it
means none and leaves the view alone. -/
structure Refines (concrete : Machine State Label)
    (abstract : Machine State' Label') (view : State → State')
    (means : State → Label → Label' → Prop) : Prop where
  start : ∀ state, concrete.initial state → abstract.initial (view state)
  step : ∀ before label after, concrete.Reachable before →
    concrete.enabled before label → concrete.next before label = .ok after →
    view after = view before ∧ (∀ deed, ¬ means before label deed) ∨
      ∃ deed, means before label deed ∧
        abstract.enabled (view before) deed ∧
        abstract.next (view before) deed = .ok (view after)

/-- A part of a run with the deeds it is: each step is a deed that it means, or
means none and leaves the view alone. -/
inductive Enacts (concrete : Machine State Label)
    (abstract : Machine State' Label') (view : State → State')
    (means : State → Label → Label' → Prop) :
    State → List Label → List Label' → State → Prop
  | nil (state : State) : Enacts concrete abstract view means state [] [] state
  | idle {before middle after : State} {label : Label} {labels : List Label}
      {deeds : List Label'}
      (allowed : concrete.enabled before label)
      (moved : concrete.next before label = .ok middle)
      (same : view middle = view before)
      (silent : ∀ deed, ¬ means before label deed)
      (rest : Enacts concrete abstract view means middle labels deeds after) :
      Enacts concrete abstract view means before (label :: labels) deeds after
  | deed {before middle after : State} {label : Label} {labels : List Label}
      {deed : Label'} {deeds : List Label'}
      (allowed : concrete.enabled before label)
      (moved : concrete.next before label = .ok middle)
      (meant : means before label deed)
      (possible : abstract.enabled (view before) deed)
      (done : abstract.next (view before) deed = .ok (view middle))
      (rest : Enacts concrete abstract view means middle labels deeds after) :
      Enacts concrete abstract view means before (label :: labels)
        (deed :: deeds) after

namespace Enacts

variable {concrete : Machine State Label} {abstract : Machine State' Label'}
  {view : State → State'} {means : State → Label → Label' → Prop}
  {before after : State} {labels : List Label} {deeds : List Label'}

theorem path (enacts : Enacts concrete abstract view means before labels deeds
    after) : Path abstract (view before) deeds (view after) := by
  induction enacts with
  | nil state => exact .nil (view state)
  | idle allowed moved same silent rest induction =>
      rw [same] at induction
      exact induction
  | deed allowed moved meant possible done rest induction =>
      exact .cons possible done induction

theorem meant (enacts : Enacts concrete abstract view means before labels deeds
    after) {property : State → Prop} (first : property before)
    (kept : ∀ state label next, property state →
      concrete.enabled state label → concrete.next state label = .ok next →
      property next) :
    ∀ deed ∈ deeds, ∃ state label, property state ∧
      concrete.enabled state label ∧ means state label deed := by
  induction enacts with
  | nil state =>
      intro deed member
      cases member
  | idle allowed moved same silent rest induction =>
      exact induction (kept _ _ _ first allowed moved)
  | deed allowed moved meant possible done rest induction =>
      intro deed member
      rcases List.mem_cons.mp member with here | there
      · rw [here]
        exact ⟨_, _, first, allowed, meant⟩
      · exact induction (kept _ _ _ first allowed moved) deed there

theorem of_restrict {permitted : State → Label → Prop}
    (enacts : Enacts (concrete.restrict permitted) abstract view means before
      labels deeds after) :
    Enacts concrete abstract view means before labels deeds after := by
  induction enacts with
  | nil state => exact .nil state
  | idle allowed moved same silent rest induction =>
      exact .idle allowed.1 moved same silent induction
  | deed allowed moved meant possible done rest induction =>
      exact .deed allowed.1 moved meant possible done induction

end Enacts

namespace Refines

variable {concrete : Machine State Label} {abstract : Machine State' Label'}
  {view : State → State'} {means : State → Label → Label' → Prop}

/-- A part of a run whose steps are permitted, as the deeds it is. -/
theorem enacts (refines : Refines concrete abstract view means)
    {permitted : State → Label → Prop} {before after : State}
    {labels : List Label}
    (taken : Path (concrete.restrict permitted) before labels after)
    (first : concrete.Reachable before) :
    ∃ deeds, Enacts (concrete.restrict permitted) abstract view means before
      labels deeds after := by
  induction taken with
  | nil state => exact ⟨[], .nil state⟩
  | cons allowed moved rest induction =>
      obtain ⟨deeds, onward⟩ := induction (.step first allowed.1 moved)
      rcases refines.step _ _ _ first allowed.1 moved with idle | deed
      · exact ⟨deeds, .idle allowed moved idle.1 idle.2 onward⟩
      · obtain ⟨deed, meant, possible, done⟩ := deed
        exact ⟨deed :: deeds, .deed allowed moved meant possible done onward⟩

theorem enacts_all (refines : Refines concrete abstract view means)
    {before after : State} {labels : List Label}
    (taken : Path concrete before labels after)
    (first : concrete.Reachable before) :
    ∃ deeds, Enacts concrete abstract view means before labels deeds
      after := by
  obtain ⟨deeds, enacts⟩ :=
    refines.enacts (taken.to_restrict fun _ _ => trivial) first
  exact ⟨deeds, enacts.of_restrict⟩

end Refines

end GroupChat.Machine
