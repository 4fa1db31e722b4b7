import GroupChat.Lib.Exec

namespace GroupChat

/-! Machines whose steps may stop them. -/

structure Machine (State Label : Type) where
  initial : State → Prop
  enabled : State → Label → Prop
  next : State → Label → Exec State

namespace Machine

variable {State Label : Type}

/-- The running states a machine comes to between two steps. -/
inductive Reachable (machine : Machine State Label) : State → Prop
  | initial {state : State} (first : machine.initial state) :
      Reachable machine state
  | step {before after : State} {label : Label}
      (reached : Reachable machine before)
      (allowed : machine.enabled before label)
      (moved : machine.next before label = .ok after) :
      Reachable machine after

/-- A property that steps preserve from the states already known reachable. -/
structure Invariant (machine : Machine State Label)
    (property : State → Prop) : Prop where
  start : ∀ state, machine.initial state → property state
  kept : ∀ before label after, machine.Reachable before →
    property before → machine.enabled before label →
    machine.next before label = .ok after → property after

theorem Invariant.holds {machine : Machine State Label}
    {property : State → Prop} (invariant : machine.Invariant property)
    {state : State} (reached : machine.Reachable state) : property state := by
  induction reached with
  | initial first => exact invariant.start _ first
  | step reached allowed moved induction =>
      exact invariant.kept _ _ _ reached induction allowed moved

/-- The same machine, in the runs whose every step is also permitted. -/
def restrict (machine : Machine State Label)
    (permitted : State → Label → Prop) : Machine State Label where
  initial := machine.initial
  enabled := fun state label =>
    machine.enabled state label ∧ permitted state label
  next := machine.next

theorem Reachable.of_restrict {machine : Machine State Label}
    {permitted : State → Label → Prop} {state : State}
    (reached : (machine.restrict permitted).Reachable state) :
    machine.Reachable state := by
  induction reached with
  | initial first => exact .initial first
  | step _ allowed moved induction => exact .step induction allowed.1 moved

theorem Reachable.to_restrict {machine : Machine State Label}
    {permitted : State → Label → Prop} {state : State}
    (reached : machine.Reachable state)
    (always : ∀ state label, permitted state label) :
    (machine.restrict permitted).Reachable state := by
  induction reached with
  | initial first => exact .initial first
  | step _ allowed moved induction =>
      exact .step induction ⟨allowed, always _ _⟩ moved

theorem Reachable.of_restrict_restrict {machine : Machine State Label}
    {permitted permitted' : State → Label → Prop} {state : State}
    (reached : ((machine.restrict permitted).restrict permitted').Reachable
      state) : (machine.restrict permitted').Reachable state := by
  induction reached with
  | initial first => exact .initial first
  | step _ allowed moved induction =>
      exact .step induction ⟨allowed.1.1, allowed.2⟩ moved

/-- The same machine, in the runs that go on from a state. -/
def after (machine : Machine State Label) (state : State) :
    Machine State Label where
  initial := fun first => first = state
  enabled := machine.enabled
  next := machine.next

theorem Reachable.of_after {machine : Machine State Label}
    {before state : State} (first : machine.Reachable before)
    (reached : (machine.after before).Reachable state) :
    machine.Reachable state := by
  induction reached with
  | initial same => exact same ▸ first
  | step _ allowed moved induction => exact .step induction allowed moved

section Replay

variable (machine : Machine State Label)
  [∀ state, DecidablePred (machine.enabled state)]

/-- Take the steps of a schedule one after the other; there is no result where
one of them is not enabled or stops the machine. -/
def replay (state : State) : List Label → Option State
  | [] => some state
  | label :: schedule =>
      if machine.enabled state label then
        match machine.next state label with
        | .ok middle => replay middle schedule
        | .error _ => none
      else none

variable {machine}

theorem Reachable.replay {schedule : List Label} {before after : State}
    (reached : machine.Reachable before)
    (replayed : machine.replay before schedule = some after) :
    machine.Reachable after := by
  induction schedule generalizing before with
  | nil =>
      cases replayed
      exact reached
  | cons label schedule induction =>
      simp only [Machine.replay] at replayed
      split at replayed
      · rename_i allowed
        split at replayed
        · rename_i middle moved
          exact induction (.step reached allowed moved) replayed
        · contradiction
      · contradiction

theorem Reachable.of_replay {schedule : List Label} {before : State}
    {property : State → Bool}
    (replayed : (machine.replay before schedule).any property = true)
    (first : machine.initial before) :
    ∃ after, machine.Reachable after ∧ property after = true := by
  obtain ⟨after, taken, holds⟩ := (Option.any_eq_true _ _).mp replayed
  exact ⟨after, (Reachable.initial first).replay taken, holds⟩

end Replay

instance (machine : Machine State Label) (before : State)
    [∀ state, DecidablePred (machine.enabled state)] (state : State) :
    DecidablePred ((machine.after before).enabled state) :=
  inferInstanceAs (DecidablePred (machine.enabled state))

instance (machine : Machine State Label)
    (permitted : State → Label → Prop)
    [∀ state, DecidablePred (machine.enabled state)]
    [∀ state, DecidablePred (permitted state)] (state : State) :
    DecidablePred ((machine.restrict permitted).enabled state) :=
  fun label => inferInstanceAs
    (Decidable (machine.enabled state label ∧ permitted state label))

end Machine

end GroupChat
