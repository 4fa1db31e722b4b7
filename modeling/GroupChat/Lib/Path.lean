import GroupChat.Lib.Machine

namespace GroupChat.Machine

/-! The part of a run between two of its states. -/

variable {State Label : Type} {machine : Machine State Label}

inductive Path (machine : Machine State Label) :
    State → List Label → State → Prop
  | nil (state : State) : Path machine state [] state
  | cons {before middle after : State} {label : Label} {labels : List Label}
      (allowed : machine.enabled before label)
      (moved : machine.next before label = .ok middle)
      (rest : Path machine middle labels after) :
      Path machine before (label :: labels) after

namespace Path

variable {before after : State} {labels : List Label}

theorem reached (path : Path machine before labels after)
    (first : machine.Reachable before) : machine.Reachable after := by
  induction path with
  | nil state => exact first
  | cons allowed moved rest induction =>
      exact induction (.step first allowed moved)

theorem to_restrict {permitted : State → Label → Prop}
    (path : Path machine before labels after)
    (always : ∀ state label, permitted state label) :
    Path (machine.restrict permitted) before labels after := by
  induction path with
  | nil state => exact .nil state
  | cons allowed moved rest induction =>
      exact .cons ⟨allowed, always _ _⟩ moved induction

theorem of_replay [∀ state, DecidablePred (machine.enabled state)]
    (replayed : machine.replay before labels = some after) :
    Path machine before labels after := by
  induction labels generalizing before with
  | nil =>
      cases replayed
      exact .nil _
  | cons label labels induction =>
      simp only [Machine.replay] at replayed
      split at replayed
      next allowed =>
        split at replayed
        next middle moved => exact .cons allowed moved (induction replayed)
        next => cases replayed
      next => cases replayed

end Path

end GroupChat.Machine
