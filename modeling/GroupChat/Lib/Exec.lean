namespace GroupChat

/-! Executions that may stop.  A stop is final: nothing after it runs. -/

/-- Why an execution stopped. -/
inductive Fault where
  | assertion
  | exception
  | undefined
  deriving DecidableEq, Repr

abbrev Exec (α : Type) := Except Fault α

namespace Exec

variable {α β : Type}

def require (condition : Prop) [Decidable condition] (fault : Fault) :
    Exec Unit :=
  if condition then .ok () else .error fault

/-- The value of an option that must be present. -/
def demand (value : Option α) (fault : Fault) : Exec α :=
  match value with
  | some result => .ok result
  | none => .error fault

def completes (run : Exec α) : Bool :=
  match run with
  | .ok _ => true
  | .error _ => false

def stop (run : Exec α) : Option Fault :=
  match run with
  | .ok _ => none
  | .error fault => some fault

@[simp] theorem bind_ok (value : α) (next : α → Exec β) :
    (Except.ok value >>= next) = next value := rfl

@[simp] theorem bind_error (fault : Fault) (next : α → Exec β) :
    ((Except.error fault : Exec α) >>= next) = .error fault := rfl

@[simp] theorem pure_eq_ok (value : α) : (pure value : Exec α) = .ok value := rfl

theorem of_bind_ok {run : Exec α} {next : α → Exec β} {result : β}
    (completed : run >>= next = .ok result) :
    ∃ middle, run = .ok middle ∧ next middle = .ok result := by
  cases run with
  | error fault => simp at completed
  | ok middle => exact ⟨middle, rfl, completed⟩

@[simp] theorem require_eq_ok {condition : Prop} [Decidable condition]
    {fault : Fault} {result : Unit} :
    require condition fault = .ok result ↔ condition := by
  unfold require
  split <;> simp [*]

theorem require_of {condition : Prop} [Decidable condition] {fault : Fault}
    (holds : condition) : require condition fault = .ok () := by
  simp [require, holds]

theorem require_of_not {condition : Prop} [Decidable condition] {fault : Fault}
    (fails : ¬ condition) : require condition fault = .error fault := by
  simp [require, fails]

@[simp] theorem demand_eq_ok {value : Option α} {fault : Fault} {result : α} :
    demand value fault = .ok result ↔ value = some result := by
  cases value <;> simp [demand]

@[simp] theorem demand_some (value : α) (fault : Fault) :
    demand (some value) fault = .ok value := rfl

@[simp] theorem demand_none (fault : Fault) :
    demand (none : Option α) fault = .error fault := rfl

@[simp] theorem completes_ok (value : α) :
    completes (.ok value : Exec α) = true := rfl

@[simp] theorem completes_error (fault : Fault) :
    completes (.error fault : Exec α) = false := rfl

theorem completes_iff {run : Exec α} :
    run.completes = true ↔ ∃ result, run = .ok result := by
  cases run <;> simp

/-- Whether the execution ends with a result that has a property. -/
def any (run : Exec α) (property : α → Bool) : Bool :=
  match run with
  | .ok result => property result
  | .error _ => false

theorem any_iff {run : Exec α} {property : α → Bool} :
    run.any property = true ↔
      ∃ result, run = .ok result ∧ property result = true := by
  cases run <;> simp [any]

end Exec

end GroupChat
