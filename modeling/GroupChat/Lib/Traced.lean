import GroupChat.Lib.Bytes

namespace GroupChat

/-! Executions with a record of the bytes they read of a buffer and of the sizes
they subtract. -/

inductive Access where
  | read (offset size : Nat)
  | subtract (minuend subtrahend : Nat)
  deriving DecidableEq, Repr

/-- The bytes that are read are there, and a difference is no negative
number. -/
def Access.Inside (data : Buffer) : Access → Prop
  | .read offset size => offset + size ≤ data.length
  | .subtract minuend subtrahend => subtrahend ≤ minuend

structure Traced (α : Type) where
  accesses : List Access
  run : Exec α

namespace Traced

variable {α β : Type}

def lift (run : Exec α) : Traced α := ⟨[], run⟩

/-- What comes after a stop is not recorded. -/
def bind (first : Traced α) (next : α → Traced β) : Traced β where
  accesses := first.accesses ++
    match first.run with
    | .ok value => (next value).accesses
    | .error _ => []
  run := first.run >>= fun value => (next value).run

instance : Monad Traced where
  pure value := lift (.ok value)
  bind := bind

@[simp] theorem run_lift (run : Exec α) : (lift run).run = run := rfl

@[simp] theorem run_pure (value : α) :
    (pure value : Traced α).run = .ok value := rfl

@[simp] theorem run_bind (first : Traced α) (next : α → Traced β) :
    (first >>= next).run = first.run >>= fun value => (next value).run := rfl

@[simp] theorem run_ite {condition : Prop} [Decidable condition]
    (first second : Traced α) :
    (if condition then first else second).run =
      if condition then first.run else second.run := by
  split <;> rfl

theorem accesses_bind {first : Traced α} {value : α}
    (before : first.run = .ok value) (next : α → Traced β) :
    (first >>= next).accesses = first.accesses ++ (next value).accesses := by
  cases first with
  | mk accesses run =>
      cases before
      rfl

def Stays (data : Buffer) (traced : Traced α) : Prop :=
  ∀ access ∈ traced.accesses, access.Inside data

variable {data : Buffer}

@[simp] theorem stays_lift (run : Exec α) : (lift run).Stays data :=
  fun _ member => absurd member List.not_mem_nil

@[simp] theorem stays_pure (value : α) : (pure value : Traced α).Stays data :=
  stays_lift (.ok value)

theorem stays_bind {first : Traced α} {next : α → Traced β} :
    (first >>= next).Stays data ↔ first.Stays data ∧
      ∀ value, first.run = .ok value → (next value).Stays data := by
  have accesses : (first >>= next).accesses = first.accesses ++
      match first.run with
      | .ok value => (next value).accesses
      | .error _ => [] := rfl
  unfold Stays
  rw [accesses]
  simp only [List.mem_append, or_imp, forall_and]
  cases first.run with
  | error fault => simp
  | ok value => simp

theorem stays_lift_bind {run : Exec α} {next : α → Traced β} :
    (lift run >>= next).Stays data ↔
      ∀ value, run = .ok value → (next value).Stays data := by
  rw [stays_bind]
  simp

end Traced

namespace Buffer

def readWord (data : Buffer) (offset : Nat) : Traced UInt32 :=
  ⟨[.read offset 4], data.wordAt offset⟩

@[simp] theorem run_readWord (data : Buffer) (offset : Nat) :
    (data.readWord offset).run = data.wordAt offset := rfl

@[simp] theorem stays_readWord {data : Buffer} {offset : Nat} :
    (data.readWord offset).Stays data ↔ offset + 4 ≤ data.length := by
  simp [Traced.Stays, readWord, Access.Inside]

end Buffer

end GroupChat
