import Mathlib.Data.List.Basic

namespace GroupChat

/-! A stream cut into blocks of one size; what does not fill a block waits. -/

variable {σ α : Type}

def blocks (size : Nat) (text : List α) : List (List α) :=
  (List.range (text.length / size)).map fun index =>
    (text.drop (size * index)).take size

def residue (size : Nat) (text : List α) : List α :=
  text.drop (size * (text.length / size))

namespace Blocks

variable {size : Nat}

theorem blocks_of_short {text : List α} (short : text.length < size) :
    blocks size text = [] := by
  rw [blocks, Nat.div_eq_of_lt short]
  rfl

theorem residue_of_short {text : List α} (short : text.length < size) :
    residue size text = text := by
  rw [residue, Nat.div_eq_of_lt short]
  rfl

theorem blocks_append_block {block text : List α} (positive : 0 < size)
    (full : block.length = size) :
    blocks size (block ++ text) = block :: blocks size text := by
  have count : (block ++ text).length / size = text.length / size + 1 := by
    rw [List.length_append, full, Nat.add_comm, Nat.add_div_right _ positive]
  rw [blocks, count, List.range_succ_eq_map, List.map_cons, List.map_map,
    Nat.mul_zero, List.drop_zero, ← full, List.take_left, full]
  apply congrArg (block :: ·)
  apply List.map_congr_left
  intro index _
  show ((block ++ text).drop (size * (index + 1))).take size =
    (text.drop (size * index)).take size
  rw [Nat.mul_succ, Nat.add_comm, ← List.drop_drop, ← full, List.drop_left]

theorem residue_append_block {block text : List α} (positive : 0 < size)
    (full : block.length = size) :
    residue size (block ++ text) = residue size text := by
  have count : (block ++ text).length / size = text.length / size + 1 := by
    rw [List.length_append, full, Nat.add_comm, Nat.add_div_right _ positive]
  rw [residue, count, Nat.mul_succ, Nat.add_comm, ← List.drop_drop, ← full,
    List.drop_left, residue]

theorem length_residue (text : List α) :
    (residue size text).length = text.length % size := by
  have parts := Nat.div_add_mod text.length size
  rw [residue, List.length_drop]
  omega

/-- The blocks of a text, one after the other: either it is too short for one
or a first block comes off. -/
theorem induction_blocks {motive : List α → Prop} (positive : 0 < size)
    (short : ∀ text, text.length < size → motive text)
    (block : ∀ block text, block.length = size → motive text →
      motive (block ++ text)) (text : List α) : motive text := by
  induction length : text.length using Nat.strongRecOn
    generalizing text with
  | ind count induction =>
      subst length
      rcases Nat.lt_or_ge text.length size with less | enough
      · exact short text less
      · rw [← List.take_append_drop size text]
        apply block
        · rw [List.length_take, Nat.min_eq_left enough]
        · apply induction (text.drop size).length _ _ rfl
          rw [List.length_drop]
          omega

theorem blocks_append (positive : 0 < size) (first second : List α) :
    blocks size (first ++ second) =
      blocks size first ++ blocks size (residue size first ++ second) := by
  induction first using induction_blocks positive with
  | short first short =>
      rw [blocks_of_short short, residue_of_short short]
      rfl
  | block block first full induction =>
      rw [List.append_assoc, blocks_append_block positive full, induction,
        blocks_append_block positive full,
        residue_append_block positive full]
      rfl

theorem residue_append (positive : 0 < size) (first second : List α) :
    residue size (first ++ second) =
      residue size (residue size first ++ second) := by
  induction first using induction_blocks positive with
  | short first short => rw [residue_of_short short]
  | block block first full induction =>
      rw [List.append_assoc, residue_append_block positive full, induction,
        residue_append_block positive full]

end Blocks

/-- A state that takes in whole blocks, and the start of the next block. -/
structure BlockStream (size : Nat) (σ α : Type) where
  state : σ
  pending : List α
  short : pending.length < size

namespace BlockStream

variable {size : Nat} (compress : σ → List α → σ)

def absorb (stream : BlockStream size σ α) (input : List α) :
    BlockStream size σ α where
  state := (blocks size (stream.pending ++ input)).foldl compress stream.state
  pending := residue size (stream.pending ++ input)
  short := by
    rw [Blocks.length_residue]
    exact Nat.mod_lt _ (Nat.lt_of_le_of_lt (Nat.zero_le _) stream.short)

theorem ext_fields {first second : BlockStream size σ α}
    (state : first.state = second.state)
    (pending : first.pending = second.pending) : first = second := by
  cases first
  cases second
  cases state
  cases pending
  rfl

theorem absorb_append (stream : BlockStream size σ α) (first second : List α) :
    (stream.absorb compress first).absorb compress second =
      stream.absorb compress (first ++ second) := by
  have positive : 0 < size := Nat.lt_of_le_of_lt (Nat.zero_le _) stream.short
  apply ext_fields
  · show ((blocks size (residue size (stream.pending ++ first) ++ second)).foldl
        compress ((blocks size (stream.pending ++ first)).foldl compress
          stream.state)) = _
    rw [← List.foldl_append, ← Blocks.blocks_append positive,
      List.append_assoc]
    rfl
  · show residue size (residue size (stream.pending ++ first) ++ second) = _
    rw [← Blocks.residue_append positive, List.append_assoc]
    rfl

end BlockStream

end GroupChat
