import Mathlib.Data.List.TakeWhile
import GroupChat.Lib.Exec

namespace GroupChat

/-! Bytes in memory and on the wire. -/

abbrev Buffer := List UInt8

namespace Buffer

def ofText (text : String) : Buffer :=
  text.toList.map fun letter => letter.toNat.toUInt8

/-- What a C string function sees of a buffer. -/
def cString (bytes : Buffer) : Buffer :=
  bytes.takeWhile (· ≠ 0)

/-- Memory after `bytes` were stored at `offset`. -/
def overwrite (memory : Buffer) (offset : Nat) (bytes : Buffer) : Buffer :=
  memory.take offset ++ bytes ++ memory.drop (offset + bytes.length)

def resize (bytes : Buffer) (size : Nat) : Buffer :=
  bytes.take size ++ List.replicate (size - bytes.length) 0

def ofWord (word : UInt32) : Buffer :=
  [UInt8.ofNat (word.toNat / 16777216), UInt8.ofNat (word.toNat / 65536),
    UInt8.ofNat (word.toNat / 256), UInt8.ofNat word.toNat]

def toWord (b3 b2 b1 b0 : UInt8) : UInt32 :=
  UInt32.ofNat
    (((b3.toNat * 256 + b2.toNat) * 256 + b1.toNat) * 256 + b0.toNat)

/-- Read a word at an offset; outside the buffer there is nothing to read. -/
def wordAt (bytes : Buffer) (offset : Nat) : Exec UInt32 :=
  match bytes.drop offset with
  | b3 :: b2 :: b1 :: b0 :: _ => .ok (toWord b3 b2 b1 b0)
  | _ => .error .undefined

theorem ofText_split {whole front back : String}
    (cut : whole = front ++ back) :
    ofText whole = ofText front ++ ofText back := by
  rw [cut, ofText, String.toList_append, List.map_append]
  rfl

theorem ofText_append_ne {first second : String} {x y : Buffer} (index : Nat)
    (inside : index < (ofText first).length)
    (inside' : index < (ofText second).length)
    (differs : (ofText first)[index]? ≠ (ofText second)[index]?) :
    ofText first ++ x ≠ ofText second ++ y := by
  intro same
  have letter : (ofText first ++ x)[index]? = (ofText second ++ y)[index]? := by
    rw [same]
  rw [List.getElem?_append_left inside,
    List.getElem?_append_left inside'] at letter
  exact differs letter

theorem cString_of_clean {bytes : Buffer} (clean : (0 : UInt8) ∉ bytes) :
    bytes.cString = bytes := by
  apply List.takeWhile_eq_self_iff.mpr
  intro byte member
  exact decide_eq_true fun zero => clean (zero ▸ member)

theorem prefix_cString {front text : Buffer} (clean : (0 : UInt8) ∉ front)
    (begins : front <+: text) : front <+: text.cString := by
  obtain ⟨rest, rfl⟩ := begins
  have all : ∀ byte ∈ front, decide (byte ≠ 0) = true := fun byte member =>
    decide_eq_true fun zero => clean (zero ▸ member)
  rw [cString, List.takeWhile_append_of_pos all]
  exact List.prefix_append _ _

@[simp] theorem length_ofWord (word : UInt32) : (ofWord word).length = 4 := rfl

theorem toWord_ofWord (word : UInt32) :
    toWord (UInt8.ofNat (word.toNat / 16777216))
      (UInt8.ofNat (word.toNat / 65536)) (UInt8.ofNat (word.toNat / 256))
      (UInt8.ofNat word.toNat) = word := by
  apply UInt32.toNat.inj
  have bound := word.toNat_lt
  simp only [toWord, UInt32.toNat_ofNat', UInt8.toNat_ofNat']
  omega

@[simp] theorem wordAt_ofWord (word : UInt32) (rest : Buffer) :
    wordAt (ofWord word ++ rest) 0 = .ok word := by
  simp only [wordAt, ofWord, List.drop_zero, List.cons_append, toWord_ofWord]

theorem wordAt_of_length {bytes : Buffer} {offset : Nat}
    (inside : offset + 4 ≤ bytes.length) :
    ∃ word, wordAt bytes offset = .ok word := by
  unfold wordAt
  rcases tail : bytes.drop offset with _ | ⟨b3, _ | ⟨b2, _ | ⟨b1, _ | ⟨b0, rest⟩⟩⟩⟩
  case cons.cons.cons.cons => exact ⟨_, rfl⟩
  all_goals
    have size := congrArg List.length tail
    simp at size
    omega

theorem length_of_wordAt {bytes : Buffer} {offset : Nat} {word : UInt32}
    (read : wordAt bytes offset = .ok word) : offset + 4 ≤ bytes.length := by
  unfold wordAt at read
  rcases tail : bytes.drop offset with _ | ⟨b3, _ | ⟨b2, _ | ⟨b1, _ | ⟨b0, rest⟩⟩⟩⟩
  case cons.cons.cons.cons =>
    have size := congrArg List.length tail
    simp at size
    omega
  all_goals simp [tail] at read

@[simp] theorem length_overwrite {memory : Buffer} {offset : Nat}
    {bytes : Buffer} (inside : offset + bytes.length ≤ memory.length) :
    (memory.overwrite offset bytes).length = memory.length := by
  simp [overwrite]
  omega

theorem take_overwrite {memory : Buffer} {offset : Nat} {bytes : Buffer}
    (inside : offset ≤ memory.length) :
    (memory.overwrite offset bytes).take (offset + bytes.length) =
      memory.take offset ++ bytes := by
  have size : (memory.take offset ++ bytes).length = offset + bytes.length := by
    simp [Nat.min_eq_left inside]
  rw [overwrite, ← size, List.take_left]

@[simp] theorem length_resize (bytes : Buffer) (size : Nat) :
    (bytes.resize size).length = size := by
  simp [resize]
  omega

theorem take_resize {bytes : Buffer} {size count : Nat}
    (inBytes : count ≤ bytes.length) (inSize : count ≤ size) :
    (bytes.resize size).take count = bytes.take count := by
  rw [resize, List.take_append_of_le_length
    (by rw [List.length_take]; omega), List.take_take, Nat.min_eq_left inSize]

theorem take_append_of_prefix {bytes chunk : Buffer} {offset : Nat}
    (next : chunk <+: bytes.drop offset) :
    bytes.take offset ++ chunk = bytes.take (offset + chunk.length) := by
  rw [List.take_add, ← List.prefix_iff_eq_take.mp next]

end Buffer

/-! Sixteen-bit words between host order and network order, on a little-endian
host: the two bytes change places. -/

def htons (word : UInt16) : UInt16 :=
  UInt16.ofNat (word.toNat % 256 * 256 + word.toNat / 256)

def ntohs (word : UInt16) : UInt16 :=
  htons word

@[simp] theorem ntohs_htons (word : UInt16) : ntohs (htons word) = word := by
  apply UInt16.toNat.inj
  have bound := word.toNat_lt
  have swapped : word.toNat % 256 * 256 + word.toNat / 256 < 2 ^ 16 := by omega
  have low : (word.toNat % 256 * 256 + word.toNat / 256) % 256 =
      word.toNat / 256 := by omega
  have high : (word.toNat % 256 * 256 + word.toNat / 256) / 256 =
      word.toNat % 256 := by omega
  simp only [ntohs, htons, UInt16.toNat_ofNat', Nat.mod_eq_of_lt swapped]
  rw [low, high, Nat.div_add_mod', Nat.mod_eq_of_lt bound]

end GroupChat
