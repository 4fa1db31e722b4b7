import Mathlib.Algebra.GroupWithZero.Nat
import GroupChat.Lib.Blocks
import GroupChat.Server.MD5

namespace GroupChat.Server.MD5

/-! The hash as a function of the text alone, and that the object computes it
however the text is handed over. -/

abbrev Words := UInt32 × UInt32 × UInt32 × UInt32

def compress (words : Words) (block : Buffer) : Words :=
  (({ init with state := words } : MD5).transform block).state

theorem transform_eq (md5 : MD5) (block : Buffer) :
    md5.transform block = { md5 with state := compress md5.state block } := rfl

def bitCount (text : Buffer) : Buffer :=
  (List.range 8).map fun index => UInt8.ofNat (8 * text.length / 256 ^ index)

def padded (text : Buffer) : Buffer :=
  text ++ (0x80 :: List.replicate ((119 - text.length % 64) % 64) 0) ++
    bitCount text

def digest (text : Buffer) : Buffer :=
  let (a, b, c, d) := (blocks 64 (padded text)).foldl compress init.state
  encode [a, b, c, d]

def stream (text : Buffer) : BlockStream 64 Words UInt8 :=
  BlockStream.absorb compress ⟨init.state, [], by decide⟩ text

theorem stream_append (text input : Buffer) :
    stream (text ++ input) = (stream text).absorb compress input :=
  (BlockStream.absorb_append compress _ text input).symm

theorem length_pending (text : Buffer) :
    (stream text).pending.length = text.length % 64 :=
  Blocks.length_residue text

/-- The object has taken in a text. -/
structure Holds (md5 : MD5) (text : Buffer) : Prop where
  room : md5.buffer.length = 64
  words : md5.state = (stream text).state
  waiting : (stream text).pending <+: md5.buffer
  bits : md5.countLow.toNat + 4294967296 * md5.countHigh.toNat =
    8 * text.length % 18446744073709551616

theorem init_holds : Holds init [] where
  room := rfl
  words := rfl
  waiting := List.nil_prefix
  bits := rfl

theorem transformBlocks_eq {fuel : Nat} {md5 : MD5} {input : Buffer}
    (enough : input.length ≤ fuel) :
    transformBlocks fuel md5 input =
      ({ md5 with state := (blocks 64 input).foldl compress md5.state },
        residue 64 input) := by
  induction fuel generalizing md5 input with
  | zero =>
      cases List.length_eq_zero_iff.mp (Nat.le_zero.mp enough)
      rfl
  | succ fuel induction =>
      rw [transformBlocks]
      split
      next whole =>
        change 64 ≤ input.length at whole
        have full : (input.take 64).length = 64 := by
          rw [List.length_take, Nat.min_eq_left whole]
        have cut := List.take_append_drop 64 input
        have split : blocks 64 (input.take 64 ++ input.drop 64) = _ :=
          Blocks.blocks_append_block (by decide) full
        have left : residue 64 (input.take 64 ++ input.drop 64) = _ :=
          Blocks.residue_append_block (by decide) full
        rw [cut] at split left
        have less : (input.drop 64).length ≤ fuel := by
          rw [List.length_drop]
          omega
        rw [split, left, List.foldl_cons, blocksize, induction less,
          transform_eq]
      next part =>
        have short : input.length < 64 := Nat.lt_of_not_le part
        rw [Blocks.blocks_of_short short, Blocks.residue_of_short short]
        rfl

namespace Holds

variable {md5 : MD5} {text : Buffer}

theorem low (holds : Holds md5 text) :
    md5.countLow.toNat = 8 * text.length % 4294967296 := by
  have bits := holds.bits
  have bound := md5.countLow.toNat_lt
  omega

theorem high (holds : Holds md5 text) :
    md5.countHigh.toNat = 8 * text.length / 4294967296 % 4294967296 := by
  have bits := holds.bits
  have bound := md5.countLow.toNat_lt
  have bound' := md5.countHigh.toNat_lt
  omega

theorem index (holds : Holds md5 text) :
    (md5.countLow / 8 % 64).toNat = (stream text).pending.length := by
  rw [length_pending, UInt32.toNat_mod, UInt32.toNat_div, holds.low]
  show 8 * text.length % 4294967296 / 8 % 64 = text.length % 64
  omega

theorem front (holds : Holds md5 text) :
    md5.buffer.take (stream text).pending.length = (stream text).pending :=
  (List.prefix_iff_eq_take.mp holds.waiting).symm

end Holds

def counted (md5 : MD5) (input : Buffer) : MD5 :=
  let length := UInt32.ofNat input.length
  let countLow := md5.countLow + (length <<< 3)
  let carry : UInt32 := if countLow < (length <<< 3) then 1 else 0
  { md5 with
    countLow := countLow
    countHigh := md5.countHigh + carry + (length >>> 29) }

theorem counted_bits {md5 : MD5} {text input : Buffer}
    (holds : Holds md5 text) (size : input.length < 4294967296) :
    (md5.counted input).countLow.toNat +
        4294967296 * (md5.counted input).countHigh.toNat =
      8 * (text ++ input).length % 18446744073709551616 := by
  have before := holds.bits
  have length : (UInt32.ofNat input.length).toNat = input.length :=
    UInt32.toNat_ofNat_of_lt' size
  have shifted : (UInt32.ofNat input.length <<< 3).toNat =
      input.length * 8 % 4294967296 := by
    rw [UInt32.toNat_shiftLeft, Nat.shiftLeft_eq, length]
    rfl
  have top : (UInt32.ofNat input.length >>> 29).toNat =
      input.length / 536870912 := by
    rw [UInt32.toNat_shiftRight, Nat.shiftRight_eq_div_pow, length]
    rfl
  have lowBound := md5.countLow.toNat_lt
  have highBound := md5.countHigh.toNat_lt
  rw [List.length_append]
  simp only [counted]
  split
  next wraps =>
    rw [UInt32.lt_iff_toNat_lt, UInt32.toNat_add, shifted] at wraps
    simp only [UInt32.toNat_add, shifted, top, UInt32.toNat_one]
    omega
  next fits =>
    rw [UInt32.lt_iff_toNat_lt, UInt32.toNat_add, shifted] at fits
    simp only [UInt32.toNat_add, shifted, top, UInt32.toNat_zero]
    omega

theorem update_eq (md5 : MD5) (input : Buffer) {index : Nat}
    (used : (md5.countLow / 8 % 64).toNat = index) :
    md5.update input =
      if 64 - index ≤ input.length then
        let buffer := md5.buffer.overwrite index (input.take (64 - index))
        let (done, rest) := transformBlocks input.length
          ({ md5.counted input with buffer := buffer }.transform buffer)
          (input.drop (64 - index))
        { done with buffer := done.buffer.overwrite 0 rest }
      else
        { md5.counted input with
          buffer := md5.buffer.overwrite index input } := by
  subst used
  rfl

section

variable {md5 : MD5} {text input : Buffer} (holds : Holds md5 text)
include holds

theorem update_part (part : input.length < 64 - (stream text).pending.length) :
    md5.update input = { md5.counted input with
      buffer := md5.buffer.overwrite (stream text).pending.length input } := by
  rw [update_eq md5 input holds.index, if_neg (Nat.not_le_of_lt part)]

/-- The block in the buffer is completed, the other whole blocks follow. -/
theorem update_full (fills : 64 - (stream text).pending.length ≤ input.length) :
    ∃ block : Buffer, block.length = 64 ∧
      md5.update input = { md5.counted input with
        state := (blocks 64 ((stream text).pending ++ input)).foldl compress
          md5.state
        buffer := block.overwrite 0
          (residue 64 ((stream text).pending ++ input)) } := by
  have short := (stream text).short
  have full : ((stream text).pending ++
      input.take (64 - (stream text).pending.length)).length = 64 := by
    rw [List.length_append, List.length_take, Nat.min_eq_left fills]
    omega
  have whole : md5.buffer.overwrite (stream text).pending.length
      (input.take (64 - (stream text).pending.length)) =
      (stream text).pending ++
        input.take (64 - (stream text).pending.length) := by
    have used : md5.buffer.length ≤ (stream text).pending.length +
        (input.take (64 - (stream text).pending.length)).length := by
      rw [holds.room, ← List.length_append, full]
    rw [Buffer.overwrite, holds.front, List.drop_eq_nil_of_le used,
      List.append_nil]
  have cut : (stream text).pending ++ input = ((stream text).pending ++
      input.take (64 - (stream text).pending.length)) ++
      input.drop (64 - (stream text).pending.length) := by
    rw [List.append_assoc, List.take_append_drop]
  refine ⟨_, full, ?_⟩
  rw [cut, Blocks.blocks_append_block (by decide) full,
    Blocks.residue_append_block (by decide) full, List.foldl_cons, ← whole]
  have fuel : (input.drop (64 - (stream text).pending.length)).length ≤
      input.length := by
    rw [List.length_drop]
    exact Nat.sub_le _ _
  rw [update_eq md5 input holds.index, if_pos fills]
  dsimp only
  rw [transformBlocks_eq fuel, transform_eq]
  rfl

theorem update_holds (size : input.length < 4294967296) :
    Holds (md5.update input) (text ++ input) := by
  have short := (stream text).short
  have bits := counted_bits holds size
  rcases Nat.lt_or_ge input.length (64 - (stream text).pending.length) with
    part | fills
  · have waits : ((stream text).pending ++ input).length < 64 := by
      rw [List.length_append]
      omega
    have room : (stream text).pending.length + input.length ≤
        md5.buffer.length := by
      rw [holds.room]
      omega
    rw [update_part holds part]
    constructor
    case room =>
      show (md5.buffer.overwrite _ input).length = 64
      rw [Buffer.length_overwrite room, holds.room]
    case words =>
      show md5.state = _
      rw [holds.words, stream_append, BlockStream.absorb,
        Blocks.blocks_of_short waits]
      rfl
    case waiting =>
      have next : (stream (text ++ input)).pending =
          (stream text).pending ++ input := by
        rw [stream_append]
        exact Blocks.residue_of_short waits
      have front : (stream text).pending ++ input <+:
          md5.buffer.overwrite (stream text).pending.length input := by
        rw [Buffer.overwrite, holds.front]
        exact List.prefix_append _ _
      rw [next]
      exact front
    case bits => exact bits
  · obtain ⟨block, room, same⟩ := update_full holds fills
    have fits : 0 + (residue 64 ((stream text).pending ++ input)).length ≤
        block.length := by
      rw [Blocks.length_residue, room]
      omega
    rw [same]
    constructor
    case room =>
      show (block.overwrite 0 _).length = 64
      rw [Buffer.length_overwrite fits, room]
    case words =>
      show (blocks 64 _).foldl compress md5.state = _
      rw [holds.words, stream_append]
      rfl
    case waiting =>
      rw [stream_append]
      exact ⟨_, rfl⟩
    case bits => exact bits

end

theorem updates_hold {md5 : MD5} {text : Buffer} {chunks : List Buffer}
    (holds : Holds md5 text)
    (sizes : ∀ chunk ∈ chunks, chunk.length < 4294967296) :
    Holds (chunks.foldl update md5) (text ++ chunks.flatten) := by
  induction chunks generalizing md5 text with
  | nil => rwa [List.flatten_nil, List.append_nil]
  | cons chunk chunks induction =>
      rw [List.foldl_cons, List.flatten_cons, ← List.append_assoc]
      apply induction
      · exact update_holds holds (sizes chunk (.head chunks))
      · exact fun other member => sizes other (.tail chunk member)

theorem encodeWord_eq {word : UInt32} {number : Nat}
    (low : word.toNat = number % 4294967296) :
    encodeWord word = (List.range 4).map fun index =>
      UInt8.ofNat (number / 256 ^ index) := by
  have octet (shift : UInt32) (bits : Nat) (small : shift.toNat % 32 = bits)
      (inside : bits + 8 ≤ 32) :
      (word >>> shift).toUInt8 = UInt8.ofNat (number / 2 ^ bits) := by
    have parts : 4294967296 = 2 ^ bits * 2 ^ (32 - bits) := by
      rw [← Nat.pow_add, Nat.add_sub_cancel' (by omega)]
    have whole : 256 ∣ 2 ^ (32 - bits) :=
      @Nat.pow_dvd_pow 8 _ 2 (by omega)
    apply UInt8.toNat.inj
    rw [UInt32.toNat_toUInt8, UInt32.toNat_shiftRight, small,
      Nat.shiftRight_eq_div_pow, UInt8.toNat_ofNat', low, parts,
      Nat.mod_mul_right_div_self, Nat.mod_mod_of_dvd _ whole]
  have first : word.toUInt8 = UInt8.ofNat (number / 1) := by
    apply UInt8.toNat.inj
    rw [UInt32.toNat_toUInt8, UInt8.toNat_ofNat', low]
    omega
  have second := octet 8 8 rfl (by decide)
  have third := octet 16 16 rfl (by decide)
  have fourth := octet 24 24 rfl (by decide)
  rw [encodeWord, first, second, third, fourth]
  rfl

theorem encode_bits {md5 : MD5} {text : Buffer} (holds : Holds md5 text) :
    encode [md5.countLow, md5.countHigh] = bitCount text := by
  show encodeWord md5.countLow ++ (encodeWord md5.countHigh ++ []) =
    (List.range 4 ++ (List.range 4).map (4 + ·)).map fun index =>
      UInt8.ofNat (8 * text.length / 256 ^ index)
  rw [encodeWord_eq holds.low, encodeWord_eq holds.high, List.append_nil,
    List.map_append, List.map_map]
  congr 1
  apply List.map_congr_left
  intro index _
  show _ = UInt8.ofNat (8 * text.length / 256 ^ (4 + index))
  rw [Nat.pow_add, ← Nat.div_div_eq_div_mul]

theorem padding_eq (text : Buffer) :
    (0x80 :: List.replicate 63 0 : Buffer).take
      (if text.length % 64 < 56 then 56 - text.length % 64
        else 120 - text.length % 64) =
    0x80 :: List.replicate ((119 - text.length % 64) % 64) 0 := by
  have size : (if text.length % 64 < 56 then 56 - text.length % 64
      else 120 - text.length % 64) = (119 - text.length % 64) % 64 + 1 := by
    split <;> omega
  rw [size, List.take_succ_cons, List.take_replicate,
    Nat.min_eq_left (by omega)]

theorem finalize_holds {md5 : MD5} {text : Buffer} (holds : Holds md5 text) :
    md5.finalize = digest text := by
  have index := holds.index
  rw [length_pending] at index
  have paddingSize :
      (0x80 :: List.replicate ((119 - text.length % 64) % 64) 0 :
        Buffer).length < 4294967296 := by
    rw [List.length_cons, List.length_replicate]
    omega
  have bitsSize : (bitCount text).length < 4294967296 := by
    rw [bitCount, List.length_map]
    decide
  have finished := update_holds (update_holds holds paddingSize) bitsSize
  have words := congrArg (fun words : Words =>
    encode [words.1, words.2.1, words.2.2.1, words.2.2.2]) finished.words
  unfold finalize
  dsimp only
  rw [index, padding_eq, encode_bits holds]
  exact words

theorem length_padded (text : Buffer) : 64 ∣ (padded text).length := by
  simp only [padded, bitCount, List.length_append, List.length_cons,
    List.length_replicate, List.length_map, List.length_range]
  omega

/-- The hash of a text does not depend on the chunks `update` gets it in.  The
index of its loop has 32 bits and must not run past the chunk. -/
theorem finalize_chunks (chunks : List Buffer)
    (sizes : ∀ chunk ∈ chunks, chunk.length + 64 < 4294967296) :
    (chunks.foldl update init).finalize = digest chunks.flatten ∧
      64 ∣ (padded chunks.flatten).length := by
  have small (chunk : Buffer) (member : chunk ∈ chunks) :
      chunk.length < 4294967296 :=
    Nat.lt_of_le_of_lt (Nat.le_add_right _ 64) (sizes chunk member)
  exact ⟨finalize_holds (updates_hold init_holds small),
    length_padded chunks.flatten⟩

theorem finalize_chunks_two :
    ([Buffer.ofText "ad", Buffer.ofText "min"].foldl update init).finalize =
      digest (Buffer.ofText "ad" ++ (Buffer.ofText "min" ++ [])) ∧
    64 ∣ (padded (Buffer.ofText "ad" ++ (Buffer.ofText "min" ++ []))).length :=
  finalize_chunks [Buffer.ofText "ad", Buffer.ofText "min"] (by decide)

end GroupChat.Server.MD5
