import GroupChat.Lib.Bytes

namespace GroupChat.Client

/-! What the client uses of Qt: texts, data streams and the machine it runs
on. -/

/-- A text in UTF-16 units. -/
abbrev QString := List UInt16

namespace QString

def ofText (text : String) : QString :=
  text.toList.map fun letter => letter.toNat.toUInt16

def resize (text : QString) (size : Nat) : QString :=
  text.take size ++ List.replicate (size - text.length) 0

end QString

/-- The codec of the local encoding, how a time is shown, and the files that
can be opened for writing. -/
structure Host where
  toLocal8Bit : QString → Buffer
  toUnicode : Buffer → QString
  showTime : Int → QString
  writable : QString → Bool

namespace Host

/-- The text of a byte array, which ends at its first NUL. -/
def fromLocal8Bit (host : Host) (bytes : Buffer) : QString :=
  host.toUnicode bytes.cString

/-- A host with a single-byte encoding. -/
def latin1 : Host where
  toLocal8Bit := fun text => text.map UInt16.toUInt8
  toUnicode := fun bytes => bytes.map UInt8.toUInt16
  showTime := fun _ => []
  writable := fun _ => true

end Host

/-- The last bytes of a byte array, at most `size` of them. -/
def right (bytes : Buffer) (size : Nat) : Buffer :=
  bytes.drop (bytes.length - size)

theorem right_append {bytes tail : Buffer} {size : Nat}
    (same : tail.length = size) : right (bytes ++ tail) size = tail := by
  subst same
  rw [right, List.length_append, Nat.add_sub_cancel, List.drop_left]

/-! Reading a data stream.  A value that the stream is too short for reads as
zero and uses up what is left. -/

namespace DataStream

def readWord : Buffer → UInt32 × Buffer
  | b3 :: b2 :: b1 :: b0 :: rest => (Buffer.toWord b3 b2 b1 b0, rest)
  | _ => (0, [])

def readLong (bytes : Buffer) : Int × Buffer :=
  if bytes.length < 8 then
    (0, [])
  else
    let (high, rest) := readWord bytes
    let (low, rest) := readWord rest
    (Int.bmod (high.toNat * 4294967296 + low.toNat) 18446744073709551616,
      rest)

/-- The characters up to a NUL or to the end. -/
def readText : Buffer → Buffer × Buffer
  | [] => ([], [])
  | c :: rest =>
      if c = 0 then
        ([], rest)
      else
        let (text, rest) := readText rest
        (c :: text, rest)

def readWords : Buffer → List UInt32
  | [] => []
  | b3 :: b2 :: b1 :: b0 :: rest => Buffer.toWord b3 b2 b1 b0 :: readWords rest
  | _ => [0]

def ofShort (number : UInt16) : Buffer :=
  [UInt8.ofNat (number.toNat / 256), UInt8.ofNat number.toNat]

@[simp] theorem readWord_ofWord (word : UInt32) (rest : Buffer) :
    readWord (Buffer.ofWord word ++ rest) = (word, rest) := by
  simp only [readWord, Buffer.ofWord, List.cons_append, List.nil_append,
    Buffer.toWord_ofWord]

@[simp] theorem readWords_ofWord (word : UInt32) (rest : Buffer) :
    readWords (Buffer.ofWord word ++ rest) = word :: readWords rest := by
  simp only [readWords, Buffer.ofWord, List.cons_append, List.nil_append,
    Buffer.toWord_ofWord]

theorem readWords_flatMap (words : List UInt32) :
    readWords (words.flatMap Buffer.ofWord) = words := by
  induction words with
  | nil => rfl
  | cons word words induction =>
      rw [List.flatMap_cons, readWords_ofWord, induction]

theorem readText_append {text : Buffer} (clean : (0 : UInt8) ∉ text)
    (rest : Buffer) : readText (text ++ 0 :: rest) = (text, rest) := by
  induction text with
  | nil => rfl
  | cons c text induction =>
      have differs : c ≠ 0 := fun same => clean (by simp [same])
      have shorter : (0 : UInt8) ∉ text := fun member =>
        clean (List.mem_cons_of_mem c member)
      simp only [List.cons_append, readText, if_neg differs, induction shorter]

end DataStream

end GroupChat.Client
