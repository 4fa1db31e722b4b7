import GroupChat.Lib.Bytes

namespace GroupChat.Server

/-! The hash stored passwords are kept under.  `buffer` holds the bytes that did
not fill a block yet; its first `count / 8 % 64` bytes count. -/

structure MD5 where
  state : UInt32 × UInt32 × UInt32 × UInt32
  countLow : UInt32
  countHigh : UInt32
  buffer : Buffer

namespace MD5

def blocksize : Nat := 64

def init : MD5 where
  state := (0x67452301, 0xefcdab89, 0x98badcfe, 0x10325476)
  countLow := 0
  countHigh := 0
  buffer := List.replicate blocksize 0

def F (x y z : UInt32) : UInt32 := (x &&& y) ||| (~~~x &&& z)

def G (x y z : UInt32) : UInt32 := (x &&& z) ||| (y &&& ~~~z)

def H (x y z : UInt32) : UInt32 := x ^^^ y ^^^ z

def I (x y z : UInt32) : UInt32 := y ^^^ (x ||| ~~~z)

def rotateLeft (x n : UInt32) : UInt32 := (x <<< n) ||| (x >>> (32 - n))

def decodeWord (b0 b1 b2 b3 : UInt8) : UInt32 :=
  b0.toUInt32 ||| (b1.toUInt32 <<< 8) ||| (b2.toUInt32 <<< 16) |||
    (b3.toUInt32 <<< 24)

def decode : Buffer → List UInt32
  | b0 :: b1 :: b2 :: b3 :: rest => decodeWord b0 b1 b2 b3 :: decode rest
  | _ => []

def encodeWord (word : UInt32) : Buffer :=
  [word.toUInt8, (word >>> 8).toUInt8, (word >>> 16).toUInt8,
    (word >>> 24).toUInt8]

def encode (words : List UInt32) : Buffer :=
  words.flatMap encodeWord

/-- The word index, shift and constant of each step of a round. -/
abbrev Schedule := List (Nat × UInt32 × UInt32)

def round1 : Schedule :=
  [(0, 7, 0xd76aa478), (1, 12, 0xe8c7b756), (2, 17, 0x242070db),
    (3, 22, 0xc1bdceee), (4, 7, 0xf57c0faf), (5, 12, 0x4787c62a),
    (6, 17, 0xa8304613), (7, 22, 0xfd469501), (8, 7, 0x698098d8),
    (9, 12, 0x8b44f7af), (10, 17, 0xffff5bb1), (11, 22, 0x895cd7be),
    (12, 7, 0x6b901122), (13, 12, 0xfd987193), (14, 17, 0xa679438e),
    (15, 22, 0x49b40821)]

def round2 : Schedule :=
  [(1, 5, 0xf61e2562), (6, 9, 0xc040b340), (11, 14, 0x265e5a51),
    (0, 20, 0xe9b6c7aa), (5, 5, 0xd62f105d), (10, 9, 0x2441453),
    (15, 14, 0xd8a1e681), (4, 20, 0xe7d3fbc8), (9, 5, 0x21e1cde6),
    (14, 9, 0xc33707d6), (3, 14, 0xf4d50d87), (8, 20, 0x455a14ed),
    (13, 5, 0xa9e3e905), (2, 9, 0xfcefa3f8), (7, 14, 0x676f02d9),
    (12, 20, 0x8d2a4c8a)]

def round3 : Schedule :=
  [(5, 4, 0xfffa3942), (8, 11, 0x8771f681), (11, 16, 0x6d9d6122),
    (14, 23, 0xfde5380c), (1, 4, 0xa4beea44), (4, 11, 0x4bdecfa9),
    (7, 16, 0xf6bb4b60), (10, 23, 0xbebfbc70), (13, 4, 0x289b7ec6),
    (0, 11, 0xeaa127fa), (3, 16, 0xd4ef3085), (6, 23, 0x4881d05),
    (9, 4, 0xd9d4d039), (12, 11, 0xe6db99e5), (15, 16, 0x1fa27cf8),
    (2, 23, 0xc4ac5665)]

def round4 : Schedule :=
  [(0, 6, 0xf4292244), (7, 10, 0x432aff97), (14, 15, 0xab9423a7),
    (5, 21, 0xfc93a039), (12, 6, 0x655b59c3), (3, 10, 0x8f0ccc92),
    (10, 15, 0xffeff47d), (1, 21, 0x85845dd1), (8, 6, 0x6fa87e4f),
    (15, 10, 0xfe2ce6e0), (6, 15, 0xa3014314), (13, 21, 0x4e0811a1),
    (4, 6, 0xf7537e82), (11, 10, 0xbd3af235), (2, 15, 0x2ad7d2bb),
    (9, 21, 0xeb86d391)]

/-- One round.  Each step recomputes the first word and passes it on as the
second, which is how the source rotates the arguments of its calls. -/
def round (mix : UInt32 → UInt32 → UInt32 → UInt32) (x : List UInt32)
    (schedule : Schedule) (words : UInt32 × UInt32 × UInt32 × UInt32) :
    UInt32 × UInt32 × UInt32 × UInt32 :=
  schedule.foldl (fun (a, b, c, d) (k, s, ac) =>
    (d, rotateLeft (a + mix b c d + x.getD k 0 + ac) s + b, b, c)) words

def transform (md5 : MD5) (block : Buffer) : MD5 :=
  let x := decode block
  let (a, b, c, d) := round I x round4 (round H x round3
    (round G x round2 (round F x round1 md5.state)))
  let (a0, b0, c0, d0) := md5.state
  { md5 with state := (a0 + a, b0 + b, c0 + c, d0 + d) }

/-- Transform the whole blocks at the front; what is left does not fill one. -/
def transformBlocks : Nat → MD5 → Buffer → MD5 × Buffer
  | 0, md5, input => (md5, input)
  | fuel + 1, md5, input =>
      if blocksize ≤ input.length then
        transformBlocks fuel (md5.transform (input.take blocksize))
          (input.drop blocksize)
      else (md5, input)

def update (md5 : MD5) (input : Buffer) : MD5 :=
  let index := (md5.countLow / 8 % 64).toNat
  let length := UInt32.ofNat input.length
  let countLow := md5.countLow + (length <<< 3)
  let carry : UInt32 := if countLow < (length <<< 3) then 1 else 0
  let md5 := { md5 with
    countLow := countLow
    countHigh := md5.countHigh + carry + (length >>> 29) }
  let firstpart := blocksize - index
  if firstpart ≤ input.length then
    let buffer := md5.buffer.overwrite index (input.take firstpart)
    let (md5, rest) := transformBlocks input.length
      ({ md5 with buffer := buffer }.transform buffer) (input.drop firstpart)
    { md5 with buffer := md5.buffer.overwrite 0 rest }
  else
    { md5 with buffer := md5.buffer.overwrite index input }

/-- The digest once the padding and the length are taken in. -/
def finalize (md5 : MD5) : Buffer :=
  let bits := encode [md5.countLow, md5.countHigh]
  let index := (md5.countLow / 8 % 64).toNat
  let padLen := if index < 56 then 56 - index else 120 - index
  let padding : Buffer := (0x80 :: List.replicate 63 0).take padLen
  let (a, b, c, d) := ((md5.update padding).update bits).state
  encode [a, b, c, d]

def hexDigit (digit : UInt8) : UInt8 :=
  if digit < 10 then 48 + digit else 87 + digit

/-- The digest of a text in lower-case hexadecimal. -/
def hexdigest (text : Buffer) : Buffer :=
  (init.update text).finalize.flatMap fun (byte : UInt8) =>
    [hexDigit (byte >>> 4), hexDigit (byte &&& 0x0f)]

/-- The password the schema stores for its first user. -/
example : hexdigest (Buffer.ofText "admin") =
    Buffer.ofText "21232f297a57a5a743894a0e4a801fc3" := by
  decide +kernel

end MD5

end GroupChat.Server
