import CommandScript.Digest.Block

/-!
# The digest MD5

## Main definitions

* `CommandScript.Digest.md5` — the MD5 digest of a message, as hexadecimal digits.
-/

namespace CommandScript.Digest

/-- The state of MD5. -/
structure Md5State where
  /-- The first word. -/
  a : UInt32 := 0x67452301
  /-- The second word. -/
  b : UInt32 := 0xefcdab89
  /-- The third word. -/
  c : UInt32 := 0x98badcfe
  /-- The fourth word. -/
  d : UInt32 := 0x10325476

/-- The constants of the steps: the first 32 bits of the fractions of sines. -/
def md5Constants : Array UInt32 :=
  #[0xd76aa478, 0xe8c7b756, 0x242070db, 0xc1bdceee, 0xf57c0faf, 0x4787c62a, 0xa8304613, 0xfd469501,
    0x698098d8, 0x8b44f7af, 0xffff5bb1, 0x895cd7be, 0x6b901122, 0xfd987193, 0xa679438e, 0x49b40821,
    0xf61e2562, 0xc040b340, 0x265e5a51, 0xe9b6c7aa, 0xd62f105d, 0x02441453, 0xd8a1e681, 0xe7d3fbc8,
    0x21e1cde6, 0xc33707d6, 0xf4d50d87, 0x455a14ed, 0xa9e3e905, 0xfcefa3f8, 0x676f02d9, 0x8d2a4c8a,
    0xfffa3942, 0x8771f681, 0x6d9d6122, 0xfde5380c, 0xa4beea44, 0x4bdecfa9, 0xf6bb4b60, 0xbebfbc70,
    0x289b7ec6, 0xeaa127fa, 0xd4ef3085, 0x04881d05, 0xd9d4d039, 0xe6db99e5, 0x1fa27cf8, 0xc4ac5665,
    0xf4292244, 0x432aff97, 0xab9423a7, 0xfc93a039, 0x655b59c3, 0x8f0ccc92, 0xffeff47d, 0x85845dd1,
    0x6fa87e4f, 0xfe2ce6e0, 0xa3014314, 0x4e0811a1, 0xf7537e82, 0xbd3af235, 0x2ad7d2bb, 0xeb86d391]

/-- The turns of the steps, by round and by step modulo four. -/
def md5Turns : Array UInt32 := #[7, 12, 17, 22, 5, 9, 14, 20, 4, 11, 16, 23, 6, 10, 15, 21]

/-- One step on a block. -/
def md5Step (words : Array UInt32) (s : Md5State) (i : Nat) : Md5State :=
  let (f, k) := match i / 16 with
    | 0 => ((s.b &&& s.c) ||| (~~~s.b &&& s.d), i)
    | 1 => ((s.d &&& s.b) ||| (~~~s.d &&& s.c), 5 * i + 1)
    | 2 => (s.b ^^^ s.c ^^^ s.d, 3 * i + 5)
    | _ => (s.c ^^^ (s.b ||| ~~~s.d), 7 * i)
  let sum := s.a + f + wordAt md5Constants i + wordAt words (k % 16)
  let turned := s.b + rotateLeft sum (wordAt md5Turns (4 * (i / 16) + i % 4))
  { a := s.d, b := turned, c := s.b, d := s.c }

/-- The effect of a block. -/
def md5Block (s : Md5State) (words : Array UInt32) : Md5State :=
  let t := (List.range 64).foldl (md5Step words) s
  { a := s.a + t.a, b := s.b + t.b, c := s.c + t.c, d := s.d + t.d }

/-- The MD5 digest of a message, as hexadecimal digits. -/
def md5 (message : ByteArray) : String :=
  let s := overBlocks .little ({} : Md5State) md5Block message
  hexOfWords .little [s.a, s.b, s.c, s.d]

end CommandScript.Digest
