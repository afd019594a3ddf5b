import CommandScript.Digest.Block

/-!
# The digest SHA-1

## Main definitions

* `CommandScript.Digest.sha1` — the SHA-1 digest of a message, as hexadecimal digits.
-/

namespace CommandScript.Digest

/-- The state of SHA-1. -/
structure Sha1State where
  /-- The first word. -/
  a : UInt32 := 0x67452301
  /-- The second word. -/
  b : UInt32 := 0xefcdab89
  /-- The third word. -/
  c : UInt32 := 0x98badcfe
  /-- The fourth word. -/
  d : UInt32 := 0x10325476
  /-- The fifth word. -/
  e : UInt32 := 0xc3d2e1f0

/-- The eighty words that a block of sixteen is stretched to. -/
def sha1Schedule (words : Array UInt32) : Array UInt32 :=
  ((List.range 80).drop 16).foldl (fun w i =>
    w.push (rotateLeft (wordAt w (i - 3) ^^^ wordAt w (i - 8) ^^^ wordAt w (i - 14) ^^^
      wordAt w (i - 16)) 1)) words

/-- One step on a stretched block. -/
def sha1Step (w : Array UInt32) (s : Sha1State) (i : Nat) : Sha1State :=
  let (f, k) : UInt32 × UInt32 := match i / 20 with
    | 0 => ((s.b &&& s.c) ||| (~~~s.b &&& s.d), 0x5a827999)
    | 1 => (s.b ^^^ s.c ^^^ s.d, 0x6ed9eba1)
    | 2 => ((s.b &&& s.c) ||| (s.b &&& s.d) ||| (s.c &&& s.d), 0x8f1bbcdc)
    | _ => (s.b ^^^ s.c ^^^ s.d, 0xca62c1d6)
  let sum := rotateLeft s.a 5 + f + s.e + k + wordAt w i
  { a := sum, b := s.a, c := rotateLeft s.b 30, d := s.c, e := s.d }

/-- The effect of a block. -/
def sha1Block (s : Sha1State) (words : Array UInt32) : Sha1State :=
  let t := (List.range 80).foldl (sha1Step (sha1Schedule words)) s
  { a := s.a + t.a, b := s.b + t.b, c := s.c + t.c, d := s.d + t.d, e := s.e + t.e }

/-- The SHA-1 digest of a message, as hexadecimal digits. -/
def sha1 (message : ByteArray) : String :=
  let s := overBlocks .big ({} : Sha1State) sha1Block message
  hexOfWords .big [s.a, s.b, s.c, s.d, s.e]

end CommandScript.Digest
