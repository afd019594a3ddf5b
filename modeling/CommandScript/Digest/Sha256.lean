import CommandScript.Digest.Block

/-!
# The digest SHA-256

## Main definitions

* `CommandScript.Digest.sha256` — the SHA-256 digest of a message, as hexadecimal digits.
-/

namespace CommandScript.Digest

/-- The state of SHA-256. -/
structure Sha256State where
  /-- The first word. -/
  a : UInt32 := 0x6a09e667
  /-- The second word. -/
  b : UInt32 := 0xbb67ae85
  /-- The third word. -/
  c : UInt32 := 0x3c6ef372
  /-- The fourth word. -/
  d : UInt32 := 0xa54ff53a
  /-- The fifth word. -/
  e : UInt32 := 0x510e527f
  /-- The sixth word. -/
  f : UInt32 := 0x9b05688c
  /-- The seventh word. -/
  g : UInt32 := 0x1f83d9ab
  /-- The eighth word. -/
  h : UInt32 := 0x5be0cd19

/-- The constants of the steps: the first 32 bits of the fractions of cube roots of primes. -/
def sha256Constants : Array UInt32 :=
  #[0x428a2f98, 0x71374491, 0xb5c0fbcf, 0xe9b5dba5, 0x3956c25b, 0x59f111f1, 0x923f82a4, 0xab1c5ed5,
    0xd807aa98, 0x12835b01, 0x243185be, 0x550c7dc3, 0x72be5d74, 0x80deb1fe, 0x9bdc06a7, 0xc19bf174,
    0xe49b69c1, 0xefbe4786, 0x0fc19dc6, 0x240ca1cc, 0x2de92c6f, 0x4a7484aa, 0x5cb0a9dc, 0x76f988da,
    0x983e5152, 0xa831c66d, 0xb00327c8, 0xbf597fc7, 0xc6e00bf3, 0xd5a79147, 0x06ca6351, 0x14292967,
    0x27b70a85, 0x2e1b2138, 0x4d2c6dfc, 0x53380d13, 0x650a7354, 0x766a0abb, 0x81c2c92e, 0x92722c85,
    0xa2bfe8a1, 0xa81a664b, 0xc24b8b70, 0xc76c51a3, 0xd192e819, 0xd6990624, 0xf40e3585, 0x106aa070,
    0x19a4c116, 0x1e376c08, 0x2748774c, 0x34b0bcb5, 0x391c0cb3, 0x4ed8aa4a, 0x5b9cca4f, 0x682e6ff3,
    0x748f82ee, 0x78a5636f, 0x84c87814, 0x8cc70208, 0x90befffa, 0xa4506ceb, 0xbef9a3f7, 0xc67178f2]

/-- The sixty-four words that a block of sixteen is stretched to. -/
def sha256Schedule (words : Array UInt32) : Array UInt32 :=
  ((List.range 64).drop 16).foldl (fun w i =>
    let x := wordAt w (i - 15)
    let y := wordAt w (i - 2)
    let p := rotateRight x 7 ^^^ rotateRight x 18 ^^^ (x >>> 3)
    let q := rotateRight y 17 ^^^ rotateRight y 19 ^^^ (y >>> 10)
    w.push (wordAt w (i - 16) + p + wordAt w (i - 7) + q)) words

/-- One step on a stretched block. -/
def sha256Step (w : Array UInt32) (s : Sha256State) (i : Nat) : Sha256State :=
  let p := rotateRight s.e 6 ^^^ rotateRight s.e 11 ^^^ rotateRight s.e 25
  let choice := (s.e &&& s.f) ^^^ (~~~s.e &&& s.g)
  let x := s.h + p + choice + wordAt sha256Constants i + wordAt w i
  let q := rotateRight s.a 2 ^^^ rotateRight s.a 13 ^^^ rotateRight s.a 22
  let majority := (s.a &&& s.b) ^^^ (s.a &&& s.c) ^^^ (s.b &&& s.c)
  { a := x + (q + majority), b := s.a, c := s.b, d := s.c,
    e := s.d + x, f := s.e, g := s.f, h := s.g }

/-- The effect of a block. -/
def sha256Block (s : Sha256State) (words : Array UInt32) : Sha256State :=
  let t := (List.range 64).foldl (sha256Step (sha256Schedule words)) s
  { a := s.a + t.a, b := s.b + t.b, c := s.c + t.c, d := s.d + t.d,
    e := s.e + t.e, f := s.f + t.f, g := s.g + t.g, h := s.h + t.h }

/-- The SHA-256 digest of a message, as hexadecimal digits. -/
def sha256 (message : ByteArray) : String :=
  let s := overBlocks .big ({} : Sha256State) sha256Block message
  hexOfWords .big [s.a, s.b, s.c, s.d, s.e, s.f, s.g, s.h]

end CommandScript.Digest
