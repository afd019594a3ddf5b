/-!
# Digests in blocks

Digests that read a message in blocks of sixteen words of 32 bits, after a closing bit, zeros and
the length of the message in bits are put behind it. They differ in the order of bytes in a word
and in what a block does to the state.

## Main definitions

* `CommandScript.Digest.ByteOrder` — the order of bytes in a word.
* `CommandScript.Digest.blocks` — the blocks of a message.
* `CommandScript.Digest.hexOf` — a digest as hexadecimal digits.
-/

namespace CommandScript.Digest

/-- The order of bytes in a word. -/
inductive ByteOrder where
  /-- The lowest byte first. -/
  | little
  /-- The highest byte first. -/
  | big
deriving DecidableEq, Repr

/-- The bytes of a number, `n` of them. -/
def ByteOrder.bytes (o : ByteOrder) (n value : Nat) : List UInt8 :=
  let low := (List.range n).map fun i => UInt8.ofNat (value >>> (8 * i))
  match o with
  | little => low
  | big => low.reverse

/-- The word that four bytes form. -/
def ByteOrder.word (o : ByteOrder) (a b c d : UInt8) : UInt32 :=
  match o with
  | little => a.toUInt32 ||| (b.toUInt32 <<< 8) ||| (c.toUInt32 <<< 16) ||| (d.toUInt32 <<< 24)
  | big => d.toUInt32 ||| (c.toUInt32 <<< 8) ||| (b.toUInt32 <<< 16) ||| (a.toUInt32 <<< 24)

/-- The message with a closing bit, zeros, and its length in bits in the last eight bytes of a
block. -/
def padded (o : ByteOrder) (message : ByteArray) : ByteArray :=
  let n := message.size
  let zeros := (119 - n % 64) % 64
  let tail := 0x80 :: (List.replicate zeros 0 ++ o.bytes 8 (8 * n % UInt64.size))
  tail.foldl ByteArray.push message

/-- The byte at an index, and zero behind the end. -/
def byteAt (bytes : ByteArray) (i : Nat) : UInt8 := bytes[i]?.getD 0

/-- The sixteen words of the block with a number. -/
def block (o : ByteOrder) (bytes : ByteArray) (k : Nat) : Array UInt32 :=
  ((List.range 16).map fun i =>
    let p := 64 * k + 4 * i
    o.word (byteAt bytes p) (byteAt bytes (p + 1)) (byteAt bytes (p + 2))
      (byteAt bytes (p + 3))).toArray

/-- The state after all blocks of a message, from a start and the effect of a block. -/
def overBlocks {σ : Type} (o : ByteOrder) (start : σ) (step : σ → Array UInt32 → σ)
    (message : ByteArray) : σ :=
  let bytes := padded o message
  (List.range (bytes.size / 64)).foldl (fun s k => step s (block o bytes k)) start

/-- A word turned left by some bits. -/
def rotateLeft (x : UInt32) (n : UInt32) : UInt32 := (x <<< n) ||| (x >>> (32 - n))

/-- A word turned right by some bits. -/
def rotateRight (x : UInt32) (n : UInt32) : UInt32 := (x >>> n) ||| (x <<< (32 - n))

/-- The word at an index, and zero behind the end. -/
def wordAt (words : Array UInt32) (i : Nat) : UInt32 := words[i]?.getD 0

/-- Two hexadecimal digits for each byte. -/
def hexOf (bytes : List UInt8) : String :=
  String.ofList (bytes.flatMap fun b =>
    [Nat.digitChar (b.toNat / 16), Nat.digitChar (b.toNat % 16)])

/-- The hexadecimal digits of words. -/
def hexOfWords (o : ByteOrder) (words : List UInt32) : String :=
  hexOf (words.flatMap fun w => o.bytes 4 w.toNat)

end CommandScript.Digest
