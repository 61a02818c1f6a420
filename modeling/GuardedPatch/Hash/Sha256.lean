set_option autoImplicit false

/-! # SHA-256

Digests of documents and checksums of migrations are SHA-256 of a text's UTF-8 bytes, written as 64 hexadecimal
digits in lower case. The message is padded to whole blocks of 64 bytes, and the blocks are folded over a state
of eight words. -/

namespace GuardedPatch.Hash

/-- The eight words that are carried from block to block. -/
structure Words where
  a : UInt32
  b : UInt32
  c : UInt32
  d : UInt32
  e : UInt32
  f : UInt32
  g : UInt32
  h : UInt32

/-- The state before the first block. -/
def initialWords : Words :=
  ⟨0x6a09e667, 0xbb67ae85, 0x3c6ef372, 0xa54ff53a, 0x510e527f, 0x9b05688c, 0x1f83d9ab, 0x5be0cd19⟩

/-- One constant for each of the 64 rounds. -/
def roundConstants : List UInt32 :=
  [0x428a2f98, 0x71374491, 0xb5c0fbcf, 0xe9b5dba5, 0x3956c25b, 0x59f111f1, 0x923f82a4, 0xab1c5ed5,
    0xd807aa98, 0x12835b01, 0x243185be, 0x550c7dc3, 0x72be5d74, 0x80deb1fe, 0x9bdc06a7, 0xc19bf174,
    0xe49b69c1, 0xefbe4786, 0x0fc19dc6, 0x240ca1cc, 0x2de92c6f, 0x4a7484aa, 0x5cb0a9dc, 0x76f988da,
    0x983e5152, 0xa831c66d, 0xb00327c8, 0xbf597fc7, 0xc6e00bf3, 0xd5a79147, 0x06ca6351, 0x14292967,
    0x27b70a85, 0x2e1b2138, 0x4d2c6dfc, 0x53380d13, 0x650a7354, 0x766a0abb, 0x81c2c92e, 0x92722c85,
    0xa2bfe8a1, 0xa81a664b, 0xc24b8b70, 0xc76c51a3, 0xd192e819, 0xd6990624, 0xf40e3585, 0x106aa070,
    0x19a4c116, 0x1e376c08, 0x2748774c, 0x34b0bcb5, 0x391c0cb3, 0x4ed8aa4a, 0x5b9cca4f, 0x682e6ff3,
    0x748f82ee, 0x78a5636f, 0x84c87814, 0x8cc70208, 0x90befffa, 0xa4506ceb, 0xbef9a3f7, 0xc67178f2]

/-- A word rotated to the right by `n` bits, for `n` from 1 to 31. -/
def rotateRight (x n : UInt32) : UInt32 :=
  (x >>> n) ||| (x <<< (32 - n))

/-! ## Padding -/

/-- The bytes of a natural number, most significant first, at a width. -/
def bigEndian (width n : Nat) : List UInt8 :=
  (List.range width).reverse.map fun i => UInt8.ofNat (n / Nat.pow 256 i)

/-- The message, a one bit, zeros up to eight bytes before the end of a block, and the length in bits. -/
def padded (message : List UInt8) : List UInt8 :=
  let zeros := (119 - message.length % 64) % 64
  message ++ 0x80 :: List.replicate zeros 0 ++ bigEndian 8 (8 * message.length)

/-- The word that four bytes stand for, most significant first. -/
def readWord (bytes : List UInt8) : UInt32 :=
  bytes.foldl (fun w b => (w <<< 8) ||| b.toUInt32) 0

/-- The first `count` groups of `size` elements. -/
def groups {α : Type} (size : Nat) : Nat → List α → List (List α)
  | 0, _ => []
  | count + 1, xs => xs.take size :: groups size count (xs.drop size)

/-! ## Compression -/

/-- The next word of a schedule, from the sixteen before it, the latest first. -/
def nextWord (recent : List UInt32) : UInt32 :=
  let back (i : Nat) : UInt32 := recent.getD i 0
  let x := back 14
  let y := back 1
  let s0 := rotateRight x 7 ^^^ rotateRight x 18 ^^^ (x >>> 3)
  let s1 := rotateRight y 17 ^^^ rotateRight y 19 ^^^ (y >>> 10)
  back 15 + s0 + back 6 + s1

/-- The 64 words of a block's schedule. -/
def schedule (block : List UInt8) : List UInt32 :=
  let start := (groups 4 16 block).map readWord
  ((List.range 48).foldl (fun acc _ => nextWord acc :: acc) start.reverse).reverse

/-- One round, with a round constant and a word of the schedule. -/
def round (s : Words) (k w : UInt32) : Words :=
  let s1 := rotateRight s.e 6 ^^^ rotateRight s.e 11 ^^^ rotateRight s.e 25
  let choice := (s.e &&& s.f) ^^^ ((~~~ s.e) &&& s.g)
  let t1 := s.h + s1 + choice + k + w
  let s0 := rotateRight s.a 2 ^^^ rotateRight s.a 13 ^^^ rotateRight s.a 22
  let majority := (s.a &&& s.b) ^^^ (s.a &&& s.c) ^^^ (s.b &&& s.c)
  ⟨t1 + (s0 + majority), s.a, s.b, s.c, s.d + t1, s.e, s.f, s.g⟩

/-- The state after one more block. -/
def compress (s : Words) (block : List UInt8) : Words :=
  let t := (roundConstants.zip (schedule block)).foldl (fun s kw => round s kw.1 kw.2) s
  ⟨s.a + t.a, s.b + t.b, s.c + t.c, s.d + t.d, s.e + t.e, s.f + t.f, s.g + t.g, s.h + t.h⟩

/-! ## Digest -/

/-- A word in eight hexadecimal digits. -/
def hexWord (w : UInt32) : List Char :=
  let ds := Nat.toDigits 16 w.toNat
  List.replicate (8 - ds.length) '0' ++ ds

/-- The SHA-256 digest of a list of bytes, in hexadecimal digits. -/
def sha256Bytes (message : List UInt8) : String :=
  let bytes := padded message
  let s := (groups 64 (bytes.length / 64) bytes).foldl compress initialWords
  String.ofList ([s.a, s.b, s.c, s.d, s.e, s.f, s.g, s.h].flatMap hexWord)

/-- The SHA-256 digest of a text's UTF-8 bytes, in hexadecimal digits. -/
def sha256 (text : String) : String :=
  sha256Bytes text.toUTF8.toList

end GuardedPatch.Hash
