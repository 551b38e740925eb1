/-!
# SHA-256 and keyed digests

Byte sequences are cut into groups, and bytes joined to machine words, in either order; digests go
over such groups of words.

## Main definitions

* `groups`: the consecutive groups of so many items
* `word32`, `word32Reversed`: a word from four bytes, most or least significant first
* `bytes32`, `bytes32Reversed`, `bytes64`: the bytes of a word
* `sha256`: the digest of a byte sequence
* `hmac`: the digest of a byte sequence under a key
* `stretch`: bytes from a password and a salt, by one pass of a keyed digest

## Main results

* `flatten_groups`: the groups concatenate to the whole
-/

namespace Groundplan.Seal

/-! ## Bytes and words -/

/-- The consecutive groups of so many items; the last may be shorter. -/
def groups {α : Type} (size : Nat) (xs : List α) : List (List α) :=
  match xs with
  | [] => []
  | x :: rest => (x :: rest.take (size - 1)) :: groups size (rest.drop (size - 1))
termination_by xs.length
decreasing_by simp only [List.length_drop, List.length_cons]; omega

/-- **Nothing is lost.** The groups concatenate to the whole. -/
theorem flatten_groups {α : Type} (size : Nat) (xs : List α) : (groups size xs).flatten = xs := by
  fun_induction groups size xs with
  | case1 => rfl
  | case2 x rest ih => simp [ih]

/-- A word from bytes, most significant first. -/
def word32 (bs : List UInt8) : UInt32 :=
  bs.foldl (fun w b => (w <<< 8) ||| b.toUInt32) 0

/-- A word from bytes, least significant first. -/
def word32Reversed (bs : List UInt8) : UInt32 :=
  word32 bs.reverse

/-- The bytes of a word, most significant first. -/
def bytes32 (w : UInt32) : List UInt8 :=
  [(w >>> 24).toUInt8, (w >>> 16).toUInt8, (w >>> 8).toUInt8, w.toUInt8]

/-- The bytes of a word, least significant first. -/
def bytes32Reversed (w : UInt32) : List UInt8 :=
  (bytes32 w).reverse

/-- The bytes of a long word, most significant first. -/
def bytes64 (w : UInt64) : List UInt8 :=
  bytes32 (w >>> 32).toUInt32 ++ bytes32 w.toUInt32

/-- A long word from bytes, most significant first. -/
def word64 (bs : List UInt8) : UInt64 :=
  bs.foldl (fun w b => (w <<< 8) ||| b.toUInt64) 0

/-! ## Digests -/

/-- The constants of the 64 rounds. -/
def roundConstants : List UInt32 := [
  0x428a2f98, 0x71374491, 0xb5c0fbcf, 0xe9b5dba5, 0x3956c25b, 0x59f111f1, 0x923f82a4, 0xab1c5ed5,
  0xd807aa98, 0x12835b01, 0x243185be, 0x550c7dc3, 0x72be5d74, 0x80deb1fe, 0x9bdc06a7, 0xc19bf174,
  0xe49b69c1, 0xefbe4786, 0x0fc19dc6, 0x240ca1cc, 0x2de92c6f, 0x4a7484aa, 0x5cb0a9dc, 0x76f988da,
  0x983e5152, 0xa831c66d, 0xb00327c8, 0xbf597fc7, 0xc6e00bf3, 0xd5a79147, 0x06ca6351, 0x14292967,
  0x27b70a85, 0x2e1b2138, 0x4d2c6dfc, 0x53380d13, 0x650a7354, 0x766a0abb, 0x81c2c92e, 0x92722c85,
  0xa2bfe8a1, 0xa81a664b, 0xc24b8b70, 0xc76c51a3, 0xd192e819, 0xd6990624, 0xf40e3585, 0x106aa070,
  0x19a4c116, 0x1e376c08, 0x2748774c, 0x34b0bcb5, 0x391c0cb3, 0x4ed8aa4a, 0x5b9cca4f, 0x682e6ff3,
  0x748f82ee, 0x78a5636f, 0x84c87814, 0x8cc70208, 0x90befffa, 0xa4506ceb, 0xbef9a3f7, 0xc67178f2]

/-- The eight words of a digest. -/
structure Digest where
  a : UInt32
  b : UInt32
  c : UInt32
  d : UInt32
  e : UInt32
  f : UInt32
  g : UInt32
  h : UInt32
deriving DecidableEq, Repr, Inhabited

/-- The digest before any input. -/
def Digest.start : Digest :=
  ⟨0x6a09e667, 0xbb67ae85, 0x3c6ef372, 0xa54ff53a, 0x510e527f, 0x9b05688c, 0x1f83d9ab, 0x5be0cd19⟩

/-- A word turned to the right. -/
def turnRight (w : UInt32) (n : UInt32) : UInt32 :=
  (w >>> n) ||| (w <<< (32 - n))

/-- The 64 words of a block: its own sixteen, and 48 mixed from those before. -/
def schedule (words : List UInt32) : Array UInt32 :=
  (List.range 48).foldl (fun w i =>
    let x := w.getD (i + 1) 0
    let y := w.getD (i + 14) 0
    let mixX := turnRight x 7 ^^^ turnRight x 18 ^^^ (x >>> 3)
    let mixY := turnRight y 17 ^^^ turnRight y 19 ^^^ (y >>> 10)
    w.push (w.getD i 0 + mixX + w.getD (i + 9) 0 + mixY)) words.toArray

/-- One round. -/
def Digest.round (s : Digest) (kw : UInt32 × UInt32) : Digest :=
  let sumE := turnRight s.e 6 ^^^ turnRight s.e 11 ^^^ turnRight s.e 25
  let choice := (s.e &&& s.f) ^^^ (~~~s.e &&& s.g)
  let t := s.h + sumE + choice + kw.1 + kw.2
  let sumA := turnRight s.a 2 ^^^ turnRight s.a 13 ^^^ turnRight s.a 22
  let majority := (s.a &&& s.b) ^^^ (s.a &&& s.c) ^^^ (s.b &&& s.c)
  ⟨t + (sumA + majority), s.a, s.b, s.c, s.d + t, s.e, s.f, s.g⟩

/-- Takes in a block of 64 bytes. -/
def Digest.absorb (s : Digest) (block : List UInt8) : Digest :=
  let words := (schedule ((groups 4 block).map word32)).toList
  let t := (roundConstants.zip words).foldl Digest.round s
  ⟨s.a + t.a, s.b + t.b, s.c + t.c, s.d + t.d, s.e + t.e, s.f + t.f, s.g + t.g, s.h + t.h⟩

/-- The bytes of a digest. -/
def Digest.bytes (s : Digest) : List UInt8 :=
  [s.a, s.b, s.c, s.d, s.e, s.f, s.g, s.h].flatMap bytes32

/-- A message filled up to whole blocks: a one bit, zeros, and its length in bits. -/
def filled (message : List UInt8) : List UInt8 :=
  let n := message.length
  message ++ 0x80 :: List.replicate ((119 - n % 64) % 64) 0 ++ bytes64 (UInt64.ofNat (8 * n))

/-- The SHA-256 digest of a byte sequence. -/
def sha256 (message : List UInt8) : List UInt8 :=
  ((groups 64 (filled message)).foldl Digest.absorb Digest.start).bytes

/-- A key of the length of a block. -/
def blockKey (key : List UInt8) : List UInt8 :=
  let k := if 64 < key.length then sha256 key else key
  k ++ List.replicate (64 - k.length) 0

/-- The digest of a byte sequence under a key. -/
def hmac (key message : List UInt8) : List UInt8 :=
  let k := blockKey key
  sha256 (k.map (· ^^^ 0x5c) ++ sha256 (k.map (· ^^^ 0x36) ++ message))

/-- So many groups of 32 bytes from a password and a salt. -/
def stretch (password salt : List UInt8) (count : Nat) : List UInt8 :=
  (List.range count).flatMap fun i => hmac password (salt ++ bytes32 (UInt32.ofNat (i + 1)))

end Groundplan.Seal
