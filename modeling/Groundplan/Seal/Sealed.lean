import Groundplan.Seal.Cipher

/-!
# Sealed bytes

Authenticated encryption in counter mode over any block cipher: the text is masked by a stream of
enciphered counters, and a tag over the masked text shows whether it was changed.

## Main definitions

* `Block`, `Block.times`: blocks as elements of the field of 2 to the 128
* `authenticate`: the polynomial digest of a byte sequence
* `counterStart`, `mask`: the counters and the masking
* `sealBytes`, `openBytes?`: sealing, and opening what was sealed

## Main results

* `mask_mask`: masking twice is doing nothing
* `openBytes?_sealBytes`: what was sealed opens to the text
-/

namespace Groundplan.Seal

/-! ## The field of blocks -/

/-- A block of 128 bits, the first bit being the highest. -/
structure Block where
  high : UInt64
  low : UInt64
deriving DecidableEq, Repr, Inhabited

namespace Block

/-- The block of sixteen bytes; missing ones are zero. -/
def ofBytes (bs : List UInt8) : Block :=
  let full := bs ++ List.replicate (16 - bs.length) 0
  ⟨word64 (full.take 8), word64 (full.drop 8)⟩

/-- The bytes of a block. -/
def bytes (b : Block) : List UInt8 :=
  bytes64 b.high ++ bytes64 b.low

/-- The sum of blocks: exclusive or. -/
def add (a b : Block) : Block :=
  ⟨a.high ^^^ b.high, a.low ^^^ b.low⟩

/-- A block times `x`: its bits moved on by one place, the last folding back. -/
def timesX (b : Block) : Block :=
  let low := (b.low >>> 1) ||| (b.high <<< 63)
  let high := b.high >>> 1
  if b.low &&& 1 = 1 then ⟨high ^^^ 0xe100000000000000, low⟩ else ⟨high, low⟩

/-- The bit of a block at a place. -/
def bit (b : Block) (i : Nat) : Bool :=
  if i < 64 then (b.high >>> UInt64.ofNat (63 - i)) &&& 1 = 1
  else (b.low >>> UInt64.ofNat (127 - i)) &&& 1 = 1

/-- The product of blocks in the field. -/
def times (a b : Block) : Block :=
  -- Each bit of the one adds the other, which moves on by a place at every step.
  ((List.range 128).foldl (fun (s : Block × Block) i =>
    (if a.bit i then s.1.add s.2 else s.1, s.2.timesX)) (⟨0, 0⟩, b)).1

end Block

/-! ## Tags -/

/-- Folds the groups of sixteen bytes of a sequence into a digest. -/
def absorb (h : Block) (digest : Block) (bs : List UInt8) : Block :=
  (groups 16 bs).foldl (fun y g => (y.add (.ofBytes g)).times h) digest

/-- The polynomial digest of a byte sequence and its length. -/
def authenticate (h : Block) (bs : List UInt8) : Block :=
  let lengths : Block := ⟨0, UInt64.ofNat (8 * bs.length)⟩
  ((absorb h ⟨0, 0⟩ bs).add lengths).times h

/-! ## Masking -/

/-- The first counter: of a nonce of twelve bytes the nonce and a one, of another its digest. -/
def counterStart (h : Block) (nonce : List UInt8) : Block :=
  if nonce.length = 12 then .ofBytes (nonce ++ [0, 0, 0, 1]) else authenticate h nonce

/-- The next counter: its last 32 bits count. -/
def nextCounter (b : Block) : Block :=
  ⟨b.high, (b.low &&& 0xffffffff00000000) ||| (b.low.toUInt32 + 1).toUInt64⟩

/-- A cipher on blocks of sixteen bytes. -/
abbrev BlockCipher := List UInt8 → List UInt8

/-- The mask of a counter, of sixteen bytes. -/
def maskOf (cipher : BlockCipher) (counter : Block) : List UInt8 :=
  (cipher counter.bytes ++ List.replicate 16 0).take 16

/-- The masks of so many counters from one on. -/
def masks (cipher : BlockCipher) : Nat → Block → List UInt8
  | 0, _ => []
  | n + 1, counter => maskOf cipher counter ++ masks cipher n (nextCounter counter)

/-- Masks a byte sequence by counters from one on. -/
def mask (cipher : BlockCipher) (counter : Block) (bs : List UInt8) : List UInt8 :=
  xorBytes bs (masks cipher ((bs.length + 15) / 16) counter)

/-! ## Sealing -/

/-- A text under seal: the nonce, the tag, and the masked text. -/
structure Envelope where
  nonce : List UInt8
  tag : List UInt8
  body : List UInt8
deriving DecidableEq, Repr, Inhabited

/-- The block that digests are taken at. -/
def hashKey (cipher : BlockCipher) : Block :=
  .ofBytes (cipher (List.replicate 16 0))

/-- The tag of a masked text. -/
def tagOf (cipher : BlockCipher) (nonce body : List UInt8) : List UInt8 :=
  let h := hashKey cipher
  xorBytes (authenticate h body).bytes (maskOf cipher (counterStart h nonce))

/-- The masked or unmasked text. -/
def maskText (cipher : BlockCipher) (nonce text : List UInt8) : List UInt8 :=
  mask cipher (nextCounter (counterStart (hashKey cipher) nonce)) text

/-- **Seals a text.** -/
def sealBytes (cipher : BlockCipher) (nonce text : List UInt8) : Envelope :=
  let body := maskText cipher nonce text
  ⟨nonce, tagOf cipher nonce body, body⟩

/-- The least and the greatest number of bytes of a nonce. -/
def nonceBounds : Nat × Nat := (8, 128)

/-- Whether a nonce has an acceptable length. -/
def isNonce (nonce : List UInt8) : Bool :=
  nonceBounds.1 ≤ nonce.length && nonce.length ≤ nonceBounds.2

/-- The number of bytes of a tag. -/
def tagBytes : Nat := 16

/-- An envelope whose tag is the last sixteen bytes of its body and tag together. -/
def Envelope.settled (e : Envelope) : Envelope :=
  let all := e.body ++ e.tag
  ⟨e.nonce, all.drop (all.length - tagBytes), all.take (all.length - tagBytes)⟩

/-- **Opens an envelope**, unless its nonce or its tag is not right. -/
def openBytes? (cipher : BlockCipher) (e : Envelope) : Option (List UInt8) :=
  let e := e.settled
  if isNonce e.nonce && e.tag == tagOf cipher e.nonce e.body then
    some (maskText cipher e.nonce e.body)
  else none

/-! ## Opening undoes sealing -/

theorem length_xorBytes (as bs : List UInt8) :
    (xorBytes as bs).length = min as.length bs.length := by
  simp [xorBytes]

theorem xorBytes_xorBytes (as bs : List UInt8) (h : as.length ≤ bs.length) :
    xorBytes (xorBytes as bs) bs = as := by
  induction as generalizing bs with
  | nil => simp [xorBytes]
  | cons a as ih =>
    cases bs with
    | nil => simp at h
    | cons b bs =>
      have := ih bs (by simpa using h)
      simp only [xorBytes, List.zipWith_cons_cons] at this ⊢
      rw [this, UInt8.xor_assoc, UInt8.xor_self, UInt8.xor_zero]

theorem length_maskOf (cipher : BlockCipher) (c : Block) : (maskOf cipher c).length = 16 := by
  simp only [maskOf, List.length_take, List.length_append, List.length_replicate]
  omega

theorem length_masks (cipher : BlockCipher) (n : Nat) (c : Block) :
    (masks cipher n c).length = 16 * n := by
  induction n generalizing c with
  | zero => rfl
  | succ n ih => simp only [masks, List.length_append, length_maskOf, ih]; omega

/-- Masking keeps the length. -/
theorem length_mask (cipher : BlockCipher) (c : Block) (bs : List UInt8) :
    (mask cipher c bs).length = bs.length := by
  simp only [mask, length_xorBytes, length_masks]
  omega

/-- Masking twice is doing nothing. -/
theorem mask_mask (cipher : BlockCipher) (c : Block) (bs : List UInt8) :
    mask cipher c (mask cipher c bs) = bs := by
  have h : (mask cipher c bs).length = bs.length := length_mask cipher c bs
  rw [mask, h, mask, xorBytes_xorBytes]
  rw [length_masks]
  omega

theorem length_bytes64 (w : UInt64) : (bytes64 w).length = 8 := by
  simp [bytes64, bytes32]

theorem length_tagOf (cipher : BlockCipher) (nonce body : List UInt8) :
    (tagOf cipher nonce body).length = tagBytes := by
  simp [tagOf, length_xorBytes, length_maskOf, Block.bytes, length_bytes64, tagBytes]

theorem settled_sealBytes (cipher : BlockCipher) (nonce text : List UInt8) :
    (sealBytes cipher nonce text).settled = sealBytes cipher nonce text := by
  simp [Envelope.settled, sealBytes, length_tagOf]

/-- **What was sealed opens to the text.** -/
theorem openBytes?_sealBytes (cipher : BlockCipher) (nonce text : List UInt8)
    (h : isNonce nonce = true) : openBytes? cipher (sealBytes cipher nonce text) = some text := by
  rw [openBytes?, settled_sealBytes]
  simp [sealBytes, h, maskText, mask_mask]

end Groundplan.Seal
