import SealedRpc.Bytes

/-!
# The SHA-256 digest

The SHA-256 digest of byte strings, and the mask generation function that
stretches it to any length.

## Main results

* `length_sha256`: a digest has 32 octets.
* `length_mgf1`: a mask has the length that was asked for.
-/

namespace SealedRpc.Digest

/-- The length of a digest in octets. -/
def size : Nat := 32

/-- The working variables of the compression function. -/
structure Chain where
  a : UInt32
  b : UInt32
  c : UInt32
  d : UInt32
  e : UInt32
  f : UInt32
  g : UInt32
  h : UInt32

/-- Where every digest starts. -/
def Chain.start : Chain :=
  ⟨0x6a09e667, 0xbb67ae85, 0x3c6ef372, 0xa54ff53a,
   0x510e527f, 0x9b05688c, 0x1f83d9ab, 0x5be0cd19⟩

/-- The constants of the sixty-four rounds. -/
def roundConstants : List UInt32 := [
  0x428a2f98, 0x71374491, 0xb5c0fbcf, 0xe9b5dba5, 0x3956c25b, 0x59f111f1, 0x923f82a4, 0xab1c5ed5,
  0xd807aa98, 0x12835b01, 0x243185be, 0x550c7dc3, 0x72be5d74, 0x80deb1fe, 0x9bdc06a7, 0xc19bf174,
  0xe49b69c1, 0xefbe4786, 0x0fc19dc6, 0x240ca1cc, 0x2de92c6f, 0x4a7484aa, 0x5cb0a9dc, 0x76f988da,
  0x983e5152, 0xa831c66d, 0xb00327c8, 0xbf597fc7, 0xc6e00bf3, 0xd5a79147, 0x06ca6351, 0x14292967,
  0x27b70a85, 0x2e1b2138, 0x4d2c6dfc, 0x53380d13, 0x650a7354, 0x766a0abb, 0x81c2c92e, 0x92722c85,
  0xa2bfe8a1, 0xa81a664b, 0xc24b8b70, 0xc76c51a3, 0xd192e819, 0xd6990624, 0xf40e3585, 0x106aa070,
  0x19a4c116, 0x1e376c08, 0x2748774c, 0x34b0bcb5, 0x391c0cb3, 0x4ed8aa4a, 0x5b9cca4f, 0x682e6ff3,
  0x748f82ee, 0x78a5636f, 0x84c87814, 0x8cc70208, 0x90befffa, 0xa4506ceb, 0xbef9a3f7, 0xc67178f2]

/-- Rotates a word to the right by `k` of its 32 places. -/
def rotr (x : UInt32) (k : UInt32) : UInt32 :=
  (x >>> k) ||| (x <<< (32 - k))

/-- The words that four octets each write, most significant octet first. -/
def words : Bytes → List UInt32
  | a :: b :: c :: d :: rest =>
      (a.toUInt32 <<< 24 ||| b.toUInt32 <<< 16 ||| c.toUInt32 <<< 8 ||| d.toUInt32) :: words rest
  | _ => []

/-- Adds `more` words to a message schedule that is kept newest word first. -/
def extendSchedule : Nat → List UInt32 → List UInt32
  | 0, newest => newest
  | more + 1, newest =>
      let w2 := newest.getD 1 0
      let w7 := newest.getD 6 0
      let w15 := newest.getD 14 0
      let w16 := newest.getD 15 0
      let s0 := rotr w15 7 ^^^ rotr w15 18 ^^^ (w15 >>> 3)
      let s1 := rotr w2 17 ^^^ rotr w2 19 ^^^ (w2 >>> 10)
      extendSchedule more ((s1 + w7 + s0 + w16) :: newest)

/-- The sixty-four words that a block of sixty-four octets feeds to the rounds. -/
def schedule (block : Bytes) : List UInt32 :=
  (extendSchedule 48 (words block).reverse).reverse

/-- One round with its constant and its word of the schedule. -/
def Chain.round (s : Chain) (input : UInt32 × UInt32) : Chain :=
  let s1 := rotr s.e 6 ^^^ rotr s.e 11 ^^^ rotr s.e 25
  let choice := (s.e &&& s.f) ^^^ (~~~s.e &&& s.g)
  let t1 := s.h + s1 + choice + input.1 + input.2
  let s0 := rotr s.a 2 ^^^ rotr s.a 13 ^^^ rotr s.a 22
  let majority := (s.a &&& s.b) ^^^ (s.a &&& s.c) ^^^ (s.b &&& s.c)
  ⟨t1 + (s0 + majority), s.a, s.b, s.c, s.d + t1, s.e, s.f, s.g⟩

/-- Adds the variables of two chains word by word. -/
def Chain.add (s t : Chain) : Chain :=
  ⟨s.a + t.a, s.b + t.b, s.c + t.c, s.d + t.d, s.e + t.e, s.f + t.f, s.g + t.g, s.h + t.h⟩

/-- Takes one block of sixty-four octets into the chain. -/
def Chain.compress (s : Chain) (block : Bytes) : Chain :=
  s.add ((roundConstants.zip (schedule block)).foldl Chain.round s)

/-- The four octets of a word, most significant first. -/
def octets (w : UInt32) : Bytes :=
  [(w >>> 24).toUInt8, (w >>> 16).toUInt8, (w >>> 8).toUInt8, w.toUInt8]

/-- The octets of the eight variables in order. -/
def Chain.toBytes (s : Chain) : Bytes :=
  octets s.a ++ octets s.b ++ octets s.c ++ octets s.d ++
    octets s.e ++ octets s.f ++ octets s.g ++ octets s.h

/-- A message filled up to whole blocks: a one bit, zeros, and its length in bits. -/
def fillBlocks (message : Bytes) : Bytes :=
  message ++ 0x80 :: List.replicate ((119 - message.length % 64) % 64) 0 ++
    Bytes.ofNat 8 (8 * message.length)

/-- The SHA-256 digest of a message. -/
def sha256 (message : Bytes) : Bytes :=
  ((Bytes.pieces 64 (fillBlocks message)).foldl Chain.compress Chain.start).toBytes

/-- A digest has 32 octets. -/
@[simp] theorem length_sha256 (message : Bytes) : (sha256 message).length = size := rfl

/-- The first `count` blocks of the mask that `seed` generates. -/
def maskBlocks (seed : Bytes) (count : Nat) : Bytes :=
  (List.range count).flatMap fun i => sha256 (seed ++ Bytes.ofNat 4 i)

/-- A mask of `length` octets generated from `seed`. -/
def mgf1 (seed : Bytes) (length : Nat) : Bytes :=
  (maskBlocks seed (length / size + 1)).take length

/-- Every block of a mask is one digest long. -/
theorem length_maskBlocks (seed : Bytes) (count : Nat) :
    (maskBlocks seed count).length = size * count := by
  induction count with
  | zero => rfl
  | succ n ih =>
      rw [maskBlocks, List.range_succ, List.flatMap_append, List.length_append,
        ← maskBlocks, ih]
      simp [Nat.mul_succ]

/-- A mask has the length that was asked for. -/
@[simp] theorem length_mgf1 (seed : Bytes) (length : Nat) :
    (mgf1 seed length).length = length := by
  rw [mgf1, List.length_take, length_maskBlocks]
  have := Nat.div_add_mod length size
  have : length % size < size := Nat.mod_lt _ (by decide)
  rw [Nat.mul_succ]
  omega

end SealedRpc.Digest
