import Mathlib

/-! SHA-256 of a text in UTF-8, as a lower-case hexadecimal digest. Words are
bit vectors and every loop is a fold, so that a digest can be computed by the
kernel. -/

namespace WebSupervisor.Library

namespace Sha256

abbrev Word := BitVec 32

def roundConstants : List Word :=
  [0x428a2f98, 0x71374491, 0xb5c0fbcf, 0xe9b5dba5, 0x3956c25b, 0x59f111f1, 0x923f82a4, 0xab1c5ed5,
   0xd807aa98, 0x12835b01, 0x243185be, 0x550c7dc3, 0x72be5d74, 0x80deb1fe, 0x9bdc06a7, 0xc19bf174,
   0xe49b69c1, 0xefbe4786, 0x0fc19dc6, 0x240ca1cc, 0x2de92c6f, 0x4a7484aa, 0x5cb0a9dc, 0x76f988da,
   0x983e5152, 0xa831c66d, 0xb00327c8, 0xbf597fc7, 0xc6e00bf3, 0xd5a79147, 0x06ca6351, 0x14292967,
   0x27b70a85, 0x2e1b2138, 0x4d2c6dfc, 0x53380d13, 0x650a7354, 0x766a0abb, 0x81c2c92e, 0x92722c85,
   0xa2bfe8a1, 0xa81a664b, 0xc24b8b70, 0xc76c51a3, 0xd192e819, 0xd6990624, 0xf40e3585, 0x106aa070,
   0x19a4c116, 0x1e376c08, 0x2748774c, 0x34b0bcb5, 0x391c0cb3, 0x4ed8aa4a, 0x5b9cca4f, 0x682e6ff3,
   0x748f82ee, 0x78a5636f, 0x84c87814, 0x8cc70208, 0x90befffa, 0xa4506ceb, 0xbef9a3f7, 0xc67178f2]

/-- The working variables `a` to `h`. -/
structure Registers where
  a : Word
  b : Word
  c : Word
  d : Word
  e : Word
  f : Word
  g : Word
  h : Word

def initial : Registers :=
  ⟨0x6a09e667, 0xbb67ae85, 0x3c6ef372, 0xa54ff53a, 0x510e527f, 0x9b05688c, 0x1f83d9ab, 0x5be0cd19⟩

/-- The text followed by a one bit, zero bits and its length in bits, a multiple
of 64 bytes in all. -/
def pad (bytes : List Nat) : List Nat :=
  let zeros := (119 - bytes.length % 64) % 64
  let length := (List.range 8).map (fun index => bytes.length * 8 / 256 ^ (7 - index) % 256)
  bytes ++ 0x80 :: List.replicate zeros 0 ++ length

/-- The sixteen words of a block, big-endian. -/
def words (block : List Nat) : List Word :=
  (List.range 16).map (fun index =>
    BitVec.ofNat 32 (((block.drop (4 * index)).take 4).foldl (fun value byte => value * 256 + byte) 0))

/-- The message schedule. The accumulator holds the words so far, latest first. -/
def schedule (block : List Word) : List Word :=
  let extend (latest : List Word) (_ : Nat) : List Word :=
    let back (distance : Nat) : Word := latest.getD (distance - 1) 0
    let low := (back 15).rotateRight 7 ^^^ (back 15).rotateRight 18 ^^^ (back 15) >>> 3
    let high := (back 2).rotateRight 17 ^^^ (back 2).rotateRight 19 ^^^ (back 2) >>> 10
    (back 16 + low + back 7 + high) :: latest
  ((List.range 48).foldl extend block.reverse).reverse

def round (state : Registers) (input : Word × Word) : Registers :=
  let big := state.e.rotateRight 6 ^^^ state.e.rotateRight 11 ^^^ state.e.rotateRight 25
  let choice := (state.e &&& state.f) ^^^ (~~~state.e &&& state.g)
  let first := state.h + big + choice + input.1 + input.2
  let small := state.a.rotateRight 2 ^^^ state.a.rotateRight 13 ^^^ state.a.rotateRight 22
  let majority := (state.a &&& state.b) ^^^ (state.a &&& state.c) ^^^ (state.b &&& state.c)
  ⟨first + (small + majority), state.a, state.b, state.c, state.d + first, state.e, state.f, state.g⟩

def compress (state : Registers) (block : List Nat) : Registers :=
  let last := (roundConstants.zip (schedule (words block))).foldl round state
  ⟨state.a + last.a, state.b + last.b, state.c + last.c, state.d + last.d,
    state.e + last.e, state.f + last.f, state.g + last.g, state.h + last.h⟩

/-- `hexdigest()` of the bytes. -/
def hexdigest (bytes : List Nat) : String :=
  let padded := pad bytes
  let blocks := (List.range (padded.length / 64)).map (fun index => (padded.drop (64 * index)).take 64)
  let last := blocks.foldl compress initial
  let digits (word : Word) : List Char :=
    (List.range 8).map (fun index => Nat.digitChar (word.toNat / 16 ^ (7 - index) % 16))
  String.ofList ([last.a, last.b, last.c, last.d, last.e, last.f, last.g, last.h].flatMap digits)

end Sha256

/-- `hashlib.sha256(text.encode("utf-8")).hexdigest()`. -/
def sha256 (text : String) : String :=
  Sha256.hexdigest ((text.toList.flatMap String.utf8EncodeChar).map UInt8.toNat)

example : sha256 "abc" = "ba7816bf8f01cfea414140de5dae2223b00361a396177a9cb410ff61f20015ad" := by decide +kernel

end WebSupervisor.Library
