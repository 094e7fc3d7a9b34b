/-!
# SHA-256

The SHA-256 hash of bytes. A message is padded to whole blocks of sixteen words; each block is
extended to a schedule of sixty-four words and stirred into the state by sixty-four rounds. The
digest is the eight words of the last state, written as sixty-four lower-case hexadecimal digits.
-/

namespace SignatureLint.Sha256

/-- The round constants: the first 32 bits of the fractional parts of the cube roots of the first 64 primes. -/
def roundConstants : List UInt32 := [
  0x428a2f98, 0x71374491, 0xb5c0fbcf, 0xe9b5dba5, 0x3956c25b, 0x59f111f1, 0x923f82a4, 0xab1c5ed5,
  0xd807aa98, 0x12835b01, 0x243185be, 0x550c7dc3, 0x72be5d74, 0x80deb1fe, 0x9bdc06a7, 0xc19bf174,
  0xe49b69c1, 0xefbe4786, 0x0fc19dc6, 0x240ca1cc, 0x2de92c6f, 0x4a7484aa, 0x5cb0a9dc, 0x76f988da,
  0x983e5152, 0xa831c66d, 0xb00327c8, 0xbf597fc7, 0xc6e00bf3, 0xd5a79147, 0x06ca6351, 0x14292967,
  0x27b70a85, 0x2e1b2138, 0x4d2c6dfc, 0x53380d13, 0x650a7354, 0x766a0abb, 0x81c2c92e, 0x92722c85,
  0xa2bfe8a1, 0xa81a664b, 0xc24b8b70, 0xc76c51a3, 0xd192e819, 0xd6990624, 0xf40e3585, 0x106aa070,
  0x19a4c116, 0x1e376c08, 0x2748774c, 0x34b0bcb5, 0x391c0cb3, 0x4ed8aa4a, 0x5b9cca4f, 0x682e6ff3,
  0x748f82ee, 0x78a5636f, 0x84c87814, 0x8cc70208, 0x90befffa, 0xa4506ceb, 0xbef9a3f7, 0xc67178f2]

/-- The eight words that blocks are stirred into. -/
structure State where
  a : UInt32
  b : UInt32
  c : UInt32
  d : UInt32
  e : UInt32
  f : UInt32
  g : UInt32
  h : UInt32
deriving DecidableEq

/-- The first state: the first 32 bits of the fractional parts of the square roots of the first 8 primes. -/
def State.initial : State :=
  ⟨0x6a09e667, 0xbb67ae85, 0x3c6ef372, 0xa54ff53a, 0x510e527f, 0x9b05688c, 0x1f83d9ab, 0x5be0cd19⟩

/-- The words of a state in order. -/
def State.words (s : State) : List UInt32 := [s.a, s.b, s.c, s.d, s.e, s.f, s.g, s.h]

/-- A word turned right by `n` bits, for `n` from 1 to 31. -/
def rotate (n : UInt32) (x : UInt32) : UInt32 := (x >>> n) ||| (x <<< (32 - n))

/-- The schedule with its next word, made of the words 16, 15, 7 and 2 places back. -/
def extend (schedule : Array UInt32) : Array UInt32 :=
  let back (n : Nat) : UInt32 := schedule.getD (schedule.size - n) 0
  let near := back 2
  let far := back 15
  schedule.push (back 16 + (rotate 7 far ^^^ rotate 18 far ^^^ (far >>> 3)) + back 7 +
    (rotate 17 near ^^^ rotate 19 near ^^^ (near >>> 10)))

/-- The sixty-four words of a block's schedule. -/
def schedule (block : Array UInt32) : Array UInt32 := Nat.repeat extend 48 block

/-- One round, with the sum of its constant and its schedule word. -/
def State.round (s : State) (word : UInt32) : State :=
  let t1 := s.h + (rotate 6 s.e ^^^ rotate 11 s.e ^^^ rotate 25 s.e) + ((s.e &&& s.f) ^^^ (~~~s.e &&& s.g)) + word
  let t2 := (rotate 2 s.a ^^^ rotate 13 s.a ^^^ rotate 22 s.a) + ((s.a &&& s.b) ^^^ (s.a &&& s.c) ^^^ (s.b &&& s.c))
  ⟨t1 + t2, s.a, s.b, s.c, s.d + t1, s.e, s.f, s.g⟩

/-- The state after one block. -/
def State.stir (s : State) (block : Array UInt32) : State :=
  let t := ((schedule block).toList.zipWith (· + ·) roundConstants).foldl State.round s
  ⟨s.a + t.a, s.b + t.b, s.c + t.c, s.d + t.d, s.e + t.e, s.f + t.f, s.g + t.g, s.h + t.h⟩

/-- A word of four bytes, the first the highest. -/
def wordOfBytes (b₀ b₁ b₂ b₃ : UInt8) : UInt32 :=
  (b₀.toUInt32 <<< 24) ||| (b₁.toUInt32 <<< 16) ||| (b₂.toUInt32 <<< 8) ||| b₃.toUInt32

/-- What follows a message of `size` bytes: a set bit, clear bits up to a whole number of blocks, and
the size in bits as eight bytes, the first the highest. -/
def padding (size : Nat) : List UInt8 :=
  let zeros := (119 - size % 64) % 64
  let length := [56, 48, 40, 32, 24, 16, 8, 0].map fun shift => UInt8.ofNat ((8 * size) >>> shift)
  0x80 :: (List.replicate zeros 0 ++ length)

/-- Bytes taken as words of four; fewer than four bytes at the end are left out. -/
def wordsOfBytes : List UInt8 → List UInt32
  | b₀ :: b₁ :: b₂ :: b₃ :: rest => wordOfBytes b₀ b₁ b₂ b₃ :: wordsOfBytes rest
  | _ => []

/-- The state after words stirred in as blocks of sixteen; `block` holds those of the block begun. -/
def stirWords (s : State) (block : Array UInt32) : List UInt32 → State
  | [] => s
  | word :: words =>
    let filled := block.push word
    if filled.size = 16 then stirWords (s.stir filled) #[] words else stirWords s filled words

/-- The hash of a message, as the words of the last state. -/
def hash (message : List UInt8) : List UInt32 :=
  (stirWords .initial #[] (wordsOfBytes (message ++ padding message.length))).words

/-- A word as eight hexadecimal digits. -/
def hexOfWord (word : UInt32) : List Char :=
  [28, 24, 20, 16, 12, 8, 4, 0].map fun shift => Nat.digitChar ((word.toNat >>> shift) % 16)

/-- The hash of a text's bytes in UTF-8, as sixty-four hexadecimal digits. -/
def hexDigest (text : String) : String :=
  String.ofList ((hash text.toUTF8.toList).flatMap hexOfWord)

end SignatureLint.Sha256
