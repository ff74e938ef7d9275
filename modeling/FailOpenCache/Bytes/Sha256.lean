import FailOpenCache.Text.Decimal

/-!
# SHA-256

The digest of a message of bytes as 64 lower-case hexadecimal digits. A message is padded to
blocks of sixteen words, each block extends to a schedule of 64 words, and each word of the
schedule drives one round over a state of eight words.
-/

namespace FailOpenCache.Sha256

/-- The eight words that the rounds transform. -/
structure State where
  /-- First word. -/
  a : UInt32
  /-- Second word. -/
  b : UInt32
  /-- Third word. -/
  c : UInt32
  /-- Fourth word. -/
  d : UInt32
  /-- Fifth word. -/
  e : UInt32
  /-- Sixth word. -/
  f : UInt32
  /-- Seventh word. -/
  g : UInt32
  /-- Eighth word. -/
  h : UInt32
deriving DecidableEq

/-- Fractional parts of the square roots of the first eight primes. -/
def initial : State :=
  ⟨0x6a09e667, 0xbb67ae85, 0x3c6ef372, 0xa54ff53a, 0x510e527f, 0x9b05688c, 0x1f83d9ab, 0x5be0cd19⟩

/-- Fractional parts of the cube roots of the first 64 primes. -/
def roundConstants : List UInt32 :=
  [0x428a2f98, 0x71374491, 0xb5c0fbcf, 0xe9b5dba5, 0x3956c25b, 0x59f111f1, 0x923f82a4, 0xab1c5ed5,
   0xd807aa98, 0x12835b01, 0x243185be, 0x550c7dc3, 0x72be5d74, 0x80deb1fe, 0x9bdc06a7, 0xc19bf174,
   0xe49b69c1, 0xefbe4786, 0x0fc19dc6, 0x240ca1cc, 0x2de92c6f, 0x4a7484aa, 0x5cb0a9dc, 0x76f988da,
   0x983e5152, 0xa831c66d, 0xb00327c8, 0xbf597fc7, 0xc6e00bf3, 0xd5a79147, 0x06ca6351, 0x14292967,
   0x27b70a85, 0x2e1b2138, 0x4d2c6dfc, 0x53380d13, 0x650a7354, 0x766a0abb, 0x81c2c92e, 0x92722c85,
   0xa2bfe8a1, 0xa81a664b, 0xc24b8b70, 0xc76c51a3, 0xd192e819, 0xd6990624, 0xf40e3585, 0x106aa070,
   0x19a4c116, 0x1e376c08, 0x2748774c, 0x34b0bcb5, 0x391c0cb3, 0x4ed8aa4a, 0x5b9cca4f, 0x682e6ff3,
   0x748f82ee, 0x78a5636f, 0x84c87814, 0x8cc70208, 0x90befffa, 0xa4506ceb, 0xbef9a3f7, 0xc67178f2]

/-- A word rotated to the right. -/
def rotate (word : UInt32) (places : UInt32) : UInt32 :=
  (word >>> places) ||| (word <<< (32 - places))

/-- The words of big-endian bytes. -/
def words : List UInt8 → List UInt32
  | first :: second :: third :: fourth :: rest =>
    ((first.toUInt32 <<< 24) ||| (second.toUInt32 <<< 16) ||| (third.toUInt32 <<< 8) |||
      fourth.toUInt32) :: words rest
  | _ => []

/-- A natural as big-endian bytes. -/
def bigEndian (value : Nat) : Nat → List UInt8
  | 0 => []
  | count + 1 => bigEndian (value / 256) count ++ [UInt8.ofNat (value % 256)]

/-- The message, one set bit, zeros to a multiple of 64 bytes less eight, and the length in bits. -/
def pad (message : List UInt8) : List UInt8 :=
  let zeros := (119 - message.length % 64) % 64
  message ++ 0x80 :: (List.replicate zeros 0 ++ bigEndian (8 * message.length) 8)

/-- Add words to a schedule, the latest word first. -/
def extend (schedule : List UInt32) : Nat → List UInt32
  | 0 => schedule
  | count + 1 =>
    let back := fun places => schedule.getD (places - 1) 0
    let early := back 15
    let late := back 2
    let small0 := rotate early 7 ^^^ rotate early 18 ^^^ (early >>> 3)
    let small1 := rotate late 17 ^^^ rotate late 19 ^^^ (late >>> 10)
    extend ((small1 + back 7 + small0 + back 16) :: schedule) count

/-- The 64 words of a block of sixteen. -/
def schedule (block : List UInt32) : List UInt32 :=
  (extend block.reverse 48).reverse

/-- One round, driven by a round constant and a word of the schedule. -/
def round (state : State) (drive : UInt32 × UInt32) : State :=
  let big1 := rotate state.e 6 ^^^ rotate state.e 11 ^^^ rotate state.e 25
  let choice := (state.e &&& state.f) ^^^ (~~~state.e &&& state.g)
  let first := state.h + big1 + choice + drive.1 + drive.2
  let big0 := rotate state.a 2 ^^^ rotate state.a 13 ^^^ rotate state.a 22
  let majority := (state.a &&& state.b) ^^^ (state.a &&& state.c) ^^^ (state.b &&& state.c)
  ⟨first + (big0 + majority), state.a, state.b, state.c, state.d + first, state.e, state.f, state.g⟩

/-- The words of two states added. -/
def add (left right : State) : State :=
  ⟨left.a + right.a, left.b + right.b, left.c + right.c, left.d + right.d,
    left.e + right.e, left.f + right.f, left.g + right.g, left.h + right.h⟩

/-- One block taken into the state. -/
def compress (state : State) (block : List UInt32) : State :=
  add state ((roundConstants.zip (schedule block)).foldl round state)

/-- So many blocks of sixteen words taken into the state. -/
def compressAll (state : State) (input : List UInt32) : Nat → State
  | 0 => state
  | count + 1 => compressAll (compress state (input.take 16)) (input.drop 16) count

/-- The state that a message leads to. -/
def hash (message : List UInt8) : State :=
  let input := words (pad message)
  compressAll initial input (input.length / 16)

/-- A hexadecimal digit in lower case. -/
def hexDigit (value : Nat) : Char :=
  if value < 10 then Char.ofNat (48 + value) else Char.ofNat (87 + value)

/-- A natural as so many hexadecimal digits. -/
def hexDigits (value : Nat) : Nat → List Char
  | 0 => []
  | count + 1 => hexDigits (value / 16) count ++ [hexDigit (value % 16)]

/-- The words of a state in order. -/
def State.toList (state : State) : List UInt32 :=
  [state.a, state.b, state.c, state.d, state.e, state.f, state.g, state.h]

/-- The digest of a message in hexadecimal digits. -/
def digest (message : List UInt8) : List Char :=
  (hash message).toList.flatMap fun word => hexDigits word.toNat 8

/-- So many digits are written as asked for. -/
@[simp] theorem length_hexDigits (value count : Nat) : (hexDigits value count).length = count := by
  induction count generalizing value with
  | zero => rfl
  | succ count ih => simp [hexDigits, ih]

/-- Every digest has 64 digits. -/
theorem length_digest (message : List UInt8) : (digest message).length = 64 := by
  simp [digest, State.toList]

end FailOpenCache.Sha256
