import FailOpenCache.Bytes.Inflate

/-!
# Framed compressed streams

A framed stream has a header of two bytes, a compressed stream, and a check sum of the bytes it
stands for. Reading verifies the header and the check sum and ignores what follows. Writing keeps
the bytes as they are in blocks of at most 65535, which every reader of the format takes.
-/

namespace FailOpenCache.Zlib

/-- The modulus of the check sum, the greatest prime below two to the sixteenth. -/
def checkModulus : Nat := 65521

/-- The check sum of bytes: the sum of the bytes and the sum of all partial sums. -/
def checkSum (bytes : List UInt8) : Nat :=
  let (low, high) := bytes.foldl
    (fun (sums : Nat × Nat) byte =>
      let low := (sums.1 + byte.toNat) % checkModulus
      (low, (sums.2 + low) % checkModulus))
    (1, 0)
  high * 65536 + low

/-- A header names the one method there is, a window of at most 32768 bytes and no preset
dictionary, and is a multiple of 31. -/
def isHeader (method flags : UInt8) : Bool :=
  method.toNat % 16 == 8 && method.toNat / 16 ≤ 7 && (method.toNat * 256 + flags.toNat) % 31 == 0 &&
    flags.toNat / 32 % 2 == 0

/-- Read four bytes, the most significant one first. -/
def takeBigEndian (stream : List Bool) : Option Nat := do
  let (first, stream) ← Inflate.takeNumber 8 stream
  let (second, stream) ← Inflate.takeNumber 8 stream
  let (third, stream) ← Inflate.takeNumber 8 stream
  let (fourth, _) ← Inflate.takeNumber 8 stream
  some (((first * 256 + second) * 256 + third) * 256 + fourth)

/-- The bytes that a framed stream stands for. -/
def decompress? : List UInt8 → Option (List UInt8)
  | method :: flags :: body =>
    if isHeader method flags then
      match Inflate.inflate (Inflate.bits body) with
      | none => none
      | some (bytes, rest) =>
        if takeBigEndian (Inflate.alignToByte rest) = some (checkSum bytes) then some bytes else none
    else none
  | _ => none

/-- The most bytes that one block keeps as they are. -/
def blockLimit : Nat := 65535

/-- A natural as two bytes, the least significant one first. -/
def twoBytes (value : Nat) : List UInt8 :=
  [UInt8.ofNat (value % 256), UInt8.ofNat (value / 256)]

/-- One block that keeps its bytes as they are. -/
def storedBlock (last : Bool) (bytes : List UInt8) : List UInt8 :=
  UInt8.ofNat last.toNat :: (twoBytes bytes.length ++ twoBytes (65535 - bytes.length) ++ bytes)

/-- Blocks that keep bytes as they are, all full but the last. -/
def storedBlocks (bytes : List UInt8) : List UInt8 :=
  if bytes.length ≤ blockLimit then storedBlock true bytes
  else storedBlock false (bytes.take blockLimit) ++ storedBlocks (bytes.drop blockLimit)
termination_by bytes.length
decreasing_by simp only [List.length_drop, blockLimit] at *; omega

/-- A check sum as four bytes, the most significant one first. -/
def checkBytes (value : Nat) : List UInt8 :=
  [UInt8.ofNat (value / 16777216), UInt8.ofNat (value / 65536 % 256),
    UInt8.ofNat (value / 256 % 256), UInt8.ofNat (value % 256)]

/-- The framed stream of bytes. -/
def compress (bytes : List UInt8) : List UInt8 :=
  0x78 :: 0x01 :: (storedBlocks bytes ++ checkBytes (checkSum bytes))

end FailOpenCache.Zlib
