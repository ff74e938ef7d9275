import FailOpenCache.Number.Power

/-!
# Reading compressed bytes

A compressed stream is a sequence of bits, the least significant bit of each byte first. It
consists of blocks, the last of which is marked: a block holds its bytes as they are, or literals
and back references under a fixed code or under one that the block itself describes. A code is
given by the lengths of its code words alone; code words of one length are consecutive, in the
order of their symbols. Every read returns the bits that follow it and refuses when they run out.
-/

namespace FailOpenCache.Inflate

/-- The bits of a byte, the least significant one first. -/
def byteBits (byte : UInt8) : List Bool :=
  (List.range 8).map byte.toNat.testBit

/-- The bits of bytes in stream order. -/
def bits (bytes : List UInt8) : List Bool :=
  bytes.flatMap byteBits

/-- A number of so many bits, the least significant one first. -/
def takeNumber : Nat → List Bool → Option (Nat × List Bool)
  | 0, stream => some (0, stream)
  | _ + 1, [] => none
  | count + 1, bit :: rest =>
    match takeNumber count rest with
    | some (value, rest) => some (2 * value + bit.toNat, rest)
    | none => none

/-- The greatest length of a code word. -/
def longest : Nat := 15

/-- A code: how many code words have each length from one on, and all symbols in the order of
their code words. -/
structure Code where
  /-- How many code words have length one, two, and so on. -/
  counts : List Nat
  /-- The symbols in the order of their code words. -/
  symbols : Array Nat

/-- The symbols whose code words have a length, in order. -/
def symbolsOfLength (lengths : List Nat) (length : Nat) : List Nat :=
  (lengths.zipIdx.filter fun entry => entry.1 == length).map Prod.snd

/-- How far code words fill the space of all words of the greatest length. -/
def filled (counts : List Nat) : Nat :=
  counts.foldl (fun total count => 2 * total + count) 0

/-- The code of given lengths, a length of zero meaning no code word. No two code words may share
a word they start, and none may be left over unless at most one symbol is used. -/
def Code.ofLengths? (lengths : List Nat) : Option Code :=
  let bySize := (List.range longest).map fun length => symbolsOfLength lengths (length + 1)
  let counts := bySize.map List.length
  let used := counts.foldl (· + ·) 0
  if filled counts = 2 ^ longest ∨ used ≤ 1 then some ⟨counts, bySize.flatten.toArray⟩ else none

/-- Read a code word bit by bit. The word so far is compared with the first word of its length;
the index says how many symbols have shorter words. -/
def decodeSymbol (symbols : Array Nat) (word first index : Nat) :
    List Nat → List Bool → Option (Nat × List Bool)
  | [], _ => none
  | _ :: _, [] => none
  | count :: counts, bit :: rest =>
    let word := word + bit.toNat
    if word < first + count then
      match symbols[index + (word - first)]? with
      | some symbol => some (symbol, rest)
      | none => none
    else decodeSymbol symbols (2 * word) (2 * (first + count)) (index + count) counts rest

/-- Read one symbol of a code. -/
def Code.next (code : Code) (stream : List Bool) : Option (Nat × List Bool) :=
  decodeSymbol code.symbols 0 0 0 code.counts stream

/-- Base lengths and extra bits of the symbols from 257 on. -/
def lengthClasses : List (Nat × Nat) :=
  [(3, 0), (4, 0), (5, 0), (6, 0), (7, 0), (8, 0), (9, 0), (10, 0), (11, 1), (13, 1), (15, 1),
   (17, 1), (19, 2), (23, 2), (27, 2), (31, 2), (35, 3), (43, 3), (51, 3), (59, 3), (67, 4),
   (83, 4), (99, 4), (115, 4), (131, 5), (163, 5), (195, 5), (227, 5), (258, 0)]

/-- Base distances and extra bits of the distance symbols. -/
def distanceClasses : List (Nat × Nat) :=
  [(1, 0), (2, 0), (3, 0), (4, 0), (5, 1), (7, 1), (9, 2), (13, 2), (17, 3), (25, 3), (33, 4),
   (49, 4), (65, 5), (97, 5), (129, 6), (193, 6), (257, 7), (385, 7), (513, 8), (769, 8),
   (1025, 9), (1537, 9), (2049, 10), (3073, 10), (4097, 11), (6145, 11), (8193, 12), (12289, 12),
   (16385, 13), (24577, 13)]

/-- A base value and the extra bits that are added to it. -/
def takeClass (classes : List (Nat × Nat)) (index : Nat) (stream : List Bool) :
    Option (Nat × List Bool) :=
  match classes[index]? with
  | none => none
  | some (base, extra) =>
    match takeNumber extra stream with
    | some (value, rest) => some (base + value, rest)
    | none => none

/-- Repeat bytes that stand a distance back; a copy may run into itself. -/
def copyBack (output : Array UInt8) (distance : Nat) : Nat → Option (Array UInt8)
  | 0 => some output
  | count + 1 =>
    if distance ≤ output.size then
      match output[output.size - distance]? with
      | some byte => copyBack (output.push byte) distance count
      | none => none
    else none

/-- Read literals and back references up to the end of their block. Every symbol takes at least
one bit, so the number of bits bounds the number of symbols. -/
def takeSymbols (literals distances : Code) :
    Nat → List Bool → Array UInt8 → Option (Array UInt8 × List Bool)
  | 0, _, _ => none
  | bound + 1, stream, output =>
    match literals.next stream with
    | none => none
    | some (symbol, rest) =>
      if symbol < 256 then takeSymbols literals distances bound rest (output.push (UInt8.ofNat symbol))
      else if symbol = 256 then some (output, rest)
      else
        match takeClass lengthClasses (symbol - 257) rest with
        | none => none
        | some (length, rest) =>
          match distances.next rest with
          | none => none
          | some (distanceSymbol, rest) =>
            match takeClass distanceClasses distanceSymbol rest with
            | none => none
            | some (distance, rest) =>
              match copyBack output distance length with
              | none => none
              | some output => takeSymbols literals distances bound rest output

/-- The fixed lengths of literal code words. -/
def fixedLiterals : List Nat :=
  List.replicate 144 8 ++ List.replicate 112 9 ++ List.replicate 24 7 ++ List.replicate 8 8

/-- The fixed lengths of distance code words. -/
def fixedDistances : List Nat := List.replicate 32 5

/-- The order in which a block gives the lengths of the code for lengths. -/
def lengthOrder : List Nat :=
  [16, 17, 18, 0, 8, 7, 9, 6, 10, 5, 11, 4, 12, 3, 13, 2, 14, 1, 15]

/-- Read so many numbers of three bits. -/
def takeTriples : Nat → List Bool → Option (List Nat × List Bool)
  | 0, stream => some ([], stream)
  | count + 1, stream =>
    match takeNumber 3 stream with
    | none => none
    | some (value, rest) =>
      match takeTriples count rest with
      | none => none
      | some (values, rest) => some (value :: values, rest)

/-- Read lengths under the code for lengths until so many are there: a length, a repetition of the
latest one, or a run of zeros. The lengths are kept the latest first. -/
def takeLengths (code : Code) (wanted : Nat) :
    Nat → List Bool → List Nat → Option (List Nat × List Bool)
  | 0, _, _ => none
  | bound + 1, stream, lengths =>
    if lengths.length = wanted then some (lengths.reverse, stream)
    else if wanted < lengths.length then none
    else
      match code.next stream with
      | none => none
      | some (symbol, rest) =>
        if symbol < 16 then takeLengths code wanted bound rest (symbol :: lengths)
        else
          let (repeated, base, extra) :=
            if symbol = 16 then (lengths.head?, 3, 2)
            else if symbol = 17 then (some 0, 3, 3)
            else (some 0, 11, 7)
          match repeated, takeNumber extra rest with
          | some length, some (value, rest) =>
            takeLengths code wanted bound rest (List.replicate (base + value) length ++ lengths)
          | _, _ => none

/-- Read the two codes that a block describes. -/
def takeCodes (stream : List Bool) : Option (Code × Code × List Bool) := do
  let (literalCount, stream) ← takeNumber 5 stream
  let (distanceCount, stream) ← takeNumber 5 stream
  let (lengthCount, stream) ← takeNumber 4 stream
  let literalCount := literalCount + 257
  let distanceCount := distanceCount + 1
  let (triples, stream) ← takeTriples (lengthCount + 4) stream
  let given := lengthOrder.zip triples
  let code ← Code.ofLengths? ((List.range 19).map fun symbol => (given.lookup symbol).getD 0)
  let (lengths, stream) ←
    takeLengths code (literalCount + distanceCount) (stream.length + 1) stream []
  let literals ← Code.ofLengths? (lengths.take literalCount)
  let distances ← Code.ofLengths? (lengths.drop literalCount)
  some (literals, distances, stream)

/-- Read so many whole bytes. -/
def takeBytes : Nat → List Bool → Array UInt8 → Option (Array UInt8 × List Bool)
  | 0, stream, output => some (output, stream)
  | count + 1, stream, output =>
    match takeNumber 8 stream with
    | some (byte, rest) => takeBytes count rest (output.push (UInt8.ofNat byte))
    | none => none

/-- Drop the bits up to the next byte; a whole stream is a whole number of bytes. -/
def alignToByte (stream : List Bool) : List Bool :=
  stream.drop (stream.length % 8)

/-- Read a block of bytes as they are: their count, its complement, and the bytes. -/
def takeStored (stream : List Bool) (output : Array UInt8) : Option (Array UInt8 × List Bool) := do
  let (count, stream) ← takeNumber 16 (alignToByte stream)
  let (complement, stream) ← takeNumber 16 stream
  if count + complement = 65535 then takeBytes count stream output else none

/-- Read the contents of a block of a kind. -/
def takeBlock (kind : Nat) (stream : List Bool) (output : Array UInt8) :
    Option (Array UInt8 × List Bool) :=
  if kind = 0 then takeStored stream output
  else if kind = 1 then do
    let literals ← Code.ofLengths? fixedLiterals
    let distances ← Code.ofLengths? fixedDistances
    takeSymbols literals distances (stream.length + 1) stream output
  else if kind = 2 then do
    let (literals, distances, stream) ← takeCodes stream
    takeSymbols literals distances (stream.length + 1) stream output
  else none

/-- Read blocks up to the one marked as the last. Every block takes at least three bits, so the
number of bits bounds the number of blocks. -/
def takeBlocks : Nat → List Bool → Array UInt8 → Option (Array UInt8 × List Bool)
  | 0, _, _ => none
  | bound + 1, stream, output => do
    let (last, stream) ← takeNumber 1 stream
    let (kind, stream) ← takeNumber 2 stream
    let (output, stream) ← takeBlock kind stream output
    if last = 1 then some (output, stream) else takeBlocks bound stream output

/-- Read a compressed stream: its bytes, and the bits behind its last block. -/
def inflate (stream : List Bool) : Option (List UInt8 × List Bool) :=
  match takeBlocks (stream.length + 1) stream #[] with
  | some (output, rest) => some (output.toList, rest)
  | none => none

end FailOpenCache.Inflate
