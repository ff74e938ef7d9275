import FailOpenCache.Bytes.Zlib

/-!
# Framed streams read back

A written stream keeps its bytes in blocks of at most 65535. Since every block is a whole number of
bytes, the reader finds each at a byte boundary, takes the bytes of all of them, and comes to the
check sum behind the last one. So what was written is read back, however long it is.
-/

namespace FailOpenCache.Inflate

/-- The number of bits, the least significant one first. -/
def numberOf (bits : List Bool) : Nat :=
  bits.foldr (fun bit value => 2 * value + bit.toNat) 0

/-- Bits are taken as their number. -/
theorem takeNumber_append (bits rest : List Bool) :
    takeNumber bits.length (bits ++ rest) = some (numberOf bits, rest) := by
  induction bits with
  | nil => rfl
  | cons bit later ih => simp only [List.length_cons, List.cons_append, takeNumber, ih]; rfl

/-- The bits behind others count for more. -/
theorem numberOf_append (low high : List Bool) :
    numberOf (low ++ high) = numberOf low + 2 ^ low.length * numberOf high := by
  induction low with
  | nil => simp [numberOf]
  | cons bit later ih =>
    simp only [numberOf, List.cons_append, List.foldr_cons, List.length_cons, Nat.pow_succ] at *
    rw [ih, Nat.mul_assoc, Nat.mul_left_comm (2 ^ later.length) 2]
    omega

/-- A byte has eight bits. -/
@[simp] theorem length_byteBits (byte : UInt8) : (byteBits byte).length = 8 := by
  simp [byteBits]

/-- The bits of a byte make the byte. -/
@[simp] theorem numberOf_byteBits (byte : UInt8) : numberOf (byteBits byte) = byte.toNat := by
  have all : ∀ value, value < 256 →
      numberOf ((List.range 8).map (Nat.testBit value)) = value := by decide +kernel
  exact all byte.toNat byte.toNat_lt

/-- The bits of bytes, byte by byte. -/
@[simp] theorem bits_cons (byte : UInt8) (rest : List UInt8) :
    bits (byte :: rest) = byteBits byte ++ bits rest := rfl

/-- The bits of bytes and others. -/
@[simp] theorem bits_append (left right : List UInt8) :
    bits (left ++ right) = bits left ++ bits right := List.flatMap_append

/-- Bytes have eight bits each. -/
@[simp] theorem length_bits (bytes : List UInt8) : (bits bytes).length = 8 * bytes.length := by
  induction bytes with
  | nil => rfl
  | cons byte rest ih =>
    rw [bits_cons, List.length_append, ih, length_byteBits, List.length_cons]
    omega

/-- A byte is taken as its number. -/
theorem takeNumber_byte (byte : UInt8) (rest : List Bool) :
    takeNumber 8 (byteBits byte ++ rest) = some (byte.toNat, rest) := by
  have taken := takeNumber_append (byteBits byte) rest
  rwa [length_byteBits, numberOf_byteBits] at taken

/-- Two bytes are taken as one number, the least significant byte first. -/
theorem takeNumber_two (low high : UInt8) (rest : List Bool) :
    takeNumber 16 (byteBits low ++ (byteBits high ++ rest)) =
      some (low.toNat + 256 * high.toNat, rest) := by
  have taken := takeNumber_append (byteBits low ++ byteBits high) rest
  rw [numberOf_append, numberOf_byteBits, numberOf_byteBits, List.length_append,
    length_byteBits, length_byteBits, List.append_assoc] at taken
  exact taken

/-- Whole bytes are taken as they are. -/
theorem takeBytes_bits (bytes : List UInt8) (rest : List Bool) (output : Array UInt8) :
    takeBytes bytes.length (bits bytes ++ rest) output = some (output ++ bytes.toArray, rest) := by
  induction bytes generalizing output with
  | nil => simp [takeBytes, bits]
  | cons byte later ih =>
    rw [List.length_cons, bits_cons, List.append_assoc, takeBytes, takeNumber_byte]
    simp only [UInt8.ofNat_toNat]
    rw [ih]
    simp

/-- A stream at a byte boundary stays as it is. -/
theorem alignToByte_bits (bytes : List UInt8) : alignToByte (bits bytes) = bits bytes := by
  rw [alignToByte, length_bits, Nat.mul_mod_right, List.drop_zero]

/-- Fewer than eight bits before a byte boundary are dropped. -/
theorem alignToByte_append {few : List Bool} (short : few.length < 8) (bytes : List UInt8) :
    alignToByte (few ++ bits bytes) = bits bytes := by
  have surplus : (few ++ bits bytes).length % 8 = few.length := by
    rw [List.length_append, length_bits]
    omega
  rw [alignToByte, surplus, List.drop_left]

end FailOpenCache.Inflate

namespace FailOpenCache.Zlib

open Inflate

/-- A number below 256 is kept by its byte. -/
theorem toNat_ofNat_of_small {value : Nat} (small : value < 256) :
    (UInt8.ofNat value).toNat = value := by
  rw [UInt8.toNat_ofNat']
  exact Nat.mod_eq_of_lt small

/-- A number of two bytes is taken from them. -/
theorem takeNumber_twoBytes {value : Nat} (small : value < 65536) (rest : List Bool) :
    takeNumber 16 (bits (twoBytes value) ++ rest) = some (value, rest) := by
  have taken := takeNumber_two (UInt8.ofNat (value % 256)) (UInt8.ofNat (value / 256)) rest
  have low : (UInt8.ofNat (value % 256)).toNat = value % 256 :=
    toNat_ofNat_of_small (by omega)
  have high : (UInt8.ofNat (value / 256)).toNat = value / 256 :=
    toNat_ofNat_of_small (by omega)
  rw [low, high, show value % 256 + 256 * (value / 256) = value by omega] at taken
  simpa [twoBytes, bits] using taken

/-- The contents of a block that keeps its bytes are taken as they are. -/
theorem takeStored_bits {few : List Bool} (short : few.length < 8) {bytes : List UInt8}
    (fits : bytes.length ≤ blockLimit) (rest : List UInt8) (output : Array UInt8) :
    takeStored (few ++ bits (twoBytes bytes.length ++ twoBytes (65535 - bytes.length) ++ bytes ++
        rest)) output =
      some (output ++ bytes.toArray, bits rest) := by
  unfold blockLimit at fits
  rw [takeStored, alignToByte_append short]
  simp only [bits_append, List.append_assoc]
  rw [takeNumber_twoBytes (by omega)]
  simp only [bind, Option.bind]
  rw [takeNumber_twoBytes (by omega)]
  simp only
  rw [if_pos (by omega), takeBytes_bits]

/-- The mark of the last block is its first bit, and the kind of a block that keeps its bytes is
zero. -/
theorem byteBits_header (last : Bool) :
    byteBits (UInt8.ofNat last.toNat) =
      [last] ++ ([false, false] ++ [false, false, false, false, false]) := by
  cases last <;> decide

/-- A block that keeps its bytes is read, and the next one after it unless it is the last. -/
theorem takeBlocks_storedBlock (last : Bool) {bytes : List UInt8}
    (fits : bytes.length ≤ blockLimit) (rest : List UInt8) (output : Array UInt8) (bound : Nat) :
    takeBlocks (bound + 1) (bits (storedBlock last bytes ++ rest)) output =
      if last then some (output ++ bytes.toArray, bits rest)
      else takeBlocks bound (bits rest) (output ++ bytes.toArray) := by
  have mark := takeNumber_append [last] ([false, false] ++
    ([false, false, false, false, false] ++
      bits (twoBytes bytes.length ++ twoBytes (65535 - bytes.length) ++ bytes ++ rest)))
  have kind := takeNumber_append [false, false] ([false, false, false, false, false] ++
    bits (twoBytes bytes.length ++ twoBytes (65535 - bytes.length) ++ bytes ++ rest))
  have short : [false, false, false, false, false].length < 8 := by decide
  have contents := takeStored_bits short fits rest output
  have shape : bits (storedBlock last bytes ++ rest) = [last] ++ ([false, false] ++
      ([false, false, false, false, false] ++
        bits (twoBytes bytes.length ++ twoBytes (65535 - bytes.length) ++ bytes ++ rest))) := by
    rw [storedBlock, List.cons_append, bits_cons, byteBits_header]
    rfl
  rw [shape, takeBlocks]
  simp only [bind, Option.bind]
  rw [show (1 : Nat) = [last].length from rfl, mark]
  simp only
  rw [show (2 : Nat) = [false, false].length from rfl, kind]
  have isStored : numberOf [false, false] = 0 := rfl
  simp only [takeBlock, isStored, ↓reduceIte, contents]
  cases last <;> rfl

/-- All blocks are read, and what is behind them is left. -/
theorem takeBlocks_storedBlocks (bytes rest : List UInt8) (output : Array UInt8) (bound : Nat)
    (enough : (bits (storedBlocks bytes ++ rest)).length < bound) :
    takeBlocks bound (bits (storedBlocks bytes ++ rest)) output =
      some (output ++ bytes.toArray, bits rest) := by
  obtain ⟨bound, rfl⟩ := Nat.exists_eq_succ_of_ne_zero (Nat.ne_of_gt (Nat.zero_lt_of_lt enough))
  rw [storedBlocks] at enough ⊢
  split
  · rename_i fits
    rw [Nat.succ_eq_add_one, takeBlocks_storedBlock true fits rest output bound]
    rfl
  · rename_i long
    rw [if_neg long] at enough
    have fits : (bytes.take blockLimit).length ≤ blockLimit := by
      rw [List.length_take]
      exact Nat.min_le_left _ _
    rw [List.append_assoc, Nat.succ_eq_add_one,
      takeBlocks_storedBlock false fits (storedBlocks (bytes.drop blockLimit) ++ rest) output bound]
    have left : (bits (storedBlocks (bytes.drop blockLimit) ++ rest)).length < bound := by
      rw [List.append_assoc, length_bits, List.length_append, storedBlock,
        List.length_cons] at enough
      rw [length_bits]
      omega
    simp only [Bool.false_eq_true, ↓reduceIte]
    rw [takeBlocks_storedBlocks (bytes.drop blockLimit) rest _ bound left]
    have parts : (bytes.take blockLimit).toArray ++ (bytes.drop blockLimit).toArray =
        bytes.toArray := by
      rw [List.append_toArray, List.take_append_drop]
    rw [Array.append_assoc, parts]
termination_by bytes.length
decreasing_by simp only [List.length_drop, blockLimit] at *; omega

/-- Both sums of a check sum stay below the modulus. -/
theorem checkSum_lt (bytes : List UInt8) : checkSum bytes < 4294967296 := by
  have sums : ∀ (bytes : List UInt8) (low high : Nat), low < checkModulus →
      high < checkModulus →
      (bytes.foldl (fun (sums : Nat × Nat) byte =>
        let low := (sums.1 + byte.toNat) % checkModulus
        (low, (sums.2 + low) % checkModulus)) (low, high)).1 < checkModulus ∧
      (bytes.foldl (fun (sums : Nat × Nat) byte =>
        let low := (sums.1 + byte.toNat) % checkModulus
        (low, (sums.2 + low) % checkModulus)) (low, high)).2 < checkModulus := by
    intro bytes
    induction bytes with
    | nil => exact fun low high small small' => ⟨small, small'⟩
    | cons byte rest ih =>
      intro low high _ _
      exact ih _ _ (Nat.mod_lt _ (by decide)) (Nat.mod_lt _ (by decide))
  have bounds := sums bytes 1 0 (by decide) (by decide)
  have joined : ∀ sums : Nat × Nat, sums.1 < checkModulus ∧ sums.2 < checkModulus →
      sums.2 * 65536 + sums.1 < 4294967296 := by
    intro sums
    unfold checkModulus
    omega
  exact joined _ bounds

/-- A check sum is read from its bytes. -/
theorem takeBigEndian_checkBytes {value : Nat} (small : value < 4294967296) :
    takeBigEndian (bits (checkBytes value)) = some value := by
  have first : (UInt8.ofNat (value / 16777216)).toNat = value / 16777216 :=
    toNat_ofNat_of_small (by omega)
  have second : (UInt8.ofNat (value / 65536 % 256)).toNat = value / 65536 % 256 :=
    toNat_ofNat_of_small (by omega)
  have third : (UInt8.ofNat (value / 256 % 256)).toNat = value / 256 % 256 :=
    toNat_ofNat_of_small (by omega)
  have fourth : (UInt8.ofNat (value % 256)).toNat = value % 256 :=
    toNat_ofNat_of_small (by omega)
  simp only [checkBytes, takeBigEndian, bits_cons, bind, Option.bind, takeNumber_byte, first,
    second, third, fourth]
  exact congrArg some (by omega)

/-- What was written is read back. -/
@[simp] theorem decompress?_compress (bytes : List UInt8) :
    decompress? (compress bytes) = some bytes := by
  have blocks := takeBlocks_storedBlocks bytes (checkBytes (checkSum bytes)) #[]
    ((bits (storedBlocks bytes ++ checkBytes (checkSum bytes))).length + 1) (Nat.lt_succ_self _)
  have inflated : inflate (bits (storedBlocks bytes ++ checkBytes (checkSum bytes))) =
      some (bytes, bits (checkBytes (checkSum bytes))) := by
    rw [inflate, blocks]
    simp
  have header : isHeader 0x78 0x01 = true := by decide
  simp only [compress, decompress?, header, ↓reduceIte, inflated, alignToByte_bits,
    takeBigEndian_checkBytes (checkSum_lt bytes)]

end FailOpenCache.Zlib
