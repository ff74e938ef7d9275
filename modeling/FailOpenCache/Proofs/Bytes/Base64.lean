import FailOpenCache.Bytes.Base64

/-!
# Base64 read back

Written bytes are whole groups of four symbols, of which only the last may be padded. Each group
before the last reads back as its three bytes, and the last one as the bytes that are left, so the
reader gives back what was written.
-/

namespace FailOpenCache.Base64

/-- A symbol has the value that it is written for. -/
theorem symbolValue?_symbol {value : Nat} (small : value < 64) :
    symbolValue? (symbol value) = some value := by
  have all : ∀ value, value < 64 → symbolValue? (symbol value) = some value := by decide
  exact all value small

/-- A symbol is no padding. -/
theorem symbol_ne_padding {value : Nat} (small : value < 64) : symbol value ≠ padding := by
  have all : ∀ value, value < 64 → symbol value ≠ padding := by decide
  exact all value small

/-- Whole groups are written. -/
theorem length_encode : ∀ bytes : List UInt8, (encode bytes).length % 4 = 0
  | [] => rfl
  | [_] => by simp [encode]
  | [_, _] => by simp [encode]
  | _ :: _ :: _ :: rest => by
    have later := length_encode rest
    simp only [encode, List.length_cons]
    omega

/-- Something is written for something. -/
theorem four_le_length_encode : ∀ {bytes : List UInt8}, bytes ≠ [] → 4 ≤ (encode bytes).length
  | [], nonempty => absurd rfl nonempty
  | [_], _ => Nat.le_refl 4
  | [_, _], _ => Nat.le_refl 4
  | _ :: _ :: _ :: _, _ => by simp [encode]

/-- What is written are symbols of values below 64 and padding. -/
theorem mem_encode : ∀ {bytes : List UInt8} {byte : UInt8}, byte ∈ encode bytes →
    (∃ value, value < 64 ∧ byte = symbol value) ∨ byte = padding
  | [], byte, held => by simp [encode] at held
  | [first], byte, held => by
    have bound := first.toNat_lt
    simp only [encode, List.mem_cons, List.not_mem_nil, or_false] at held
    rcases held with same | same | same | same
    · exact .inl ⟨_, by omega, same⟩
    · exact .inl ⟨_, by omega, same⟩
    · exact .inr same
    · exact .inr same
  | [first, second], byte, held => by
    have bound := first.toNat_lt
    have bound' := second.toNat_lt
    simp only [encode, List.mem_cons, List.not_mem_nil, or_false] at held
    rcases held with same | same | same | same
    · exact .inl ⟨_, by omega, same⟩
    · exact .inl ⟨_, by omega, same⟩
    · exact .inl ⟨_, by omega, same⟩
    · exact .inr same
  | first :: second :: third :: rest, byte, held => by
    have bound := first.toNat_lt
    have bound' := second.toNat_lt
    have bound'' := third.toNat_lt
    simp only [encode, List.mem_cons] at held
    rcases held with same | same | same | same | inside
    · exact .inl ⟨_, by omega, same⟩
    · exact .inl ⟨_, by omega, same⟩
    · exact .inl ⟨_, by omega, same⟩
    · exact .inl ⟨_, by omega, same⟩
    · exact mem_encode inside

/-- A symbol is accepted wherever it stands. -/
theorem valueAt_symbol (offset : Nat) {value : Nat} (small : value < 64) :
    valueAt offset (symbol value) = .ok value := by
  rw [valueAt, symbolValue?_symbol small]

/-- A symbol of the last group that no padding has come before. -/
theorem readLastGroup_symbol (start : Nat) (group : LastGroup) (index : Nat) {value : Nat}
    (small : value < 64) (unpadded : group.paddings = 0) (rest : List UInt8) :
    readLastGroup start group index (symbol value :: rest) =
      readLastGroup start { group with values := group.values ++ [value], last := symbol value }
        (index + 1) rest := by
  rw [readLastGroup, if_neg (symbol_ne_padding small), if_neg (by omega),
    symbolValue?_symbol small]

/-- The three bytes of the bits of three bytes. -/
theorem threeBytes_bits (first second third : UInt8) :
    threeBytes ((first.toNat * 256 + second.toNat) * 256 + third.toNat) =
      [first, second, third] := by
  have bound := first.toNat_lt
  have bound' := second.toNat_lt
  have bound'' := third.toNat_lt
  have high : ((first.toNat * 256 + second.toNat) * 256 + third.toNat) / 65536 =
      first.toNat := by omega
  have middle : ((first.toNat * 256 + second.toNat) * 256 + third.toNat) / 256 % 256 =
      second.toNat := by omega
  have low : ((first.toNat * 256 + second.toNat) * 256 + third.toNat) % 256 =
      third.toNat := by omega
  simp [threeBytes, high, middle, low]

/-- Four values of six bits make the bits that they were cut from. -/
theorem join_values (bits : Nat) (_small : bits < 16777216) :
    ((bits / 262144 * 64 + bits / 4096 % 64) * 64 + bits / 64 % 64) * 64 + bits % 64 = bits := by
  omega

/-- One byte in the last group reads back. -/
theorem decodeLast_one (start : Nat) (first : UInt8) :
    decodeLast start (encode [first]) = .ok [first] := by
  have bound := first.toNat_lt
  have whole : (first.toNat * 16 / 64 * 64 + first.toNat * 16 % 64) / 16 = first.toNat := by omega
  simp only [decodeLast, encode]
  rw [readLastGroup_symbol _ _ _ (by omega) rfl, readLastGroup_symbol _ _ _ (by omega) rfl]
  simp [readLastGroup, lastBytes, whole, bind, Except.bind]

/-- Two bytes in the last group read back. -/
theorem decodeLast_two (start : Nat) (first second : UInt8) :
    decodeLast start (encode [first, second]) = .ok [first, second] := by
  have bound := first.toNat_lt
  have bound' := second.toNat_lt
  have high : (((first.toNat * 256 + second.toNat) * 4 / 4096 * 64 +
      (first.toNat * 256 + second.toNat) * 4 / 64 % 64) * 64 +
      (first.toNat * 256 + second.toNat) * 4 % 64) / 1024 = first.toNat := by omega
  have low : (((first.toNat * 256 + second.toNat) * 4 / 4096 * 64 +
      (first.toNat * 256 + second.toNat) * 4 / 64 % 64) * 64 +
      (first.toNat * 256 + second.toNat) * 4 % 64) / 4 % 256 = second.toNat := by omega
  simp only [decodeLast, encode]
  rw [readLastGroup_symbol _ _ _ (by omega) rfl, readLastGroup_symbol _ _ _ (by omega) rfl,
    readLastGroup_symbol _ _ _ (by omega) rfl]
  simp [readLastGroup, lastBytes, high, low, bind, Except.bind]

/-- Three bytes in the last group read back. -/
theorem decodeLast_three (start : Nat) (first second third : UInt8) :
    decodeLast start (encode [first, second, third]) = .ok [first, second, third] := by
  have bound := first.toNat_lt
  have bound' := second.toNat_lt
  have bound'' := third.toNat_lt
  have joined := join_values ((first.toNat * 256 + second.toNat) * 256 + third.toNat) (by omega)
  simp only [decodeLast, encode]
  rw [readLastGroup_symbol _ _ _ (by omega) rfl, readLastGroup_symbol _ _ _ (by omega) rfl,
    readLastGroup_symbol _ _ _ (by omega) rfl, readLastGroup_symbol _ _ _ (by omega) rfl]
  simp [readLastGroup, lastBytes, joined, threeBytes_bits, bind, Except.bind]

/-- A group before the last reads back, with the groups behind it. -/
theorem decodeGroups_three (offset : Nat) (first second third : UInt8) {rest : List UInt8}
    {later : List UInt8} (read : decodeGroups (offset + 4) rest = .ok later) :
    decodeGroups offset (encode [first, second, third] ++ rest) =
      .ok (first :: second :: third :: later) := by
  have bound := first.toNat_lt
  have bound' := second.toNat_lt
  have bound'' := third.toNat_lt
  have joined := join_values ((first.toNat * 256 + second.toNat) * 256 + third.toNat) (by omega)
  simp only [encode, List.cons_append, List.nil_append, decodeGroups]
  rw [valueAt_symbol _ (by omega), valueAt_symbol _ (by omega), valueAt_symbol _ (by omega),
    valueAt_symbol _ (by omega), read]
  simp [bind, Except.bind, joined, threeBytes_bits]

/-- Whole groups end with a group of four. -/
theorem lastGroupStart_of_whole {length : Nat} (whole : length % 4 = 0) :
    lastGroupStart length = length - 4 := if_pos whole

/-- What is written for at least one byte is read as the groups before the last and the last. -/
theorem decode_parts : ∀ {bytes : List UInt8}, bytes ≠ [] → ∃ groups last,
    (∀ offset, decodeGroups offset ((encode bytes).take ((encode bytes).length - 4)) =
      .ok groups) ∧
    (∀ start, decodeLast start ((encode bytes).drop ((encode bytes).length - 4)) = .ok last) ∧
    groups ++ last = bytes
  | [], nonempty => absurd rfl nonempty
  | [first], _ => ⟨[], [first], fun _ => rfl, fun start => decodeLast_one start first, rfl⟩
  | [first, second], _ =>
    ⟨[], [first, second], fun _ => rfl, fun start => decodeLast_two start first second, rfl⟩
  | [first, second, third], _ =>
    ⟨[], [first, second, third], fun _ => rfl,
      fun start => decodeLast_three start first second third, rfl⟩
  | first :: second :: third :: fourth :: rest, _ => by
    obtain ⟨groups, last, groupsRead, lastRead, joined⟩ :=
      decode_parts (List.cons_ne_nil fourth rest)
    have long := four_le_length_encode (List.cons_ne_nil fourth rest)
    have shape : encode (first :: second :: third :: fourth :: rest) =
        encode [first, second, third] ++ encode (fourth :: rest) := rfl
    have four : (encode [first, second, third]).length = 4 := rfl
    have cut : (encode [first, second, third] ++ encode (fourth :: rest)).length - 4 =
        (encode [first, second, third]).length + ((encode (fourth :: rest)).length - 4) := by
      rw [List.length_append]
      omega
    refine ⟨first :: second :: third :: groups, last, fun offset => ?_, fun start => ?_, ?_⟩
    · rw [shape, cut, List.take_length_add_append]
      exact decodeGroups_three offset first second third (groupsRead (offset + 4))
    · rw [shape, cut, List.drop_length_add_append]
      exact lastRead start
    · rw [← joined]
      rfl

/-- Written bytes read back. -/
@[simp] theorem decode_encode (bytes : List UInt8) : decode (encode bytes) = .ok bytes := by
  by_cases empty : bytes = []
  · subst empty
    rfl
  · obtain ⟨groups, last, groupsRead, lastRead, joined⟩ := decode_parts empty
    have whole := length_encode bytes
    have long := four_le_length_encode empty
    have noStray : strayByte? (encode bytes) = none := by
      rw [strayByte?, if_neg (by omega)]
    have nonempty : (encode bytes).isEmpty = false := by
      rw [List.isEmpty_eq_false_iff, ← List.length_pos_iff]
      omega
    simp only [decode, noStray, nonempty, Bool.false_eq_true, ↓reduceIte,
      lastGroupStart_of_whole whole, groupsRead, lastRead, bind, Except.bind, joined]

end FailOpenCache.Base64
