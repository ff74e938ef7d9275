/-!
# Base64

Bytes are written in the standard alphabet, six bits to a symbol, and padded to a multiple of four
symbols. Reading is strict: no symbol outside of the alphabet, no missing padding, and no bits set
that stand for no byte. A refusal says which of these failed and where.
-/

namespace FailOpenCache.Base64

/-- Why a text is not base64. -/
inductive Fault where
  /-- A byte that may not stand at its offset. -/
  | invalidByte (offset : Nat) (byte : UInt8)
  /-- A last symbol on its own. -/
  | invalidLength (length : Nat)
  /-- Padding is missing or superfluous. -/
  | invalidPadding
  /-- The last symbol sets bits that stand for no byte. -/
  | invalidLastSymbol (offset : Nat) (byte : UInt8)
deriving DecidableEq

/-- The symbol of a value below 64. -/
def symbol (value : Nat) : UInt8 :=
  UInt8.ofNat <|
    if value < 26 then 65 + value
    else if value < 52 then 71 + value
    else if value < 62 then value - 4
    else if value = 62 then 43
    else 47

/-- The value of a symbol. -/
def symbolValue? (byte : UInt8) : Option Nat :=
  let code := byte.toNat
  if 65 ≤ code ∧ code ≤ 90 then some (code - 65)
  else if 97 ≤ code ∧ code ≤ 122 then some (code - 71)
  else if 48 ≤ code ∧ code ≤ 57 then some (code + 4)
  else if code = 43 then some 62
  else if code = 47 then some 63
  else none

/-- The padding symbol. -/
def padding : UInt8 := 61

/-- Write three bytes at a time as four symbols; what is left over is padded. -/
def encode : List UInt8 → List UInt8
  | [] => []
  | [first] =>
    let bits := first.toNat * 16
    [symbol (bits / 64), symbol (bits % 64), padding, padding]
  | [first, second] =>
    let bits := (first.toNat * 256 + second.toNat) * 4
    [symbol (bits / 4096), symbol (bits / 64 % 64), symbol (bits % 64), padding]
  | first :: second :: third :: rest =>
    let bits := (first.toNat * 256 + second.toNat) * 256 + third.toNat
    symbol (bits / 262144) :: symbol (bits / 4096 % 64) :: symbol (bits / 64 % 64) ::
      symbol (bits % 64) :: encode rest

/-- The value of the symbol at an offset. -/
def valueAt (offset : Nat) (byte : UInt8) : Except Fault Nat :=
  match symbolValue? byte with
  | some value => .ok value
  | none => .error (.invalidByte offset byte)

/-- The three bytes of 24 bits. -/
def threeBytes (bits : Nat) : List UInt8 :=
  [UInt8.ofNat (bits / 65536), UInt8.ofNat (bits / 256 % 256), UInt8.ofNat (bits % 256)]

/-- Read groups of four symbols, none of which may be padding. -/
def decodeGroups (offset : Nat) : List UInt8 → Except Fault (List UInt8)
  | first :: second :: third :: fourth :: rest => do
    let first ← valueAt offset first
    let second ← valueAt (offset + 1) second
    let third ← valueAt (offset + 2) third
    let fourth ← valueAt (offset + 3) fourth
    let bytes ← decodeGroups (offset + 4) rest
    .ok (threeBytes (((first * 64 + second) * 64 + third) * 64 + fourth) ++ bytes)
  | _ => .ok []

/-- The last group as it is read: symbol values, and the offset of the first padding. -/
structure LastGroup where
  /-- The values of the symbols. -/
  values : List Nat
  /-- The symbol read last. -/
  last : UInt8
  /-- How many padding symbols follow, and the offset of the first one inside the group. -/
  paddings : Nat
  /-- The offset of the first padding inside the group. -/
  firstPadding : Nat

/-- Read the symbols of the last group. Padding may not stand before its third symbol, and nothing
but padding may follow padding. -/
def readLastGroup (start : Nat) (group : LastGroup) (index : Nat) :
    List UInt8 → Except Fault LastGroup
  | [] => .ok group
  | byte :: rest =>
    if byte = padding then
      if index < 2 then .error (.invalidByte (start + index) byte)
      else
        let firstPadding := if group.paddings = 0 then index else group.firstPadding
        readLastGroup start
          { group with paddings := group.paddings + 1, firstPadding := firstPadding } (index + 1)
          rest
    else if 0 < group.paddings then .error (.invalidByte (start + group.firstPadding) padding)
    else
      match symbolValue? byte with
      | none => .error (.invalidByte (start + index) byte)
      | some value =>
        readLastGroup start { group with values := group.values ++ [value], last := byte }
          (index + 1) rest

/-- The bytes of the last group's values, and the bits left over. -/
def lastBytes : List Nat → List UInt8 × Nat
  | [first, second] => ([UInt8.ofNat ((first * 64 + second) / 16)], second % 16)
  | [first, second, third] =>
    let bits := (first * 64 + second) * 64 + third
    ([UInt8.ofNat (bits / 1024), UInt8.ofNat (bits / 4 % 256)], third % 4)
  | [first, second, third, fourth] =>
    (threeBytes (((first * 64 + second) * 64 + third) * 64 + fourth), 0)
  | _ => ([], 0)

/-- Read the last group, which starts at an offset. -/
def decodeLast (start : Nat) (bytes : List UInt8) : Except Fault (List UInt8) := do
  let group ← readLastGroup start ⟨[], 0, 0, 0⟩ 0 bytes
  let count := group.values.length
  if count < 2 then .error (.invalidLength (start + count))
  else if (count + group.paddings) % 4 ≠ 0 then .error .invalidPadding
  else
    let (decoded, leftOver) := lastBytes group.values
    if leftOver ≠ 0 then .error (.invalidLastSymbol (start + count - 1) group.last)
    else .ok decoded

/-- A single byte behind whole groups that is neither symbol nor padding is reported before all
else. -/
def strayByte? (bytes : List UInt8) : Option Fault :=
  if bytes.length % 4 = 1 then
    match bytes.getLast? with
    | some byte =>
      if byte ≠ padding ∧ (symbolValue? byte).isNone then
        some (.invalidByte (bytes.length - 1) byte)
      else none
    | none => none
  else none

/-- Where the last group starts: it is never empty unless the text is. -/
def lastGroupStart (length : Nat) : Nat :=
  if length % 4 = 0 then length - 4 else length - length % 4

/-- Read a whole text. -/
def decode (bytes : List UInt8) : Except Fault (List UInt8) :=
  match strayByte? bytes with
  | some fault => .error fault
  | none =>
    if bytes.isEmpty then .ok []
    else do
      let start := lastGroupStart bytes.length
      let groups ← decodeGroups 0 (bytes.take start)
      let last ← decodeLast start (bytes.drop start)
      .ok (groups ++ last)

/-- The wording of a refusal. -/
def Fault.message : Fault → String
  | invalidByte offset byte =>
    "Invalid symbol " ++ toString byte.toNat ++ ", offset " ++ toString offset ++ "."
  | invalidLength length => "Invalid input length: " ++ toString length
  | invalidPadding => "Invalid padding"
  | invalidLastSymbol offset byte =>
    "Invalid last symbol " ++ toString byte.toNat ++ ", offset " ++ toString offset ++ "."

end FailOpenCache.Base64
