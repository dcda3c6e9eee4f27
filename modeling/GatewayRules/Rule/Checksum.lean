import GatewayRules.Frame.Basic

/-
  Checksums over a range of the payload.  Offsets count from
  the front, or, when negative, back from the end.

  Key definitions include:
    * `Offsets`
    * `Offsets.validate`
    * `XorChecksum`
    * `Profile`
    * `Crc8Checksum`
    * `Crc8Checksum.make`
    * `Crc8Checksum.withProfile`
    * `Checksum`
    * `Checksum.text`
-/

namespace GatewayRules

------------------------------------------------------------
-- Offsets
------------------------------------------------------------

/-
  The first and the last byte that are summed, and the byte
  that takes the result.
-/
structure Offsets where
  first : Int8
  last : Int8
  result : Int8
deriving DecidableEq

namespace Offsets

/-
  Whether an offset points into a payload.  Counted back from
  the end, the first byte is as far away as the payload is
  long; counted from the front, that is one byte too far.
-/
def isWithin
    (offset : Int8)
    (maxLength : Nat) : Bool :=
  let distance := offset.toInt.natAbs
  if offset < 0 then
    distance ≤ maxLength
  else
    distance < maxLength

def validateOne
    (field : OffsetField)
    (offset : Int8)
    (maxLength : Nat) : Except Violation Unit :=
  if isWithin offset maxLength then
    .ok ()
  else
    .error (.offsetOutOfRange field offset maxLength)

/- Check the offsets in order. -/
def validate
    (offsets : Offsets)
    (maxLength : Nat) : Except Violation Unit := do
  validateOne .first offsets.first maxLength
  validateOne .last offsets.last maxLength
  validateOne .result offsets.result maxLength

/- The offsets in decimal, each followed by a colon. -/
def text (offsets : Offsets) : String :=
  Number.signedDecimal offsets.first.toInt ++ ":"
    ++ Number.signedDecimal offsets.last.toInt ++ ":"
    ++ Number.signedDecimal offsets.result.toInt ++ ":"

def layout : Layout Offsets :=
  (Layout.i8.pair <| Layout.i8.pair Layout.i8).view
    (fun o => (o.first, o.last, o.result))
    (fun (first, last, result) => ⟨first, last, result⟩)
    (fun _ => rfl)

end Offsets

------------------------------------------------------------
-- Exclusive Or
------------------------------------------------------------

/- The exclusive or of the range and an initial value. -/
structure XorChecksum where
  offsets : Offsets
  init : UInt8
deriving DecidableEq

namespace XorChecksum

/- A checksum for frames of the given kind. -/
def make
    (kind : FrameKind)
    (offsets : Offsets)
    (init : UInt8) : Except Violation XorChecksum := do
  offsets.validate kind.maxLength
  return { offsets, init }

def text (c : XorChecksum) : String :=
  "-x " ++ c.offsets.text
    ++ String.ofList (Hex.byte .upper c.init)

def layout : Layout XorChecksum :=
  (Offsets.layout.pair Layout.u8).view
    (fun c => (c.offsets, c.init))
    (fun (offsets, init) => ⟨offsets, init⟩)
    (fun _ => rfl)

end XorChecksum

------------------------------------------------------------
-- Profiles
------------------------------------------------------------

/- What is mixed into a table-driven checksum at its end. -/
inductive Profile where
  | unspecified
  | oneByte
  | sixteenBytes
  | identifier
  | other (number : UInt8)
deriving DecidableEq

namespace Profile

def number : Profile → UInt8
  | .unspecified => 0
  | .oneByte => 1
  | .sixteenBytes => 2
  | .identifier => 3
  | .other n => n

/- The profile with a given number, by name if it has one. -/
def ofNumber (n : UInt8) : Profile :=
  if n = 0 then .unspecified
  else if n = 1 then .oneByte
  else if n = 2 then .sixteenBytes
  else if n = 3 then .identifier
  else .other n

def name : Profile → String
  | .unspecified => "Unspecified"
  | .oneByte => "OneU8"
  | .sixteenBytes => "SixteenU8"
  | .identifier => "SffIdXor"
  | .other n => "Other(" ++ Number.decimal n.toNat ++ ")"

end Profile

------------------------------------------------------------
-- Table-Driven Checksums
------------------------------------------------------------

/- A checksum computed by looking up each byte in a table. -/
structure Crc8Checksum where
  offsets : Offsets
  init : UInt8
  final : UInt8
  table : Block 256
  profile : Profile
  profileData : Block 20
deriving DecidableEq

namespace Crc8Checksum

/-
  A checksum for frames of the given kind, without a profile.
  The size of the table is checked before the offsets.
-/
def make
    (kind : FrameKind)
    (offsets : Offsets)
    (init final : UInt8)
    (table : Bytes) : Except Violation Crc8Checksum :=
  if h : table.length = 256 then do
    offsets.validate kind.maxLength
    return {
      offsets, init, final,
      table := ⟨table, h⟩,
      profile := .unspecified,
      profileData := Block.zeroFilled 20 [] }
  else
    .error (.crcTableSize table.length)

/- Choose a profile and its parameters. -/
def withProfile
    (c : Crc8Checksum)
    (profile : Profile)
    (data : Bytes) : Except Violation Crc8Checksum :=
  if data.length ≤ 20 then
    .ok { c with
      profile,
      profileData := Block.zeroFilled 20 data }
  else
    .error (.profileDataSize data.length)

def text (c : Crc8Checksum) : String :=
  let profile :=
    if c.profile = .unspecified then
      ""
    else
      " -p " ++ Number.decimal c.profile.number.toNat ++ ":"
        ++ String.ofList (Hex.bytes .upper c.profileData.bytes)
  "-c " ++ c.offsets.text
    ++ String.ofList (Hex.byte .upper c.init) ++ ":"
    ++ String.ofList (Hex.byte .upper c.final) ++ ":"
    ++ String.ofList (Hex.bytes .upper c.table.bytes)
    ++ profile

/- All fields by name. -/
def description (c : Crc8Checksum) : String :=
  let offset (o : Int8) := Number.signedDecimal o.toInt
  let byte (b : UInt8) := Number.decimal b.toNat
  let hex (bytes : Bytes) :=
    "\"" ++ String.ofList (Hex.bytes .lower bytes) ++ "\""
  let fields := [
    "from_idx: " ++ offset c.offsets.first,
    "to_idx: " ++ offset c.offsets.last,
    "result_idx: " ++ offset c.offsets.result,
    "init_crc_val: " ++ byte c.init,
    "final_xor_val: " ++ byte c.final,
    "table: " ++ hex c.table.bytes,
    "profile: " ++ c.profile.name,
    "profile_data: " ++ hex c.profileData.bytes]
  "Crc8Checksum \x7b " ++ String.intercalate ", " fields
    ++ " \x7d"

/- The fields as they are stored, the profile by its number. -/
abbrev Stored :=
  Offsets × UInt8 × UInt8 × Block 256 × UInt8 × Block 20

def store (c : Crc8Checksum) : Stored :=
  (c.offsets, c.init, c.final, c.table, c.profile.number,
    c.profileData)

def ofStored : Stored → Crc8Checksum
  | (offsets, init, final, table, profile, profileData) =>
      { offsets, init, final, table,
        profile := Profile.ofNumber profile,
        profileData }

def storedLayout : Layout Stored :=
  Offsets.layout.pair <| Layout.u8.pair <| Layout.u8.pair <|
    (Layout.block 256).pair <| Layout.u8.pair <|
      Layout.block 20

end Crc8Checksum

------------------------------------------------------------
-- Checksums
------------------------------------------------------------

/- A checksum of either algorithm. -/
inductive Checksum where
  | xor (checksum : XorChecksum)
  | crc8 (checksum : Crc8Checksum)
deriving DecidableEq

namespace Checksum

def offsets : Checksum → Offsets
  | .xor c => c.offsets
  | .crc8 c => c.offsets

/- Check the offsets against a payload. -/
def validate
    (c : Checksum)
    (maxLength : Nat) : Except Violation Unit :=
  c.offsets.validate maxLength

/- The checksum as options. -/
def text : Checksum → String
  | .xor c => c.text
  | .crc8 c => c.text

end Checksum

end GatewayRules
