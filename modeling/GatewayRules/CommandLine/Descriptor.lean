import GatewayRules.CommandLine.Complaint
import GatewayRules.Text.Split

/-
  The texts by which users describe the parts of a rule.

  Key definitions include:
    * `Descriptor.filter`
    * `Descriptor.frame`
    * `Descriptor.addModification`
    * `Descriptor.modification`
    * `Descriptor.xorChecksum`
    * `Descriptor.crc8Checksum`
-/

namespace GatewayRules

namespace Descriptor

/- A value that was read, or the complaint that it was not. -/
def expect
    {α : Type}
    (complaint : Complaint) : Option α → Except Complaint α
  | some value => .ok value
  | none => .error complaint

------------------------------------------------------------
-- Numbers and Data
------------------------------------------------------------

/- A hexadecimal number of thirty-two bits. -/
def word (text : List Char) : Except Complaint UInt32 :=
  expect (.invalid .hexValue text) <|
    (Number.unsigned? 16 0x100000000 text).map UInt32.ofNat

/- A hexadecimal number of eight bits. -/
def byte (text : List Char) : Except Complaint UInt8 :=
  expect (.invalid .hexValue text) <|
    (Number.unsigned? 16 0x100 text).map UInt8.ofNat

/- A payload offset in decimal. -/
def offset (text : List Char) : Except Complaint Int8 :=
  expect (.invalid .checksumOffset text) <|
    (Number.signed? (-128) 127 text).map Int8.ofInt

/- Data bytes in hexadecimal. -/
def data (text : List Char) : Except Complaint Bytes :=
  (Hex.decode text).mapError Complaint.invalidData

/- A part of a rule that has been checked. -/
def checked
    {α : Type}
    (result : Except Violation α) : Except Complaint α :=
  result.mapError Complaint.ofViolation

------------------------------------------------------------
-- Filters
------------------------------------------------------------

/- An identifier and a mask, set apart by a colon. -/
def filter (text : List Char) : Except Complaint Filter := do
  let (id, mask) ← expect (.invalid .filter text)
    (Split.atFirst? ':' text)
  return { id := ← word id, mask := ← word mask }

------------------------------------------------------------
-- Modifications
------------------------------------------------------------

/- An operation by its name, in letters of either case. -/
def operation (text : List Char) : Except Complaint Operation :=
  expect (.unknownOperation text) <|
    Operation.all.find? fun operation =>
      operation.name.toList = text.map Char.toUpper

/- A target by its letter, of either case. -/
def target (char : Char) : Except Complaint Targets :=
  expect (.unknownTarget char) <|
    (Targets.letters.find? fun entry =>
      entry.2 = char.toUpper).map Prod.fst

/- Targets by their letters, in any order. -/
def targets (text : List Char) : Except Complaint Targets :=
  text.foldlM
    (fun targets char => return targets.union (← target char))
    Flags.empty

/-
  A template frame: identifier, length, and data, set apart by
  points, with the flags of an FD frame after the identifier.
  The length is independent of the data.
-/
def frame
    (kind : FrameKind)
    (text : List Char) : Except Complaint Frame :=
  match kind, Split.atAll '.' text with
  | .classic, [id, length, bytes] => do
      let frame ← checked <|
        Frame.makeClassic (← word id) (← data bytes)
      checked (frame.withLength (← byte length))
  | .fd, [id, flags, length, bytes] => do
      let flags : FdFlags := ⟨(← byte flags).toBitVec⟩
      let frame ← checked <|
        Frame.makeFd (← word id) (← data bytes) flags
      checked (frame.withLength (← byte length))
  | _, _ => .error (.invalid .templateFrame text)

/-
  Add a function: operation, targets, and template, set apart
  by colons.
-/
def addModification
    (kind : FrameKind)
    (m : Modification)
    (text : List Char) : Except Complaint Modification := do
  let complaint := Complaint.invalid .modification text
  let (name, rest) ← expect complaint (Split.atFirst? ':' text)
  let (letters, template) ← expect complaint
    (Split.atFirst? ':' rest)
  let operation ← operation name
  let targets ← targets letters
  let template ← frame kind template
  checked (m.add operation ⟨targets, template⟩)

/- The modification with all the functions described. -/
def modification
    (kind : FrameKind)
    (texts : List (List Char)) : Except Complaint Modification :=
  texts.foldlM (addModification kind) Modification.empty

------------------------------------------------------------
-- Checksums
------------------------------------------------------------

def offsets
    (first last result : List Char) : Except Complaint Offsets := do
  return {
    first := ← offset first,
    last := ← offset last,
    result := ← offset result }

/- Three offsets and the initial value, set apart by colons. -/
def xorChecksum
    (kind : FrameKind)
    (text : List Char) : Except Complaint XorChecksum :=
  match Split.atAll ':' text with
  | [first, last, result, init] => do
      let offsets ← offsets first last result
      let init ← byte init
      checked (XorChecksum.make kind offsets init)
  | _ => .error (.invalid .xorChecksum text)

/-
  A profile number and, after a colon, its parameters, which
  may be left out.
-/
def withProfile
    (c : Crc8Checksum)
    (text : List Char) : Except Complaint Crc8Checksum := do
  let (number, parameters) :=
    (Split.atFirst? ':' text).getD (text, [])
  let number ← expect (.invalid .crc8Profile number)
    (Number.unsigned? 10 0x100 number)
  let profile := Profile.ofNumber (UInt8.ofNat number)
  checked (c.withProfile profile (← data parameters))

/-
  Three offsets, the initial value, the final value, and the
  table, set apart by colons; and perhaps a profile.
-/
def crc8Checksum
    (kind : FrameKind)
    (profile : Option (List Char))
    (text : List Char) : Except Complaint Crc8Checksum :=
  match Split.atAll ':' text with
  | [first, last, result, init, final, table] => do
      let offsets ← offsets first last result
      let init ← byte init
      let final ← byte final
      let table ← (Hex.decode table).mapError
        fun _ => Complaint.invalidTable
      let checksum ← checked <|
        Crc8Checksum.make kind offsets init final table
      match profile with
      | some text => withProfile checksum text
      | none => return checksum
  | _ => .error (.invalid .crc8Checksum text)

end Descriptor

end GatewayRules
