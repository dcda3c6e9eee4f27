import GatewayRules.Text.Number
import GatewayRules.Text.Quoted

/-
  The ways in which a rule, or a part of one, can break the
  constraints of the gateway.

  Key definitions include:
    * `Operation`
    * `Operation.name`
    * `OffsetField`
    * `Violation`
    * `Violation.message`
-/

namespace GatewayRules

------------------------------------------------------------
-- Operations
------------------------------------------------------------

/-
  How a template is combined with a frame, in the order in
  which the gateway applies the operations.
-/
inductive Operation where
  | and
  | or
  | xor
  | set
deriving DecidableEq

namespace Operation

/- The operations in order. -/
def all : List Operation :=
  [.and, .or, .xor, .set]

def name : Operation → String
  | .and => "AND"
  | .or => "OR"
  | .xor => "XOR"
  | .set => "SET"

end Operation

------------------------------------------------------------
-- Violations
------------------------------------------------------------

/- The payload offsets of a checksum. -/
inductive OffsetField where
  | first
  | last
  | result
deriving DecidableEq

def OffsetField.name : OffsetField → String
  | .first => "from"
  | .last => "to"
  | .result => "result"

/- What is wrong with a rule. -/
inductive Violation where
  | offsetOutOfRange
      (field : OffsetField) (offset : Int8) (maxLength : Nat)
  | crcTableSize (size : Nat)
  | profileDataSize (size : Nat)
  | tooMuchData (length maxLength : Nat)
  | emptyModification
  | duplicateOperation (operation : Operation)
  | mixedFrameKinds
  | flagsOnClassicFrame
  | frameKindMismatch
  | checksumWithoutModification
  | zeroHopLimit
  | interfaceName (name : List Char)
deriving DecidableEq

/- The sentence that reports a violation. -/
def Violation.message : Violation → String
  | .offsetOutOfRange field offset maxLength =>
      "checksum " ++ field.name ++ " offset "
        ++ Number.signedDecimal offset.toInt
        ++ " out of range for a "
        ++ Number.decimal maxLength ++ "-byte payload"
  | .crcTableSize size =>
      "CRC8 table must have 256 entries, got "
        ++ Number.decimal size
  | .profileDataSize size =>
      "CRC8 profile data must be at most 20 bytes, got "
        ++ Number.decimal size
  | .tooMuchData length maxLength =>
      "payload of " ++ Number.decimal length
        ++ " bytes exceeds frame maximum of "
        ++ Number.decimal maxLength ++ " bytes"
  | .emptyModification => "modification has no target"
  | .duplicateOperation operation =>
      "modification operation " ++ operation.name
        ++ " used more than once"
  | .mixedFrameKinds =>
      "classic and FD frame templates can't be mixed"
  | .flagsOnClassicFrame =>
      "the FLAGS target requires an FD frame template"
  | .frameKindMismatch =>
      "FD frame templates require the CAN_FD rule flag, "
        ++ "and vice versa"
  | .checksumWithoutModification =>
      "a checksum operation requires a frame modification"
  | .zeroHopLimit => "hop limit must be at least 1"
  | .interfaceName name =>
      "invalid interface name: "
        ++ String.ofList (Quoted.encode '"' name)

end GatewayRules
