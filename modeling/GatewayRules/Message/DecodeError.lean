import GatewayRules.Text.Number

/-
  What can be wrong with a received message.

  Key definitions include:
    * `Defect`
    * `DecodeError`
    * `DecodeError.message`
-/

namespace GatewayRules

/- A length or a layout inside a message that is not allowed. -/
inductive Defect where
  | messageShorterThanHeader
  | errorWithoutCode
  | missingGatewayHeader
  | unsupportedGatewayType
  | trailingBytes
  | attributeShorterThanHeader
  | attributeExceedsMessage
  | attributeNotPadded
  | payloadTooShort
  | zeroInterface
  | missingSource
  | missingDestination
deriving DecidableEq

def Defect.text : Defect → String
  | .messageShorterThanHeader =>
      "message length smaller than its header"
  | .errorWithoutCode => "error message without a code"
  | .missingGatewayHeader => "missing gateway header"
  | .unsupportedGatewayType => "unsupported gateway type"
  | .trailingBytes => "trailing bytes after attributes"
  | .attributeShorterThanHeader =>
      "attribute length smaller than its header"
  | .attributeExceedsMessage =>
      "attribute length exceeds message"
  | .attributeNotPadded => "attribute not padded to alignment"
  | .payloadTooShort => "attribute payload too short"
  | .zeroInterface => "zero interface index"
  | .missingSource => "missing source interface"
  | .missingDestination => "missing destination interface"

/-
  A message that is not all there, or one with a defect at a
  given offset from its start.
-/
inductive DecodeError where
  | truncated (needed available : Nat)
  | malformed (offset : Nat) (defect : Defect)
deriving DecidableEq

def DecodeError.message : DecodeError → String
  | .truncated needed available =>
      "message truncated: need " ++ Number.decimal needed
        ++ " bytes, have " ++ Number.decimal available
  | .malformed offset defect =>
      "malformed message at offset " ++ Number.decimal offset
        ++ ": " ++ defect.text

end GatewayRules
