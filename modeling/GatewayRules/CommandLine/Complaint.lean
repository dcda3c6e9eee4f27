import GatewayRules.Error
import GatewayRules.Text.Quoted

/-
  What a command has to complain about.

  Key definitions include:
    * `Subject`
    * `Complaint`
    * `Complaint.message`
-/

namespace GatewayRules

/- The kinds of texts that a user can get wrong. -/
inductive Subject where
  | filter
  | hexValue
  | modification
  | templateFrame
  | checksumOffset
  | xorChecksum
  | crc8Checksum
  | crc8Profile
deriving DecidableEq

def Subject.name : Subject → String
  | .filter => "filter"
  | .hexValue => "hex value"
  | .modification => "modification"
  | .templateFrame => "template frame"
  | .checksumOffset => "checksum offset"
  | .xorChecksum => "XOR checksum"
  | .crc8Checksum => "CRC8 checksum"
  | .crc8Profile => "CRC8 profile"

/- Why a command comes to nothing. -/
inductive Complaint where
  | noSubcommand
  | invalid (subject : Subject) (text : List Char)
  | unknownOperation (text : List Char)
  | unknownTarget (char : Char)
  | invalidTable
  | invalidData (error : Hex.Error)
  | failed (error : Error)
deriving DecidableEq

namespace Complaint

/- A complaint about a part of the rule. -/
def ofViolation (violation : Violation) : Complaint :=
  .failed (.plain (.rule violation))

/- A complaint about an interface. -/
def ofLookup (error : Interface.LookupError) : Complaint :=
  .failed (.plain (.lookup error))

/-
  What is wrong with the digits of a byte string.  A byte that
  is no digit is shown as the character with its number.
-/
def dataMessage : Hex.Error → String
  | .oddLength => "Odd number of digits"
  | .invalidDigit byte position =>
      "Invalid character "
        ++ String.ofList
          (Quoted.encode '\'' [Char.ofNat byte.toNat])
        ++ " at position " ++ Number.decimal position

def message : Complaint → String
  | .noSubcommand =>
      "Need to specify a subcommand (-? for help)."
  | .invalid subject text =>
      "Invalid " ++ subject.name
        ++ " '" ++ String.ofList text ++ "'"
  | .unknownOperation text =>
      "Unknown modification operation '"
        ++ String.ofList text ++ "'"
  | .unknownTarget char =>
      "Unknown modification target '"
        ++ String.ofList [char] ++ "'"
  | .invalidTable => "Invalid CRC8 table"
  | .invalidData error => dataMessage error
  | .failed error => error.message

end Complaint

end GatewayRules
