import GatewayRules.Text.Utf8

/-
  Hexadecimal text, of numbers and of byte strings.

  Key definitions include:
    * `Hex.number`
    * `Hex.paddedNumber`
    * `Hex.bytes`
    * `Hex.digitValue?`
    * `Hex.decode`
-/

namespace GatewayRules

namespace Hex

/- Which letters stand for the digits above nine. -/
inductive Letters where
  | lower
  | upper

------------------------------------------------------------
-- Writing
------------------------------------------------------------

/- The digit with the given value, which is below sixteen. -/
def digit
    (letters : Letters)
    (value : Nat) : Char :=
  if value < 10 then
    Char.ofNat (0x30 + value)
  else
    match letters with
    | .lower => Char.ofNat (0x57 + value)
    | .upper => Char.ofNat (0x37 + value)

/- A number in hexadecimal, without leading zeros. -/
def number
    (letters : Letters)
    (n : Nat) : List Char :=
  if n < 16 then
    [digit letters n]
  else
    number letters (n / 16) ++ [digit letters (n % 16)]
termination_by n
decreasing_by omega

/- A number in hexadecimal, in at least `width` digits. -/
def paddedNumber
    (letters : Letters)
    (width : Nat)
    (n : Nat) : List Char :=
  let digits := number letters n
  List.replicate (width - digits.length) '0' ++ digits

/- A byte, in two digits. -/
def byte
    (letters : Letters)
    (b : UInt8) : List Char :=
  [digit letters (b.toNat / 16), digit letters (b.toNat % 16)]

/- A byte string, two digits for each byte. -/
def bytes
    (letters : Letters)
    (bs : Bytes) : List Char :=
  bs.flatMap (byte letters)

------------------------------------------------------------
-- Reading
------------------------------------------------------------

/- The value of the digit with a given code, in either case. -/
def digitValue? (code : Nat) : Option Nat :=
  if 0x30 ≤ code ∧ code ≤ 0x39 then
    some (code - 0x30)
  else if 0x41 ≤ code ∧ code ≤ 0x46 then
    some (code - 0x37)
  else if 0x61 ≤ code ∧ code ≤ 0x66 then
    some (code - 0x57)
  else
    none

/- Why a text is no byte string. -/
inductive Error where
  | oddLength
  | invalidDigit (byte : UInt8) (position : Nat)
deriving DecidableEq

/- The value of the digit at a position of the text. -/
def digitAt
    (position : Nat)
    (byte : UInt8) : Except Error Nat :=
  match digitValue? byte.toNat with
  | some value => .ok value
  | none => .error (.invalidDigit byte position)

/- Read pairs of digits, the first of them at `position`. -/
def decodeFrom : (position : Nat) → Bytes → Except Error Bytes
  | position, high :: low :: rest => do
      let h ← digitAt position high
      let l ← digitAt (position + 1) low
      let tail ← decodeFrom (position + 2) rest
      return UInt8.ofNat (16 * h + l) :: tail
  | _, _ => .ok []

/-
  Read a text as a byte string.  Length and positions count
  the bytes of the text, and an odd length is reported before
  any digit is looked at.
-/
def decode (text : List Char) : Except Error Bytes :=
  let encoded := Utf8.encode text
  if encoded.length % 2 = 1 then
    .error .oddLength
  else
    decodeFrom 0 encoded

end Hex

end GatewayRules
