import GatewayRules.Bytes.Block
import GatewayRules.Rule.Violation

/-
  Network interfaces: the index by which rules refer to them,
  the name by which users do, and what the system answers when
  asked for the one or the other.

  Key definitions include:
    * `Interface.Index`
    * `Interface.Name`
    * `Interface.Name.make`
    * `Interface.Name.block`
    * `Interface.Name.read`
    * `Interface.Name.terminated`
    * `Interface.LookupError`
    * `Interface.Directory`
    * `Interface.Directory.ofList`
-/

namespace GatewayRules

namespace Interface

------------------------------------------------------------
-- Indices
------------------------------------------------------------

/- The number of an interface.  Zero is not the number of any. -/
structure Index where
  value : UInt32
  value_ne_zero : value ≠ 0
deriving DecidableEq

namespace Index

def make? (value : UInt32) : Option Index :=
  if h : value ≠ 0 then some ⟨value, h⟩ else none

/- The index that a decimal number stands for. -/
def ofText? (text : List Char) : Option Index :=
  (Number.unsigned? 10 0x100000000 text).bind fun n =>
    make? (UInt32.ofNat n)

def text (index : Index) : String :=
  Number.decimal index.value.toNat

end Index

------------------------------------------------------------
-- Names
------------------------------------------------------------

/- The most bytes that a name can have. -/
def maxNameLength : Nat :=
  15

/- The number of bytes in which a name is stored. -/
def nameSize : Nat :=
  maxNameLength + 1

/-
  The name of an interface: some bytes, not too many, and none
  of them zero.
-/
structure Name where
  bytes : Bytes
  bytes_ne_nil : bytes ≠ []
  length_le : bytes.length ≤ maxNameLength
  zero_not_mem : 0 ∉ bytes
deriving DecidableEq

namespace Name

/- A byte string without the zero bytes at its end. -/
def trim (bytes : Bytes) : Bytes :=
  (bytes.reverse.dropWhile (· == 0)).reverse

/-
  The name that a byte string holds.  Zero bytes at the end
  are padding.
-/
def make (bytes : Bytes) : Except Violation Name :=
  let trimmed := trim bytes
  if h : trimmed ≠ [] ∧ trimmed.length ≤ maxNameLength ∧
      0 ∉ trimmed then
    .ok ⟨trimmed, h.1, h.2.1, h.2.2⟩
  else
    .error (.interfaceName (Utf8.decode bytes))

def ofText (text : List Char) : Except Violation Name :=
  make (Utf8.encode text)

/- The name as it is stored, with zero bytes up to the end. -/
def block (name : Name) : Block nameSize :=
  Block.zeroFilled nameSize name.bytes

/- The bytes of a stored name, which end at the first zero byte. -/
def read (block : Block nameSize) : Bytes :=
  block.bytes.take
    ((block.bytes.findIdx? (· == 0)).getD maxNameLength)

/- A byte string that ends with a zero byte and has no other. -/
def terminated? (bytes : Bytes) : Option Bytes :=
  match bytes.findIdx? (· == 0) with
  | none => none
  | some position =>
      if position + 1 = bytes.length then some bytes else none

/- A stored name with the zero byte behind it, if that is so. -/
def readTerminated? (block : Block nameSize) : Option Bytes :=
  terminated? (block.bytes.take ((read block).length + 1))

/-
  The bytes of the name and the zero byte that ends it.  The
  empty text would stand for a block that does not have it.
-/
def terminated (name : Name) : Bytes :=
  (readTerminated? name.block).getD [0]

/- The name as text, as far as it is readable. -/
def text (name : Name) : List Char :=
  Utf8.decode name.bytes

/- The quoted name. -/
def description (name : Name) : String :=
  "IfName(" ++ String.ofList (Quoted.encode '"' name.text) ++ ")"

end Name

end Interface

end GatewayRules
