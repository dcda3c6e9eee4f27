import GatewayRules.Bytes.Basic

/-
  CAN identifiers and the word in which a frame holds one.

  Key definitions include:
    * `Identifier`
    * `Identifier.standard?`
    * `Identifier.extended?`
    * `Identifier.word`
-/

namespace GatewayRules

/- An identifier of eleven bits, or one of twenty-nine. -/
inductive Identifier where
  | standard (value : Fin 0x800)
  | extended (value : Fin 0x20000000)
deriving DecidableEq

namespace Identifier

def standard? (n : Nat) : Option Identifier :=
  if h : n < 0x800 then some (.standard ⟨n, h⟩) else none

def extended? (n : Nat) : Option Identifier :=
  if h : n < 0x20000000 then some (.extended ⟨n, h⟩) else none

/-
  The identifier word of a frame: the top bit marks an
  extended identifier.
-/
def word : Identifier → UInt32
  | .standard value => UInt32.ofNat value
  | .extended value => UInt32.ofNat (value + 0x80000000)

end Identifier

end GatewayRules
