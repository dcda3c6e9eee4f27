import GatewayRules.Text.Hex

/-
  Sets of named flags held in the bits of a word.  A
  vocabulary names the low bits of the word in order; the bits
  above them have no name but are kept like the others.

  Key definitions include:
    * `Vocabulary`
    * `Flags`
    * `Flags.contains`
    * `Flags.known`
    * `Flags.names`
    * `Flags.description`
-/

namespace GatewayRules

/-
  The names of the flags in a word of `width` bits, from the
  lowest bit up.
-/
structure Vocabulary where
  title : String
  width : Nat
  names : List String

/- A word whose bits are read as flags of a vocabulary. -/
structure Flags (v : Vocabulary) where
  bits : BitVec v.width
deriving DecidableEq

namespace Flags

variable {v : Vocabulary}

------------------------------------------------------------
-- Set Operations
------------------------------------------------------------

/- No flag. -/
def empty : Flags v :=
  ⟨0⟩

/- Every named flag. -/
def all : Flags v :=
  ⟨BitVec.ofNat v.width ((1 <<< v.names.length) - 1)⟩

/- The flag with a given position among the names. -/
def single (position : Nat) : Flags v :=
  ⟨BitVec.ofNat v.width (1 <<< position)⟩

def union (a b : Flags v) : Flags v :=
  ⟨a.bits ||| b.bits⟩

def intersection (a b : Flags v) : Flags v :=
  ⟨a.bits &&& b.bits⟩

def difference (a b : Flags v) : Flags v :=
  ⟨a.bits &&& ~~~ b.bits⟩

def symmetricDifference (a b : Flags v) : Flags v :=
  ⟨a.bits ^^^ b.bits⟩

/- The bits that have a name. -/
def known (a : Flags v) : Flags v :=
  a.intersection all

/- The bits that have no name. -/
def unknown (a : Flags v) : Flags v :=
  a.difference all

/- The named flags that are not set. -/
def complement (a : Flags v) : Flags v :=
  all.difference a

def isEmpty (a : Flags v) : Bool :=
  a.bits == 0

/- Whether every bit of `b` is set in `a`. -/
def contains (a b : Flags v) : Bool :=
  a.bits &&& b.bits == b.bits

/- Whether some bit is set in both. -/
def intersects (a b : Flags v) : Bool :=
  !(a.intersection b).isEmpty

/- Whether every bit that is set has a name. -/
def isKnown (a : Flags v) : Bool :=
  a.unknown.isEmpty

------------------------------------------------------------
-- Names
------------------------------------------------------------

/- The names of the set flags, lowest bit first. -/
def names (a : Flags v) : List String :=
  v.names.zipIdx.filterMap fun entry =>
    if a.contains (single entry.2) then
      some entry.1
    else
      none

/-
  The names of the set flags, and what is left of the word in
  hexadecimal.
-/
def description (a : Flags v) : String :=
  let hex (b : Flags v) : String :=
    "0x" ++ String.ofList (Hex.number .lower b.bits.toNat)
  let rest := if a.isKnown then [] else [hex a.unknown]
  let parts :=
    if a.isEmpty then [hex a] else a.names ++ rest
  v.title ++ "(" ++ String.intercalate " | " parts ++ ")"

end Flags

end GatewayRules
