import GatewayRules.Bytes.Basic

/-
  Blocks of a fixed number of bytes: the data of a frame, a
  lookup table, the parameters of a checksum profile.

  Key definitions include:
    * `Block`
    * `Block.zeroFilled`
-/

namespace GatewayRules

/- Exactly `n` bytes. -/
structure Block (n : Nat) where
  bytes : Bytes
  length_bytes : bytes.length = n
deriving DecidableEq

namespace Block

/-
  The first `n` of the given bytes, with zero bytes in the
  place of those that are missing.
-/
def zeroFilled
    (n : Nat)
    (bytes : Bytes) : Block n where
  bytes := bytes.take n ++ List.replicate (n - bytes.length) 0
  length_bytes := by
    simp only [List.length_append, List.length_take,
      List.length_replicate]
    omega

/- A block is filled by its own bytes. -/
@[simp]
theorem zeroFilled_bytes
    {n : Nat}
    (block : Block n) :
    zeroFilled n block.bytes = block := by
  obtain ⟨bytes, rfl⟩ := block
  simp [zeroFilled]

end Block

end GatewayRules
