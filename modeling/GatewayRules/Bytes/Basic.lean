/-
  Byte strings, and the two conventions that every layout in
  this library shares: numbers are stored least significant
  byte first, and items are padded with zero bytes to a
  four-byte boundary.

  Key definitions include:
    * `Bytes`
    * `Bytes.align`
    * `Bytes.padded`
    * `Bytes.capacity`
    * `Bytes.ofNat`
    * `Bytes.toNat`
-/

namespace GatewayRules

/- A string of octets, as it stands on the wire. -/
abbrev Bytes :=
  List UInt8

namespace Bytes

------------------------------------------------------------
-- Alignment
------------------------------------------------------------

/- The least multiple of four that is not below `n`. -/
def align (n : Nat) : Nat :=
  (n + 3) / 4 * 4

theorem le_align (n : Nat) : n ≤ align n := by
  unfold align
  omega

theorem align_lt (n : Nat) : align n < n + 4 := by
  unfold align
  omega

theorem dvd_align (n : Nat) : 4 ∣ align n :=
  Nat.dvd_mul_left 4 _

/- A multiple of four is on the boundary. -/
theorem align_of_dvd
    {n : Nat}
    (h : 4 ∣ n) :
    align n = n := by
  unfold align
  omega

theorem align_add_of_dvd
    {m : Nat}
    (n : Nat)
    (h : 4 ∣ m) :
    align (m + n) = m + align n := by
  unfold align
  omega

/- The zero bytes that bring `n` bytes to the boundary. -/
def padding (n : Nat) : Bytes :=
  List.replicate (align n - n) 0

/- A byte string followed by its padding. -/
def padded (bytes : Bytes) : Bytes :=
  bytes ++ padding bytes.length

@[simp]
theorem length_padding
    (n : Nat) :
    (padding n).length = align n - n := by
  simp [padding]

@[simp]
theorem length_padded
    (bytes : Bytes) :
    bytes.padded.length = align bytes.length := by
  have h := le_align bytes.length
  simp only [padded, List.length_append, length_padding]
  omega

/- What ends on the boundary is not padded. -/
theorem padded_of_dvd
    {bytes : Bytes}
    (h : 4 ∣ bytes.length) :
    bytes.padded = bytes := by
  simp [padded, padding, align_of_dvd h]

/- What stands in front up to a boundary stays as it is. -/
theorem padded_append_of_dvd
    {front : Bytes}
    (bytes : Bytes)
    (h : 4 ∣ front.length) :
    padded (front ++ bytes) = front ++ bytes.padded := by
  have hPadding :
      padding (front.length + bytes.length) =
        padding bytes.length := by
    unfold padding
    rw [align_add_of_dvd bytes.length h,
      Nat.add_sub_add_left]
  simp [padded, hPadding]

------------------------------------------------------------
-- Little-Endian Numbers
------------------------------------------------------------

/- How many numbers can be stored in `width` bytes. -/
def capacity : (width : Nat) → Nat
  | 0 => 1
  | width + 1 => 256 * capacity width

/-
  The `width` low-order bytes of a number, least significant
  byte first.
-/
def ofNat : (width : Nat) → Nat → Bytes
  | 0, _ => []
  | width + 1, n =>
      UInt8.ofNat (n % 256) :: ofNat width (n / 256)

/- The number whose bytes are given least significant first. -/
def toNat : Bytes → Nat
  | [] => 0
  | byte :: rest => byte.toNat + 256 * toNat rest

@[simp]
theorem length_ofNat
    (width n : Nat) :
    (ofNat width n).length = width := by
  induction width generalizing n with
  | zero => rfl
  | succ width ih => simp [ofNat, ih]

/-
  Storing a number in `width` bytes keeps it modulo the
  capacity.
-/
theorem toNat_ofNat
    (width n : Nat) :
    toNat (ofNat width n) = n % capacity width := by
  induction width generalizing n with
  | zero => simp [ofNat, toNat, capacity, Nat.mod_one]
  | succ width ih =>
      have hByte : (UInt8.ofNat (n % 256)).toNat = n % 256 := by
        simp
      rw [ofNat, toNat, ih, hByte, capacity, Nat.mod_mul]

/- A number that fits is read back. -/
theorem toNat_ofNat_of_lt
    {width n : Nat}
    (h : n < capacity width) :
    toNat (ofNat width n) = n := by
  rw [toNat_ofNat, Nat.mod_eq_of_lt h]

end Bytes

end GatewayRules
