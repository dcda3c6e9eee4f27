import GatewayRules.Bytes.Block

/-
  Fixed layouts.  A layout says how the values of a type are
  stored in a fixed number of bytes and how they are read
  back, and carries the proof that nothing is lost.  Records
  are laid out by pairing the layouts of their fields and
  viewing the pairs as the record.

  Key definitions include:
    * `Layout`
    * `Layout.read?`
    * `Layout.pair`
    * `Layout.view`
    * `Layout.reserved`
-/

namespace GatewayRules

/- A way to store the values of a type in `size` bytes. -/
structure Layout (α : Type) where
  size : Nat
  write : α → Bytes
  read : Bytes → α
  length_write : ∀ a, (write a).length = size
  read_write : ∀ a, read (write a) = a

namespace Layout

variable {α β : Type}

attribute [simp] length_write read_write

/-
  Read a value from the front of a byte string.  What follows
  it is not looked at.
-/
def read?
    (layout : Layout α)
    (bytes : Bytes) : Option α :=
  if layout.size ≤ bytes.length then
    some (layout.read (bytes.take layout.size))
  else
    none

/- A stored value is read back, whatever follows it. -/
theorem read?_write_append
    (layout : Layout α)
    (a : α)
    (rest : Bytes) :
    layout.read? (layout.write a ++ rest) = some a := by
  have hTake :
      (layout.write a ++ rest).take layout.size =
        layout.write a :=
    List.take_left' (layout.length_write a)
  simp [read?, hTake]

/- A stored value is read back. -/
@[simp]
theorem read?_write
    (layout : Layout α)
    (a : α) :
    layout.read? (layout.write a) = some a := by
  simpa using layout.read?_write_append a []

/- What was cut off behind a value does not matter to it. -/
theorem read?_take
    (layout : Layout α)
    {n : Nat}
    (bytes : Bytes)
    (h : layout.size ≤ n) :
    layout.read? (bytes.take n) = layout.read? bytes := by
  have hLength :
      layout.size ≤ (bytes.take n).length ↔
        layout.size ≤ bytes.length := by
    rw [List.length_take]
    omega
  simp only [read?, hLength, List.take_take,
    Nat.min_eq_left h]

/- Neither does what was added. -/
theorem read?_append
    (layout : Layout α)
    {bytes : Bytes}
    (rest : Bytes)
    (h : layout.size ≤ bytes.length) :
    layout.read? (bytes ++ rest) = layout.read? bytes := by
  rw [← layout.read?_take (bytes ++ rest) h, List.take_left]

/- Reading fails exactly on byte strings that are too short. -/
theorem read?_isSome_iff
    (layout : Layout α)
    (bytes : Bytes) :
    (layout.read? bytes).isSome ↔
      layout.size ≤ bytes.length := by
  unfold read?
  split <;> simp_all

------------------------------------------------------------
-- Combining Layouts
------------------------------------------------------------

/- Two values, one after the other. -/
def pair
    (first : Layout α)
    (second : Layout β) : Layout (α × β) where
  size := first.size + second.size
  write p := first.write p.1 ++ second.write p.2
  read bytes :=
    (first.read (bytes.take first.size),
      second.read (bytes.drop first.size))
  length_write p := by simp
  read_write p := by
    simp [List.take_left' (first.length_write p.1),
      List.drop_left' (first.length_write p.1)]

/- Values of one type stored as those of another. -/
def view
    (layout : Layout α)
    (get : β → α)
    (make : α → β)
    (make_get : ∀ b, make (get b) = b) : Layout β where
  size := layout.size
  write b := layout.write (get b)
  read bytes := make (layout.read bytes)
  length_write b := by simp
  read_write b := by simp [make_get]

/-
  Bytes that carry nothing: written as zeros and not read.
-/
def reserved (n : Nat) : Layout Unit where
  size := n
  write _ := List.replicate n 0
  read _ := ()
  length_write _ := by simp
  read_write _ := rfl

------------------------------------------------------------
-- Numbers and Blocks
------------------------------------------------------------

/- A number in `width` bytes. -/
def word
    (width : Nat)
    (get : α → Nat)
    (make : Nat → α)
    (get_lt : ∀ a, get a < Bytes.capacity width)
    (make_get : ∀ a, make (get a) = a) : Layout α where
  size := width
  write a := Bytes.ofNat width (get a)
  read bytes := make bytes.toNat
  length_write a := by simp
  read_write a := by
    rw [Bytes.toNat_ofNat_of_lt (get_lt a), make_get]

/- One byte. -/
def u8 : Layout UInt8 :=
  word 1 UInt8.toNat UInt8.ofNat
    (fun a => a.toNat_lt)
    (fun _ => UInt8.ofNat_toNat)

/- An unsigned number in two bytes. -/
def u16 : Layout UInt16 :=
  word 2 UInt16.toNat UInt16.ofNat
    (fun a => a.toNat_lt)
    (fun _ => UInt16.ofNat_toNat)

/- An unsigned number in four bytes. -/
def u32 : Layout UInt32 :=
  word 4 UInt32.toNat UInt32.ofNat
    (fun a => a.toNat_lt)
    (fun _ => UInt32.ofNat_toNat)

/- A signed number in one byte. -/
def i8 : Layout Int8 :=
  u8.view Int8.toUInt8 UInt8.toInt8 (by simp)

/- A signed number in four bytes. -/
def i32 : Layout Int32 :=
  u32.view Int32.toUInt32 UInt32.toInt32 (by simp)

/- The bytes of a block as they are. -/
def block (n : Nat) : Layout (Block n) where
  size := n
  write b := b.bytes
  read bytes := Block.zeroFilled n bytes
  length_write b := b.length_bytes
  read_write b := by simp

@[simp]
theorem size_u8 : u8.size = 1 :=
  rfl

@[simp]
theorem size_u16 : u16.size = 2 :=
  rfl

@[simp]
theorem size_u32 : u32.size = 4 :=
  rfl

@[simp]
theorem size_i32 : i32.size = 4 :=
  rfl

end Layout

end GatewayRules
