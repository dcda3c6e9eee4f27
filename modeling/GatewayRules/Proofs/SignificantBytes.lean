import GatewayRules.Proofs.AttributeMeaning
import GatewayRules.Proofs.WireLayout
import Mathlib

/-
  The significant bits of payloads.  Each kind of attributes
  looks at some bits of its payload and at no others: writing
  a value that was read gives back just these bits.  For this
  reason two payloads hold the same value exactly if they agree
  on them.

  Main declarations:
    * `Bytes.masked`
    * `Layout.Keeps` and `Layout.Keeps.read?_eq_iff`
    * `AttributeKind.significant`
    * `Function.keeps_classicLayout`
    * `Function.keeps_fdLayout`
    * `Crc8Checksum.keeps_storedLayout`
-/

------------------------------------------------------------
-- Masks
------------------------------------------------------------

namespace GatewayRules

namespace Bytes

/- Those bits of a byte string that a mask selects. -/
def masked (mask bytes : Bytes) : Bytes :=
  List.zipWith (· &&& ·) mask bytes

@[simp]
theorem length_masked
    (mask bytes : Bytes) :
    (masked mask bytes).length =
      min mask.length bytes.length := by
  simp [masked]

/- A mask is applied piece by piece. -/
theorem masked_append
    (first second bytes : Bytes) :
    masked (first ++ second) bytes =
      masked first bytes
        ++ masked second (bytes.drop first.length) := by
  induction first generalizing bytes with
  | nil => rfl
  | cons bits first ih =>
      cases bytes with
      | nil => simp [masked]
      | cons byte bytes =>
          have hRest := ih bytes
          unfold masked at hRest ⊢
          simp [hRest]

/- What is behind a mask does not matter to it. -/
theorem masked_take
    {mask : Bytes}
    {n : Nat}
    (bytes : Bytes)
    (h : mask.length ≤ n) :
    masked mask (bytes.take n) = masked mask bytes := by
  have hFits : (masked mask bytes).length ≤ n := by
    rw [length_masked]
    omega
  have hMask : mask.take n = mask :=
    List.take_of_length_le h
  have hTake :
      (masked mask bytes).take n =
        masked (mask.take n) (bytes.take n) :=
    List.take_zipWith
  rw [hMask, List.take_of_length_le hFits] at hTake
  exact hTake.symm

/- Two byte strings agree on a mask if they do on its pieces. -/
theorem masked_append_eq_iff
    {first second bytes others : Bytes}
    (hLength : bytes.length = others.length) :
    masked (first ++ second) bytes =
        masked (first ++ second) others ↔
      masked first bytes = masked first others ∧
        masked second (bytes.drop first.length) =
          masked second (others.drop first.length) := by
  rw [masked_append, masked_append]
  constructor
  · intro hSame
    apply List.append_inj hSame
    rw [length_masked, length_masked, hLength]
  · rintro ⟨hFirst, hSecond⟩
    rw [hFirst, hSecond]

/- The same for byte strings that come in such pieces. -/
theorem masked_append_append_eq_iff
    {first second front back otherFront otherBack : Bytes}
    (hMask : first.length = front.length)
    (hFront : front.length = otherFront.length) :
    masked (first ++ second) (front ++ back) =
        masked (first ++ second) (otherFront ++ otherBack) ↔
      masked first front = masked first otherFront ∧
        masked second back = masked second otherBack := by
  unfold masked
  rw [List.zipWith_append hMask,
    List.zipWith_append (hMask.trans hFront)]
  constructor
  · intro hSame
    apply List.append_inj hSame
    rw [List.length_zipWith, List.length_zipWith, hFront]
  · rintro ⟨hFirst, hSecond⟩
    rw [hFirst, hSecond]

theorem full_and (byte : UInt8) : 255 &&& byte = byte := by
  have hOnes : (255 : UInt8) = -1 := rfl
  rw [hOnes, UInt8.neg_one_and]

/- A mask of all bits selects everything. -/
theorem masked_full
    (n : Nat)
    (bytes : Bytes) :
    masked (List.replicate n 255) bytes = bytes.take n := by
  induction n generalizing bytes with
  | zero => rfl
  | succ n ih =>
      cases bytes with
      | nil => rfl
      | cons byte bytes =>
          have hRest := ih bytes
          unfold masked at hRest ⊢
          simp [List.replicate_succ, hRest, full_and]

/- A mask of no bits selects nothing. -/
theorem masked_zero
    (n : Nat)
    (bytes : Bytes) :
    masked (List.replicate n 0) bytes =
      List.replicate (min n bytes.length) 0 := by
  induction n generalizing bytes with
  | zero => simp [masked]
  | succ n ih =>
      cases bytes with
      | nil => rfl
      | cons byte bytes =>
          have hRest := ih bytes
          unfold masked at hRest ⊢
          simp [List.replicate_succ, hRest,
            Nat.add_min_add_right]

end Bytes

------------------------------------------------------------
-- Layouts That Keep Bits
------------------------------------------------------------

namespace Bytes

/- The bytes of a number are stored again as they were. -/
theorem ofNat_toNat (bytes : Bytes) :
    ofNat bytes.length (toNat bytes) = bytes := by
  induction bytes with
  | nil => rfl
  | cons byte bytes ih =>
      have hByte := byte.toNat_lt
      have hLow :
          (byte.toNat + 256 * toNat bytes) % 256 =
            byte.toNat := by
        omega
      have hHigh :
          (byte.toNat + 256 * toNat bytes) / 256 =
            toNat bytes := by
        omega
      rw [List.length_cons, toNat, ofNat, hLow, hHigh, ih,
        UInt8.ofNat_toNat]

theorem toNat_lt_capacity (bytes : Bytes) :
    toNat bytes < capacity bytes.length := by
  induction bytes with
  | nil => exact Nat.zero_lt_one
  | cons byte bytes ih =>
      have hByte := byte.toNat_lt
      rw [List.length_cons, toNat, capacity]
      omega

end Bytes

namespace Layout

variable {α β : Type}

/-
  Whether reading a value and writing it again keeps just the
  bits that a mask selects.
-/
structure Keeps
    (layout : Layout α)
    (mask : Bytes) : Prop where
  length : mask.length = layout.size
  write_read :
    ∀ bytes : Bytes,
      bytes.length = layout.size →
        layout.write (layout.read bytes) =
          Bytes.masked mask bytes

namespace Keeps

theorem word
    {width : Nat}
    {get : α → Nat}
    {make : Nat → α}
    {get_lt : ∀ a, get a < Bytes.capacity width}
    {make_get : ∀ a, make (get a) = a}
    (get_make : ∀ n < Bytes.capacity width, get (make n) = n) :
    (Layout.word width get make get_lt make_get).Keeps
      (List.replicate width 255) where
  length := List.length_replicate
  write_read := by
    intro bytes hLength
    change bytes.length = width at hLength
    subst hLength
    change
      Bytes.ofNat bytes.length (get (make bytes.toNat)) = _
    rw [get_make _ bytes.toNat_lt_capacity, bytes.ofNat_toNat,
      Bytes.masked_full, List.take_length]

theorem pair
    {first : Layout α}
    {second : Layout β}
    {front back : Bytes}
    (hFirst : first.Keeps front)
    (hSecond : second.Keeps back) :
    (first.pair second).Keeps (front ++ back) where
  length := by
    rw [List.length_append, hFirst.length, hSecond.length]
    rfl
  write_read := by
    intro bytes hLength
    change bytes.length = first.size + second.size at hLength
    have hFront :=
      hFirst.write_read (bytes.take first.size)
        (List.length_take_of_le (by omega))
    have hBack :=
      hSecond.write_read (bytes.drop first.size)
        (by rw [List.length_drop]; omega)
    rw [Bytes.masked_append, hFirst.length, ← hBack,
      ← Bytes.masked_take bytes (Nat.le_of_eq hFirst.length),
      ← hFront]
    rfl

theorem view
    {layout : Layout α}
    {mask : Bytes}
    {get : β → α}
    {make : α → β}
    {make_get : ∀ b, make (get b) = b}
    (h : layout.Keeps mask)
    (get_make : ∀ a, get (make a) = a) :
    (layout.view get make make_get).Keeps mask where
  length := h.length
  write_read := by
    intro bytes hLength
    change layout.write (get (make (layout.read bytes))) = _
    rw [get_make]
    exact h.write_read bytes hLength

theorem reserved (n : Nat) :
    (Layout.reserved n).Keeps (List.replicate n 0) where
  length := List.length_replicate
  write_read := by
    intro bytes hLength
    change bytes.length = n at hLength
    rw [Bytes.masked_zero, hLength, Nat.min_self]
    rfl

theorem block (n : Nat) :
    (Layout.block n).Keeps (List.replicate n 255) where
  length := List.length_replicate
  write_read := by
    intro bytes hLength
    change bytes.length = n at hLength
    subst hLength
    rw [Bytes.masked_full, List.take_length]
    exact
      congrArg Block.bytes
        (Block.zeroFilled_bytes ⟨bytes, rfl⟩)

/- Values are the same if the bits are. -/
theorem read?_eq_iff
    {layout : Layout α}
    {mask bytes others : Bytes}
    (h : layout.Keeps mask)
    (hBytes : layout.size ≤ bytes.length)
    (hOthers : layout.size ≤ others.length) :
    layout.read? bytes = layout.read? others ↔
      Bytes.masked mask bytes = Bytes.masked mask others := by
  have hWrite
      {part : Bytes}
      (hPart : layout.size ≤ part.length) :
      layout.write (layout.read (part.take layout.size)) =
        Bytes.masked mask part := by
    rw [h.write_read _ (List.length_take_of_le hPart)]
    exact Bytes.masked_take part (Nat.le_of_eq h.length)
  rw [read?, if_pos hBytes, read?, if_pos hOthers,
    Option.some_inj, ← hWrite hBytes, ← hWrite hOthers]
  constructor
  · intro hSame
    rw [hSame]
  · intro hSame
    rw [← layout.read_write
        (layout.read (bytes.take layout.size)),
      hSame, layout.read_write]

/- Bytes with the same bits are read alike. -/
theorem read?_congr
    {layout : Layout α}
    {mask bytes others : Bytes}
    (h : layout.Keeps mask)
    (hLength : bytes.length = others.length)
    (hSame :
      Bytes.masked mask bytes = Bytes.masked mask others) :
    layout.read? bytes = layout.read? others := by
  by_cases hFits : layout.size ≤ bytes.length
  · exact
      (h.read?_eq_iff hFits (hLength ▸ hFits)).mpr hSame
  · have hShort : ¬ layout.size ≤ others.length := by
      rw [← hLength]
      exact hFits
    rw [read?, if_neg hFits, read?, if_neg hShort]

end Keeps

theorem keeps_u8 : u8.Keeps (List.replicate 1 255) :=
  .word fun _ h => UInt8.toNat_ofNat_of_lt' h

theorem keeps_u16 : u16.Keeps (List.replicate 2 255) :=
  .word fun _ h => UInt16.toNat_ofNat_of_lt' h

theorem keeps_u32 : u32.Keeps (List.replicate 4 255) :=
  .word fun _ h => UInt32.toNat_ofNat_of_lt' h

theorem keeps_i8 : i8.Keeps (List.replicate 1 255) :=
  keeps_u8.view (by simp)

end Layout

------------------------------------------------------------
-- The Payloads of Each Kind
------------------------------------------------------------

namespace AttributeKind

/- The places of the reserved bytes in a payload. -/
def reserved : AttributeKind → List Nat
  | .modification kind _ => kind.reserved
  | _ => []

/- The bits of a payload that decide about its value. -/
def significant (kind : AttributeKind) : Bytes :=
  (List.range kind.payloadSize).map fun i =>
    if i ∈ kind.reserved then 0 else 255

@[simp]
theorem length_significant
    (kind : AttributeKind) :
    kind.significant.length = kind.payloadSize := by
  simp [significant]

/- Where nothing is reserved, all bits are significant. -/
theorem significant_of_reserved_eq_nil
    {kind : AttributeKind}
    (h : kind.reserved = []) :
    kind.significant = List.replicate kind.payloadSize 255 := by
  simp [significant, h, List.map_const']

end AttributeKind

theorem Filter.keeps_layout :
    layout.Keeps AttributeKind.filter.significant := by
  rw [AttributeKind.significant_of_reserved_eq_nil rfl]
  exact (Layout.keeps_u32.pair Layout.keeps_u32).view
    fun _ => rfl

theorem Targets.keeps_layout :
    layout.Keeps (List.replicate 1 255) :=
  Layout.keeps_u8.view fun _ => rfl

theorem Offsets.keeps_layout :
    layout.Keeps (List.replicate 3 255) :=
  (Layout.keeps_i8.pair
    (Layout.keeps_i8.pair Layout.keeps_i8)).view fun _ => rfl

theorem XorChecksum.keeps_layout :
    layout.Keeps AttributeKind.xorChecksum.significant := by
  rw [AttributeKind.significant_of_reserved_eq_nil rfl]
  exact (Offsets.keeps_layout.pair Layout.keeps_u8).view
    fun _ => rfl

theorem Crc8Checksum.keeps_storedLayout :
    storedLayout.Keeps
      AttributeKind.crc8Checksum.significant := by
  have hKeeps :=
    Offsets.keeps_layout.pair <| Layout.keeps_u8.pair <|
      Layout.keeps_u8.pair <| (Layout.Keeps.block 256).pair <|
        Layout.keeps_u8.pair (Layout.Keeps.block 20)
  simp only [List.replicate_append_replicate] at hKeeps
  rw [AttributeKind.significant_of_reserved_eq_nil rfl]
  exact hKeeps

theorem FdFlags.keeps_layout :
    layout.Keeps (List.replicate 1 255) :=
  Layout.keeps_u8.view fun _ => rfl

/- Two bytes of a classic template are not looked at. -/
theorem Function.keeps_classicLayout
    (operation : Operation) :
    classicLayout.Keeps
      (AttributeKind.modification .classic
        operation).significant :=
  Layout.Keeps.pair
    ((Layout.keeps_u32.pair <| Layout.keeps_u8.pair <|
      (Layout.Keeps.reserved 2).pair <| Layout.keeps_u8.pair <|
        Layout.Keeps.block 8).view fun _ => rfl)
    Targets.keeps_layout

/- Neither are two bytes of an FD template. -/
theorem Function.keeps_fdLayout
    (operation : Operation) :
    fdLayout.Keeps
      (AttributeKind.modification .fd operation).significant :=
  Layout.Keeps.pair
    ((Layout.keeps_u32.pair <| Layout.keeps_u8.pair <|
      FdFlags.keeps_layout.pair <|
        (Layout.Keeps.reserved 2).pair <|
          Layout.Keeps.block 64).view fun _ => rfl)
    Targets.keeps_layout

theorem GatewayHeader.keeps_layout :
    layout.Keeps (List.replicate size 255) :=
  (Layout.keeps_u8.pair <| Layout.keeps_u8.pair <|
    Layout.keeps_u16.view fun _ => rfl).view fun _ => rfl

end GatewayRules
