import GatewayRules.Message.Attribute

/-
  Attributes on the wire.  A walk over encoded attributes
  finds each of them again, in order and at its own offset,
  as long as no payload is too long for the length field.

  Main declarations:
    * `Attribute.encode` and `Attribute.encodeAll`
    * `Attribute.place`
    * `Attribute.cut_encode_append`
    * `AttributeWalk.ofBytes_encodeAll`
    * `Builder.appendItems` and `Builder.body_appendItems`
    * `Builder.body_appendAttributes`
-/

------------------------------------------------------------
-- Encoded Attributes
------------------------------------------------------------

namespace GatewayRules

namespace Attribute

/- The longest payload that the length field can describe. -/
def maxPayload : Nat :=
  65531

/- An attribute on the wire: header, payload, and padding. -/
def encode
    (type : UInt16)
    (payload : Bytes) : Bytes :=
  Bytes.padded
    (Layout.u16.write (UInt16.ofNat (4 + payload.length))
      ++ Layout.u16.write type ++ payload)

/- Attributes on the wire, one after the other. -/
def encodeAll (items : List (UInt16 × Bytes)) : Bytes :=
  items.flatMap fun item => encode item.1 item.2

@[simp]
theorem encodeAll_nil : encodeAll [] = [] :=
  rfl

@[simp]
theorem encodeAll_cons
    (item : UInt16 × Bytes)
    (items : List (UInt16 × Bytes)) :
    encodeAll (item :: items) =
      encode item.1 item.2 ++ encodeAll items :=
  rfl

theorem encodeAll_append
    (first second : List (UInt16 × Bytes)) :
    encodeAll (first ++ second) =
      encodeAll first ++ encodeAll second :=
  List.flatMap_append

/- Header, payload, and padding one by one. -/
theorem encode_eq
    (type : UInt16)
    (payload : Bytes) :
    encode type payload =
      headerLayout.write
          (UInt16.ofNat (4 + payload.length), type)
        ++ payload ++ Bytes.padding (4 + payload.length) := by
  have hLength :
      2 + (2 + payload.length) = 4 + payload.length := by
    omega
  simp [encode, Bytes.padded, headerLayout, Layout.pair,
    hLength]

@[simp]
theorem length_encode
    (type : UInt16)
    (payload : Bytes) :
    (encode type payload).length =
      Bytes.align (4 + payload.length) := by
  have hAlign := Bytes.le_align (4 + payload.length)
  simp only [encode_eq, List.length_append,
    Layout.length_write, size_headerLayout, headerSize,
    Bytes.length_padding]
  omega

theorem dvd_length_encode
    (type : UInt16)
    (payload : Bytes) :
    4 ∣ (encode type payload).length := by
  rw [length_encode]
  exact Bytes.dvd_align _

theorem dvd_length_encodeAll
    (items : List (UInt16 × Bytes)) :
    4 ∣ (encodeAll items).length := by
  induction items with
  | nil => simp
  | cons item items ih =>
      rw [encodeAll_cons, List.length_append]
      exact Nat.dvd_add (dvd_length_encode _ _) ih

/- Few attributes with short payloads take few bytes. -/
theorem length_encodeAll_le
    {items : List (UInt16 × Bytes)}
    {bound : Nat}
    (h : ∀ item ∈ items, item.2.length ≤ bound) :
    (encodeAll items).length ≤ items.length * (bound + 8) := by
  induction items with
  | nil => simp
  | cons item items ih =>
      have hItem := h item List.mem_cons_self
      have hRest := ih fun other hOther =>
        h other (List.mem_cons_of_mem _ hOther)
      have hAlign := Bytes.align_lt (4 + item.2.length)
      rw [encodeAll_cons, List.length_append, length_encode,
        List.length_cons, Nat.add_mul]
      omega

------------------------------------------------------------
-- Cutting an Encoded Attribute
------------------------------------------------------------

/- The attribute that a walk finds for an encoded one. -/
def placed
    (offset : Nat)
    (item : UInt16 × Bytes) : Attribute where
  number := item.1 &&& numberMask
  payload := item.2
  offset := offset

/- The length field of an encoded attribute is faithful. -/
theorem toNat_lengthField
    {payload : Bytes}
    (h : payload.length ≤ maxPayload) :
    (UInt16.ofNat (4 + payload.length)).toNat =
      4 + payload.length := by
  unfold maxPayload at h
  rw [UInt16.toNat_ofNat']
  omega

theorem read?_encode_append
    (type : UInt16)
    (payload rest : Bytes) :
    headerLayout.read? (encode type payload ++ rest) =
      some (UInt16.ofNat (4 + payload.length), type) := by
  rw [encode_eq, List.append_assoc, List.append_assoc,
    headerLayout.read?_write_append]

/- An encoded attribute is cut off whatever follows it. -/
theorem cut_encode_append
    (type : UInt16)
    {payload : Bytes}
    (rest : Bytes)
    (offset : Nat)
    (h : payload.length ≤ maxPayload) :
    cut (encode type payload ++ rest) offset =
      .ok (placed offset (type, payload),
        (encode type payload).length) := by
  have hHeader := read?_encode_append type payload rest
  have hPayload :
      ((encode type payload ++ rest).take
        (4 + payload.length)).drop headerSize = payload := by
    rw [encode_eq, List.append_assoc,
      List.take_left' (by simp [headerSize])]
    exact List.drop_left' (by simp)
  have hAlign := Bytes.le_align (4 + payload.length)
  unfold cut
  rw [hHeader]
  simp only [toNat_lengthField h, List.length_append,
    length_encode]
  rw [if_neg (by unfold headerSize; omega),
    if_neg (by omega), if_neg (by omega), hPayload]
  rfl

/- Attributes of known kinds with the numbers of the kinds. -/
def numbered
    (attributes : List (AttributeKind × Bytes)) :
    List (UInt16 × Bytes) :=
  attributes.map fun item => (item.1.number, item.2)

/- The attributes that a walk finds for encoded ones. -/
def place
    (offset : Nat) : List (UInt16 × Bytes) → List Attribute
  | [] => []
  | item :: items =>
      placed offset item ::
        place (offset + (encode item.1 item.2).length) items

theorem place_append
    (offset : Nat)
    (first second : List (UInt16 × Bytes)) :
    place offset (first ++ second) =
      place offset first
        ++ place (offset + (encodeAll first).length) second := by
  induction first generalizing offset with
  | nil => simp [place]
  | cons item first ih =>
      simp [place, ih, Nat.add_assoc]

end Attribute

------------------------------------------------------------
-- Walking Encoded Attributes
------------------------------------------------------------

/- A walk finds every attribute that was encoded. -/
theorem AttributeWalk.ofBytes_encodeAll
    {items : List (UInt16 × Bytes)}
    (offset : Nat)
    (h : ∀ item ∈ items,
      item.2.length ≤ Attribute.maxPayload) :
    AttributeWalk.ofBytes (Attribute.encodeAll items) offset =
      ⟨Attribute.place offset items, none⟩ := by
  induction items generalizing offset with
  | nil => simp [Attribute.place]
  | cons item items ih =>
      have hCut :=
        Attribute.cut_encode_append item.1
          (Attribute.encodeAll items) offset
          (h item List.mem_cons_self)
      have hNonempty :
          Attribute.encode item.1 item.2
            ++ Attribute.encodeAll items ≠ [] := by
        intro hEmpty
        have hLength := congrArg List.length hEmpty
        have hAlign := Bytes.le_align (4 + item.2.length)
        simp only [List.length_append, List.length_nil,
          Attribute.length_encode] at hLength
        omega
      rw [Attribute.encodeAll_cons,
        AttributeWalk.ofBytes_of_cut_ok hNonempty hCut,
        List.drop_left,
        ih _ fun other hOther =>
          h other (List.mem_cons_of_mem _ hOther)]
      rfl

------------------------------------------------------------
-- Appending Attributes
------------------------------------------------------------

namespace Builder

theorem body_appendAttribute
    {builder : Builder}
    (type : UInt16)
    (payload : Bytes)
    (h : 4 ∣ builder.body.length) :
    (builder.appendAttribute type payload).body =
      builder.body ++ Attribute.encode type payload :=
  Bytes.padded_append_of_dvd _ h

theorem dvd_appendAttribute
    {builder : Builder}
    (type : UInt16)
    (payload : Bytes)
    (h : 4 ∣ builder.body.length) :
    4 ∣ (builder.appendAttribute type payload).body.length := by
  rw [body_appendAttribute type payload h, List.length_append]
  exact Nat.dvd_add h (Attribute.dvd_length_encode _ _)

/- Add attributes of any types in order. -/
def appendItems
    (builder : Builder)
    (items : List (UInt16 × Bytes)) : Builder :=
  items.foldl
    (fun builder item =>
      builder.appendAttribute item.1 item.2)
    builder

/- Attributes are appended as they stand on the wire. -/
theorem body_appendItems
    {builder : Builder}
    (items : List (UInt16 × Bytes))
    (h : 4 ∣ builder.body.length) :
    (builder.appendItems items).body =
      builder.body ++ Attribute.encodeAll items := by
  induction items generalizing builder with
  | nil => simp [appendItems]
  | cons item items ih =>
      have hRest := ih (dvd_appendAttribute item.1 item.2 h)
      rw [body_appendAttribute item.1 item.2 h,
        List.append_assoc] at hRest
      exact hRest

theorem appendAttributes_eq
    (builder : Builder)
    (attributes : List (AttributeKind × Bytes)) :
    builder.appendAttributes attributes =
      builder.appendItems (Attribute.numbered attributes) := by
  unfold appendAttributes appendItems Attribute.numbered
  rw [List.foldl_map]

theorem body_appendAttributes
    {builder : Builder}
    (attributes : List (AttributeKind × Bytes))
    (h : 4 ∣ builder.body.length) :
    (builder.appendAttributes attributes).body =
      builder.body
        ++ Attribute.encodeAll
          (Attribute.numbered attributes) := by
  rw [appendAttributes_eq, body_appendItems _ h]

/- Appending to the body leaves the rest of a message alone. -/
theorem appendAttributes_fields
    (builder : Builder)
    (attributes : List (AttributeKind × Bytes)) :
    (builder.appendAttributes attributes).type = builder.type ∧
      (builder.appendAttributes attributes).flags =
        builder.flags ∧
      (builder.appendAttributes attributes).sequence =
        builder.sequence := by
  induction attributes generalizing builder with
  | nil => exact ⟨rfl, rfl, rfl⟩
  | cons item attributes ih =>
      exact ih (builder.appendAttribute item.1.number item.2)

end Builder

end GatewayRules
