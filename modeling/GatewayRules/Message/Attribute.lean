import GatewayRules.Message.Builder
import GatewayRules.Message.DecodeError
import GatewayRules.Rule.Basic

/-
  Attributes.  The body of a rule message is a gateway header
  followed by attributes, each with its length, its type, and
  a payload, padded to a four-byte boundary.

  Key definitions include:
    * `GatewayHeader`
    * `AttributeKind`
    * `AttributeKind.number`
    * `AttributeKind.ofNumber?`
    * `Attribute`
    * `Attribute.cut`
    * `AttributeWalk`
    * `AttributeWalk.ofBytes`
    * `Rule.attributes`
    * `Entry.attributes`

  Walking the attributes of a body ends because of:
    * `Attribute.used_pos_of_cut`
-/

namespace GatewayRules

------------------------------------------------------------
-- The Gateway Header
------------------------------------------------------------

/-
  What stands in front of the attributes: the address family,
  the type of gateway, and the flags of the rule.
-/
structure GatewayHeader where
  family : UInt8
  gatewayType : UInt8
  flags : RuleFlags
deriving DecidableEq

namespace GatewayHeader

/- The address family of CAN. -/
def canFamily : UInt8 := 29

/- A gateway from CAN interfaces to CAN interfaces. -/
def canToCan : UInt8 := 1

def layout : Layout GatewayHeader :=
  (Layout.u8.pair <| Layout.u8.pair RuleFlags.layout).view
    (fun h => (h.family, h.gatewayType, h.flags))
    (fun (family, gatewayType, flags) =>
      ⟨family, gatewayType, flags⟩)
    (fun _ => rfl)

def size : Nat :=
  4

@[simp]
theorem size_layout : layout.size = size :=
  rfl

/- The header of a message about a rule with given flags. -/
def ofFlags (flags : RuleFlags) : GatewayHeader :=
  ⟨canFamily, canToCan, flags⟩

end GatewayHeader

------------------------------------------------------------
-- Kinds of Attributes
------------------------------------------------------------

/- What an attribute says about a rule. -/
inductive AttributeKind where
  | unspecified
  | modification (kind : FrameKind) (operation : Operation)
  | xorChecksum
  | crc8Checksum
  | handled
  | dropped
  | source
  | destination
  | filter
  | deleted
  | hopLimit
  | uid
deriving DecidableEq

namespace AttributeKind

/- The kinds in the order of their numbers, from zero up. -/
def all : List AttributeKind :=
  [.unspecified,
    .modification .classic .and, .modification .classic .or,
    .modification .classic .xor, .modification .classic .set,
    .xorChecksum, .crc8Checksum, .handled, .dropped, .source,
    .destination, .filter, .deleted, .hopLimit, .uid,
    .modification .fd .and, .modification .fd .or,
    .modification .fd .xor, .modification .fd .set]

/- The kind with a given number, unless it is not known here. -/
def ofNumber? (n : UInt16) : Option AttributeKind :=
  all[n.toNat]?

def number : AttributeKind → UInt16
  | .unspecified => 0
  | .modification .classic .and => 1
  | .modification .classic .or => 2
  | .modification .classic .xor => 3
  | .modification .classic .set => 4
  | .xorChecksum => 5
  | .crc8Checksum => 6
  | .handled => 7
  | .dropped => 8
  | .source => 9
  | .destination => 10
  | .filter => 11
  | .deleted => 12
  | .hopLimit => 13
  | .uid => 14
  | .modification .fd .and => 15
  | .modification .fd .or => 16
  | .modification .fd .xor => 17
  | .modification .fd .set => 18

@[simp]
theorem ofNumber?_number
    (kind : AttributeKind) :
    ofNumber? kind.number = some kind := by
  cases kind with
  | modification kind operation =>
      cases kind <;> cases operation <;> rfl
  | _ => rfl

/- The short name of a kind. -/
def name : AttributeKind → String
  | .unspecified => "Unspec"
  | .modification .classic .and => "ModAnd"
  | .modification .classic .or => "ModOr"
  | .modification .classic .xor => "ModXor"
  | .modification .classic .set => "ModSet"
  | .xorChecksum => "CsXor"
  | .crc8Checksum => "CsCrc8"
  | .handled => "Handled"
  | .dropped => "Dropped"
  | .source => "SrcIf"
  | .destination => "DstIf"
  | .filter => "Filter"
  | .deleted => "Deleted"
  | .hopLimit => "LimHops"
  | .uid => "ModUid"
  | .modification .fd .and => "FdModAnd"
  | .modification .fd .or => "FdModOr"
  | .modification .fd .xor => "FdModXor"
  | .modification .fd .set => "FdModSet"

end AttributeKind

------------------------------------------------------------
-- Taking a Body Apart
------------------------------------------------------------

/-
  An attribute of a message: the number of its kind, its
  payload, and its offset in the message.
-/
structure Attribute where
  number : UInt16
  payload : Bytes
  offset : Nat
deriving DecidableEq

namespace Attribute

/- Length and type, in front of the payload. -/
def headerLayout : Layout (UInt16 × UInt16) :=
  Layout.u16.pair Layout.u16

/- The number of bytes in front of the payload. -/
def headerSize : Nat :=
  4

@[simp]
theorem size_headerLayout : headerLayout.size = headerSize :=
  rfl

/-
  The bits of the type field that hold the number of the kind;
  the two above them tell how the payload is nested and in
  which order its bytes stand.
-/
def numberMask : UInt16 :=
  0x3FFF

/-
  Cut the first attribute off the rest of a body, and tell how
  many bytes there are to the next one.
-/
def cut
    (bytes : Bytes)
    (offset : Nat) :
    Except DecodeError (Attribute × Nat) :=
  match headerLayout.read? bytes with
  | none => .error (.malformed offset .trailingBytes)
  | some (size, type) =>
      let length := size.toNat
      if length < headerSize then
        .error (.malformed offset .attributeShorterThanHeader)
      else if bytes.length < length then
        .error (.malformed offset .attributeExceedsMessage)
      else if bytes.length < Bytes.align length then
        .error (.malformed offset .attributeNotPadded)
      else
        .ok
          ({ number := type &&& numberMask,
             payload := (bytes.take length).drop headerSize,
             offset },
            Bytes.align length)

/- An attribute that was cut off occupies some bytes. -/
theorem used_pos_of_cut
    {bytes : Bytes}
    {offset : Nat}
    {result : Attribute × Nat}
    (h : cut bytes offset = .ok result) :
    0 < result.2 ∧ result.2 ≤ bytes.length := by
  unfold cut at h
  cases hHeader : headerLayout.read? bytes with
  | none => simp [hHeader] at h
  | some header =>
      by_cases hShort : header.1.toNat < headerSize
      · simp [hHeader, hShort] at h
      · by_cases hLong : bytes.length < header.1.toNat
        · simp [hHeader, hShort, hLong] at h
        · by_cases hPad :
              bytes.length < Bytes.align header.1.toNat
          · simp [hHeader, hShort, hLong, hPad] at h
          · have hAlign := Bytes.le_align header.1.toNat
            simp only [hHeader, hShort, hLong, hPad,
              if_false] at h
            cases h
            simp only [headerSize] at hShort
            simp only
            omega

end Attribute

/-
  The attributes of a body, and the error that keeps the rest
  of it from being read, if there is one.
-/
structure AttributeWalk where
  attributes : List Attribute
  fault : Option DecodeError

namespace AttributeWalk

/- Take apart a body that starts at an offset of the message. -/
def ofBytes
    (bytes : Bytes)
    (offset : Nat) : AttributeWalk :=
  if bytes = [] then
    ⟨[], none⟩
  else
    match _h : Attribute.cut bytes offset with
    | .error fault => ⟨[], some fault⟩
    | .ok (first, used) =>
        let rest := ofBytes (bytes.drop used) (offset + used)
        ⟨first :: rest.attributes, rest.fault⟩
termination_by bytes.length
decreasing_by
  have := Attribute.used_pos_of_cut _h
  simp only [List.length_drop]
  omega

@[simp]
theorem ofBytes_nil
    (offset : Nat) :
    ofBytes [] offset = ⟨[], none⟩ := by
  rw [ofBytes]
  rfl

/- What cannot be cut ends the attributes with its error. -/
theorem ofBytes_of_cut_error
    {bytes : Bytes}
    {offset : Nat}
    {fault : DecodeError}
    (hNonempty : bytes ≠ [])
    (h : Attribute.cut bytes offset = .error fault) :
    ofBytes bytes offset = ⟨[], some fault⟩ := by
  rw [ofBytes]
  simp only [hNonempty, if_false]
  split <;> simp_all

/- An attribute that was cut off comes before all others. -/
theorem ofBytes_of_cut_ok
    {bytes : Bytes}
    {offset used : Nat}
    {first : Attribute}
    (hNonempty : bytes ≠ [])
    (h : Attribute.cut bytes offset = .ok (first, used)) :
    ofBytes bytes offset =
      ⟨first :: (ofBytes (bytes.drop used) (offset + used)).attributes,
        (ofBytes (bytes.drop used) (offset + used)).fault⟩ := by
  rw [ofBytes]
  simp only [hNonempty, if_false]
  split <;> simp_all

end AttributeWalk

------------------------------------------------------------
-- Payloads
------------------------------------------------------------

/- The targets of a function in a byte. -/
def Targets.layout : Layout Targets :=
  Layout.u8.view
    (fun targets => UInt8.ofBitVec targets.bits)
    (fun byte => ⟨byte.toBitVec⟩)
    (fun _ => rfl)

/- A classic template and its targets. -/
def Function.classicLayout : Layout (ClassicFrame × Targets) :=
  ClassicFrame.layout.pair Targets.layout

/- An FD template and its targets. -/
def Function.fdLayout : Layout (FdFrame × Targets) :=
  FdFrame.layout.pair Targets.layout

/- The attribute that carries a function. -/
def Function.attribute
    (operation : Operation)
    (f : Function) : AttributeKind × Bytes :=
  match f.template with
  | .classic frame =>
      (.modification .classic operation,
        Function.classicLayout.write (frame, f.targets))
  | .fd frame =>
      (.modification .fd operation,
        Function.fdLayout.write (frame, f.targets))

/- The attribute that carries a checksum. -/
def Checksum.attribute : Checksum → AttributeKind × Bytes
  | .xor c => (.xorChecksum, XorChecksum.layout.write c)
  | .crc8 c =>
      (.crc8Checksum, Crc8Checksum.storedLayout.write c.store)

/- The attributes that describe a rule, in order. -/
def Rule.attributes (rule : Rule) : List (AttributeKind × Bytes) :=
  [(.source, Layout.u32.write rule.source.value),
    (.destination, Layout.u32.write rule.destination.value)]
    ++ (rule.filter.map fun f =>
      (.filter, Filter.layout.write f)).toList
    ++ (rule.modification.map fun m =>
      m.functions.map fun entry =>
        Function.attribute entry.1 entry.2).getD []
    ++ (rule.checksum.map Checksum.attribute).toList
    ++ (rule.hopLimit.map fun hops =>
      (.hopLimit, Layout.u8.write hops)).toList
    ++ (rule.uid.map fun uid =>
      (.uid, Layout.u32.write uid)).toList

/- The attributes for the counters that are not zero. -/
def Counters.attributes
    (counters : Counters) : List (AttributeKind × Bytes) :=
  ([(.handled, counters.handled),
    (.dropped, counters.dropped),
    (.deleted, counters.deleted)].filter
      fun entry => entry.2 ≠ 0).map
    fun entry => (entry.1, Layout.u32.write entry.2)

/- The attributes that describe an entry, in order. -/
def Entry.attributes
    (entry : Entry) : List (AttributeKind × Bytes) :=
  entry.counters.attributes ++ entry.rule.attributes

namespace Builder

/- Add a gateway header. -/
def appendGatewayHeader
    (builder : Builder)
    (header : GatewayHeader) : Builder :=
  builder.append (GatewayHeader.layout.write header)

/- Add attributes in order. -/
def appendAttributes
    (builder : Builder)
    (attributes : List (AttributeKind × Bytes)) : Builder :=
  attributes.foldl
    (fun builder item =>
      builder.appendAttribute item.1.number item.2)
    builder

end Builder

end GatewayRules
