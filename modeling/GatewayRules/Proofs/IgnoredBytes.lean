import GatewayRules.Proofs.MessageBoundaries
import GatewayRules.Proofs.SignificantBytes
import Mathlib

/-
  Bytes that are ignored.  The attributes of a rule message
  tell which of its bits can have an influence on the entry.
  All others may be changed, as long as the message keeps its
  length, and the entry stays the same.

  Main declarations:
    * `Attribute.payloadMask` and `Attribute.mask`
    * `Attribute.significant` and `Response.significant`
    * `Attribute.Fills.exists_masked`
    * `Draft.absorb_congr` and `Draft.absorb_settled`
    * `Attribute.Sequence.exists_masked`
    * `Response.exists_lists_of_masked`
    * `Response.exists_decode_of_masked`
-/

------------------------------------------------------------
-- The Significant Bits of a Message
------------------------------------------------------------

namespace GatewayRules

namespace Attribute

/-
  The significant bits of the payload of an attribute.  There
  are none if the kind is not known, and none in a further
  checksum once there is one.
-/
def payloadMask
    (settled : Bool)
    (a : Attribute) : Bytes :=
  match AttributeKind.ofNumber? a.number with
  | none => []
  | some kind =>
      if settled ∧ kind.slot? = some .checksum then
        []
      else
        kind.significant

/-
  The significant bits of an attribute with its padding: the
  length, the number of the kind, and those of the payload.
-/
def mask
    (settled : Bool)
    (a : Attribute) : Bytes :=
  let payload := a.payloadMask settled
  [255, 255, 255, 63] ++ payload
    ++ List.replicate
      (Bytes.align (4 + a.payload.length)
        - (4 + payload.length)) 0

/-
  The significant bits of attributes, where it is known whether
  there is a checksum in front of them.
-/
def significant
    (settled : Bool) : List Attribute → Bytes
  | [] => []
  | a :: rest =>
      a.mask settled
        ++ significant
          (settled || a.slot? = some .checksum) rest

end Attribute

/-
  The significant bits of a rule message: length and type of
  the message, the gateway header, and those of the attributes.
-/
def Response.significant
    (attributes : List Attribute) : Bytes :=
  List.replicate 6 255 ++ List.replicate 10 0
    ++ List.replicate GatewayHeader.size 255
    ++ Attribute.significant false attributes

------------------------------------------------------------
-- Single Attributes
------------------------------------------------------------

namespace Attribute

/- An attribute is for the place of its kind. -/
theorem slot?_of_is
    {a : Attribute}
    {kind : AttributeKind}
    (hKind : a.Is kind) :
    a.slot? = kind.slot? := by
  unfold Is at hKind
  rw [slot?, Slot.ofNumber?, hKind]
  rfl

/- A known payload without a defect is long enough. -/
theorem payloadSize_le_of_defect?
    {a : Attribute}
    {kind : AttributeKind}
    (hKind : a.Is kind)
    (hSound : a.defect? = none) :
    kind.payloadSize ≤ a.payload.length := by
  apply Nat.not_lt.mp
  intro hShort
  rw [defect?_of_short hKind hShort] at hSound
  cases hSound

theorem length_payloadMask_le
    {a : Attribute}
    (settled : Bool)
    (hSound : a.defect? = none) :
    (a.payloadMask settled).length ≤ a.payload.length := by
  unfold payloadMask
  cases hKind : AttributeKind.ofNumber? a.number with
  | none => exact Nat.zero_le _
  | some kind =>
      have hSize := payloadSize_le_of_defect? hKind hSound
      change (if _ then [] else kind.significant).length ≤ _
      split
      · exact Nat.zero_le _
      · rw [kind.length_significant]
        exact hSize

/- The mask of an attribute covers it with its padding. -/
theorem length_mask
    {a : Attribute}
    (settled : Bool)
    (hSound : a.defect? = none) :
    (a.mask settled).length =
      Bytes.align (4 + a.payload.length) := by
  have hPayload := length_payloadMask_le settled hSound
  have hAlign := Bytes.le_align (4 + a.payload.length)
  simp only [mask, List.length_append, List.length_cons,
    List.length_nil, List.length_replicate]
  omega

theorem Fills.length_payload
    {a : Attribute}
    {unit : Bytes}
    (h : a.Fills unit) :
    unit.length = Bytes.align (4 + a.payload.length) := by
  rcases h with ⟨size, type, -, hSize, hUnit, -, hPayload⟩
  have hAlign := Bytes.le_align size.toNat
  unfold headerSize at hSize
  have hLength : 4 + a.payload.length = size.toNat := by
    rw [hPayload, List.length_drop, List.length_take, hUnit,
      headerSize]
    omega
  rw [hUnit, hLength]

/- A number is made of fourteen bits of two bytes. -/
theorem exists_bytes_of_type
    {bytes : Bytes}
    {type : UInt16}
    (hType : Layout.u16.read? bytes = some type) :
    ∃ low high rest,
      bytes = low :: high :: rest ∧
        (type &&& numberMask).toNat =
          low.toNat + 256 * (high.toNat % 64) := by
  rcases bytes with _ | ⟨low, _ | ⟨high, rest⟩⟩
  · cases hType
  · cases hType
  · refine ⟨low, high, rest, rfl, ?_⟩
    have hLow := low.toNat_lt
    have hHigh := high.toNat_lt
    have hValue :
        Layout.u16.read? (low :: high :: rest) =
          some (UInt16.ofNat
            (low.toNat + 256 * (high.toNat + 256 * 0))) :=
      if_pos (by simp)
    have hMask : numberMask.toNat = 2 ^ 14 - 1 := rfl
    rw [hValue] at hType
    rw [← Option.some.inj hType, UInt16.toNat_and, hMask,
      Nat.and_two_pow_sub_one_eq_mod, UInt16.toNat_ofNat']
    omega

/- Types that agree in these bits have the same number. -/
theorem number_eq_of_masked
    {bytes others : Bytes}
    {type other : UInt16}
    (hType : Layout.u16.read? bytes = some type)
    (hOther : Layout.u16.read? others = some other)
    (hSame :
      Bytes.masked [255, 63] bytes =
        Bytes.masked [255, 63] others) :
    type &&& numberMask = other &&& numberMask := by
  rcases exists_bytes_of_type hType with
    ⟨low, high, rest, rfl, hNumber⟩
  rcases exists_bytes_of_type hOther with
    ⟨otherLow, otherHigh, otherRest, rfl, hOtherNumber⟩
  have hBits (byte : UInt8) :
      (63 &&& byte).toNat = byte.toNat % 64 := by
    rw [UInt8.toNat_and, Nat.and_comm]
    exact Nat.and_two_pow_sub_one_eq_mod byte.toNat 6
  simp only [Bytes.masked, List.zipWith_cons_cons,
    Bytes.full_and, List.cons.injEq] at hSame
  rw [← UInt16.toNat_inj, hNumber, hOtherNumber, hSame.1,
    ← hBits high, hSame.2.1, hBits otherHigh]

/- Agreement on an attribute is agreement on its parts. -/
theorem masked_parts
    {a : Attribute}
    {settled : Bool}
    {unit other : Bytes}
    (hLength : unit.length = other.length)
    (hSame :
      Bytes.masked (a.mask settled) unit =
        Bytes.masked (a.mask settled) other) :
    Bytes.masked (List.replicate 2 255) unit =
        Bytes.masked (List.replicate 2 255) other ∧
      Bytes.masked [255, 63] (unit.drop 2) =
        Bytes.masked [255, 63] (other.drop 2) ∧
      Bytes.masked (a.payloadMask settled) (unit.drop 4) =
        Bytes.masked (a.payloadMask settled)
          (other.drop 4) := by
  have hDrop (n : Nat) :
      (unit.drop n).length = (other.drop n).length := by
    rw [List.length_drop, List.length_drop, hLength]
  have hMask :
      a.mask settled =
        List.replicate 2 255 ++ ([255, 63]
          ++ (a.payloadMask settled
          ++ List.replicate
            (Bytes.align (4 + a.payload.length)
              - (4 + (a.payloadMask settled).length)) 0)) := by
    simp [mask, List.replicate_succ]
  rw [hMask, Bytes.masked_append_eq_iff hLength,
    Bytes.masked_append_eq_iff (hDrop _), List.drop_drop,
    List.drop_drop, Bytes.masked_append_eq_iff (hDrop _)]
    at hSame
  exact ⟨hSame.1, hSame.2.1, hSame.2.2.1⟩

/- The header of an attribute keeps its length and its kind. -/
theorem exists_header_of_masked
    {unit other : Bytes}
    {size type : UInt16}
    (hHeader : headerLayout.read? unit = some (size, type))
    (hLength : unit.length = other.length)
    (hSameSize :
      Bytes.masked (List.replicate 2 255) unit =
        Bytes.masked (List.replicate 2 255) other)
    (hSameType :
      Bytes.masked [255, 63] (unit.drop 2) =
        Bytes.masked [255, 63] (other.drop 2)) :
    ∃ otherType,
      headerLayout.read? other = some (size, otherType) ∧
        type &&& numberMask = otherType &&& numberMask := by
  have hFits : headerSize ≤ other.length := by
    rw [← hLength, ← size_headerLayout,
      ← headerLayout.read?_isSome_iff, hHeader]
    rfl
  rcases Option.isSome_iff_exists.mp
      ((headerLayout.read?_isSome_iff other).mpr hFits) with
    ⟨⟨otherSize, otherType⟩, hOther⟩
  rcases Layout.read?_pair_eq_some_iff.mp hHeader with
    ⟨hSize, hType⟩
  rcases Layout.read?_pair_eq_some_iff.mp hOther with
    ⟨hOtherSize, hOtherType⟩
  rw [Layout.keeps_u16.read?_congr hLength hSameSize,
    hOtherSize] at hSize
  cases hSize
  exact
    ⟨otherType, hOther,
      number_eq_of_masked hType hOtherType hSameType⟩

/-
  Where only insignificant bits of an attribute are changed, it
  remains an attribute of its kind and length, with a payload
  that agrees in the significant bits.
-/
theorem Fills.exists_masked
    {a : Attribute}
    {unit other : Bytes}
    {settled : Bool}
    (h : a.Fills unit)
    (hSound : a.defect? = none)
    (hLength : unit.length = other.length)
    (hSame :
      Bytes.masked (a.mask settled) unit =
        Bytes.masked (a.mask settled) other) :
    ∃ b : Attribute,
      b.Fills other ∧
        b.offset = a.offset ∧
        b.number = a.number ∧
        b.payload.length = a.payload.length ∧
        Bytes.masked (a.payloadMask settled) a.payload =
          Bytes.masked (a.payloadMask settled) b.payload := by
  have hShort := length_payloadMask_le settled hSound
  rcases masked_parts hLength hSame with
    ⟨hSameSize, hSameType, hSamePayload⟩
  rcases h with
    ⟨size, type, hHeader, hSize, hUnit, hNumber, hPayload⟩
  rcases exists_header_of_masked hHeader hLength hSameSize
      hSameType with
    ⟨otherType, hOtherHeader, hOtherNumber⟩
  unfold headerSize at hPayload
  have hCut
      (part : Bytes) :
      (part.take size.toNat).drop 4 =
        (part.drop 4).take (size.toNat - 4) :=
    List.drop_take
  have hPayloadLength :
      ((other.take size.toNat).drop 4).length =
        a.payload.length := by
    rw [hPayload, hCut, hCut, List.length_take,
      List.length_take, List.length_drop, List.length_drop,
      hLength]
  refine
    ⟨⟨otherType &&& numberMask,
        (other.take size.toNat).drop 4, a.offset⟩,
      ⟨size, otherType, hOtherHeader, hSize,
        hLength.symm.trans hUnit, rfl, rfl⟩,
      rfl, hOtherNumber.symm.trans hNumber.symm,
      hPayloadLength, ?_⟩
  have hBound :
      (a.payloadMask settled).length ≤ size.toNat - 4 := by
    rw [hPayload, hCut, List.length_take] at hShort
    omega
  rw [hPayload, hCut, Bytes.masked_take _ hBound, hCut,
    Bytes.masked_take _ hBound]
  exact hSamePayload

end Attribute

------------------------------------------------------------
-- Taking In Attributes
------------------------------------------------------------

namespace Draft

/- What is read alike is taken in alike. -/
theorem value_congr
    {α : Type}
    {layout : Layout α}
    {mask : Bytes}
    {a b : Attribute}
    (hKeeps : layout.Keeps mask)
    (hOffset : b.offset = a.offset)
    (hLength : b.payload.length = a.payload.length)
    (hSame :
      Bytes.masked mask a.payload =
        Bytes.masked mask b.payload) :
    b.value layout = a.value layout := by
  unfold Attribute.value
  rw [hOffset, hKeeps.read?_congr hLength.symm hSame]

/-
  Two attributes of one kind are taken in alike if they agree
  in the significant bits of their payloads.
-/
theorem absorb_congr
    {a b : Attribute}
    {kind : AttributeKind}
    (draft : Draft)
    (hKind : a.Is kind)
    (hNumber : b.number = a.number)
    (hOffset : b.offset = a.offset)
    (hLength : b.payload.length = a.payload.length)
    (hSame :
      Bytes.masked kind.significant a.payload =
        Bytes.masked kind.significant b.payload) :
    draft.absorb b = draft.absorb a := by
  have hKnown : AttributeKind.ofNumber? a.number = some kind :=
    hKind
  have hValue
      {α : Type}
      {layout : Layout α}
      (hKeeps : layout.Keeps kind.significant) :
      b.value layout = a.value layout :=
    value_congr hKeeps hOffset hLength hSame
  have hInterface
      (hKeeps : Layout.u32.Keeps kind.significant) :
      b.interface = a.interface := by
    unfold Attribute.interface
    rw [hValue hKeeps, hOffset]
  unfold absorb
  rw [hNumber, hKnown]
  simp only
  -- Each kind has a layout that keeps its significant bits.
  cases kind with
  | unspecified => rfl
  | modification kind operation =>
      cases kind with
      | classic =>
          simp only [absorbKnown,
            hValue (Function.keeps_classicLayout operation)]
      | fd =>
          simp only [absorbKnown,
            hValue (Function.keeps_fdLayout operation)]
  | xorChecksum =>
      simp only [absorbKnown, hValue XorChecksum.keeps_layout]
  | crc8Checksum =>
      simp only [absorbKnown,
        hValue Crc8Checksum.keeps_storedLayout]
  | handled =>
      simp only [absorbKnown, hValue Layout.keeps_u32]
  | dropped =>
      simp only [absorbKnown, hValue Layout.keeps_u32]
  | deleted =>
      simp only [absorbKnown, hValue Layout.keeps_u32]
  | uid =>
      simp only [absorbKnown, hValue Layout.keeps_u32]
  | source =>
      simp only [absorbKnown, hInterface Layout.keeps_u32]
  | destination =>
      simp only [absorbKnown, hInterface Layout.keeps_u32]
  | filter =>
      simp only [absorbKnown, hValue Filter.keeps_layout]
  | hopLimit =>
      simp only [absorbKnown, hValue Layout.keeps_u8]

/- An attribute without a defect is taken in. -/
theorem exists_absorb
    {a : Attribute}
    (draft : Draft)
    (hSound : a.defect? = none) :
    ∃ next, draft.absorb a = .ok next := by
  have hAbsorbs := draft.absorbs_absorb a
  generalize draft.absorb a = result at hAbsorbs ⊢
  cases hAbsorbs with
  | faulty defect hDefect =>
      rw [hSound] at hDefect
      cases hDefect
  | sound next => exact ⟨next, rfl⟩

/- A further checksum changes nothing once there is one. -/
theorem absorb_settled
    {draft : Draft}
    {a : Attribute}
    (hSettled : draft.checksum.isSome = true)
    (hSlot : a.slot? = some .checksum)
    (hSound : a.defect? = none) :
    draft.absorb a = .ok draft := by
  rcases draft.exists_absorb hSound with ⟨next, hNext⟩
  rcases Option.isSome_iff_exists.mp hSettled with
    ⟨kept, hKept⟩
  rw [hNext]
  cases takes_absorb hNext with
  | nothing => rfl
  | checksum _ hRead =>
      rw [hKept, Option.getD_some, ← hKept]
  | _ hOther =>
      rw [hSlot] at hOther
      cases hOther

/- There is a checksum if there was one or one was taken in. -/
theorem isSome_checksum_of_absorb
    {draft next : Draft}
    {a : Attribute}
    (h : draft.absorb a = .ok next) :
    next.checksum.isSome =
      (draft.checksum.isSome || a.slot? = some .checksum) := by
  have hStep := (takes_absorb h).checksum_eq
  by_cases hSlot : a.slot? = some .checksum
  · rw [if_pos hSlot] at hStep
    rcases hStep with ⟨checksum, -, hNext⟩
    simp [hNext, hSlot]
  · rw [if_neg hSlot] at hStep
    simp [hStep, hSlot]

/-
  An attribute that was changed only in insignificant bits is
  taken in like the one that it was.
-/
theorem absorb_masked
    {draft : Draft}
    {a b : Attribute}
    (hSound : a.defect? = none)
    (hNumber : b.number = a.number)
    (hOffset : b.offset = a.offset)
    (hLength : b.payload.length = a.payload.length)
    (hSame :
      Bytes.masked (a.payloadMask draft.checksum.isSome)
          a.payload =
        Bytes.masked (a.payloadMask draft.checksum.isSome)
          b.payload) :
    draft.absorb b = draft.absorb a := by
  cases hKind : AttributeKind.ofNumber? a.number with
  | none =>
      unfold absorb
      rw [hNumber, hKind]
  | some kind =>
      unfold Attribute.payloadMask at hSame
      simp only [hKind] at hSame
      split at hSame
      · rename_i hExtra
        have hOtherKind : b.Is kind := by
          unfold Attribute.Is
          rw [hNumber]
          exact hKind
        have hOtherSound : b.defect? = none := by
          have hSize :=
            Attribute.payloadSize_le_of_defect? hKind hSound
          apply Attribute.defect?_eq_none hOtherKind
            (hLength ▸ hSize)
          rintro (rfl | rfl)
          · cases hExtra.2
          · cases hExtra.2
        rw [absorb_settled hExtra.1
            ((Attribute.slot?_of_is hKind).trans hExtra.2)
            hSound,
          absorb_settled hExtra.1
            ((Attribute.slot?_of_is hOtherKind).trans hExtra.2)
            hOtherSound]
      · exact draft.absorb_congr hKind hNumber hOffset hLength
          hSame

end Draft

namespace Attribute

/- The mask of a sequence covers it. -/
theorem Sequence.length_significant
    {offset : Nat}
    {bytes : Bytes}
    {attributes : List Attribute}
    (h : Sequence offset bytes attributes)
    (hSound : Entry.Sound attributes)
    (settled : Bool) :
    (significant settled attributes).length =
      bytes.length := by
  induction h generalizing settled with
  | nil => rfl
  | @cons a unit rest others hFirst hRest ih =>
      have hOwn := hSound a List.mem_cons_self
      rw [significant, List.length_append, List.length_append,
        ih (fun b hB => hSound b (List.mem_cons_of_mem a hB)),
        length_mask settled hOwn, hFirst.length_payload]

/-
  Where only insignificant bits of a sequence are changed, it
  remains a sequence, and its attributes are taken in alike.
-/
theorem Sequence.exists_masked
    {offset : Nat}
    {bytes others : Bytes}
    {attributes : List Attribute}
    (h : Sequence offset bytes attributes)
    (hSound : Entry.Sound attributes)
    (draft : Draft)
    (hLength : bytes.length = others.length)
    (hSame :
      let mask := significant draft.checksum.isSome attributes
      Bytes.masked mask bytes = Bytes.masked mask others) :
    ∃ similar,
      Sequence offset others similar ∧
        draft.absorbAll similar = draft.absorbAll attributes := by
  -- By induction over the attributes, where the draft tells
  -- whether there has been a checksum.
  induction h generalizing others draft with
  | nil offset =>
      have hEmpty : others = [] :=
        List.length_eq_zero_iff.mp hLength.symm
      subst hEmpty
      exact ⟨[], .nil offset, rfl⟩
  | @cons a unit rest remaining hFirst hRest ih =>
      have hOwn := hSound a List.mem_cons_self
      have hOthers :
          Entry.Sound remaining := fun b hB =>
        hSound b (List.mem_cons_of_mem a hB)
      obtain ⟨front, back, rfl, hFront⟩ :
          ∃ front back,
            others = front ++ back ∧
              unit.length = front.length := by
        rw [List.length_append] at hLength
        exact
          ⟨others.take unit.length, others.drop unit.length,
            (List.take_append_drop _ _).symm,
            (List.length_take_of_le (by omega)).symm⟩
      have hUnitMask :
          (a.mask draft.checksum.isSome).length =
            unit.length := by
        rw [length_mask _ hOwn, hFirst.length_payload]
      rw [List.length_append, List.length_append] at hLength
      rw [significant,
        Bytes.masked_append_append_eq_iff hUnitMask hFront]
        at hSame
      rcases hFirst.exists_masked hOwn hFront hSame.1 with
        ⟨b, hFills, hOffset, hNumber, hPayload, hPayloadSame⟩
      rcases draft.exists_absorb hOwn with ⟨next, hNext⟩
      rw [← Draft.isSome_checksum_of_absorb hNext] at hSame
      rcases ih hOthers next (by omega) hSame.2 with
        ⟨similar, hSimilar, hAll⟩
      refine ⟨b :: similar, ?_, ?_⟩
      · rw [hFront, ← hOffset] at hSimilar
        rw [← hOffset]
        exact .cons hFills hSimilar
      · have hAbsorb :=
          Draft.absorb_masked hOwn hNumber hOffset hPayload
            hPayloadSame
        change
          (draft.absorb b >>= fun next =>
              next.absorbAll similar) =
            draft.absorb a >>= fun next =>
              next.absorbAll remaining
        rw [hAbsorb, hNext]
        exact hAll

end Attribute

------------------------------------------------------------
-- Messages
------------------------------------------------------------

/- The type of a message follows its length. -/
theorem Header.read?_type
    {bytes : Bytes}
    {header : Header}
    (hHeader : layout.read? bytes = some header) :
    Layout.u16.read? (bytes.drop 4) = some header.type := by
  unfold layout at hHeader
  rw [Layout.read?_view] at hHeader
  rcases Option.map_eq_some_iff.mp hHeader with
    ⟨fields, hFields, rfl⟩
  have hBehind := (Layout.read?_pair_eq_some_iff.mp hFields).2
  exact (Layout.read?_pair_eq_some_iff.mp hBehind).1

/- Headers that agree in their first bytes agree in these. -/
theorem Header.exists_masked
    {bytes others : Bytes}
    {header : Header}
    (hHeader : layout.read? bytes = some header)
    (hLength : bytes.length = others.length)
    (hSameLength :
      Bytes.masked (List.replicate 4 255) bytes =
        Bytes.masked (List.replicate 4 255) others)
    (hSameType :
      Bytes.masked (List.replicate 2 255) (bytes.drop 4) =
        Bytes.masked (List.replicate 2 255) (others.drop 4)) :
    ∃ other,
      layout.read? others = some other ∧
        other.length = header.length ∧
        other.type = header.type := by
  have hFits : layout.size ≤ bytes.length :=
    (layout.read?_isSome_iff bytes).mp
      (Option.isSome_of_eq_some hHeader)
  rcases Option.isSome_iff_exists.mp
      ((layout.read?_isSome_iff others).mpr
        (hLength ▸ hFits)) with
    ⟨other, hOther⟩
  have hReadLength :=
    Layout.keeps_u32.read?_congr hLength hSameLength
  have hReadType :=
    Layout.keeps_u16.read?_congr
      (by rw [List.length_drop, List.length_drop, hLength])
      hSameType
  rw [read?_length hHeader, read?_length hOther] at hReadLength
  rw [read?_type hHeader, read?_type hOther] at hReadType
  exact
    ⟨other, hOther, (Option.some.inj hReadLength).symm,
      (Option.some.inj hReadType).symm⟩

/-
  A message that declares the same length as another one of
  the same size is cut off like it.
-/
theorem Framed.split_of_length_eq
    {bytes others : Bytes}
    {message : Framed}
    {header : Header}
    (hSplit : split bytes = .ok message)
    (hLength : bytes.length = others.length)
    (hHeader : Header.layout.read? others = some header)
    (hDeclared : header.length = message.header.length) :
    split others =
      .ok
        { header,
          bytes := others.take message.header.length.toNat,
          used := message.used } := by
  rcases split_eq_ok_iff.mp hSplit with
    ⟨-, hSize, hFits, -, hUsed⟩
  apply split_eq_ok_iff.mpr
  simp only [hDeclared, ← hLength]
  exact ⟨hHeader, hSize, hFits, trivial, hUsed⟩

namespace Response

/- A message whose body is an entry is decoded to it. -/
theorem decode_of_lists
    {bytes : Bytes}
    {message : Framed}
    {flags : RuleFlags}
    {attributes : List Attribute}
    {entry : Entry}
    (hSplit : Framed.split bytes = .ok message)
    (hLists :
      message.Lists (GatewayHeader.ofFlags flags) attributes)
    (hEntry :
      Entry.decode (message.bytes.drop Header.size) Header.size =
        .ok entry) :
    decode bytes =
      .ok
        ({ sequence := message.header.sequence,
           sender := message.header.sender,
           flags := message.header.flags,
           kind := .entry entry },
          message.used) := by
  rw [decode_of_split_ok hSplit]
  unfold ofFramed
  rw [hLists.type, decodeBody_newRoute (family_of_lists hLists),
    hEntry]
  rfl

/- Every byte of a rule message is covered by its mask. -/
theorem length_significant
    {message : Framed}
    {header : GatewayHeader}
    {attributes : List Attribute}
    (hLists : message.Lists header attributes)
    (hSound : Entry.Sound attributes) :
    (significant attributes).length = message.bytes.length := by
  have hHeader :=
    GatewayHeader.length_of_read? hLists.header
  have hAttributes :=
    hLists.attributes.length_significant hSound false
  simp only [List.length_drop] at hHeader hAttributes
  unfold GatewayHeader.size Header.size at hHeader hAttributes
  simp only [significant, List.length_append,
    List.length_replicate, hAttributes, GatewayHeader.size]
  omega

/- Agreement on a message is agreement on all of its parts. -/
theorem masked_parts
    {attributes : List Attribute}
    {bytes others : Bytes}
    (hLength : bytes.length = others.length)
    (hSame :
      Bytes.masked (significant attributes) bytes =
        Bytes.masked (significant attributes) others) :
    Bytes.masked (List.replicate 4 255) bytes =
        Bytes.masked (List.replicate 4 255) others ∧
      Bytes.masked (List.replicate 2 255) (bytes.drop 4) =
        Bytes.masked (List.replicate 2 255) (others.drop 4) ∧
      Bytes.masked (List.replicate GatewayHeader.size 255)
          (bytes.drop Header.size) =
        Bytes.masked (List.replicate GatewayHeader.size 255)
          (others.drop Header.size) ∧
      Bytes.masked (Attribute.significant false attributes)
          (bytes.drop (Header.size + GatewayHeader.size)) =
        Bytes.masked (Attribute.significant false attributes)
          (others.drop (Header.size + GatewayHeader.size)) := by
  have hDrop (n : Nat) :
      (bytes.drop n).length = (others.drop n).length := by
    rw [List.length_drop, List.length_drop, hLength]
  have hMask :
      significant attributes =
        List.replicate 4 255 ++ (List.replicate 2 255
          ++ (List.replicate 10 0
          ++ (List.replicate GatewayHeader.size 255
          ++ Attribute.significant false attributes))) := by
    simp [significant, List.replicate_succ]
  rw [hMask, Bytes.masked_append_eq_iff hLength,
    Bytes.masked_append_eq_iff (hDrop _), List.drop_drop,
    List.drop_drop, Bytes.masked_append_eq_iff (hDrop _),
    List.drop_drop, List.drop_drop,
    Bytes.masked_append_eq_iff (hDrop _), List.drop_drop,
    List.drop_drop] at hSame
  rcases hSame with
    ⟨hSameLength, hSameType, -, hSameGateway, hSameAttributes⟩
  exact
    ⟨hSameLength, hSameType, hSameGateway, hSameAttributes⟩

/-
  Where only insignificant bits of a message are changed, the
  other one lists attributes that are taken in alike.
-/
theorem exists_lists_of_masked
    {message : Framed}
    {gateway : GatewayHeader}
    {attributes : List Attribute}
    {part : Bytes}
    (hLists : message.Lists gateway attributes)
    (hHeader :
      Header.layout.read? message.bytes = some message.header)
    (hSound : Entry.Sound attributes)
    (hLength : message.bytes.length = part.length)
    (hSame :
      Bytes.masked (significant attributes) message.bytes =
        Bytes.masked (significant attributes) part) :
    ∃ header similar,
      Header.layout.read? part = some header ∧
        header.length = message.header.length ∧
        Framed.Lists ⟨header, part, message.used⟩ gateway
          similar ∧
        Draft.absorbAll {} similar =
          Draft.absorbAll {} attributes := by
  have hDrop (n : Nat) :
      (message.bytes.drop n).length = (part.drop n).length := by
    rw [List.length_drop, List.length_drop, hLength]
  rcases masked_parts hLength hSame with
    ⟨hSameLength, hSameType, hSameGateway, hSameAttributes⟩
  rcases Header.exists_masked hHeader hLength hSameLength
      hSameType with
    ⟨header, hPartHeader, hDeclared, hType⟩
  have hGateway :
      GatewayHeader.layout.read? (part.drop Header.size) =
        some gateway := by
    rw [← hLists.header]
    exact
      (GatewayHeader.keeps_layout.read?_congr (hDrop _)
        hSameGateway).symm
  have hSequence := hLists.attributes
  rw [List.drop_drop] at hSequence
  rcases hSequence.exists_masked hSound {} (hDrop _)
      hSameAttributes with
    ⟨similar, hSimilar, hAll⟩
  rw [← List.drop_drop] at hSimilar
  exact
    ⟨header, similar, hPartHeader, hDeclared,
      ⟨hType.trans hLists.type, hGateway, hSimilar⟩, hAll⟩

/-
  A message that was changed only in insignificant bits is
  decoded to the same entry.
-/
theorem exists_decode_of_masked
    {bytes others : Bytes}
    {message : Framed}
    {attributes : List Attribute}
    {entry : Entry}
    (hSplit : Framed.split bytes = .ok message)
    (hLists :
      message.Lists (GatewayHeader.ofFlags entry.rule.flags)
        attributes)
    (hSound : Entry.Sound attributes)
    (hMeans : Entry.Means attributes entry)
    (hLength : bytes.length = others.length)
    (hSame :
      Bytes.masked (significant attributes) bytes =
        Bytes.masked (significant attributes) others) :
    ∃ sequence sender flags,
      decode others =
        .ok (⟨sequence, sender, flags, .entry entry⟩,
          message.used) := by
  rcases Framed.split_eq_ok_iff.mp hSplit with
    ⟨hHeader, hSize, hFits, hBytes, -⟩
  have hOwnLength := Framed.length_bytes_of_split hSplit
  have hCovered := length_significant hLists hSound
  rw [hOwnLength] at hCovered
  -- Only the messages themselves are compared, not what stands
  -- behind them.
  let part := others.take message.header.length.toNat
  have hPartLength : message.bytes.length = part.length := by
    rw [hOwnLength]
    exact (List.length_take_of_le (hLength ▸ hFits)).symm
  rw [← Bytes.masked_take bytes (Nat.le_of_eq hCovered),
    ← Bytes.masked_take others (Nat.le_of_eq hCovered),
    ← hBytes] at hSame
  rw [← Header.layout.read?_take bytes hSize, ← hBytes]
    at hHeader
  rcases exists_lists_of_masked hLists hHeader hSound
      hPartLength hSame with
    ⟨header, similar, hPartHeader, hDeclared, hOtherLists,
      hAll⟩
  rw [Header.layout.read?_take others hSize] at hPartHeader
  have hOther :=
    Framed.split_of_length_eq hSplit hLength hPartHeader
      hDeclared
  have hEntry :
      Entry.decode (part.drop Header.size) Header.size =
        .ok entry := by
    rw [← Entry.decode_of_means (decodeHeader_of_lists hLists)
        hLists.attributes hSound hMeans rfl,
      Entry.decode_of_header (decodeHeader_of_lists hOtherLists),
      Entry.decode_of_header (decodeHeader_of_lists hLists),
      Entry.walk_of_whole hOtherLists.attributes,
      Entry.walk_of_whole hLists.attributes, hAll]
  have hDecoded := decode_of_lists hOther hOtherLists hEntry
  exact ⟨_, _, _, hDecoded⟩

end Response

end GatewayRules
