import GatewayRules.Message.Response
import GatewayRules.Proofs.WholeMessage

/-
  The grammar of attributes.  Bytes are a sequence of
  attributes, each with its length, its payload, and its
  padding, up to their end or to the place where a further
  attribute is broken.  Taking in the attributes of a sequence
  stops at the first one that has a defect by itself, and
  otherwise keeps track of the interfaces that they name.

  Main declarations:
    * `Attribute.defect?`
    * `Attribute.Fills`
    * `Attribute.Sequence` and `Attribute.Broken`
    * `Attribute.Sequence.exists_front`
    * `Attribute.Sequence.ofBytes_append`
    * `Attribute.sequence_iff`
    * `Draft.Absorbs` and `Draft.absorbs_absorb`
    * `Draft.absorbAll_of_sound`
    * `Draft.absorbAll_of_faulty`
-/

------------------------------------------------------------
-- Defects of Attributes
------------------------------------------------------------

namespace GatewayRules

/- The number of bytes that the payload of a kind must have. -/
def AttributeKind.payloadSize : AttributeKind → Nat
  | .unspecified => 0
  | .modification .classic _ => 17
  | .modification .fd _ => 73
  | .xorChecksum => 4
  | .crc8Checksum => 282
  | .handled => 4
  | .dropped => 4
  | .source => 4
  | .destination => 4
  | .filter => 8
  | .deleted => 4
  | .hopLimit => 1
  | .uid => 4

namespace Attribute

/- Whether an attribute is of a known kind. -/
def Is
    (a : Attribute)
    (kind : AttributeKind) : Prop :=
  AttributeKind.ofNumber? a.number = some kind

/-
  What is wrong with an attribute by itself, if anything is:
  a payload that is too short, or no interface where there
  must be one.  Nothing is wrong with one of an unknown kind.
-/
def defect? (a : Attribute) : Option Defect :=
  match AttributeKind.ofNumber? a.number with
  | none => none
  | some kind =>
      if a.payload.length < kind.payloadSize then
        some .payloadTooShort
      else if (kind = .source ∨ kind = .destination) ∧
          Layout.u32.read? a.payload = some 0 then
        some .zeroInterface
      else
        none

theorem defect?_of_short
    {a : Attribute}
    {kind : AttributeKind}
    (hKind : a.Is kind)
    (hShort : a.payload.length < kind.payloadSize) :
    a.defect? = some .payloadTooShort := by
  unfold Is at hKind
  simp only [defect?, hKind, hShort, if_true]

/- Most kinds ask for no more than a payload of some length. -/
theorem defect?_eq_none
    {a : Attribute}
    {kind : AttributeKind}
    (hKind : a.Is kind)
    (hSize : kind.payloadSize ≤ a.payload.length)
    (hInterface :
      kind = .source ∨ kind = .destination →
        Layout.u32.read? a.payload ≠ some 0) :
    a.defect? = none := by
  unfold Is at hKind
  simp only [defect?, hKind, Nat.not_lt.mpr hSize, if_false]
  rw [if_neg]
  rintro ⟨hNames, hZero⟩
  exact hInterface hNames hZero

end Attribute

------------------------------------------------------------
-- Sequences of Attributes
------------------------------------------------------------

namespace Attribute

/-
  Whether a byte string is an attribute with its padding and
  nothing else.
-/
def Fills
    (a : Attribute)
    (unit : Bytes) : Prop :=
  ∃ size type : UInt16,
    headerLayout.read? unit = some (size, type) ∧
      headerSize ≤ size.toNat ∧
      unit.length = Bytes.align size.toNat ∧
      a.number = type &&& numberMask ∧
      a.payload = (unit.take size.toNat).drop headerSize

/-
  Whether bytes from an offset on are attributes, one after
  the other and each with its padding, and nothing else.
-/
inductive Sequence : Nat → Bytes → List Attribute → Prop where
  | nil (offset : Nat) : Sequence offset [] []
  | cons
      {a : Attribute}
      {unit rest : Bytes}
      {others : List Attribute}
      (hFirst : a.Fills unit)
      (hRest : Sequence (a.offset + unit.length) rest others) :
      Sequence a.offset (unit ++ rest) (a :: others)

/-
  Why there is no further attribute at the front of some
  bytes.
-/
inductive Broken (bytes : Bytes) : Defect → Prop where
  | trailing
      (hNonempty : bytes ≠ [])
      (hHeader : bytes.length < headerSize) :
      Broken bytes .trailingBytes
  | short
      {size type : UInt16}
      (hHeader : headerLayout.read? bytes = some (size, type))
      (hSize : size.toNat < headerSize) :
      Broken bytes .attributeShorterThanHeader
  | exceeding
      {size type : UInt16}
      (hHeader : headerLayout.read? bytes = some (size, type))
      (hSize : headerSize ≤ size.toNat)
      (hLong : bytes.length < size.toNat) :
      Broken bytes .attributeExceedsMessage
  | unpadded
      {size type : UInt16}
      (hHeader : headerLayout.read? bytes = some (size, type))
      (hSize : headerSize ≤ size.toNat)
      (hFits : size.toNat ≤ bytes.length)
      (hPadding : bytes.length < Bytes.align size.toNat) :
      Broken bytes .attributeNotPadded

theorem Broken.ne_nil
    {bytes : Bytes}
    {defect : Defect}
    (h : Broken bytes defect) :
    bytes ≠ [] := by
  have hRead
      {size type : UInt16}
      (hHeader :
        headerLayout.read? bytes = some (size, type)) :
      bytes ≠ [] := by
    rintro rfl
    cases hHeader
  cases h with
  | trailing hNonempty => exact hNonempty
  | short hHeader => exact hRead hHeader
  | exceeding hHeader => exact hRead hHeader
  | unpadded hHeader => exact hRead hHeader

/- A broken attribute cannot be cut off. -/
theorem Broken.cut
    {bytes : Bytes}
    {defect : Defect}
    (h : Broken bytes defect)
    (offset : Nat) :
    cut bytes offset = .error (.malformed offset defect) := by
  unfold Attribute.cut
  cases h with
  | trailing hNonempty hHeader =>
      have hNone : headerLayout.read? bytes = none := by
        rw [Layout.read?, if_neg]
        exact Nat.not_le.mpr hHeader
      simp only [hNone]
  | short hHeader hSize =>
      simp only [hHeader, hSize, if_true]
  | exceeding hHeader hSize hLong =>
      simp only [hHeader, Nat.not_lt.mpr hSize, hLong,
        if_false, if_true]
  | unpadded hHeader hSize hFits hPadding =>
      simp only [hHeader, Nat.not_lt.mpr hSize,
        Nat.not_lt.mpr hFits, hPadding, if_false, if_true]

/- An attribute has at least its length and its type. -/
theorem Fills.length_pos
    {a : Attribute}
    {unit : Bytes}
    (h : a.Fills unit) :
    0 < unit.length ∧ 4 ∣ unit.length := by
  rcases h with ⟨size, type, -, hSize, hUnit, -⟩
  have hAlign := Bytes.le_align size.toNat
  rw [hUnit]
  unfold headerSize at hSize
  exact ⟨by omega, Bytes.dvd_align _⟩

/- A whole attribute is cut off whatever follows it. -/
theorem Fills.cut_append
    {a : Attribute}
    {unit : Bytes}
    (h : a.Fills unit)
    (rest : Bytes) :
    cut (unit ++ rest) a.offset = .ok (a, unit.length) := by
  rcases h with
    ⟨size, type, hHeader, hSize, hUnit, hNumber, hPayload⟩
  have hAlign := Bytes.le_align size.toNat
  have hRead :
      headerLayout.read? (unit ++ rest) =
        some (size, type) := by
    rw [headerLayout.read?_append rest]
    · exact hHeader
    · rw [size_headerLayout]
      omega
  have hTake :
      (unit ++ rest).take size.toNat =
        unit.take size.toNat :=
    List.take_append_of_le_length (by omega)
  unfold cut
  simp only [hRead, hTake, List.length_append]
  rw [if_neg (by omega), if_neg (by omega),
    if_neg (by omega), ← hNumber, ← hPayload, hUnit]

/- Some bytes start with an attribute, or with a broken one. -/
theorem exists_fills_or_broken
    {bytes : Bytes}
    (hNonempty : bytes ≠ [])
    (offset : Nat) :
    (∃ (a : Attribute) (unit rest : Bytes),
      bytes = unit ++ rest ∧
        a.Fills unit ∧ a.offset = offset) ∨
      ∃ defect, Broken bytes defect := by
  cases hHeader : headerLayout.read? bytes with
  | none =>
      refine Or.inr ⟨_, .trailing hNonempty ?_⟩
      apply Nat.not_le.mp
      intro hLength
      have hSome :=
        (headerLayout.read?_isSome_iff bytes).mpr hLength
      rw [hHeader] at hSome
      cases hSome
  | some header =>
      rcases header with ⟨size, type⟩
      have hAlign := Bytes.le_align size.toNat
      rcases Nat.lt_or_ge size.toNat headerSize with
        hShort | hSize
      · exact Or.inr ⟨_, .short hHeader hShort⟩
      rcases Nat.lt_or_ge bytes.length size.toNat with
        hLong | hFits
      · exact Or.inr ⟨_, .exceeding hHeader hSize hLong⟩
      rcases Nat.lt_or_ge bytes.length
          (Bytes.align size.toNat) with hPadding | hWhole
      · exact Or.inr
          ⟨_, .unpadded hHeader hSize hFits hPadding⟩
      · let unit := bytes.take (Bytes.align size.toNat)
        have hRead :
            headerLayout.read? unit = some (size, type) := by
          rw [headerLayout.read?_take bytes
            (Nat.le_trans hSize hAlign)]
          exact hHeader
        exact Or.inl
          ⟨{ number := type &&& numberMask,
             payload :=
               (unit.take size.toNat).drop headerSize,
             offset },
            unit, bytes.drop (Bytes.align size.toNat),
            (List.take_append_drop _ _).symm,
            ⟨size, type, hRead, hSize,
              List.length_take_of_le hWhole, rfl, rfl⟩,
            rfl⟩

namespace Sequence

/- A sequence ends on the boundary. -/
theorem dvd_length
    {offset : Nat}
    {bytes : Bytes}
    {attributes : List Attribute}
    (h : Sequence offset bytes attributes) :
    4 ∣ bytes.length := by
  induction h with
  | nil => exact Nat.dvd_zero 4
  | cons hFirst hRest ih =>
      rw [List.length_append]
      exact Nat.dvd_add hFirst.length_pos.2 ih

/- The first attribute stands at the start of its bytes. -/
theorem offset_of_cons
    {offset : Nat}
    {bytes : Bytes}
    {a : Attribute}
    {others : List Attribute}
    (h : Sequence offset bytes (a :: others)) :
    a.offset = offset ∧ 0 < bytes.length := by
  cases h with
  | cons hFirst hRest =>
      refine ⟨rfl, ?_⟩
      rw [List.length_append]
      exact Nat.add_pos_left hFirst.length_pos.1 _

/- A sequence can be parted between any two attributes. -/
theorem exists_parts
    {offset : Nat}
    {bytes : Bytes}
    {first second : List Attribute}
    (h : Sequence offset bytes (first ++ second)) :
    ∃ front back,
      bytes = front ++ back ∧
        Sequence offset front first ∧
        Sequence (offset + front.length) back second := by
  induction first generalizing offset bytes with
  | nil => exact ⟨[], bytes, rfl, .nil offset, h⟩
  | cons a first ih =>
      cases h with
      | @cons _ unit rest _ hFirst hRest =>
          rcases ih hRest with
            ⟨front, back, hBytes, hFront, hBack⟩
          refine ⟨unit ++ front, back, ?_,
            .cons hFirst hFront, ?_⟩
          · rw [hBytes, List.append_assoc]
          · rw [List.length_append, ← Nat.add_assoc]
            exact hBack

/- All bytes are a sequence, up to where they are broken. -/
theorem exists_front
    (offset : Nat)
    (bytes : Bytes) :
    ∃ front attributes rest,
      bytes = front ++ rest ∧
        Sequence offset front attributes ∧
        (rest = [] ∨ ∃ defect, Broken rest defect) := by
  by_cases hEmpty : bytes = []
  · exact ⟨[], [], [], hEmpty, .nil offset, Or.inl rfl⟩
  · rcases exists_fills_or_broken hEmpty offset with
      ⟨a, unit, back, hBytes, hFills, hOffset⟩ | hBroken
    · have hShorter : back.length < bytes.length := by
        have hLength := hFills.length_pos.1
        rw [hBytes, List.length_append]
        omega
      rcases exists_front (a.offset + unit.length) back with
        ⟨front, attributes, rest, hBack, hFront, hEnd⟩
      refine ⟨unit ++ front, a :: attributes, rest, ?_, ?_,
        hEnd⟩
      · rw [hBytes, hBack, List.append_assoc]
      · rw [← hOffset]
        exact .cons hFills hFront
    · exact ⟨[], [], bytes, rfl, .nil offset,
        Or.inr hBroken⟩
termination_by bytes.length

/- A walk finds the attributes of a sequence in front. -/
theorem ofBytes_append
    {offset : Nat}
    {front : Bytes}
    {attributes : List Attribute}
    (h : Sequence offset front attributes)
    (rest : Bytes) :
    AttributeWalk.ofBytes (front ++ rest) offset =
      let walk :=
        AttributeWalk.ofBytes rest (offset + front.length)
      ⟨attributes ++ walk.attributes, walk.fault⟩ := by
  induction h with
  | nil offset => rfl
  | @cons a unit back others hFirst hRest ih =>
      have hCut := hFirst.cut_append (back ++ rest)
      have hNonempty : unit ++ (back ++ rest) ≠ [] := by
        intro hEmpty
        have hUnit := (List.append_eq_nil_iff.mp hEmpty).1
        have hLength := hFirst.length_pos.1
        rw [hUnit] at hLength
        exact absurd hLength (Nat.lt_irrefl 0)
      rw [List.append_assoc,
        AttributeWalk.ofBytes_of_cut_ok hNonempty hCut,
        List.drop_left, ih, List.length_append,
        Nat.add_assoc]
      rfl

end Sequence

end Attribute

/- Where an attribute is broken, a walk ends. -/
theorem AttributeWalk.ofBytes_of_broken
    {bytes : Bytes}
    {defect : Defect}
    (h : Attribute.Broken bytes defect)
    (offset : Nat) :
    ofBytes bytes offset =
      ⟨[], some (.malformed offset defect)⟩ :=
  ofBytes_of_cut_error h.ne_nil (h.cut offset)

/- A walk to the end finds just the attributes of a sequence. -/
theorem Attribute.sequence_iff
    {offset : Nat}
    {bytes : Bytes}
    {attributes : List Attribute} :
    Sequence offset bytes attributes ↔
      AttributeWalk.ofBytes bytes offset =
        ⟨attributes, none⟩ := by
  constructor
  · intro h
    have hWalk := h.ofBytes_append []
    simpa using hWalk
  · intro h
    rcases Sequence.exists_front offset bytes with
      ⟨front, found, rest, rfl, hFront, rfl | ⟨defect, hBroken⟩⟩
    · have hWalk := hFront.ofBytes_append []
      rw [List.append_nil] at h ⊢
      simp only [List.append_nil, AttributeWalk.ofBytes_nil, h,
        AttributeWalk.mk.injEq] at hWalk
      rw [hWalk.1]
      exact hFront
    · rw [hFront.ofBytes_append,
        AttributeWalk.ofBytes_of_broken hBroken] at h
      cases congrArg AttributeWalk.fault h

------------------------------------------------------------
-- Taking In Attributes
------------------------------------------------------------

namespace Attribute

/- The value of a payload that is long enough. -/
theorem value_eq
    {α : Type}
    (a : Attribute)
    (layout : Layout α) :
    a.value layout =
      if a.payload.length < layout.size then
        .error (.malformed a.offset .payloadTooShort)
      else
        .ok (layout.read (a.payload.take layout.size)) := by
  unfold value Layout.read?
  by_cases hSize : layout.size ≤ a.payload.length
  · simp only [hSize, Nat.not_lt.mpr hSize, if_true, if_false]
  · simp only [hSize, Nat.not_le.mp hSize, if_true, if_false]

end Attribute

namespace Draft

/-
  Whether the interfaces that are known after an attribute are
  those known before it and the one that it names.
-/
structure Follows
    (draft : Draft)
    (a : Attribute)
    (next : Draft) : Prop where
  source :
    next.source.isSome ↔
      draft.source.isSome ∨ a.Is .source
  destination :
    next.destination.isSome ↔
      draft.destination.isSome ∨ a.Is .destination

/-
  What becomes of taking in an attribute: its defect, or a
  draft that follows.
-/
inductive Absorbs
    (draft : Draft)
    (a : Attribute) : Except DecodeError Draft → Prop where
  | faulty
      (defect : Defect)
      (hDefect : a.defect? = some defect) :
      Absorbs draft a (.error (.malformed a.offset defect))
  | sound
      (next : Draft)
      (hSound : a.defect? = none)
      (hNext : draft.Follows a next) :
      Absorbs draft a (.ok next)

/- An attribute of another kind names no interface. -/
theorem Follows.of_is
    {draft next : Draft}
    {a : Attribute}
    {kind : AttributeKind}
    (hKind : a.Is kind)
    (hSource :
      next.source.isSome ↔
        draft.source.isSome ∨ kind = .source)
    (hDestination :
      next.destination.isSome ↔
        draft.destination.isSome ∨ kind = .destination) :
    draft.Follows a next := by
  have hIs (other : AttributeKind) :
      a.Is other ↔ kind = other := by
    unfold Attribute.Is at hKind ⊢
    rw [hKind, Option.some_inj]
  exact ⟨by rw [hIs]; exact hSource,
    by rw [hIs]; exact hDestination⟩

/- Taking in the value of an attribute other than interfaces. -/
theorem absorbs_value
    {α : Type}
    {draft : Draft}
    {a : Attribute}
    {kind : AttributeKind}
    (layout : Layout α)
    (update : α → Draft)
    (hKind : a.Is kind)
    (hOther : ¬ (kind = .source ∨ kind = .destination))
    (hSize : layout.size = kind.payloadSize)
    (hUpdate :
      ∀ value,
        (update value).source = draft.source ∧
          (update value).destination = draft.destination) :
    Absorbs draft a
      (a.value layout >>= fun value => .ok (update value)) := by
  rw [Attribute.value_eq, hSize]
  by_cases hShort : a.payload.length < kind.payloadSize
  · rw [if_pos hShort]
    exact .faulty _ (Attribute.defect?_of_short hKind hShort)
  · rw [if_neg hShort]
    refine .sound _ ?_ (.of_is hKind ?_ ?_)
    · exact Attribute.defect?_eq_none hKind
        (Nat.not_lt.mp hShort) fun hNames =>
          absurd hNames hOther
    · rw [(hUpdate _).1]
      exact ⟨Or.inl, fun h => h.resolve_right fun hSource =>
        hOther (Or.inl hSource)⟩
    · rw [(hUpdate _).2]
      exact ⟨Or.inl, fun h => h.resolve_right fun hDest =>
        hOther (Or.inr hDest)⟩

/- Taking in the interface that an attribute names. -/
theorem absorbs_interface
    {draft : Draft}
    {a : Attribute}
    {kind : AttributeKind}
    (update : Interface.Index → Draft)
    (hKind : a.Is kind)
    (hNames : kind = .source ∨ kind = .destination)
    (hUpdate : ∀ index, draft.Follows a (update index)) :
    Absorbs draft a
      (a.interface >>= fun index => .ok (update index)) := by
  have hSize : kind.payloadSize = Layout.u32.size := by
    rcases hNames with rfl | rfl <;> rfl
  unfold Attribute.interface Attribute.value
  cases hRead : Layout.u32.read? a.payload with
  | none =>
      have hShort : a.payload.length < kind.payloadSize := by
        rw [hSize]
        apply Nat.not_le.mp
        rw [← Layout.u32.read?_isSome_iff, hRead]
        decide
      exact .faulty _ (Attribute.defect?_of_short hKind hShort)
  | some value =>
      have hFits : kind.payloadSize ≤ a.payload.length := by
        rw [hSize, ← Layout.u32.read?_isSome_iff, hRead]
        rfl
      by_cases hZero : value = 0
      · subst hZero
        refine .faulty .zeroInterface ?_
        unfold Attribute.Is at hKind
        simp only [Attribute.defect?, hKind,
          Nat.not_lt.mpr hFits, hNames, hRead, if_false,
          and_self, if_true]
      · have hMake :
            Interface.Index.make? value =
              some ⟨value, hZero⟩ := by
          simp [Interface.Index.make?, hZero]
        simp only [bind, Except.bind, hMake]
        refine .sound _ ?_ (hUpdate _)
        apply Attribute.defect?_eq_none hKind hFits
        rintro - hRead'
        rw [hRead] at hRead'
        exact hZero (Option.some.inj hRead')

/-
  Taking in an attribute fails exactly with its defect, and
  otherwise keeps track of the interfaces.
-/
theorem absorbs_absorb
    (draft : Draft)
    (a : Attribute) :
    Absorbs draft a (draft.absorb a) := by
  unfold absorb
  cases hKind : AttributeKind.ofNumber? a.number with
  | none =>
      have hNot (kind : AttributeKind) : ¬ a.Is kind := by
        intro hIs
        rw [Attribute.Is, hKind] at hIs
        cases hIs
      refine .sound draft ?_ ⟨?_, ?_⟩
      · simp only [Attribute.defect?, hKind]
      · simp only [hNot, or_false]
      · simp only [hNot, or_false]
  | some kind =>
      change Absorbs draft a (draft.absorbKnown a kind)
      cases kind with
      | unspecified =>
          refine .sound draft ?_ (.of_is hKind ?_ ?_)
          · exact Attribute.defect?_eq_none hKind
              (Nat.zero_le _) (by simp)
          · simp
          · simp
      | modification kind operation =>
          cases kind with
          | classic =>
              exact absorbs_value Function.classicLayout _
                hKind (by simp) rfl fun _ => ⟨rfl, rfl⟩
          | fd =>
              exact absorbs_value Function.fdLayout _
                hKind (by simp) rfl fun _ => ⟨rfl, rfl⟩
      | xorChecksum =>
          exact absorbs_value XorChecksum.layout _
            hKind (by simp) rfl fun _ => ⟨rfl, rfl⟩
      | crc8Checksum =>
          exact absorbs_value Crc8Checksum.storedLayout _
            hKind (by simp) rfl fun _ => ⟨rfl, rfl⟩
      | handled =>
          exact absorbs_value Layout.u32 _
            hKind (by simp) rfl fun _ => ⟨rfl, rfl⟩
      | dropped =>
          exact absorbs_value Layout.u32 _
            hKind (by simp) rfl fun _ => ⟨rfl, rfl⟩
      | deleted =>
          exact absorbs_value Layout.u32 _
            hKind (by simp) rfl fun _ => ⟨rfl, rfl⟩
      | uid =>
          exact absorbs_value Layout.u32 _
            hKind (by simp) rfl fun _ => ⟨rfl, rfl⟩
      | filter =>
          exact absorbs_value Filter.layout _
            hKind (by simp) rfl fun _ => ⟨rfl, rfl⟩
      | hopLimit =>
          exact absorbs_value Layout.u8 _
            hKind (by simp) rfl fun _ => ⟨rfl, rfl⟩
      | source =>
          apply absorbs_interface _ hKind (Or.inl rfl)
          intro index
          exact .of_is hKind (by simp) (by simp)
      | destination =>
          apply absorbs_interface _ hKind (Or.inr rfl)
          intro index
          exact .of_is hKind (by simp) (by simp)

/- Attributes without defects are all taken in. -/
theorem absorbAll_of_sound
    {attributes : List Attribute}
    (draft : Draft)
    (h : ∀ a ∈ attributes, a.defect? = none) :
    ∃ last,
      draft.absorbAll attributes = .ok last ∧
        (last.source.isSome ↔
          draft.source.isSome ∨
            ∃ a ∈ attributes, a.Is .source) ∧
        (last.destination.isSome ↔
          draft.destination.isSome ∨
            ∃ a ∈ attributes, a.Is .destination) := by
  induction attributes generalizing draft with
  | nil => exact ⟨draft, rfl, by simp, by simp⟩
  | cons a attributes ih =>
      have hSound := h a List.mem_cons_self
      have hAbsorbs := absorbs_absorb draft a
      change
        ∃ last,
          (draft.absorb a >>= fun next =>
            next.absorbAll attributes) = .ok last ∧ _
      generalize draft.absorb a = result at hAbsorbs ⊢
      cases hAbsorbs with
      | faulty defect hDefect =>
          rw [hSound] at hDefect
          cases hDefect
      | sound next hNone hNext =>
          rcases ih next fun other hOther =>
              h other (List.mem_cons_of_mem _ hOther) with
            ⟨last, hLast, hSource, hDestination⟩
          refine ⟨last, hLast, ?_, ?_⟩
          · rw [hSource, hNext.source, or_assoc]
            simp
          · rw [hDestination, hNext.destination, or_assoc]
            simp

/- The first attribute with a defect is the one reported. -/
theorem absorbAll_of_faulty
    {before : List Attribute}
    {a : Attribute}
    {defect : Defect}
    (draft : Draft)
    (hBefore : ∀ other ∈ before, other.defect? = none)
    (hDefect : a.defect? = some defect)
    (after : List Attribute) :
    draft.absorbAll (before ++ a :: after) =
      .error (.malformed a.offset defect) := by
  rcases absorbAll_of_sound draft hBefore with
    ⟨next, hNext, -⟩
  have hAbsorbs := absorbs_absorb next a
  unfold absorbAll at hNext ⊢
  rw [List.foldlM_append, hNext]
  change
    (next.absorb a >>= fun last =>
      last.absorbAll after) = _
  generalize next.absorb a = result at hAbsorbs ⊢
  cases hAbsorbs with
  | faulty found hFound =>
      rw [hDefect] at hFound
      cases hFound
      rfl
  | sound last hNone hLast =>
      rw [hDefect] at hNone
      cases hNone

end Draft

end GatewayRules
