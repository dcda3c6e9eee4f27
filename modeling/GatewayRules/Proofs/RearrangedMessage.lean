import GatewayRules.Proofs.AttributeMeaning
import Mathlib

/-
  Messages with the same attributes in another arrangement.
  Neither attributes of unknown kinds nor the order among
  attributes for different places have any influence on what a
  message is decoded to.

  Main declarations:
    * `Attribute.contentsFor` and `Attribute.Rearranged`
    * `Attribute.Rearranged.contentsFor_eq`
    * `Entry.Means.of_contentsFor_eq`
    * `Response.decode_means`
-/

------------------------------------------------------------
-- Rearranging Attributes
------------------------------------------------------------

namespace GatewayRules

namespace Attribute

/- What an attribute consists of, wherever it stands. -/
def content (a : Attribute) : UInt16 × Bytes :=
  (a.number, a.payload)

/- Those contents that are for a place, in order. -/
def contentsFor
    (slot : Slot)
    (contents : List (UInt16 × Bytes)) :
    List (UInt16 × Bytes) :=
  contents.filter fun item => Slot.ofNumber? item.1 = some slot

/-
  Whether contents come from others by putting in some of an
  unknown or of no kind anywhere, and by changing the order
  where those for each place stay in their order.
-/
inductive Rearranged :
    List (UInt16 × Bytes) → List (UInt16 × Bytes) → Prop where
  | inserted
      {front back : List (UInt16 × Bytes)}
      {number : UInt16}
      {payload : Bytes}
      (hUnknown : number = 0 ∨ 19 ≤ number) :
      Rearranged (front ++ back)
        (front ++ (number, payload) :: back)
  | reordered
      {first second : List (UInt16 × Bytes)}
      (hPerm : first.Perm second)
      (hOrder :
        ∀ slot, contentsFor slot first = contentsFor slot second) :
      Rearranged first second
  | trans
      {first second third : List (UInt16 × Bytes)}
      (hFirst : Rearranged first second)
      (hSecond : Rearranged second third) :
      Rearranged first third

/- Rearranging leaves alone what there is for each place. -/
theorem Rearranged.contentsFor_eq
    {first second : List (UInt16 × Bytes)}
    (h : Rearranged first second)
    (slot : Slot) :
    contentsFor slot first = contentsFor slot second := by
  induction h with
  | inserted hUnknown =>
      have hNone :=
        (Slot.ofNumber?_eq_none_iff _).mpr hUnknown
      simp [contentsFor, hNone]
  | reordered hPerm hOrder => exact hOrder slot
  | trans hFirst hSecond ihFirst ihSecond =>
      exact ihFirst.trans ihSecond

theorem contentsFor_map_content
    (slot : Slot)
    (attributes : List Attribute) :
    contentsFor slot (attributes.map content) =
      (attributes.filter (·.slot? = some slot)).map content := by
  unfold contentsFor
  rw [List.filter_map]
  rfl

/- Where an attribute stands is not part of its content. -/
theorem eq_of_content_eq
    {a b : Attribute}
    (h : a.content = b.content) :
    { a with offset := b.offset } = b := by
  rcases a with ⟨number, payload, offset⟩
  rcases b with ⟨number', payload', offset'⟩
  simp only [content, Prod.mk.injEq] at h
  simp [h.1, h.2]

theorem slot?_eq_of_content_eq
    {a b : Attribute}
    (h : a.content = b.content) :
    a.slot? = b.slot? := by
  rw [← eq_of_content_eq h]
  rfl

theorem defect?_eq_of_content_eq
    {a b : Attribute}
    (h : a.content = b.content) :
    a.defect? = b.defect? := by
  rw [← eq_of_content_eq h]
  rfl

/- What is read from attributes of one content is the same. -/
theorem Gives.of_content_eq
    {α : Type}
    {a b : Option Attribute}
    {read : Attribute → Option α}
    {absent value : α}
    (h : Gives a read absent value)
    (hContent : a.map content = b.map content)
    (hRead :
      ∀ (x : Attribute) (offset : Nat),
        read { x with offset } = read x) :
    Gives b read absent value := by
  cases a with
  | none =>
      rw [Option.map_none, eq_comm, Option.map_eq_none_iff]
        at hContent
      rw [hContent]
      exact h
  | some a =>
      cases b with
      | none => cases hContent
      | some b =>
          have hSame :=
            eq_of_content_eq (Option.some.inj hContent)
          have hEqual := hRead a b.offset
          rw [hSame] at hEqual
          exact hEqual.trans h

variable {first second : List Attribute}

theorem last?_content_eq
    {slot : Slot}
    (h :
      contentsFor slot (first.map content) =
        contentsFor slot (second.map content)) :
    (last? first slot).map content =
      (last? second slot).map content := by
  rw [contentsFor_map_content, contentsFor_map_content] at h
  unfold last?
  rw [← List.getLast?_map, h, List.getLast?_map]

theorem first?_content_eq
    {slot : Slot}
    (h :
      contentsFor slot (first.map content) =
        contentsFor slot (second.map content)) :
    (first? first slot).map content =
      (first? second slot).map content := by
  rw [contentsFor_map_content, contentsFor_map_content] at h
  unfold first?
  rw [← List.head?_map, h, List.head?_map]

/- An attribute for a place is also in a rearranged sequence. -/
theorem exists_content_eq
    {slot : Slot}
    {b : Attribute}
    (h :
      contentsFor slot (first.map content) =
        contentsFor slot (second.map content))
    (hMember : b ∈ second)
    (hSlot : b.slot? = some slot) :
    ∃ a ∈ first, a.content = b.content := by
  have hContent :
      b.content ∈ contentsFor slot (second.map content) := by
    rw [contentsFor_map_content]
    apply List.mem_map_of_mem
    simp [hMember, hSlot]
  rw [← h, contentsFor_map_content] at hContent
  rcases List.mem_map.mp hContent with ⟨a, hFilter, hSame⟩
  exact ⟨a, (List.mem_filter.mp hFilter).1, hSame⟩

/- Nothing is wrong with an attribute for no place. -/
theorem defect?_of_slot?_eq_none
    {a : Attribute}
    (h : a.slot? = none) :
    a.defect? = none := by
  cases hKind : AttributeKind.ofNumber? a.number with
  | none => simp only [defect?, hKind]
  | some kind =>
      simp only [slot?, Slot.ofNumber?, hKind,
        Option.bind_some] at h
      have hUnspecified : kind = .unspecified := by
        cases kind <;> first | rfl | cases h
      subst hUnspecified
      exact defect?_eq_none hKind (Nat.zero_le _) (by simp)

end Attribute

namespace Entry

variable {first second : List Attribute}

/- A rearranged sequence means the same entry. -/
theorem Means.of_contentsFor_eq
    {entry : Entry}
    (hMeans : Means first entry)
    (h :
      ∀ slot,
        Attribute.contentsFor slot (first.map Attribute.content) =
          Attribute.contentsFor slot
            (second.map Attribute.content)) :
    Means second entry where
  source :=
    hMeans.source.of_content_eq
      (Attribute.last?_content_eq (h _)) fun _ _ => rfl
  destination :=
    hMeans.destination.of_content_eq
      (Attribute.last?_content_eq (h _)) fun _ _ => rfl
  filter :=
    hMeans.filter.of_content_eq
      (Attribute.last?_content_eq (h _)) fun _ _ => rfl
  function := fun operation =>
    (hMeans.function operation).of_content_eq
      (Attribute.last?_content_eq (h _)) fun _ _ => rfl
  modification := by
    rw [hMeans.modification]
    constructor
    · intro hNone b hMember operation hSlot
      rcases Attribute.exists_content_eq
          (h (.function operation)) hMember hSlot with
        ⟨a, hFound, hSame⟩
      exact hNone a hFound operation
        ((Attribute.slot?_eq_of_content_eq hSame).trans hSlot)
    · intro hNone a hMember operation hSlot
      rcases Attribute.exists_content_eq
          (h (.function operation)).symm hMember hSlot with
        ⟨b, hFound, hSame⟩
      exact hNone b hFound operation
        ((Attribute.slot?_eq_of_content_eq hSame).trans hSlot)
  checksum :=
    hMeans.checksum.of_content_eq
      (Attribute.first?_content_eq (h _)) fun _ _ => rfl
  hopLimit :=
    hMeans.hopLimit.of_content_eq
      (Attribute.last?_content_eq (h _)) fun _ _ => rfl
  uid :=
    hMeans.uid.of_content_eq
      (Attribute.last?_content_eq (h _)) fun _ _ => rfl
  handled :=
    hMeans.handled.of_content_eq
      (Attribute.last?_content_eq (h _)) fun _ _ => rfl
  dropped :=
    hMeans.dropped.of_content_eq
      (Attribute.last?_content_eq (h _)) fun _ _ => rfl
  deleted :=
    hMeans.deleted.of_content_eq
      (Attribute.last?_content_eq (h _)) fun _ _ => rfl

/- Neither are there defects in a rearranged sequence. -/
theorem sound_of_contentsFor_eq
    (hSound : Sound first)
    (h :
      ∀ slot,
        Attribute.contentsFor slot (first.map Attribute.content) =
          Attribute.contentsFor slot
            (second.map Attribute.content)) :
    Sound second := by
  intro b hMember
  cases hSlot : b.slot? with
  | none => exact Attribute.defect?_of_slot?_eq_none hSlot
  | some slot =>
      rcases Attribute.exists_content_eq (h slot) hMember hSlot
        with ⟨a, hFound, hSame⟩
      rw [← Attribute.defect?_eq_of_content_eq hSame]
      exact hSound a hFound

end Entry

------------------------------------------------------------
-- Messages
------------------------------------------------------------

namespace Response

/-
  A rule message that is decoded to an entry lists attributes
  that mean this entry.  Another message that differs from it
  in its length, and in that its attributes are rearranged, is
  decoded to the same response.
-/
theorem decode_means
    {bytes : Bytes}
    {response : Response}
    {used : Nat}
    {entry : Entry}
    (hDecode : decode bytes = .ok (response, used))
    (hEntry : response.kind = .entry entry) :
    ∃ message header attributes,
      Framed.split bytes = .ok message ∧
        message.Lists header attributes ∧
        entry.rule.flags = header.flags ∧
        Entry.Means attributes entry ∧
        ∀ otherBytes other others,
          Framed.split otherBytes = .ok other →
            other.header =
              { message.header with
                length := other.header.length } →
            other.Lists header others →
            Attribute.Rearranged
              (attributes.map Attribute.content)
              (others.map Attribute.content) →
            decode otherBytes = .ok (response, other.used) := by
  rcases exists_framed_of_decode hDecode with
    ⟨message, hSplit, -, hMeaning⟩
  rcases ofFramed_eq_entry_iff.mp ⟨hMeaning, hEntry⟩ with
    ⟨header, attributes, hLists, hHeader, hSound, hMeans,
      hResponse⟩
  refine ⟨message, header, attributes, hSplit, hLists, ?_,
    hMeans, ?_⟩
  · rw [hHeader]
    rfl
  · intro otherBytes other others hOther hSame hOthers hRearranged
    have hPlaces := hRearranged.contentsFor_eq
    have hOtherMeaning :=
      ofFramed_eq_entry_iff.mpr
        ⟨header, others, hOthers, hHeader,
          Entry.sound_of_contentsFor_eq hSound hPlaces,
          hMeans.of_contentsFor_eq hPlaces, rfl⟩
    unfold decode
    rw [hOther]
    change
      (ofFramed other >>= fun response =>
        Except.ok (response, other.used)) = _
    rw [hOtherMeaning.1, hResponse, hSame]
    rfl

/- A message that limits the hops twice. -/
def limitedTwice : Bytes :=
  [52, 0, 0, 0, 24, 0, 2, 0, 7, 0, 0, 0, 0, 0, 0, 0,
    29, 1, 1, 0,
    8, 0, 9, 0, 1, 0, 0, 0,
    8, 0, 10, 0, 2, 0, 0, 0,
    5, 0, 13, 0, 3, 0, 0, 0,
    5, 0, 13, 0, 5, 0, 0, 0]

/-
  The same attributes in another order, with one of an unknown
  kind between them.
-/
def limitedTwiceRearranged : Bytes :=
  [56, 0, 0, 0, 24, 0, 2, 0, 7, 0, 0, 0, 0, 0, 0, 0,
    29, 1, 1, 0,
    8, 0, 10, 0, 2, 0, 0, 0,
    5, 0, 13, 0, 3, 0, 0, 0,
    4, 0, 20, 0,
    8, 0, 9, 0, 1, 0, 0, 0,
    5, 0, 13, 0, 5, 0, 0, 0]

theorem decode_means_limitedTwice :
    ∃ response,
      decode limitedTwice = .ok (response, 52) ∧
        response.kind =
          .entry
            { rule :=
                { source := ⟨1, by decide⟩,
                  destination := ⟨2, by decide⟩,
                  flags := RuleFlags.echo,
                  hopLimit := some 5 } } ∧
        decode limitedTwiceRearranged = .ok (response, 56) := by
  let entry : Entry :=
    { rule :=
        { source := ⟨1, by decide⟩,
          destination := ⟨2, by decide⟩,
          flags := RuleFlags.echo,
          hopLimit := some 5 } }
  let response : Response := ⟨7, 0, 2, .entry entry⟩
  have hDecode :
      decode limitedTwice = .ok (response, 52) := by
    cbv
  refine ⟨response, hDecode, rfl, ?_⟩
  rcases decode_means hDecode rfl with
    ⟨message, header, attributes, hSplit, hLists, -, -, hOther⟩
  have hMessage :
      Framed.split limitedTwice =
        .ok ⟨⟨52, 24, 2, 7, 0⟩, limitedTwice, 52⟩ := by
    cbv
  cases hSplit.symm.trans hMessage
  have hHeader :
      GatewayHeader.layout.read?
          (limitedTwice.drop Header.size) =
        some (.ofFlags RuleFlags.echo) := by
    cbv
  cases hLists.header.symm.trans hHeader
  have hWalk :
      AttributeWalk.ofBytes (limitedTwice.drop 20) 20 =
        ⟨[⟨9, [1, 0, 0, 0], 20⟩, ⟨10, [2, 0, 0, 0], 28⟩,
            ⟨13, [3], 36⟩, ⟨13, [5], 44⟩], none⟩ := by
    cbv
  cases
    (Attribute.sequence_iff.mp hLists.attributes).symm.trans
      hWalk
  have hOtherWalk :
      AttributeWalk.ofBytes
          (limitedTwiceRearranged.drop 20) 20 =
        ⟨[⟨10, [2, 0, 0, 0], 20⟩, ⟨13, [3], 28⟩,
            ⟨20, [], 36⟩, ⟨9, [1, 0, 0, 0], 40⟩,
            ⟨13, [5], 48⟩], none⟩ := by
    cbv
  refine
    hOther limitedTwiceRearranged
      ⟨⟨56, 24, 2, 7, 0⟩, limitedTwiceRearranged, 56⟩ _
      (by cbv) rfl
      ⟨rfl, by cbv, Attribute.sequence_iff.mpr hOtherWalk⟩ ?_
  have hReordered :
      Attribute.Rearranged
        [(9, [1, 0, 0, 0]), (10, [2, 0, 0, 0]), (13, [3]),
          (13, [5])]
        [(10, [2, 0, 0, 0]), (13, [3]), (9, [1, 0, 0, 0]),
          (13, [5])] := by
    refine .reordered (by decide) ?_
    intro slot
    cases slot <;> rfl
  have hInserted :
      Attribute.Rearranged
        ([(10, [2, 0, 0, 0]), (13, [3])]
          ++ [(9, [1, 0, 0, 0]), (13, [5])])
        ([(10, [2, 0, 0, 0]), (13, [3])]
          ++ (20, []) :: [(9, [1, 0, 0, 0]), (13, [5])]) :=
    .inserted (by decide)
  exact hReordered.trans hInserted

end Response

end GatewayRules
