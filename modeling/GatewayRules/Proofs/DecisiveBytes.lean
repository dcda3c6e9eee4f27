import GatewayRules.Proofs.IgnoredBytes
import Mathlib

/-
  Bytes that decide.  Of the attributes for a place one wins,
  and each byte of its value that is significant shows in the
  entry: when it is changed, the entry changes.  The same holds
  of the flags of the rule.  Together with the bytes that are
  ignored, this says what an entry depends on.

  Main declarations:
    * `Attribute.winner?`
    * `Attribute.exists_parts_of_winner?`
    * `Attribute.Sequence.set_payload`
    * `Entry.Means.masked_eq`
    * `Response.Decides`
    * `Response.decode_bytewise`
-/

------------------------------------------------------------
-- Winning Attributes
------------------------------------------------------------

namespace GatewayRules

namespace Attribute

/-
  The attribute that fills a place: the first of several
  checksums, and otherwise the last for the place.
-/
def winner?
    (attributes : List Attribute) : Slot → Option Attribute
  | .checksum => first? attributes .checksum
  | slot => last? attributes slot

/- The attributes around the first one for a place. -/
theorem exists_parts_of_first?
    {attributes : List Attribute}
    {slot : Slot}
    {a : Attribute}
    (h : first? attributes slot = some a) :
    ∃ before after,
      attributes = before ++ a :: after ∧
        a.slot? = some slot ∧
        ∀ b : Attribute,
          b.slot? = some slot →
            first? (before ++ b :: after) slot = some b := by
  unfold first? at h
  rcases List.head?_eq_some_iff.mp h with ⟨rest, hFilter⟩
  rcases List.filter_eq_cons_iff.mp hFilter with
    ⟨before, after, hParts, hBefore, hSlot, -⟩
  refine ⟨before, after, hParts, by simpa using hSlot, ?_⟩
  intro b hOwn
  have hNone :
      before.filter (·.slot? = some slot) = [] :=
    List.filter_eq_nil_iff.mpr hBefore
  simp [first?, List.filter_append, hNone, hOwn]

/- The attributes around the last one for a place. -/
theorem exists_parts_of_last?
    {attributes : List Attribute}
    {slot : Slot}
    {a : Attribute}
    (h : last? attributes slot = some a) :
    ∃ before after,
      attributes = before ++ a :: after ∧
        a.slot? = some slot ∧
        ∀ b : Attribute,
          b.slot? = some slot →
            last? (before ++ b :: after) slot = some b := by
  unfold last? at h
  rcases List.getLast?_eq_some_iff.mp h with ⟨front, hFilter⟩
  rcases List.filter_eq_append_iff.mp hFilter with
    ⟨first, second, hParts, -, hSecond⟩
  rcases List.filter_eq_cons_iff.mp hSecond with
    ⟨middle, after, hMiddle, -, hSlot, hAfter⟩
  refine
    ⟨first ++ middle, after, ?_, by simpa using hSlot, ?_⟩
  · rw [hParts, hMiddle, List.append_assoc]
  · intro b hOwn
    simp [last?, List.filter_append, hOwn, hAfter]

/- Whatever stands in the place of a winner wins like it. -/
theorem exists_parts_of_winner?
    {attributes : List Attribute}
    {slot : Slot}
    {a : Attribute}
    (h : winner? attributes slot = some a) :
    ∃ before after,
      attributes = before ++ a :: after ∧
        a.slot? = some slot ∧
        ∀ b : Attribute,
          b.slot? = some slot →
            winner? (before ++ b :: after) slot = some b := by
  cases slot with
  | checksum => exact exists_parts_of_first? h
  | _ => exact exists_parts_of_last? h

end Attribute

------------------------------------------------------------
-- Changing a Payload
------------------------------------------------------------

/- A byte behind a value does not matter to it. -/
theorem Layout.read?_set
    {α : Type}
    (layout : Layout α)
    {position : Nat}
    (bytes : Bytes)
    (byte : UInt8)
    (h : layout.size ≤ position) :
    layout.read? (bytes.set position byte) =
      layout.read? bytes := by
  rw [← layout.read?_take _ h,
    List.take_set_of_le (Nat.le_refl position),
    layout.read?_take _ h]

namespace Attribute

/- The attribute with one byte of its payload changed. -/
def setByte
    (a : Attribute)
    (i : Nat)
    (byte : UInt8) : Attribute :=
  { a with payload := a.payload.set i byte }

theorem Fills.set_payload
    {a : Attribute}
    {unit : Bytes}
    (h : a.Fills unit)
    (i : Nat)
    (byte : UInt8) :
    (a.setByte i byte).Fills (unit.set (4 + i) byte) := by
  rcases h with
    ⟨size, type, hHeader, hSize, hUnit, hNumber, hPayload⟩
  refine
    ⟨size, type, ?_, hSize, by rw [List.length_set, hUnit],
      hNumber, ?_⟩
  · rw [headerLayout.read?_set unit byte (Nat.le_add_right 4 i)]
    exact hHeader
  · unfold setByte headerSize
    rw [List.take_set, List.drop_set,
      if_neg (by omega), Nat.add_sub_cancel_left, hPayload,
      headerSize]

/- Sequences that follow one another are one. -/
theorem Sequence.append
    {offset : Nat}
    {front back : Bytes}
    {first second : List Attribute}
    (hFront : Sequence offset front first)
    (hBack : Sequence (offset + front.length) back second) :
    Sequence offset (front ++ back) (first ++ second) := by
  induction hFront with
  | nil offset => exact hBack
  | cons hFirst hRest ih =>
      rw [List.append_assoc]
      refine .cons hFirst (ih ?_)
      rw [List.length_append, ← Nat.add_assoc] at hBack
      exact hBack

/-
  When a byte of a payload is changed where it stands, the
  bytes remain a sequence, of which this payload has changed.
-/
theorem Sequence.set_payload
    {offset i : Nat}
    {bytes : Bytes}
    {before after : List Attribute}
    {a : Attribute}
    (h : Sequence offset bytes (before ++ a :: after))
    (hByte : i < a.payload.length)
    (byte : UInt8) :
    ∃ place,
      a.offset + 4 + i = offset + place ∧
        bytes[place]? = a.payload[i]? ∧
        Sequence offset (bytes.set place byte)
          (before ++ a.setByte i byte :: after) := by
  rcases h.exists_parts with
    ⟨front, back, rfl, hFront, hBack⟩
  have hOffset := hBack.offset_of_cons.1
  generalize hStart : offset + front.length = start at hBack
  cases hBack with
  | @cons _ unit rest _ hFirst hRest =>
      have hUnit := hFirst.length_payload
      have hAlign := Bytes.le_align (4 + a.payload.length)
      have hPlace : 4 + i < unit.length := by omega
      refine ⟨front.length + (4 + i), by omega, ?_, ?_⟩
      · rcases hFirst with
          ⟨size, type, -, hSize, -, -, hPayload⟩
        rw [List.getElem?_append_right (Nat.le_add_right _ _),
          Nat.add_sub_cancel_left,
          List.getElem?_append_left hPlace]
        have hInside : 4 + i < size.toNat := by
          rw [hPayload, List.length_drop, List.length_take,
            headerSize] at hByte
          omega
        rw [hPayload, List.getElem?_drop, headerSize,
          List.getElem?_take_of_lt hInside]
      · rw [List.set_append_right _ _ (Nat.le_add_right _ _),
          Nat.add_sub_cancel_left,
          List.set_append_left _ _ hPlace]
        apply hFront.append
        rw [hStart]
        have hChanged := hFirst.set_payload i byte
        have hLength :
            (unit.set (4 + i) byte).length = unit.length :=
          List.length_set
        rw [← hLength] at hRest
        exact .cons hChanged hRest

end Attribute

------------------------------------------------------------
-- Values of Winning Attributes
------------------------------------------------------------

/- Numbers of profiles are read without loss. -/
theorem Profile.number_ofNumber
    (n : UInt8) :
    (ofNumber n).number = n := by
  unfold ofNumber
  split_ifs with hZero hOne hTwo hThree
  · exact hZero.symm
  · exact hOne.symm
  · exact hTwo.symm
  · exact hThree.symm
  · rfl

theorem Crc8Checksum.ofStored_injective :
    Function.Injective ofStored := by
  have hInverse : Function.LeftInverse store ofStored := by
    rintro ⟨offsets, init, final, table, profile, data⟩
    simp [store, ofStored, Profile.number_ofNumber]
  exact hInverse.injective

namespace Attribute

/- An interface is read from the number that stands for it. -/
theorem reads_of_interface?
    {a : Attribute}
    {index : Interface.Index}
    (h : a.interface? = some index) :
    a.reads Layout.u32 = some index.value := by
  rcases Option.bind_eq_some_iff.mp h with
    ⟨value, hRead, hMake⟩
  unfold Interface.Index.make? at hMake
  split at hMake
  · cases hMake
    exact hRead
  · cases hMake

/- Functions are the same only if they were read alike. -/
theorem reads_classic_of_function?
    {a b : Attribute}
    {operation : Operation}
    (hKind : a.Is (.modification .classic operation))
    (hOther : b.Is (.modification .classic operation))
    (hSame : a.function? = b.function?) :
    a.reads Function.classicLayout =
      b.reads Function.classicLayout := by
  unfold Is at hKind hOther
  simp only [function?, hKind, hOther] at hSame
  refine Option.map_injective ?_ hSame
  rintro ⟨frame, targets⟩ ⟨frame', targets'⟩ hEqual
  cases hEqual
  rfl

theorem reads_fd_of_function?
    {a b : Attribute}
    {operation : Operation}
    (hKind : a.Is (.modification .fd operation))
    (hOther : b.Is (.modification .fd operation))
    (hSame : a.function? = b.function?) :
    a.reads Function.fdLayout = b.reads Function.fdLayout := by
  unfold Is at hKind hOther
  simp only [function?, hKind, hOther] at hSame
  refine Option.map_injective ?_ hSame
  rintro ⟨frame, targets⟩ ⟨frame', targets'⟩ hEqual
  cases hEqual
  rfl

/- So are checksums. -/
theorem reads_xor_of_checksum?
    {a b : Attribute}
    (hKind : a.Is .xorChecksum)
    (hOther : b.Is .xorChecksum)
    (hSame : a.checksum? = b.checksum?) :
    a.reads XorChecksum.layout = b.reads XorChecksum.layout := by
  unfold Is at hKind hOther
  simp only [checksum?, hKind, hOther] at hSame
  refine Option.map_injective ?_ hSame
  intro checksum checksum' hEqual
  cases hEqual
  rfl

theorem reads_crc8_of_checksum?
    {a b : Attribute}
    (hKind : a.Is .crc8Checksum)
    (hOther : b.Is .crc8Checksum)
    (hSame : a.checksum? = b.checksum?) :
    a.reads Crc8Checksum.storedLayout =
      b.reads Crc8Checksum.storedLayout := by
  unfold Is at hKind hOther
  simp only [checksum?, hKind, hOther] at hSame
  refine Option.map_injective ?_ hSame
  intro stored stored' hEqual
  injection hEqual with hChecksum
  exact Crc8Checksum.ofStored_injective hChecksum

variable {a b : Attribute} {x y : Option Attribute}

/- Attributes that give one place its value read the same. -/
theorem Gives.read_eq
    {α : Type}
    {read : Attribute → Option α}
    {absent value : α}
    (hFirst : Gives x read absent value)
    (hSecond : Gives y read absent value)
    (hX : x = some a)
    (hY : y = some b) :
    read a = read b := by
  subst hX
  subst hY
  exact hFirst.trans hSecond.symm

theorem Gives.read_eq_of_map
    {α : Type}
    {read : Attribute → Option α}
    {absent value : Option α}
    (hFirst : Gives x (fun a => (read a).map some) absent value)
    (hSecond :
      Gives y (fun a => (read a).map some) absent value)
    (hX : x = some a)
    (hY : y = some b) :
    read a = read b :=
  Option.map_injective (Option.some_injective α)
    (hFirst.read_eq hSecond hX hY)

theorem Gives.reads_eq_of_interface
    {index : Interface.Index}
    {absent : Option Interface.Index}
    (hFirst :
      Gives x (fun a => a.interface?.map some) absent
        (some index))
    (hSecond :
      Gives y (fun a => a.interface?.map some) absent
        (some index))
    (hX : x = some a)
    (hY : y = some b) :
    a.reads Layout.u32 = b.reads Layout.u32 := by
  have hSame := hFirst.read_eq_of_map hSecond hX hY
  have hOwn : a.interface? = some index := by
    subst hX
    simpa [Gives] using hFirst
  rw [reads_of_interface? hOwn,
    reads_of_interface? (hSame.symm.trans hOwn)]

end Attribute

namespace Entry

/-
  Attributes of one kind that win a place of the same entry
  agree in all significant bits.
-/
theorem Means.masked_eq
    {first second : List Attribute}
    {entry : Entry}
    {slot : Slot}
    {kind : AttributeKind}
    {a b : Attribute}
    (hFirst : Means first entry)
    (hSecond : Means second entry)
    (hWins : Attribute.winner? first slot = some a)
    (hOtherWins : Attribute.winner? second slot = some b)
    (hSlot : kind.slot? = some slot)
    (hKind : a.Is kind)
    (hOtherKind : b.Is kind)
    (hSize : kind.payloadSize ≤ a.payload.length)
    (hOtherSize : kind.payloadSize ≤ b.payload.length) :
    Bytes.masked kind.significant a.payload =
      Bytes.masked kind.significant b.payload := by
  have hMasked
      {α : Type}
      {layout : Layout α}
      (hKeeps : layout.Keeps kind.significant)
      (hSame : a.reads layout = b.reads layout) :
      Bytes.masked kind.significant a.payload =
        Bytes.masked kind.significant b.payload := by
    have hLength := hKeeps.length
    rw [kind.length_significant] at hLength
    rw [hLength] at hSize hOtherSize
    exact (hKeeps.read?_eq_iff hSize hOtherSize).mp hSame
  -- The part of the entry for the place tells what was read.
  cases kind with
  | unspecified => cases hSlot
  | modification kind operation =>
      cases hSlot
      have hSame :=
        (hFirst.function operation).read_eq_of_map
          (hSecond.function operation) hWins hOtherWins
      cases kind with
      | classic =>
          exact hMasked (Function.keeps_classicLayout operation)
            (Attribute.reads_classic_of_function? hKind
              hOtherKind hSame)
      | fd =>
          exact hMasked (Function.keeps_fdLayout operation)
            (Attribute.reads_fd_of_function? hKind hOtherKind
              hSame)
  | xorChecksum =>
      cases hSlot
      have hSame :=
        hFirst.checksum.read_eq_of_map hSecond.checksum hWins
          hOtherWins
      exact hMasked XorChecksum.keeps_layout
        (Attribute.reads_xor_of_checksum? hKind hOtherKind hSame)
  | crc8Checksum =>
      cases hSlot
      have hSame :=
        hFirst.checksum.read_eq_of_map hSecond.checksum hWins
          hOtherWins
      exact hMasked Crc8Checksum.keeps_storedLayout
        (Attribute.reads_crc8_of_checksum? hKind hOtherKind
          hSame)
  | handled =>
      cases hSlot
      exact hMasked Layout.keeps_u32
        (hFirst.handled.read_eq hSecond.handled hWins
          hOtherWins)
  | dropped =>
      cases hSlot
      exact hMasked Layout.keeps_u32
        (hFirst.dropped.read_eq hSecond.dropped hWins
          hOtherWins)
  | deleted =>
      cases hSlot
      exact hMasked Layout.keeps_u32
        (hFirst.deleted.read_eq hSecond.deleted hWins
          hOtherWins)
  | source =>
      cases hSlot
      exact hMasked Layout.keeps_u32
        (hFirst.source.reads_eq_of_interface hSecond.source
          hWins hOtherWins)
  | destination =>
      cases hSlot
      exact hMasked Layout.keeps_u32
        (hFirst.destination.reads_eq_of_interface
          hSecond.destination hWins hOtherWins)
  | filter =>
      cases hSlot
      exact hMasked Filter.keeps_layout
        (hFirst.filter.read_eq_of_map hSecond.filter hWins
          hOtherWins)
  | hopLimit =>
      cases hSlot
      exact hMasked Layout.keeps_u8
        (hFirst.hopLimit.read_eq_of_map hSecond.hopLimit hWins
          hOtherWins)
  | uid =>
      cases hSlot
      exact hMasked Layout.keeps_u32
        (hFirst.uid.read_eq_of_map hSecond.uid hWins hOtherWins)

end Entry

------------------------------------------------------------
-- Changing a Byte of a Message
------------------------------------------------------------

/- A byte behind a part of a byte string stays behind it. -/
theorem Bytes.drop_set_add
    (bytes : Bytes)
    (n i : Nat)
    (byte : UInt8) :
    (bytes.set (n + i) byte).drop n =
      (bytes.drop n).set i byte := by
  rw [List.drop_set, if_neg (by omega),
    Nat.add_sub_cancel_left]

/- Changing a byte of which all bits are selected shows. -/
theorem Bytes.masked_set_ne
    {mask bytes : Bytes}
    {i : Nat}
    {byte : UInt8}
    (hBits : mask[i]? = some 255)
    (hInside : i < bytes.length)
    (hByte : bytes[i]? ≠ some byte) :
    masked mask bytes ≠ masked mask (bytes.set i byte) := by
  intro hSame
  have hAt := congrArg (·[i]?) hSame
  have hOwn : bytes[i]? = some bytes[i] :=
    List.getElem?_eq_getElem hInside
  simp only [masked, List.getElem?_zipWith, hBits, hOwn,
    List.getElem?_set_self hInside, full_and] at hAt
  rw [hOwn] at hByte
  exact hByte hAt

/- Its flags do not make a gateway header another one. -/
theorem GatewayHeader.exists_changed
    {body : Bytes}
    {flags : RuleFlags}
    {i : Nat}
    (hHeader : layout.read? body = some (ofFlags flags))
    (hFlags : i = 2 ∨ i = 3)
    (byte : UInt8) :
    ∃ changed,
      layout.read? (body.set i byte) =
        some (ofFlags changed) := by
  have hLength := length_of_read? hHeader
  rcases exists_read hLength with
    ⟨own, hOwn, hFamily, hType⟩
  rw [hHeader] at hOwn
  cases hOwn
  have hChangedLength : size ≤ (body.set i byte).length := by
    rw [List.length_set]
    exact hLength
  rcases exists_read hChangedLength with
    ⟨⟨family, type, changed⟩, hRead, hOtherFamily,
      hOtherType⟩
  rw [List.getElem?_set_ne (by omega), hFamily] at hOtherFamily
  rw [List.getElem?_set_ne (by omega), hType] at hOtherType
  cases hOtherFamily
  cases hOtherType
  exact ⟨changed, hRead⟩

namespace Framed

variable {bytes : Bytes} {message : Framed}

/- A byte behind the header has no influence on the length. -/
theorem split_set
    {position : Nat}
    (hSplit : split bytes = .ok message)
    (hBehind : Header.size ≤ position)
    (byte : UInt8) :
    split (bytes.set position byte) =
      .ok
        { message with
          bytes := message.bytes.set position byte } := by
  rcases split_eq_ok_iff.mp hSplit with
    ⟨hHeader, -, -, hBytes, -⟩
  rw [← Header.layout.read?_set bytes byte hBehind] at hHeader
  rw [split_of_length_eq hSplit List.length_set.symm hHeader
    rfl, List.take_set, hBytes]

/- A message has the bytes of what it was cut off. -/
theorem getElem?_of_split
    {position : Nat}
    {byte : UInt8}
    (hSplit : split bytes = .ok message)
    (h : message.bytes[position]? = some byte) :
    bytes[position]? = some byte := by
  rcases split_eq_ok_iff.mp hSplit with ⟨-, -, -, hBytes, -⟩
  rw [hBytes, List.getElem?_take] at h
  split at h
  · exact h
  · cases h

/-
  Changing a byte of a payload in a message changes nothing
  else that the message lists.
-/
theorem Lists.setByte
    {header : GatewayHeader}
    {before after : List Attribute}
    {a : Attribute}
    {i : Nat}
    (h : message.Lists header (before ++ a :: after))
    (hInside : i < a.payload.length)
    (byte : UInt8) :
    Header.size ≤ a.offset + 4 + i ∧
      message.bytes[a.offset + 4 + i]? = a.payload[i]? ∧
      Lists
        { message with
          bytes := message.bytes.set (a.offset + 4 + i) byte }
        header (before ++ a.setByte i byte :: after) := by
  rcases h.attributes.set_payload hInside byte with
    ⟨place, hPlace, hSame, hSequence⟩
  rw [Nat.add_assoc Header.size] at hPlace
  rw [hPlace]
  refine ⟨Nat.le_add_right _ _, ?_, h.type, ?_, ?_⟩
  · rw [← hSame, List.getElem?_drop, List.getElem?_drop]
  · change
      GatewayHeader.layout.read?
        ((message.bytes.set _ byte).drop Header.size) = _
    rw [Bytes.drop_set_add,
      GatewayHeader.layout.read?_set _ byte
        (Nat.le_add_right GatewayHeader.size place)]
    exact h.header
  · change
      Attribute.Sequence _
        (((message.bytes.set _ byte).drop Header.size).drop
          GatewayHeader.size) _
    rw [Bytes.drop_set_add, Bytes.drop_set_add]
    exact hSequence

end Framed

namespace Entry

variable {before after : List Attribute} {a : Attribute}

theorem names_setByte
    {kind : AttributeKind}
    (i : Nat)
    (byte : UInt8)
    (h : Names (before ++ a :: after) kind) :
    Names (before ++ a.setByte i byte :: after) kind := by
  rcases h with ⟨b, hMember, hKind⟩
  rcases List.mem_append.mp hMember with hBefore | hOther
  · exact ⟨b, List.mem_append_left _ hBefore, hKind⟩
  · rcases List.mem_cons.mp hOther with rfl | hAfter
    · exact ⟨b.setByte i byte, by simp, hKind⟩
    · exact ⟨b, by simp [hAfter], hKind⟩

theorem sound_setByte
    {i : Nat}
    {byte : UInt8}
    (h : Sound (before ++ a :: after))
    (hChanged : (a.setByte i byte).defect? = none) :
    Sound (before ++ a.setByte i byte :: after) := by
  intro b hMember
  rcases List.mem_append.mp hMember with hBefore | hOther
  · exact h b (List.mem_append_left _ hBefore)
  · rcases List.mem_cons.mp hOther with rfl | hAfter
    · exact hChanged
    · exact h b (by simp [hAfter])

end Entry

namespace Response

/- A message that lists what an entry needs is decoded. -/
theorem exists_decode_of_lists
    {bytes : Bytes}
    {message : Framed}
    {flags : RuleFlags}
    {attributes : List Attribute}
    (hSplit : Framed.split bytes = .ok message)
    (hLists :
      message.Lists (GatewayHeader.ofFlags flags) attributes)
    (hSound : Entry.Sound attributes)
    (hSource : Entry.Names attributes .source)
    (hDestination : Entry.Names attributes .destination) :
    ∃ entry,
      decode bytes =
          .ok
            ({ sequence := message.header.sequence,
               sender := message.header.sender,
               flags := message.header.flags,
               kind := .entry entry },
              message.used) ∧
        Entry.Means attributes entry ∧
        entry.rule.flags = flags := by
  have hHeader := decodeHeader_of_lists hLists
  rcases Entry.decode_of_accepts hHeader
      ⟨attributes, hLists.attributes, hSound, hSource,
        hDestination⟩ with
    ⟨entry, hEntry⟩
  rcases Entry.exists_means_of_decode hHeader hEntry with
    ⟨found, hFound, -, hMeans, hFlags⟩
  have hSame : found = attributes := by
    have hWalk := Attribute.sequence_iff.mp hFound
    rw [Attribute.sequence_iff.mp hLists.attributes] at hWalk
    exact (congrArg AttributeWalk.attributes hWalk).symm
  rw [hSame] at hMeans
  exact
    ⟨entry, decode_of_lists hSplit hLists hEntry, hMeans,
      hFlags⟩

section Change

variable {bytes : Bytes} {message : Framed}
variable {attributes : List Attribute} {entry : Entry}

/- A byte of the winner of a place shows in the entry. -/
theorem exists_changed_of_value
    {slot : Slot}
    {kind : AttributeKind}
    {a : Attribute}
    {i : Nat}
    {byte : UInt8}
    (hSplit : Framed.split bytes = .ok message)
    (hLists :
      message.Lists (GatewayHeader.ofFlags entry.rule.flags)
        attributes)
    (hSound : Entry.Sound attributes)
    (hMeans : Entry.Means attributes entry)
    (hWins : Attribute.winner? attributes slot = some a)
    (hKind : a.Is kind)
    (hBits : kind.significant[i]? = some 255)
    (hInterface :
      kind = .source ∨ kind = .destination →
        Layout.u32.read? (a.payload.set i byte) ≠ some 0)
    (hByte : bytes[a.offset + 4 + i]? ≠ some byte) :
    ∃ changed,
      changed ≠ entry ∧
        decode (bytes.set (a.offset + 4 + i) byte) =
          .ok
            ({ sequence := message.header.sequence,
               sender := message.header.sender,
               flags := message.header.flags,
               kind := .entry changed },
              message.used) := by
  rcases Attribute.exists_parts_of_winner? hWins with
    ⟨before, after, rfl, hSlot, hReplaced⟩
  let b := a.setByte i byte
  have hSize : kind.payloadSize ≤ a.payload.length :=
    Attribute.payloadSize_le_of_defect? hKind
      (hSound a (by simp))
  have hInside : i < a.payload.length := by
    have hBelow :=
      (List.getElem?_eq_some_iff.mp hBits).1
    rw [kind.length_significant] at hBelow
    omega
  have hOtherSize : kind.payloadSize ≤ b.payload.length := by
    change _ ≤ (a.payload.set i byte).length
    rw [List.length_set]
    exact hSize
  have hChanged : b.defect? = none :=
    Attribute.defect?_eq_none hKind hOtherSize hInterface
  rcases hLists.setByte hInside byte with
    ⟨hBehind, hSame, hChangedLists⟩
  have hNew : a.payload[i]? ≠ some byte := by
    intro hOld
    rw [← hSame] at hOld
    exact hByte (Framed.getElem?_of_split hSplit hOld)
  rcases hMeans.names with ⟨hSource, hDestination⟩
  rcases exists_decode_of_lists
      (Framed.split_set hSplit hBehind byte) hChangedLists
      (Entry.sound_setByte hSound hChanged)
      (Entry.names_setByte i byte hSource)
      (Entry.names_setByte i byte hDestination) with
    ⟨changed, hDecode, hChangedMeans, -⟩
  refine ⟨changed, ?_, hDecode⟩
  -- In one entry, the old and the new winner would agree in all
  -- significant bits, of which the changed byte is made.
  rintro rfl
  have hMasked :=
    hMeans.masked_eq hChangedMeans hWins (hReplaced b hSlot)
      ((Attribute.slot?_of_is hKind).symm.trans hSlot)
      hKind hKind hSize hOtherSize
  exact Bytes.masked_set_ne hBits hInside hNew hMasked

/- A byte of the flags of a rule shows in the entry. -/
theorem exists_changed_of_flags
    {i : Nat}
    {byte : UInt8}
    (hSplit : Framed.split bytes = .ok message)
    (hLists :
      message.Lists (GatewayHeader.ofFlags entry.rule.flags)
        attributes)
    (hSound : Entry.Sound attributes)
    (hMeans : Entry.Means attributes entry)
    (hFlags : i = 2 ∨ i = 3)
    (hByte : bytes[Header.size + i]? ≠ some byte) :
    ∃ changed,
      changed ≠ entry ∧
        decode (bytes.set (Header.size + i) byte) =
          .ok
            ({ sequence := message.header.sequence,
               sender := message.header.sender,
               flags := message.header.flags,
               kind := .entry changed },
              message.used) := by
  let body := message.bytes.drop Header.size
  have hBody :
      (message.bytes.set (Header.size + i) byte).drop
          Header.size = body.set i byte :=
    Bytes.drop_set_add _ _ _ _
  have hLength : GatewayHeader.size ≤ body.length :=
    GatewayHeader.length_of_read? hLists.header
  have hInside : i < GatewayHeader.size := by
    unfold GatewayHeader.size
    omega
  rcases GatewayHeader.exists_changed hLists.header hFlags byte
    with ⟨flags, hHeader⟩
  have hChangedLists :
      Framed.Lists
        { message with
          bytes := message.bytes.set (Header.size + i) byte }
        (GatewayHeader.ofFlags flags) attributes := by
    refine ⟨hLists.type, ?_, ?_⟩
    · rw [hBody]
      exact hHeader
    · rw [hBody, List.drop_set, if_pos hInside]
      exact hLists.attributes
  rcases hMeans.names with ⟨hSource, hDestination⟩
  rcases exists_decode_of_lists
      (Framed.split_set hSplit (Nat.le_add_right _ i) byte)
      hChangedLists hSound hSource hDestination with
    ⟨changed, hDecode, -, hChangedFlags⟩
  refine ⟨changed, ?_, hDecode⟩
  -- Equal flags would have been read from equal bytes.
  rintro rfl
  rw [← hChangedFlags] at hHeader
  have hNew : body[i]? ≠ some byte := by
    intro hOld
    rw [List.getElem?_drop] at hOld
    exact hByte (Framed.getElem?_of_split hSplit hOld)
  have hMasked :=
    (GatewayHeader.keeps_layout.read?_eq_iff hLength
      (by rw [List.length_set]; exact hLength)).mp
        (hLists.header.trans hHeader.symm)
  refine
    Bytes.masked_set_ne ?_ (Nat.lt_of_lt_of_le hInside hLength)
      hNew hMasked
  rw [List.getElem?_replicate, if_pos hInside]

end Change

/-
  Whether a byte shows in the entry when it is put at some
  position of a message: among the flags of the rule, or in
  the value that wins a place, as long as an interface does
  not become zero.
-/
inductive Decides
    (attributes : List Attribute) : Nat → UInt8 → Prop where
  | flags
      {i : Nat}
      (hFlags : i = 2 ∨ i = 3)
      (byte : UInt8) :
      Decides attributes (Header.size + i) byte
  | value
      {slot : Slot}
      {kind : AttributeKind}
      {a : Attribute}
      {i : Nat}
      {byte : UInt8}
      (hWins : Attribute.winner? attributes slot = some a)
      (hKind : a.Is kind)
      (hBits : kind.significant[i]? = some 255)
      (hInterface :
        kind = .source ∨ kind = .destination →
          Layout.u32.read? (a.payload.set i byte) ≠ some 0) :
      Decides attributes (a.offset + 4 + i) byte

/-
  A rule message that is decoded to an entry lists attributes
  that tell which of its bits matter.  Another message of the
  same size that agrees in these bits is decoded to the same
  entry.  When a byte is changed that decides, the message is
  decoded to another entry.
-/
theorem decode_bytewise
    {bytes : Bytes}
    {response : Response}
    {used : Nat}
    {entry : Entry}
    (hDecode : decode bytes = .ok (response, used))
    (hEntry : response.kind = .entry entry) :
    ∃ message header attributes,
      Framed.split bytes = .ok message ∧
        message.Lists header attributes ∧
        (significant attributes).length =
          message.bytes.length ∧
        (∀ others : Bytes,
          bytes.length = others.length →
            Bytes.masked (significant attributes) bytes =
                Bytes.masked (significant attributes) others →
              ∃ sequence sender flags,
                decode others =
                  .ok (⟨sequence, sender, flags, .entry entry⟩,
                    used)) ∧
        ∀ position byte,
          Decides attributes position byte →
            bytes[position]? ≠ some byte →
              ∃ changed,
                changed ≠ entry ∧
                  decode (bytes.set position byte) =
                    .ok
                      ({ response with kind := .entry changed },
                        used) := by
  rcases exists_framed_of_decode hDecode with
    ⟨message, hSplit, rfl, hMeaning⟩
  rcases ofFramed_eq_entry_iff.mp ⟨hMeaning, hEntry⟩ with
    ⟨header, attributes, hLists, rfl, hSound, hMeans, rfl⟩
  refine
    ⟨message, _, attributes, hSplit, hLists,
      length_significant hLists hSound, ?_, ?_⟩
  · intro others hLength hSame
    exact
      exists_decode_of_masked hSplit hLists hSound hMeans
        hLength hSame
  · intro position byte hDecides hByte
    cases hDecides with
    | flags hFlags =>
        exact
          exists_changed_of_flags hSplit hLists hSound hMeans
            hFlags hByte
    | value hWins hKind hBits hInterface =>
        exact
          exists_changed_of_value hSplit hLists hSound hMeans
            hWins hKind hBits hInterface hByte

/-
  A message with bytes behind a template, two checksums, and an
  attribute of an unknown kind.
-/
def redundant : Bytes :=
  [84, 0, 0, 0, 24, 0, 2, 0, 7, 0, 0, 0, 0, 0, 0, 0,
    29, 1, 1, 0,
    22, 0, 3, 0, 35, 1, 0, 0, 8, 170, 170, 0,
    1, 2, 3, 4, 5, 6, 7, 8, 4, 255, 0, 0,
    8, 0, 5, 0, 254, 255, 0, 170,
    8, 0, 5, 0, 1, 1, 1, 1,
    6, 0, 20, 0, 9, 9, 0, 0,
    8, 0, 9, 0, 1, 0, 0, 0,
    8, 0, 10, 64, 2, 0, 0, 0]

/- The same message with other bytes wherever they may be. -/
def redundantChanged : Bytes :=
  [84, 0, 0, 0, 24, 0, 5, 1, 9, 8, 7, 6, 5, 4, 3, 2,
    29, 1, 1, 0,
    22, 0, 3, 128, 35, 1, 0, 0, 8, 1, 2, 0,
    1, 2, 3, 4, 5, 6, 7, 8, 4, 3, 4, 5,
    8, 0, 5, 64, 254, 255, 0, 170,
    8, 0, 5, 0, 6, 7, 8, 9,
    6, 0, 20, 192, 10, 11, 12, 13,
    8, 0, 9, 192, 1, 0, 0, 0,
    8, 0, 10, 0, 2, 0, 0, 0]

theorem decode_bytewise_redundant :
    ∃ response entry,
      decode redundant = .ok (response, 84) ∧
        response.kind = .entry entry ∧
        (∃ sequence sender flags,
          decode redundantChanged =
            .ok (⟨sequence, sender, flags, .entry entry⟩,
              84)) ∧
        ∃ changed,
          changed ≠ entry ∧
            decode (redundant.set 40 1) =
              .ok ({ response with kind := .entry changed },
                84) := by
  let template : Frame :=
    .classic ⟨291, 8, 0, ⟨[1, 2, 3, 4, 5, 6, 7, 8], rfl⟩⟩
  let entry : Entry :=
    { rule :=
        { source := ⟨1, by decide⟩,
          destination := ⟨2, by decide⟩,
          flags := RuleFlags.echo,
          modification :=
            some { onXor := some ⟨Targets.data, template⟩ },
          checksum := some (.xor ⟨⟨-2, -1, 0⟩, 170⟩) } }
  let response : Response := ⟨7, 0, 2, .entry entry⟩
  have hDecode : decode redundant = .ok (response, 84) := by
    cbv
  refine ⟨response, entry, hDecode, rfl, ?_⟩
  rcases decode_bytewise hDecode rfl with
    ⟨message, header, attributes, hSplit, hLists, -, hIgnored,
      hDecides⟩
  have hMessage :
      Framed.split redundant =
        .ok ⟨⟨84, 24, 2, 7, 0⟩, redundant, 84⟩ := by
    cbv
  cases hSplit.symm.trans hMessage
  let a : Attribute :=
    ⟨3, [35, 1, 0, 0, 8, 170, 170, 0,
        1, 2, 3, 4, 5, 6, 7, 8, 4, 255], 20⟩
  let others : List Attribute :=
    [⟨5, [254, 255, 0, 170], 44⟩, ⟨5, [1, 1, 1, 1], 52⟩,
      ⟨20, [9, 9], 60⟩, ⟨9, [1, 0, 0, 0], 68⟩,
      ⟨10, [2, 0, 0, 0], 76⟩]
  have hWalk :
      AttributeWalk.ofBytes (redundant.drop 20) 20 =
        ⟨a :: others, none⟩ := by
    cbv
  cases
    (Attribute.sequence_iff.mp hLists.attributes).symm.trans
      hWalk
  refine ⟨hIgnored redundantChanged rfl (by cbv), ?_⟩
  have hWins :
      Attribute.winner? (a :: others) (.function .xor) =
        some a := by
    cbv
  have hKind : a.Is (.modification .classic .xor) := rfl
  have hBits :
      (AttributeKind.modification .classic .xor).significant[16]? =
        some 255 := by
    cbv
  exact
    hDecides 40 1 (.value hWins hKind hBits (by simp))
      (by decide)

end Response

end GatewayRules
