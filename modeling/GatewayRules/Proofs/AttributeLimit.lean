import GatewayRules.Proofs.AttributeGrammar
import GatewayRules.Proofs.AttributeWalk

/-
  How long the payload of an attribute can be.  The length of
  an attribute is stored in sixteen bits, of which the header
  takes its part.  Attributes that are appended to a message
  are found again, each where it was appended, exactly if no
  payload is longer than what is left; a walk goes wrong at the
  first one that is.

  Main declarations:
    * `Builder.walk`
    * `Builder.appended` and `Builder.appended_eq_place`
    * `Attribute.broken_oversized`
    * `Attribute.fills_oversized`
    * `Builder.walk_appended`
-/

------------------------------------------------------------
-- Payloads That Are Too Long
------------------------------------------------------------

namespace GatewayRules

namespace Attribute

variable {payload : Bytes}

/- The length field of an attribute forgets what it cannot hold. -/
theorem toNat_ofNat_length
    (payload : Bytes) :
    (UInt16.ofNat (4 + payload.length)).toNat =
      (4 + payload.length) % 0x10000 :=
  UInt16.toNat_ofNat'

/- What is left of some lengths does not cover the header. -/
theorem broken_oversized
    (type : UInt16)
    (rest : Bytes)
    (h : (4 + payload.length) % 0x10000 < 4) :
    Broken (encode type payload ++ rest)
      .attributeShorterThanHeader := by
  apply Broken.short (read?_encode_append type payload rest)
  rw [toNat_ofNat_length]
  exact h

/- Otherwise, a part of the payload is taken for the whole. -/
theorem fills_oversized
    (type : UInt16)
    (offset : Nat)
    (h : 4 ≤ (4 + payload.length) % 0x10000) :
    Fills
      { number := type &&& numberMask,
        payload :=
          payload.take ((4 + payload.length) % 0x10000 - 4),
        offset }
      ((encode type payload).take
        (Bytes.align ((4 + payload.length) % 0x10000))) := by
  have hSize := Nat.mod_le (4 + payload.length) 0x10000
  have hRead := read?_encode_append type payload []
  rw [List.append_nil] at hRead
  generalize hLength :
    (4 + payload.length) % 0x10000 = size at h hSize ⊢
  have hAlign := Bytes.le_align size
  refine
    ⟨UInt16.ofNat (4 + payload.length), type, ?_, ?_, ?_, rfl, ?_⟩
  · rw [headerLayout.read?_take _ (Nat.le_trans h hAlign)]
    exact hRead
  · rw [toNat_ofNat_length, hLength]
    exact h
  · rw [toNat_ofNat_length, hLength]
    apply List.length_take_of_le
    rw [length_encode]
    unfold Bytes.align
    omega
  · rw [toNat_ofNat_length, hLength, List.take_take,
      Nat.min_eq_left hAlign, List.drop_take, encode_eq,
      List.append_assoc, List.drop_left' (by simp),
      List.take_append_of_le_length]
    · rfl
    · unfold headerSize
      omega

/- A type that is small enough is a number by itself. -/
theorem and_numberMask_of_lt
    {type : UInt16}
    (h : type < 0x4000) :
    type &&& numberMask = type := by
  have hMask : numberMask.toNat = 2 ^ 14 - 1 := rfl
  rw [← UInt16.toNat_inj, UInt16.toNat_and, hMask,
    Nat.and_two_pow_sub_one_eq_mod]
  exact Nat.mod_eq_of_lt h

end Attribute

------------------------------------------------------------
-- Appending Attributes
------------------------------------------------------------

namespace Builder

variable {builder : Builder}
variable {items : List (UInt16 × Bytes)}

/-
  The attributes that are added, each at the offset where the
  message ended when it was.
-/
def appended
    (builder : Builder) : List (UInt16 × Bytes) → List Attribute
  | [] => []
  | item :: items =>
      { number := item.1,
        payload := item.2,
        offset := builder.length } ::
        appended (builder.appendAttribute item.1 item.2) items

/-
  A walk over the attributes of a finished message, which come
  after its header and the gateway header.
-/
def walk (builder : Builder) : AttributeWalk :=
  AttributeWalk.ofBytes (builder.finish.drop 20) 20

/- Where the message ends once attributes are added. -/
theorem length_appendItems
    (items : List (UInt16 × Bytes))
    (h : 4 ∣ builder.body.length) :
    (builder.appendItems items).length =
      builder.length + (Attribute.encodeAll items).length := by
  unfold length
  rw [body_appendItems items h, List.length_append,
    Nat.add_assoc]

/- Adding attributes in two goes adds all of them. -/
theorem appended_append
    (first second : List (UInt16 × Bytes)) :
    builder.appended (first ++ second) =
      builder.appended first
        ++ (builder.appendItems first).appended second := by
  induction first generalizing builder with
  | nil => rfl
  | cons item first ih =>
      exact congrArg _ ih

/- Small types are found as they are, everything in its place. -/
theorem appended_eq_place
    (hTypes : ∀ item ∈ items, item.1 < 0x4000)
    (h : 4 ∣ builder.body.length) :
    builder.appended items =
      Attribute.place builder.length items := by
  induction items generalizing builder with
  | nil => rfl
  | cons item items ih =>
      have hNumber := Attribute.and_numberMask_of_lt
        (hTypes item List.mem_cons_self)
      have hLength := length_appendItems [item] h
      rw [Attribute.encodeAll_cons, Attribute.encodeAll_nil,
        List.append_nil] at hLength
      have hRest := ih
        (fun other hOther =>
          hTypes other (List.mem_cons_of_mem _ hOther))
        (dvd_appendAttribute item.1 item.2 h)
      unfold appended Attribute.place Attribute.placed
      rw [hNumber, hRest, ← hLength]
      rfl

end Builder

------------------------------------------------------------
-- Walking Appended Attributes
------------------------------------------------------------

/-
  Whether a walk finds some attributes, but not a further one
  with a payload that is too long.  If what is left of its
  length does not cover the header, then the walk is stopped
  there; otherwise, a part of the payload is taken for it.
-/
structure AttributeWalk.Misses
    (walk : AttributeWalk)
    (before : List Attribute)
    (a : Attribute) : Prop where
  stopped :
    (4 + a.payload.length) % 0x10000 < 4 →
      walk =
        ⟨before,
          some (.malformed a.offset
            .attributeShorterThanHeader)⟩
  shortened :
    4 ≤ (4 + a.payload.length) % 0x10000 →
      let part :=
        a.payload.take ((4 + a.payload.length) % 0x10000 - 4)
      part ≠ a.payload ∧
        before ++ [{ a with payload := part }]
          <+: walk.attributes

/- A walk does not find an attribute that it misses. -/
theorem AttributeWalk.Misses.ne
    {walk : AttributeWalk}
    {before : List Attribute}
    {a : Attribute}
    (h : walk.Misses before a)
    (others : List Attribute) :
    walk ≠ ⟨before ++ a :: others, none⟩ := by
  rintro rfl
  rcases Nat.lt_or_ge ((4 + a.payload.length) % 0x10000) 4 with
    hSize | hSize
  · cases congrArg AttributeWalk.fault (h.stopped hSize)
  · rcases h.shortened hSize with ⟨hPart, hPrefix⟩
    rw [List.prefix_append_right_inj,
      List.cons_prefix_cons] at hPrefix
    exact hPart (congrArg Attribute.payload hPrefix.1)

namespace Builder

variable {builder : Builder}

/-
  A walk finds short payloads, and goes on after them with
  whatever was added then.
-/
theorem walk_appendItems_append
    {front : List (UInt16 × Bytes)}
    (back : List (UInt16 × Bytes))
    (hBody : builder.body.length = 4)
    (hTypes : ∀ item ∈ front, item.1 < 0x4000)
    (hShort :
      ∀ item ∈ front,
        item.2.length ≤ Attribute.maxPayload) :
    (builder.appendItems (front ++ back)).walk =
      let rest :=
        AttributeWalk.ofBytes (Attribute.encodeAll back)
          (builder.appendItems front).length
      ⟨builder.appended front ++ rest.attributes,
        rest.fault⟩ := by
  have hAligned : 4 ∣ builder.body.length :=
    ⟨1, hBody⟩
  have hLength : builder.length = 20 := by
    unfold length
    rw [hBody]
    rfl
  have hDrop :
      (builder.appendItems (front ++ back)).finish.drop 20 =
        Attribute.encodeAll front
          ++ Attribute.encodeAll back := by
    have hFinish :=
      drop_finish (builder.appendItems (front ++ back))
    rw [body_appendItems _ hAligned] at hFinish
    have hItems := congrArg (List.drop 4) hFinish
    rw [List.drop_drop, List.drop_left' hBody] at hItems
    rw [← Attribute.encodeAll_append]
    exact hItems
  have hFront :
      Attribute.Sequence 20 (Attribute.encodeAll front)
        (builder.appended front) := by
    rw [appended_eq_place hTypes hAligned, hLength]
    exact Attribute.sequence_iff.mpr
      (AttributeWalk.ofBytes_encodeAll 20 hShort)
  unfold walk
  rw [hDrop, hFront.ofBytes_append,
    length_appendItems front hAligned, hLength]

/-
  A walk misses the first payload that is too long, whatever
  was added after it.
-/
theorem misses_oversized
    {front : List (UInt16 × Bytes)}
    (item : UInt16 × Bytes)
    (rest : List (UInt16 × Bytes))
    (hBody : builder.body.length = 4)
    (hTypes :
      ∀ other ∈ front ++ item :: rest, other.1 < 0x4000)
    (hShort :
      ∀ other ∈ front,
        other.2.length ≤ Attribute.maxPayload)
    (hLong : Attribute.maxPayload < item.2.length) :
    (builder.appendItems (front ++ item :: rest)).walk.Misses
      (builder.appended front)
      { number := item.1,
        payload := item.2,
        offset := (builder.appendItems front).length } := by
  have hWalk :=
    walk_appendItems_append (item :: rest) hBody
      (fun other hOther =>
        hTypes other (List.mem_append_left _ hOther))
      hShort
  rw [Attribute.encodeAll_cons] at hWalk
  constructor
  · intro hSize
    have hBroken :=
      Attribute.broken_oversized item.1
        (Attribute.encodeAll rest) hSize
    rw [hWalk, AttributeWalk.ofBytes_of_broken hBroken]
    simp only [List.append_nil]
  · intro hSize part
    have hFills :=
      Attribute.fills_oversized item.1
        (builder.appendItems front).length hSize
    rw [Attribute.and_numberMask_of_lt
      (hTypes item (by simp))] at hFills
    have hOne := Attribute.Sequence.cons hFills (.nil _)
    rw [List.append_nil] at hOne
    have hPart : part ≠ item.2 := by
      intro hEq
      have hLength := congrArg List.length hEq
      rw [List.length_take] at hLength
      unfold Attribute.maxPayload at hLong
      omega
    refine ⟨hPart, ?_⟩
    rw [hWalk,
      ← List.take_append_drop
        (Bytes.align ((4 + item.2.length) % 0x10000))
        (Attribute.encode item.1 item.2),
      List.append_assoc, hOne.ofBytes_append]
    exact (List.prefix_append_right_inj _).mpr
      (List.prefix_append _ _)

/- If some payload is too long, one of them is the first. -/
theorem exists_first_oversized
    {items : List (UInt16 × Bytes)}
    (h :
      ¬ ∀ item ∈ items,
        item.2.length ≤ Attribute.maxPayload) :
    ∃ front item rest,
      items = front ++ item :: rest ∧
        (∀ other ∈ front,
          other.2.length ≤ Attribute.maxPayload) ∧
        Attribute.maxPayload < item.2.length := by
  induction items with
  | nil => exact absurd (List.forall_mem_nil _) h
  | cons item items ih =>
      rcases Nat.lt_or_ge Attribute.maxPayload item.2.length with
        hLong | hShort
      · exact ⟨[], item, items, rfl, List.forall_mem_nil _,
          hLong⟩
      · rw [List.forall_mem_cons] at h
        rcases ih fun hRest => h ⟨hShort, hRest⟩ with
          ⟨front, first, rest, rfl, hFront, hLong⟩
        exact ⟨item :: front, first, rest, rfl,
          List.forall_mem_cons.mpr ⟨hShort, hFront⟩, hLong⟩

/-
  Attributes with small types that are added after the gateway
  header are found again as they were added exactly if no
  payload is longer than 65531 bytes; a walk misses the first
  one that is.
-/
theorem walk_appended
    (type flags : UInt16)
    (header : GatewayHeader)
    {items : List (UInt16 × Bytes)}
    (hTypes : ∀ item ∈ items, item.1 < 0x4000) :
    let builder := (start type flags).appendGatewayHeader header
    let walk := (builder.appendItems items).walk
    (walk = ⟨builder.appended items, none⟩ ↔
        ∀ item ∈ items, item.2.length ≤ 65531) ∧
      ∀ front item rest,
        items = front ++ item :: rest →
          (∀ other ∈ front, other.2.length ≤ 65531) →
            65531 < item.2.length →
              walk.Misses (builder.appended front)
                { number := item.1,
                  payload := item.2,
                  offset :=
                    (builder.appendItems front).length } := by
  intro builder walk
  have hBody : builder.body.length = 4 := by
    simp [builder, start, appendGatewayHeader, append,
      GatewayHeader.size, Bytes.align]
  refine ⟨⟨?_, ?_⟩, ?_⟩
  · intro hWalk
    apply Decidable.byContradiction
    intro hSome
    rcases exists_first_oversized hSome with
      ⟨front, item, rest, rfl, hShort, hLong⟩
    have hMisses :=
      misses_oversized item rest hBody hTypes hShort hLong
    rw [appended_append] at hWalk
    exact hMisses.ne _ hWalk
  · intro hShort
    have hWalk :=
      walk_appendItems_append [] hBody hTypes hShort
    rw [List.append_nil, Attribute.encodeAll_nil,
      AttributeWalk.ofBytes_nil] at hWalk
    simpa using hWalk
  · rintro front item rest rfl hShort hLong
    exact misses_oversized item rest hBody hTypes hShort hLong

/-
  At the limit, the next attribute is 65536 bytes further on;
  a byte more, and a walk is stopped.
-/
theorem walk_appended_at_limit :
    let builder :=
      (start 24 1).appendGatewayHeader (.ofFlags ⟨0⟩)
    let longest : Bytes := List.replicate 65531 0
    let items : List (UInt16 × Bytes) :=
      [(1, longest), (0x3FFF, [7]), (2, 0 :: longest)]
    (∀ item ∈ items, item.1 < 0x4000) ∧
      (builder.appendItems items).walk =
        ⟨[⟨1, longest, 20⟩, ⟨0x3FFF, [7], 65556⟩],
          some (.malformed 65564
            .attributeShorterThanHeader)⟩ := by
  intro builder longest items
  have hLength : longest.length = 65531 :=
    List.length_replicate
  have hOver : (0 :: longest).length = 65532 := by
    rw [List.length_cons, hLength]
  have hTypes : ∀ item ∈ items, item.1 < 0x4000 := by
    simp [items]
  have hShort (other : UInt16 × Bytes) :
      other ∈ [(1, longest), (0x3FFF, [7])] →
        other.2.length ≤ 65531 := by
    revert other
    rw [List.forall_mem_cons, List.forall_mem_singleton]
    exact ⟨Nat.le_of_eq hLength, by decide⟩
  have hLong : 65531 < (0 :: longest).length := by
    omega
  have hMisses :=
    (walk_appended 24 1 (.ofFlags ⟨0⟩) hTypes).2
      [(1, longest), (0x3FFF, [7])] (2, 0 :: longest) [] rfl
      hShort hLong
  have hAligned : 4 ∣ builder.body.length := ⟨1, rfl⟩
  have hStart : builder.length = 20 := rfl
  have hFirst :
      (builder.appendItems [(1, longest)]).length = 65556 := by
    rw [length_appendItems _ hAligned, hStart,
      Attribute.encodeAll_cons, Attribute.encodeAll_nil,
      List.append_nil, Attribute.length_encode, hLength]
    rfl
  have hSecond :
      (builder.appendItems
        [(1, longest), (0x3FFF, [7])]).length = 65564 := by
    rw [length_appendItems _ hAligned, hStart,
      Attribute.encodeAll_cons, List.length_append,
      Attribute.length_encode, hLength]
    rfl
  have hLeft : (4 + (0 :: longest).length) % 0x10000 < 4 := by
    omega
  have hWalk := hMisses.stopped hLeft
  have hFront :
      builder.appended [(1, longest), (0x3FFF, [7])] =
        [⟨1, longest, 20⟩, ⟨0x3FFF, [7], 65556⟩] := by
    unfold appended appended appended
    rw [← hFirst]
    rfl
  rw [hFront, hSecond] at hWalk
  exact ⟨hTypes, hWalk⟩

end Builder

end GatewayRules
