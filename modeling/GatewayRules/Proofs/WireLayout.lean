import GatewayRules.Proofs.RuleRequests
import Mathlib

/-
  The layout of entries on the wire.  Behind its headers, the
  message of an entry holds one attribute for each thing that
  the entry says, in a fixed order, and nothing else.  All
  lengths follow from what there is to say, and all bytes that
  say nothing are zero.

  Main declarations:
    * `Attribute.Laid`
    * `Entry.outline` and `Entry.wireLength`
    * `Attribute.laid_encodeAll`
    * `Entry.sizes_attributes`
    * `Answer.entry_laidOut`
-/

------------------------------------------------------------
-- What Entries Look Like
------------------------------------------------------------

namespace GatewayRules

/-
  Whether bytes are attributes, one after the other: the length
  of header and payload, the type, the payload, and zeros that
  reach to the boundary.
-/
inductive Attribute.Laid :
    Bytes → List (UInt16 × Bytes) → Prop where
  | nil : Laid [] []
  | cons
      {size type : UInt16}
      {payload rest : Bytes}
      {padding : Nat}
      {others : List (UInt16 × Bytes)}
      (hSize : size.toNat = 4 + payload.length)
      (hPadding : padding < 4)
      (hBoundary : 4 ∣ 4 + payload.length + padding)
      (hRest : Laid rest others) :
      Laid
        (Layout.u16.write size ++ Layout.u16.write type
          ++ payload ++ List.replicate padding 0 ++ rest)
        ((type, payload) :: others)

/- The places of the reserved bytes in a stored template. -/
def FrameKind.reserved : FrameKind → List Nat
  | .classic => [5, 6]
  | .fd => [6, 7]

/- Type and payload size of the attribute of a function. -/
def Function.outline
    (operation : Operation)
    (f : Function) : UInt16 × Nat :=
  match f.template.kind, operation with
  | .classic, .and => (1, 17)
  | .classic, .or => (2, 17)
  | .classic, .xor => (3, 17)
  | .classic, .set => (4, 17)
  | .fd, .and => (15, 73)
  | .fd, .or => (16, 73)
  | .fd, .xor => (17, 73)
  | .fd, .set => (18, 73)

/- Type and payload size of the attribute of a checksum. -/
def Checksum.outline : Checksum → UInt16 × Nat
  | .xor _ => (5, 4)
  | .crc8 _ => (6, 282)

/- The number of bytes of the attribute of a checksum. -/
def Checksum.wireLength : Checksum → Nat
  | .xor _ => 8
  | .crc8 _ => 288

namespace Entry

/- A counter has an attribute unless it is zero. -/
def counterOutline
    (type : UInt16)
    (count : UInt32) : Option (UInt16 × Nat) :=
  if count ≠ 0 then some (type, 4) else none

/- The function of an operation has one if there is one. -/
def functionOutline
    (entry : Entry)
    (operation : Operation) : Option (UInt16 × Nat) :=
  (entry.rule.modification.bind (·.get operation)).map
    (Function.outline operation)

/-
  Types and payload sizes of all attributes that an entry can
  have, in order, where those are missing that it has not.
-/
def places (entry : Entry) : List (Option (UInt16 × Nat)) :=
  [counterOutline 7 entry.counters.handled,
    counterOutline 8 entry.counters.dropped,
    counterOutline 12 entry.counters.deleted,
    some (9, 4),
    some (10, 4),
    entry.rule.filter.map fun _ => (11, 8),
    entry.functionOutline .and,
    entry.functionOutline .or,
    entry.functionOutline .xor,
    entry.functionOutline .set,
    entry.rule.checksum.map Checksum.outline,
    entry.rule.hopLimit.map fun _ => (13, 1),
    entry.rule.uid.map fun _ => (14, 4)]

/- Types and payload sizes of the attributes that it has. -/
def outline (entry : Entry) : List (UInt16 × Nat) :=
  entry.places.reduceOption

/- The number of functions with a template of some kind. -/
def functionCount
    (entry : Entry)
    (kind : FrameKind) : Nat :=
  (entry.rule.modification.elim [] Modification.functions).countP
    fun f => f.2.template.kind = kind

/- The number of bytes of the message of an entry. -/
def wireLength (entry : Entry) : Nat :=
  36
    + 8 * [entry.counters.handled, entry.counters.dropped,
        entry.counters.deleted].countP (· ≠ 0)
    + (if entry.rule.filter.isSome then 12 else 0)
    + 24 * entry.functionCount .classic
    + 80 * entry.functionCount .fd
    + entry.rule.checksum.elim 0 Checksum.wireLength
    + (if entry.rule.hopLimit.isSome then 8 else 0)
    + (if entry.rule.uid.isSome then 8 else 0)

end Entry

------------------------------------------------------------
-- Attributes That Were Encoded
------------------------------------------------------------

namespace Attribute

/- Attributes with short payloads are laid as they should. -/
theorem laid_encodeAll
    {items : List (UInt16 × Bytes)}
    (h : ∀ item ∈ items, item.2.length ≤ maxPayload) :
    Laid (encodeAll items) items := by
  induction items with
  | nil => exact .nil
  | cons item items ih =>
      have hItem := h item List.mem_cons_self
      have hRest := ih fun other hOther =>
        h other (List.mem_cons_of_mem _ hOther)
      have hLower := Bytes.le_align (4 + item.2.length)
      have hUpper := Bytes.align_lt (4 + item.2.length)
      have hAlign := Bytes.dvd_align (4 + item.2.length)
      rw [encodeAll_cons, encode_eq, Bytes.padding]
      refine .cons (toNat_lengthField hItem) ?_ ?_ hRest
      · omega
      · omega

/- The size of an attribute and the padding behind it. -/
def span (outline : UInt16 × Nat) : Nat :=
  Bytes.align (4 + outline.2)

theorem span_eq
    (type : UInt16)
    (size : Nat) :
    span (type, size) = Bytes.align (4 + size) :=
  rfl

/- All attributes together take the sum of their spans. -/
theorem length_encodeAll
    (items : List (UInt16 × Bytes)) :
    (encodeAll items).length =
      ((items.map fun item =>
        (item.1, item.2.length)).map span).sum := by
  induction items with
  | nil => rfl
  | cons item items ih =>
      rw [encodeAll_cons, List.length_append, length_encode,
        ih]
      rfl

end Attribute

------------------------------------------------------------
-- The Outline of an Entry
------------------------------------------------------------

namespace Entry

/- The type and the payload size of an attribute. -/
def sizes
    (attributes : List (AttributeKind × Bytes)) :
    List (UInt16 × Nat) :=
  attributes.map fun item => (item.1.number, item.2.length)

theorem sizes_append
    (first second : List (AttributeKind × Bytes)) :
    sizes (first ++ second) = sizes first ++ sizes second :=
  List.map_append

theorem sizes_option
    {α : Type}
    (value : Option α)
    (write : α → AttributeKind × Bytes) :
    sizes (value.map write).toList =
      [value.map fun a =>
        ((write a).1.number, (write a).2.length)].reduceOption := by
  cases value <;> rfl

theorem sizes_counters
    (counters : Counters) :
    sizes counters.attributes =
      [counterOutline 7 counters.handled,
        counterOutline 8 counters.dropped,
        counterOutline 12 counters.deleted].reduceOption := by
  rcases counters with ⟨handled, dropped, deleted⟩
  by_cases hHandled : handled = 0 <;>
    by_cases hDropped : dropped = 0 <;>
      by_cases hDeleted : deleted = 0 <;>
        simp [Counters.attributes, sizes, counterOutline,
          AttributeKind.number, hHandled, hDropped, hDeleted]

theorem sizes_function
    (operation : Operation)
    (f : Function) :
    ((Function.attribute operation f).1.number,
        (Function.attribute operation f).2.length) =
      Function.outline operation f := by
  rcases f with ⟨targets, template⟩
  cases template with
  | classic frame =>
      have hSize : Function.classicLayout.size = 17 := rfl
      cases operation <;>
        simp [Function.attribute, Function.outline, Frame.kind,
          AttributeKind.number, hSize]
  | fd frame =>
      have hSize : Function.fdLayout.size = 73 := rfl
      cases operation <;>
        simp [Function.attribute, Function.outline, Frame.kind,
          AttributeKind.number, hSize]

theorem sizes_checksum
    (checksum : Checksum) :
    (checksum.attribute.1.number,
        checksum.attribute.2.length) = checksum.outline := by
  cases checksum with
  | xor c =>
      have hSize : XorChecksum.layout.size = 4 := rfl
      simp [Checksum.attribute, Checksum.outline,
        AttributeKind.number, hSize]
  | crc8 c =>
      have hSize : Crc8Checksum.storedLayout.size = 282 := rfl
      simp [Checksum.attribute, Checksum.outline,
        AttributeKind.number, hSize]

/- The functions stand in the order of their operations. -/
theorem sizes_functions
    (entry : Entry) :
    sizes
        ((entry.rule.modification.map fun m =>
          m.functions.map fun f =>
            Function.attribute f.1 f.2).getD []) =
      [entry.functionOutline .and, entry.functionOutline .or,
        entry.functionOutline .xor,
        entry.functionOutline .set].reduceOption := by
  unfold functionOutline
  cases entry.rule.modification with
  | none => rfl
  | some m =>
      have hPlaces :
          (Operation.all.map fun operation =>
            (m.get operation).map
              (Function.outline operation)).reduceOption =
            sizes (m.functions.map fun f =>
              Function.attribute f.1 f.2) := by
        unfold List.reduceOption sizes Modification.functions
        rw [List.filterMap_map, List.map_map, List.map_filterMap]
        congr 1
        funext operation
        simp only [Function.comp_apply, id_eq, Option.map_map]
        congr 1
        funext f
        exact (sizes_function operation f).symm
      exact hPlaces.symm

/- The attributes of an entry are those of its outline. -/
theorem sizes_attributes
    (entry : Entry) :
    sizes entry.attributes = entry.outline := by
  have hOutline :
      entry.outline =
        [counterOutline 7 entry.counters.handled,
            counterOutline 8 entry.counters.dropped,
            counterOutline 12
              entry.counters.deleted].reduceOption
          ++ ([(9, 4), (10, 4)]
          ++ [entry.rule.filter.map fun _ =>
              ((11, 8) : UInt16 × Nat)].reduceOption
          ++ [entry.functionOutline .and,
              entry.functionOutline .or,
              entry.functionOutline .xor,
              entry.functionOutline .set].reduceOption
          ++ [entry.rule.checksum.map
              Checksum.outline].reduceOption
          ++ [entry.rule.hopLimit.map fun _ =>
              ((13, 1) : UInt16 × Nat)].reduceOption
          ++ [entry.rule.uid.map fun _ =>
              ((14, 4) : UInt16 × Nat)].reduceOption) := by
    have hInterfaces :
        ([(9, 4), (10, 4)] : List (UInt16 × Nat)) =
          [some (9, 4), some (10, 4)].reduceOption :=
      rfl
    rw [hInterfaces]
    simp only [← List.reduceOption_append]
    rfl
  rw [hOutline]
  simp only [Entry.attributes, Rule.attributes, sizes_append,
    sizes_counters, sizes_option, sizes_functions,
    sizes_checksum]
  have hFilter : Filter.layout.size = 8 := rfl
  simp [sizes, AttributeKind.number, hFilter]

/- The places of what there is are among all of these. -/
theorem sublist_reduceOption
    {α β : Type}
    {read : α → β}
    {places : List (Option α)}
    {all : List β}
    (h :
      List.Forall₂
        (fun place b => ∀ a, place = some a → read a = b)
        places all) :
    (places.reduceOption.map read).Sublist all := by
  induction h with
  | nil => exact List.Sublist.refl []
  | @cons place b places all hFirst hRest ih =>
      cases place with
      | none => exact ih.cons b
      | some a =>
          rw [← hFirst a rfl]
          exact ih.cons_cons (read a)

theorem slot_functionOutline
    {entry : Entry}
    {operation : Operation}
    {outline : UInt16 × Nat}
    (h : entry.functionOutline operation = some outline) :
    Slot.ofNumber? outline.1 = some (.function operation) := by
  rcases Option.map_eq_some_iff.mp h with ⟨f, -, rfl⟩
  unfold Function.outline
  cases f.template.kind <;> cases operation <;> rfl

/- No type is used twice, since each place is. -/
theorem nodup_outline
    (entry : Entry) :
    (entry.outline.map Prod.fst).Nodup := by
  let slots : List Slot :=
    [.handled, .dropped, .deleted, .source, .destination,
      .filter, .function .and, .function .or, .function .xor,
      .function .set, .checksum, .hopLimit, .uid]
  have hCounter
      {type : UInt16}
      {count : UInt32}
      {slot : Slot}
      (hSlot : Slot.ofNumber? type = some slot) :
      ∀ outline, counterOutline type count = some outline →
        Slot.ofNumber? outline.1 = some slot := by
    intro outline hOutline
    unfold counterOutline at hOutline
    split at hOutline
    · cases hOutline
      exact hSlot
    · cases hOutline
  have hFixed
      {fixed : UInt16 × Nat}
      {slot : Slot}
      (hSlot : Slot.ofNumber? fixed.1 = some slot) :
      ∀ outline, some fixed = some outline →
        Slot.ofNumber? outline.1 = some slot := by
    intro outline hOutline
    cases hOutline
    exact hSlot
  have hOptional
      {α : Type}
      {value : Option α}
      {fixed : UInt16 × Nat}
      {slot : Slot}
      (hSlot : Slot.ofNumber? fixed.1 = some slot) :
      ∀ outline, (value.map fun _ => fixed) = some outline →
        Slot.ofNumber? outline.1 = some slot := by
    intro outline hOutline
    rcases Option.map_eq_some_iff.mp hOutline with
      ⟨-, -, rfl⟩
    exact hSlot
  have hChecksum :
      ∀ outline,
        entry.rule.checksum.map Checksum.outline =
            some outline →
          Slot.ofNumber? outline.1 = some .checksum := by
    intro outline hOutline
    rcases Option.map_eq_some_iff.mp hOutline with
      ⟨checksum, -, rfl⟩
    cases checksum <;> rfl
  have hSublist :
      (entry.outline.map fun outline =>
        Slot.ofNumber? outline.1).Sublist (slots.map some) := by
    apply sublist_reduceOption
    exact
      .cons (hCounter rfl) <| .cons (hCounter rfl) <|
      .cons (hCounter rfl) <|
      .cons (hFixed rfl) <| .cons (hFixed rfl) <|
      .cons (hOptional rfl) <|
      .cons (fun _ => slot_functionOutline) <|
      .cons (fun _ => slot_functionOutline) <|
      .cons (fun _ => slot_functionOutline) <|
      .cons (fun _ => slot_functionOutline) <|
      .cons hChecksum <| .cons (hOptional rfl) <|
      .cons (hOptional rfl) .nil
  have hSlots : (slots.map some).Nodup := by decide
  have hNumbers := hSublist.nodup hSlots
  apply List.Nodup.of_map Slot.ofNumber?
  rw [List.map_map]
  exact hNumbers

------------------------------------------------------------
-- The Length of the Message
------------------------------------------------------------

theorem sum_span_reduceOption
    (places : List (Option (UInt16 × Nat))) :
    (places.reduceOption.map Attribute.span).sum =
      (places.map fun place =>
        place.elim 0 Attribute.span).sum := by
  induction places with
  | nil => rfl
  | cons place places ih =>
      cases place with
      | none => simpa using ih
      | some outline => simpa using ih

theorem span_function
    (operation : Operation)
    (f : Function) :
    Attribute.span (Function.outline operation f) =
      if f.template.kind = .classic then 24 else 80 := by
  unfold Function.outline
  cases f.template.kind <;> cases operation <;> rfl

/- What the functions of some operations take up. -/
theorem sum_span_functions
    (m : Modification)
    (operations : List Operation) :
    let functions :=
      operations.filterMap fun operation =>
        (m.get operation).map fun f => (operation, f)
    (operations.map fun operation =>
        ((m.get operation).map (Function.outline operation)).elim
          0 Attribute.span).sum =
      24 * (functions.countP fun f =>
          f.2.template.kind = .classic)
        + 80 * (functions.countP fun f =>
          f.2.template.kind = .fd) := by
  induction operations with
  | nil => rfl
  | cons operation operations ih =>
      cases hFunction : m.get operation with
      | none => simpa [hFunction] using ih
      | some f =>
          simp only [List.map_cons, List.sum_cons,
            List.filterMap_cons, hFunction, Option.map_some,
            Option.elim_some, List.countP_cons, span_function,
            decide_eq_true_eq] at ih ⊢
          cases f.template.kind with
          | classic =>
              simp only [if_true, reduceCtorEq, if_false]
              omega
          | fd =>
              simp only [if_true, reduceCtorEq, if_false]
              omega

theorem sum_span_functionOutlines
    (entry : Entry) :
    ([entry.functionOutline .and, entry.functionOutline .or,
        entry.functionOutline .xor,
        entry.functionOutline .set].map fun place =>
          place.elim 0 Attribute.span).sum =
      24 * entry.functionCount .classic
        + 80 * entry.functionCount .fd := by
  unfold functionOutline functionCount
  cases entry.rule.modification with
  | none => rfl
  | some m => exact sum_span_functions m Operation.all

/- All attributes and the headers take the wire length. -/
theorem sum_span_outline
    (entry : Entry) :
    20 + (entry.outline.map Attribute.span).sum =
      entry.wireLength := by
  have hCounter
      (type : UInt16)
      (count : UInt32) :
      (counterOutline type count).elim 0 Attribute.span =
        8 * if count ≠ 0 then 1 else 0 := by
    unfold counterOutline
    split
    · exact Attribute.span_eq type 4
    · rfl
  have hConstant
      {α : Type}
      (value : Option α)
      (fixed : UInt16 × Nat) :
      (value.map fun _ => fixed).elim 0 Attribute.span =
        if value.isSome then Attribute.span fixed else 0 := by
    cases value <;> rfl
  have hChecksum :
      (entry.rule.checksum.map Checksum.outline).elim 0
          Attribute.span =
        entry.rule.checksum.elim 0 Checksum.wireLength := by
    rcases entry.rule.checksum with _ | c | c
    · rfl
    · exact Attribute.span_eq 5 4
    · exact Attribute.span_eq 6 282
  have hFunctions := entry.sum_span_functionOutlines
  have hFilter : Attribute.span (11, 8) = 12 := rfl
  have hHopLimit : Attribute.span (13, 1) = 8 := rfl
  have hUid : Attribute.span (14, 4) = 8 := rfl
  have hSource : Attribute.span (9, 4) = 8 := rfl
  have hDestination : Attribute.span (10, 4) = 8 := rfl
  unfold outline wireLength
  rw [sum_span_reduceOption]
  simp only [places, List.map_cons, List.map_nil, List.sum_cons,
    List.sum_nil, List.countP_cons, List.countP_nil, hCounter,
    hConstant, hChecksum, Option.elim_some, hFilter, hHopLimit,
    hUid, hSource, hDestination, decide_eq_true_eq]
    at hFunctions ⊢
  linarith only [hFunctions]

/- There are no more functions than operations. -/
theorem functionCount_le
    (entry : Entry) :
    entry.functionCount .classic + entry.functionCount .fd ≤
      4 := by
  unfold functionCount
  cases entry.rule.modification with
  | none => exact Nat.zero_le _
  | some m =>
      have hParts :=
        List.length_eq_countP_add_countP
          (fun f : Operation × Function =>
            decide (f.2.template.kind = .classic))
          (l := m.functions)
      have hFd :
          m.functions.countP
              (fun f => decide (f.2.template.kind = .fd)) =
            m.functions.countP
              (fun f => decide
                (¬ decide (f.2.template.kind = .classic) =
                  true)) := by
        congr 1
        funext f
        cases f.2.template.kind <;> rfl
      have hAll : m.functions.length ≤ 4 :=
        List.length_filterMap_le _ Operation.all
      simp only [Option.elim_some, hFd]
      omega

/- No entry takes more than this. -/
theorem wireLength_le
    (entry : Entry) :
    entry.wireLength ≤ 696 := by
  have hCounters :=
    List.countP_le_length (p := fun count => decide (count ≠ 0))
      (l := [entry.counters.handled, entry.counters.dropped,
        entry.counters.deleted])
  have hFunctions := entry.functionCount_le
  have hChecksum :
      entry.rule.checksum.elim 0 Checksum.wireLength ≤ 288 := by
    rcases entry.rule.checksum with _ | c | c
    · exact Nat.zero_le _
    · change 8 ≤ 288
      decide
    · exact Nat.le_refl _
  unfold wireLength
  simp only [List.length_cons, List.length_nil] at hCounters
  split_ifs <;> omega

end Entry

------------------------------------------------------------
-- Bytes That Say Nothing
------------------------------------------------------------

/- The attribute of a function is of the operation's kinds. -/
theorem Function.operation_of_attribute
    {operation other : Operation}
    {f : Function}
    {kind : FrameKind}
    (h :
      (Function.attribute other f).1 =
        .modification kind operation) :
    other = operation := by
  unfold Function.attribute at h
  cases hTemplate : f.template with
  | classic frame =>
      rw [hTemplate] at h
      cases h
      rfl
  | fd frame =>
      rw [hTemplate] at h
      cases h
      rfl

/- The attributes for functions are written from functions. -/
theorem Entry.exists_function_of_mem
    (entry : Entry) :
    ∀ item ∈ entry.attributes,
      ∀ kind operation,
        item.1 = .modification kind operation →
          ∃ f, item = Function.attribute operation f := by
  unfold Entry.attributes Rule.attributes
  simp only [List.forall_mem_append, Option.mem_toList,
    Option.map_eq_some_iff]
  refine ⟨?_, ⟨⟨⟨⟨⟨?_, ?_⟩, ?_⟩, ?_⟩, ?_⟩, ?_⟩⟩
  · intro item hMember kind operation hKind
    rcases List.mem_map.mp hMember with
      ⟨counter, hCounter, rfl⟩
    have hPlace := (List.mem_filter.mp hCounter).1
    simp only [List.mem_cons, List.not_mem_nil, or_false]
      at hPlace
    rcases hPlace with rfl | rfl | rfl <;> cases hKind
  · simp
  · rintro item ⟨f, -, rfl⟩ kind operation hKind
    cases hKind
  · cases entry.rule.modification with
    | none => simp
    | some m =>
        intro item hMember kind operation hKind
        rcases List.mem_map.mp hMember with ⟨f, -, rfl⟩
        rw [← Function.operation_of_attribute hKind]
        exact ⟨f.2, rfl⟩
  · rintro item ⟨c, -, rfl⟩ kind operation hKind
    cases c <;> cases hKind
  · rintro item ⟨hops, -, rfl⟩ kind operation hKind
    cases hKind
  · rintro item ⟨uid, -, rfl⟩ kind operation hKind
    cases hKind

/- Reserved bytes of a template are zero. -/
theorem Function.reserved_attribute
    {operation : Operation}
    {f : Function}
    {kind : FrameKind}
    {payload : Bytes}
    (h :
      (.modification kind operation, payload) =
        Function.attribute operation f) :
    ∀ i ∈ kind.reserved, payload[i]? = some 0 := by
  rcases f with ⟨targets, template⟩
  cases template with
  | classic frame =>
      cases h
      have hReserved :
          ∀ i ∈ [5, 6],
            (Function.classicLayout.write
              (frame, targets))[i]? = some 0 := by
        rw [List.forall_mem_cons, List.forall_mem_singleton]
        exact ⟨rfl, rfl⟩
      exact hReserved
  | fd frame =>
      cases h
      have hReserved :
          ∀ i ∈ [6, 7],
            (Function.fdLayout.write
              (frame, targets))[i]? = some 0 := by
        rw [List.forall_mem_cons, List.forall_mem_singleton]
        exact ⟨rfl, rfl⟩
      exact hReserved

------------------------------------------------------------
-- The Message of an Entry
------------------------------------------------------------

namespace Answer

theorem drop_entry
    (entry : Entry)
    (sequence : UInt32) :
    (Answer.entry entry sequence).drop
        (Header.size + GatewayHeader.size) =
      Attribute.encodeAll
        (Attribute.numbered entry.attributes) := by
  unfold Answer.entry
  rw [← List.drop_drop, Request.drop_about]
  exact List.drop_left' (by simp)

/-
  The attributes of an entry are laid behind the headers of its
  message, and only these.  They have the types and the sizes
  of the outline, in its order and none of them twice.  The
  reserved bytes of templates are zero.  The message is as long
  as the parts of the entry ask for.
-/
theorem entry_laidOut
    (entry : Entry)
    (sequence : UInt32) :
    let message := Answer.entry entry sequence
    let items := Attribute.numbered entry.attributes
    Attribute.Laid
        (message.drop (Header.size + GatewayHeader.size))
        items ∧
      (items.map fun item => (item.1, item.2.length)) =
        entry.outline ∧
      (entry.outline.map Prod.fst).Nodup ∧
      (∀ kind operation payload,
        (.modification kind operation, payload) ∈
            entry.attributes →
          ∀ i ∈ kind.reserved, payload[i]? = some 0) ∧
      message.length = entry.wireLength ∧
      entry.wireLength ≤ 696 := by
  intro message items
  have hShort :
      ∀ item ∈ items, item.2.length ≤ Attribute.maxPayload := by
    intro item hItem
    rcases List.mem_map.mp hItem with ⟨known, hKnown, rfl⟩
    have hLength := entry.length_payload_le known hKnown
    unfold Attribute.maxPayload
    exact Nat.le_trans hLength (by decide)
  have hSizes :
      (items.map fun item => (item.1, item.2.length)) =
        entry.outline := by
    rw [← entry.sizes_attributes]
    exact List.map_map
  have hLength : message.length = entry.wireLength := by
    rw [← entry.sum_span_outline, ← hSizes,
      ← Attribute.length_encodeAll]
    change
      (Answer.entry entry sequence).length =
        20 + (Attribute.encodeAll
          (Attribute.numbered entry.attributes)).length
    unfold Answer.entry
    rw [Request.about_eq_finish, Builder.length_finish]
    simp only [Builder.length, Request.aboutBuilder,
      List.length_append, Layout.length_write,
      GatewayHeader.size_layout, GatewayHeader.size,
      Header.size]
    omega
  refine
    ⟨?_, hSizes, entry.nodup_outline, ?_, hLength,
      entry.wireLength_le⟩
  · change Attribute.Laid ((Answer.entry _ _).drop _) _
    rw [drop_entry]
    exact Attribute.laid_encodeAll hShort
  · intro kind operation payload hMember
    rcases entry.exists_function_of_mem _ hMember kind
        operation rfl with
      ⟨f, hFunction⟩
    exact Function.reserved_attribute hFunction

end Answer

end GatewayRules
