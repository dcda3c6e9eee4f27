import GatewayRules.Proofs.EntryReading
import GatewayRules.Proofs.WholeMessage

/-
  The message of an entry.  It is whole, and decoding it gives
  the entry back in normal form.

  Main declarations:
    * `Entry.length_payload_le`
    * `Request.about_eq_finish` and `Request.fills_about`
    * `Entry.decode_body`
    * `Answer.ofFramed_entry`
    * `Answer.decode_entry`
-/

------------------------------------------------------------
-- The Size of an Entry
------------------------------------------------------------

namespace GatewayRules

theorem Function.length_attribute_le
    (operation : Operation)
    (f : Function) :
    (Function.attribute operation f).2.length ≤ 73 := by
  unfold Function.attribute
  cases f.template with
  | classic frame =>
      have hSize : Function.classicLayout.size ≤ 73 := by decide
      simpa using hSize
  | fd frame =>
      have hSize : Function.fdLayout.size ≤ 73 := by decide
      simpa using hSize

theorem Checksum.length_attribute_le
    (checksum : Checksum) :
    checksum.attribute.2.length ≤ 282 := by
  cases checksum with
  | xor c =>
      have hSize : XorChecksum.layout.size ≤ 282 := by decide
      simpa [Checksum.attribute] using hSize
  | crc8 c =>
      have hSize : Crc8Checksum.storedLayout.size ≤ 282 := by
        decide
      simpa [Checksum.attribute] using hSize

theorem Rule.length_payload_le
    (rule : Rule) :
    ∀ item ∈ rule.attributes, item.2.length ≤ 282 := by
  have hFilter : Filter.layout.size ≤ 282 := by decide
  unfold Rule.attributes
  simp only [List.forall_mem_append, Option.mem_toList,
    Option.map_eq_some_iff]
  refine ⟨⟨⟨⟨⟨?_, ?_⟩, ?_⟩, ?_⟩, ?_⟩, ?_⟩
  · simp
  · rintro item ⟨f, -, rfl⟩
    simpa using hFilter
  · cases rule.modification with
    | none => simp
    | some m =>
        simp only [Option.map_some, Option.getD_some,
          List.mem_map]
        rintro item ⟨entry, -, rfl⟩
        have hLength :=
          Function.length_attribute_le entry.1 entry.2
        omega
  · rintro item ⟨c, -, rfl⟩
    exact c.length_attribute_le
  · rintro item ⟨hops, -, rfl⟩
    simp
  · rintro item ⟨uid, -, rfl⟩
    simp

/- No attribute of an entry is longer than a table checksum. -/
theorem Entry.length_payload_le
    (entry : Entry) :
    ∀ item ∈ entry.attributes, item.2.length ≤ 282 := by
  unfold Entry.attributes
  rw [List.forall_mem_append]
  constructor
  · intro item hItem
    rcases List.mem_map.mp hItem with ⟨counter, -, rfl⟩
    simp
  · exact entry.rule.length_payload_le

theorem Rule.length_attributes_le
    (rule : Rule) :
    rule.attributes.length ≤ 10 := by
  have hOption
      {α : Type}
      (value : Option α)
      (write : α → AttributeKind × Bytes) :
      (value.map write).toList.length ≤ 1 := by
    cases value <;> simp
  have hFilter :=
    hOption rule.filter fun f =>
      (.filter, Filter.layout.write f)
  have hChecksum := hOption rule.checksum Checksum.attribute
  have hHopLimit :=
    hOption rule.hopLimit fun hops =>
      (.hopLimit, Layout.u8.write hops)
  have hUid :=
    hOption rule.uid fun uid => (.uid, Layout.u32.write uid)
  have hModification :
      ((rule.modification.map fun m =>
        m.functions.map fun entry =>
          Function.attribute entry.1 entry.2).getD []).length
        ≤ 4 := by
    cases rule.modification with
    | none => simp
    | some m =>
        rw [Option.map_some, Option.getD_some, List.length_map]
        exact List.length_filterMap_le _ Operation.all
  simp only [Rule.attributes, List.length_append,
    List.length_cons, List.length_nil]
  omega

theorem Entry.length_attributes_le
    (entry : Entry) :
    entry.attributes.length ≤ 13 := by
  have hRule := entry.rule.length_attributes_le
  have hCounters : entry.counters.attributes.length ≤ 3 := by
    unfold Counters.attributes
    rw [List.length_map]
    exact List.length_filter_le _ _
  rw [Entry.attributes, List.length_append]
  omega

------------------------------------------------------------
-- Messages About Rules
------------------------------------------------------------

namespace Request

/- The builder of a message about a rule when it is finished. -/
def aboutBuilder
    (type flags : UInt16)
    (sequence : UInt32)
    (ruleFlags : RuleFlags)
    (attributes : List (AttributeKind × Bytes)) : Builder where
  type := type
  flags := flags
  sequence := sequence
  body :=
    GatewayHeader.layout.write (.ofFlags ruleFlags)
      ++ Attribute.encodeAll (Attribute.numbered attributes)

/- A message about a rule: gateway header and attributes. -/
theorem about_eq_finish
    (type flags : UInt16)
    (sequence : UInt32)
    (ruleFlags : RuleFlags)
    (attributes : List (AttributeKind × Bytes)) :
    about type flags sequence ruleFlags attributes =
      (aboutBuilder type flags sequence ruleFlags
        attributes).finish := by
  let headed : Builder :=
    { type, flags, sequence,
      body := GatewayHeader.layout.write (.ofFlags ruleFlags) }
  have hHeaded :
      ((Builder.start type flags).setSequence
        sequence).appendGatewayHeader (.ofFlags ruleFlags) =
          headed := by
    have hPadded :
        Bytes.padded
            ([] ++ GatewayHeader.layout.write
              (.ofFlags ruleFlags)) =
          GatewayHeader.layout.write (.ofFlags ruleFlags) :=
      Bytes.padded_of_dvd (by simp [GatewayHeader.size])
    simp only [Builder.start, Builder.setSequence,
      Builder.appendGatewayHeader, Builder.append, hPadded,
      headed]
  have hAligned : 4 ∣ headed.body.length := by
    simp [headed, GatewayHeader.size]
  have hBody :=
    Builder.body_appendAttributes attributes hAligned
  rcases headed.appendAttributes_fields attributes with
    ⟨hType, hFlags, hSequence⟩
  have hBuilder :
      headed.appendAttributes attributes =
        aboutBuilder type flags sequence ruleFlags
          attributes := by
    cases hDone : headed.appendAttributes attributes
    simp only [hDone] at hType hFlags hSequence hBody
    subst hType hFlags hSequence hBody
    rfl
  simp only [about, hHeaded, hBuilder]

/- A message about few short attributes fits its header. -/
theorem fits_aboutBuilder
    (type flags : UInt16)
    (sequence : UInt32)
    (ruleFlags : RuleFlags)
    {attributes : List (AttributeKind × Bytes)}
    (hPayload : ∀ item ∈ attributes, item.2.length ≤ 282)
    (hCount : attributes.length ≤ 13) :
    let builder :=
      aboutBuilder type flags sequence ruleFlags attributes
    4 ∣ builder.body.length ∧ builder.length < UInt32.size := by
  intro builder
  have hNumbered :
      ∀ item ∈ Attribute.numbered attributes,
        item.2.length ≤ 282 := by
    intro item hItem
    rcases List.mem_map.mp hItem with ⟨known, hKnown, rfl⟩
    exact hPayload known hKnown
  have hLength :=
    Attribute.length_encodeAll_le hNumbered
  have hNumber :
      (Attribute.numbered attributes).length =
        attributes.length :=
    List.length_map _
  have hBody :
      builder.body.length =
        4 + (Attribute.encodeAll
          (Attribute.numbered attributes)).length := by
    simp [builder, aboutBuilder, GatewayHeader.size]
  have hAligned :=
    Attribute.dvd_length_encodeAll
      (Attribute.numbered attributes)
  refine ⟨by omega, ?_⟩
  change Header.size + builder.body.length < UInt32.size
  simp only [Header.size, UInt32.size]
  omega

/- A message about few short attributes is whole. -/
theorem fills_about
    (type flags : UInt16)
    (sequence : UInt32)
    (ruleFlags : RuleFlags)
    {attributes : List (AttributeKind × Bytes)}
    (hPayload : ∀ item ∈ attributes, item.2.length ≤ 282)
    (hCount : attributes.length ≤ 13) :
    (aboutBuilder type flags sequence ruleFlags
        attributes).framed.Fills
      (about type flags sequence ruleFlags attributes) := by
  have hFits :=
    fits_aboutBuilder type flags sequence ruleFlags hPayload
      hCount
  rw [about_eq_finish]
  exact Builder.fills_finish hFits.1 hFits.2

end Request

------------------------------------------------------------
-- The Message of an Entry
------------------------------------------------------------

namespace Response

/- A whole message is decoded by its type and its body. -/
theorem decode_of_fills
    {message : Framed}
    {bytes : Bytes}
    (h : message.Fills bytes) :
    decode bytes =
      (ofFramed message).map
        fun response => (response, bytes.length) := by
  unfold decode
  rw [h.split]
  change
    (ofFramed message >>= fun response =>
      Except.ok (response, message.used)) = _
  rw [h.used]
  cases ofFramed message <;> rfl

/- What a finished message says is what its body does. -/
theorem ofFramed_framed
    {builder : Builder}
    {kind : Kind}
    (hKind : decodeBody builder.type builder.body = .ok kind) :
    ofFramed builder.framed =
      .ok
        { sequence := builder.sequence,
          sender := 0,
          flags := builder.flags,
          kind } := by
  unfold ofFramed
  change
    (decodeBody builder.type
      (builder.finish.drop Header.size) >>= _) = _
  rw [Builder.drop_finish, hKind]
  rfl

end Response

namespace Entry

/- A body without a fault gives the entry of its draft. -/
theorem decode_eq_finish
    {body : Bytes}
    {base : Nat}
    {header : GatewayHeader}
    {attributes : List Attribute}
    {draft : Draft}
    (hHeader : decodeHeader body base = .ok header)
    (hWalk : walk body base = ⟨attributes, none⟩)
    (hDraft : Draft.absorbAll {} attributes = .ok draft) :
    decode body base = draft.finish header.flags base := by
  simp only [decode, hHeader, hWalk, hDraft, bind, Except.bind]

/- The body of the message of an entry is read in full. -/
theorem decode_body
    (entry : Entry)
    (base : Nat) :
    decode
      (GatewayHeader.layout.write
          (.ofFlags entry.rule.flags)
        ++ Attribute.encodeAll
          (Attribute.numbered entry.attributes)) base =
      .ok entry.normalize := by
  let header := GatewayHeader.ofFlags entry.rule.flags
  let wire :=
    Attribute.encodeAll (Attribute.numbered entry.attributes)
  have hHeader :
      decodeHeader (GatewayHeader.layout.write header ++ wire)
        base = .ok header := by
    unfold decodeHeader
    rw [Layout.read?_write_append]
    rfl
  have hWalk :
      walk (GatewayHeader.layout.write header ++ wire) base =
        ⟨Attribute.place (base + GatewayHeader.size)
          (Attribute.numbered entry.attributes), none⟩ := by
    unfold walk
    rw [List.drop_left' (by simp)]
    apply AttributeWalk.ofBytes_encodeAll
    intro item hItem
    rcases List.mem_map.mp hItem with ⟨known, hKnown, rfl⟩
    have hLength := entry.length_payload_le known hKnown
    simp only [Attribute.maxPayload]
    omega
  have hDraft :=
    Draft.reads_entry entry (base + GatewayHeader.size)
  rw [decode_eq_finish hHeader hWalk hDraft]
  by_cases hEmpty : entry.rule.modification = some .empty
  · simp [Draft.finish, normalize, Rule.normalize, hEmpty,
      Modification.isEmpty_iff, header, GatewayHeader.ofFlags]
  · have hModification :
        (if (entry.rule.modification.getD .empty).isEmpty then
            none
          else
            some (entry.rule.modification.getD .empty)) =
          entry.rule.modification := by
      cases hFunctions : entry.rule.modification with
      | none => simp [Modification.isEmpty_iff]
      | some m =>
          have hNonempty : m ≠ .empty := by
            rintro rfl
            exact hEmpty hFunctions
          simp [Modification.isEmpty_iff, hNonempty]
    simp only [Draft.finish, hModification, normalize,
      Rule.normalize, hEmpty, if_false]
    rfl

end Entry

/-
  A message about the attributes of an entry says what this
  entry is in normal form, whatever its flags.
-/
theorem Request.ofFramed_about
    (entry : Entry)
    (flags : UInt16)
    (sequence : UInt32) :
    Response.ofFramed
        (aboutBuilder MessageType.newRoute flags sequence
          entry.rule.flags entry.attributes).framed =
      .ok
        { sequence,
          sender := 0,
          flags,
          kind := .entry entry.normalize } := by
  let builder :=
    aboutBuilder MessageType.newRoute flags sequence
      entry.rule.flags entry.attributes
  have hBody :
      Response.decodeBody MessageType.newRoute builder.body =
        .ok (.entry entry.normalize) := by
    have hConcerns :
        Response.concernsGateway builder.body = true :=
      rfl
    have hRead :
        Entry.decode builder.body Header.size =
          .ok entry.normalize :=
      entry.decode_body Header.size
    unfold Response.decodeBody
    rw [if_neg (by decide), if_neg (by decide),
      if_pos ⟨rfl, hConcerns⟩, hRead]
    rfl
  exact Response.ofFramed_framed hBody

namespace Answer

/- The builder of the message of an entry when it is finished. -/
def entryBuilder
    (entry : Entry)
    (sequence : UInt32) : Builder :=
  Request.aboutBuilder MessageType.newRoute
    MessageFlag.multipart sequence entry.rule.flags
    entry.attributes

/- The message of an entry is whole. -/
theorem fills_entry
    (entry : Entry)
    (sequence : UInt32) :
    (entryBuilder entry sequence).framed.Fills
      (Answer.entry entry sequence) :=
  Request.fills_about _ _ _ _ entry.length_payload_le
    entry.length_attributes_le

/- What the message of an entry says. -/
theorem ofFramed_entry
    (entry : Entry)
    (sequence : UInt32) :
    Response.ofFramed (entryBuilder entry sequence).framed =
      .ok
        { sequence,
          sender := 0,
          flags := MessageFlag.multipart,
          kind := .entry entry.normalize } :=
  Request.ofFramed_about entry MessageFlag.multipart sequence

/- A checksum is written by the number of its profile. -/
theorem attribute_normalize
    (checksum : Checksum) :
    checksum.normalize.attribute = checksum.attribute := by
  cases checksum with
  | xor c => rfl
  | crc8 c =>
      simp [Checksum.normalize, Checksum.attribute,
        Crc8Checksum.store]

/- The normal form is written like the entry itself. -/
theorem attributes_normalize
    (entry : Entry) :
    entry.normalize.attributes = entry.attributes := by
  rcases entry with ⟨rule, counters⟩
  have hModification :
      ((if rule.modification = some .empty then none
          else rule.modification).map fun m =>
        m.functions.map fun entry =>
          Function.attribute entry.1 entry.2).getD [] =
        (rule.modification.map fun m =>
          m.functions.map fun entry =>
            Function.attribute entry.1 entry.2).getD [] := by
    by_cases hEmpty : rule.modification = some .empty
    · rw [if_pos hEmpty, hEmpty]
      rfl
    · rw [if_neg hEmpty]
  have hChecksum :
      (rule.checksum.map Checksum.normalize).map
          Checksum.attribute =
        rule.checksum.map Checksum.attribute := by
    rw [Option.map_map]
    congr 1
    funext c
    exact attribute_normalize c
  simp only [Entry.attributes, Entry.normalize, Rule.normalize,
    Rule.attributes, hModification, hChecksum]

/-
  The message of an entry is decoded to the entry in normal
  form, and nothing of it is left over.  The entry comes back
  as it was exactly if it is normal, and what comes back is
  written as the same bytes in any case.
-/
theorem decode_entry
    (entry : Entry)
    (sequence : UInt32) :
    Response.decode (Answer.entry entry sequence) =
        .ok
          ({ sequence,
             sender := 0,
             flags := MessageFlag.multipart,
             kind := .entry entry.normalize },
            (Answer.entry entry sequence).length) ∧
      (entry.normalize = entry ↔ entry.IsNormal) ∧
      Answer.entry entry.normalize sequence =
        Answer.entry entry sequence := by
  refine ⟨?_, entry.normalize_eq_self_iff, ?_⟩
  · rw [Response.decode_of_fills (fills_entry entry sequence),
      ofFramed_entry]
    rfl
  · unfold Answer.entry
    rw [attributes_normalize]
    rfl

end Answer

end GatewayRules
