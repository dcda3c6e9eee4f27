import GatewayRules.Proofs.AttributeGrammar
import Mathlib

/-
  The grammar of messages about routes.  Behind the gateway
  header, a message has to be a sequence of attributes without
  defects that names both interfaces.  Just the messages of
  this grammar are read as entries.  Of all others, the first
  defect in the order of the bytes is reported, at the place
  of the attribute that has it.

  Main declarations:
    * `Entry.Accepts` and `Entry.Rejects`
    * `Entry.accepts_or_rejects`
    * `Entry.Rejects.place`
    * `Entry.decode_of_accepts` and `Entry.decode_of_rejects`
    * `Response.RouteGrammar`
    * `Response.routeGrammar_decode`
-/

------------------------------------------------------------
-- Entries
------------------------------------------------------------

namespace GatewayRules

namespace Entry

/- Whether attributes by themselves have no defects. -/
def Sound (attributes : List Attribute) : Prop :=
  ∀ a ∈ attributes, a.defect? = none

/- Whether one of the attributes is of a kind. -/
def Names
    (attributes : List Attribute)
    (kind : AttributeKind) : Prop :=
  ∃ a ∈ attributes, a.Is kind

/-
  Whether the bytes behind the gateway header of a body make
  up an entry.
-/
def Accepts
    (base : Nat)
    (bytes : Bytes) : Prop :=
  ∃ attributes,
    Attribute.Sequence (base + GatewayHeader.size) bytes
        attributes ∧
      Sound attributes ∧
      Names attributes .source ∧
      Names attributes .destination

/-
  What keeps these bytes from making up an entry, and where.
  All that comes before it is in order; that an interface is
  missing counts only if everything else is in order.
-/
inductive Rejects
    (base : Nat)
    (bytes : Bytes) : (offset : Nat) → Defect → Prop where
  | broken
      {front rest : Bytes}
      {attributes : List Attribute}
      {defect : Defect}
      (hBytes : bytes = front ++ rest)
      (hFront :
        Attribute.Sequence (base + GatewayHeader.size) front
          attributes)
      (hSound : Sound attributes)
      (hBroken : Attribute.Broken rest defect) :
      Rejects base bytes
        (base + GatewayHeader.size + front.length) defect
  | faulty
      {front rest : Bytes}
      {before : List Attribute}
      {a : Attribute}
      {defect : Defect}
      (hBytes : bytes = front ++ rest)
      (hFront :
        Attribute.Sequence (base + GatewayHeader.size) front
          (before ++ [a]))
      (hSound : Sound before)
      (hDefect : a.defect? = some defect) :
      Rejects base bytes a.offset defect
  | noSource
      {attributes : List Attribute}
      (hAll :
        Attribute.Sequence (base + GatewayHeader.size) bytes
          attributes)
      (hSound : Sound attributes)
      (hSource : ¬ Names attributes .source) :
      Rejects base bytes base .missingSource
  | noDestination
      {attributes : List Attribute}
      (hAll :
        Attribute.Sequence (base + GatewayHeader.size) bytes
          attributes)
      (hSound : Sound attributes)
      (hSource : Names attributes .source)
      (hDestination : ¬ Names attributes .destination) :
      Rejects base bytes base .missingDestination

/- Attributes have no defects, or one of them is the first. -/
theorem sound_or_exists_first
    (attributes : List Attribute) :
    Sound attributes ∨
      ∃ before a after defect,
        attributes = before ++ a :: after ∧
          Sound before ∧ a.defect? = some defect := by
  induction attributes with
  | nil => exact Or.inl (by simp [Sound])
  | cons a attributes ih =>
      cases hDefect : a.defect? with
      | some defect =>
          exact Or.inr ⟨[], a, attributes, defect, rfl,
            by simp [Sound], hDefect⟩
      | none =>
          rcases ih with hSound | hFirst
          · refine Or.inl ?_
            intro other hOther
            rcases List.mem_cons.mp hOther with rfl | hRest
            · exact hDefect
            · exact hSound other hRest
          · rcases hFirst with
              ⟨before, b, after, defect, rfl, hBefore, hB⟩
            refine Or.inr ⟨a :: before, b, after, defect, rfl,
              ?_, hB⟩
            intro other hOther
            rcases List.mem_cons.mp hOther with rfl | hRest
            · exact hDefect
            · exact hBefore other hRest

/- There is no third case. -/
theorem accepts_or_rejects
    (base : Nat)
    (bytes : Bytes) :
    Accepts base bytes ∨
      ∃ offset defect, Rejects base bytes offset defect := by
  rcases Attribute.Sequence.exists_front
      (base + GatewayHeader.size) bytes with
    ⟨front, attributes, rest, hBytes, hFront, hEnd⟩
  rcases sound_or_exists_first attributes with
    hSound | ⟨before, a, after, defect, rfl, hBefore, hDefect⟩
  · rcases hEnd with rfl | ⟨defect, hBroken⟩
    · rw [List.append_nil] at hBytes
      subst hBytes
      by_cases hSource : Names attributes .source
      · by_cases hDestination : Names attributes .destination
        · exact Or.inl
            ⟨attributes, hFront, hSound, hSource,
              hDestination⟩
        · exact Or.inr
            ⟨_, _, .noDestination hFront hSound hSource
              hDestination⟩
      · exact Or.inr ⟨_, _, .noSource hFront hSound hSource⟩
    · exact Or.inr
        ⟨_, _, .broken hBytes hFront hSound hBroken⟩
  · rw [List.append_cons] at hFront
    rcases hFront.exists_parts with
      ⟨first, second, hParts, hFirst, -⟩
    rw [hParts, List.append_assoc] at hBytes
    exact Or.inr
      ⟨_, _, .faulty hBytes hFirst hBefore hDefect⟩

/- A defect is reported on the boundary, within the message. -/
theorem Rejects.place
    {base offset : Nat}
    {bytes : Bytes}
    {defect : Defect}
    (h : Rejects base bytes offset defect)
    (hBase : 4 ∣ base) :
    4 ∣ offset ∧ base ≤ offset ∧
      offset < base + GatewayHeader.size + bytes.length := by
  have hSize : GatewayHeader.size = 4 := rfl
  cases h with
  | @broken front rest attributes defect hBytes hFront hSound
      hBroken =>
      have hFour := hFront.dvd_length
      have hRest :=
        List.length_pos_iff.mpr hBroken.ne_nil
      rw [hBytes, List.length_append]
      omega
  | @faulty front rest before a defect hBytes hFront hSound
      hDefect =>
      rcases hFront.exists_parts with
        ⟨first, second, hParts, hFirst, hSecond⟩
      rcases hSecond.offset_of_cons with ⟨hOffset, hLength⟩
      have hFour := hFirst.dvd_length
      rw [hOffset, hBytes, hParts, List.length_append,
        List.length_append]
      omega
  | noSource => omega
  | noDestination => omega

/- The walk over bytes that are a sequence and a rest. -/
theorem walk_of_sequence
    {body front rest : Bytes}
    {base : Nat}
    {attributes : List Attribute}
    (hBytes : body.drop GatewayHeader.size = front ++ rest)
    (hFront :
      Attribute.Sequence (base + GatewayHeader.size) front
        attributes) :
    walk body base =
      let walk :=
        AttributeWalk.ofBytes rest
          (base + GatewayHeader.size + front.length)
      ⟨attributes ++ walk.attributes, walk.fault⟩ := by
  unfold walk
  rw [hBytes]
  exact hFront.ofBytes_append rest

/- Bytes that are a sequence are walked to their end. -/
theorem walk_of_whole
    {body : Bytes}
    {base : Nat}
    {attributes : List Attribute}
    (h :
      Attribute.Sequence (base + GatewayHeader.size)
        (body.drop GatewayHeader.size) attributes) :
    walk body base = ⟨attributes, none⟩ := by
  rw [walk_of_sequence (List.append_nil _).symm h]
  simp

/- What is known in the end is what the attributes name. -/
theorem exists_draft
    {attributes : List Attribute}
    (h : Sound attributes) :
    ∃ draft,
      Draft.absorbAll {} attributes = .ok draft ∧
        (draft.source.isSome ↔ Names attributes .source) ∧
        (draft.destination.isSome ↔
          Names attributes .destination) := by
  rcases Draft.absorbAll_of_sound {} h with
    ⟨draft, hDraft, hSource, hDestination⟩
  refine ⟨draft, hDraft, ?_, ?_⟩
  · simpa [Names] using hSource
  · simpa [Names] using hDestination

variable {body : Bytes} {base : Nat} {header : GatewayHeader}

theorem decode_of_header
    (hHeader : decodeHeader body base = .ok header) :
    decode body base =
      (Draft.absorbAll {} (walk body base).attributes >>=
        fun draft =>
          match (walk body base).fault with
          | some fault => .error fault
          | none => draft.finish header.flags base) := by
  unfold decode
  rw [hHeader]
  rfl

/- What is accepted is read as an entry. -/
theorem decode_of_accepts
    (hHeader : decodeHeader body base = .ok header)
    (h : Accepts base (body.drop GatewayHeader.size)) :
    ∃ entry, decode body base = .ok entry := by
  rcases h with
    ⟨attributes, hAll, hSound, hSource, hDestination⟩
  rcases exists_draft hSound with ⟨draft, hDraft, hFrom, hTo⟩
  rcases Option.isSome_iff_exists.mp (hFrom.mpr hSource) with
    ⟨source, hIn⟩
  rcases Option.isSome_iff_exists.mp (hTo.mpr hDestination)
    with ⟨destination, hOut⟩
  rw [decode_of_header hHeader, walk_of_whole hAll]
  simp only [hDraft, bind, Except.bind, Draft.finish, hIn,
    hOut]
  exact ⟨_, rfl⟩

/- What is rejected is reported. -/
theorem decode_of_rejects
    {offset : Nat}
    {defect : Defect}
    (hHeader : decodeHeader body base = .ok header)
    (h :
      Rejects base (body.drop GatewayHeader.size) offset
        defect) :
    decode body base = .error (.malformed offset defect) := by
  rw [decode_of_header hHeader]
  cases h with
  | broken hBytes hFront hSound hBroken =>
      rcases exists_draft hSound with ⟨draft, hDraft, -⟩
      rw [walk_of_sequence hBytes hFront,
        AttributeWalk.ofBytes_of_broken hBroken]
      simp only [List.append_nil, hDraft, bind, Except.bind]
  | @faulty front rest before a defect hBytes hFront hSound
      hDefect =>
      rw [walk_of_sequence hBytes hFront]
      simp only [List.append_assoc, List.singleton_append]
      rw [Draft.absorbAll_of_faulty {} hSound hDefect]
      rfl
  | noSource hAll hSound hSource =>
      rcases exists_draft hSound with
        ⟨draft, hDraft, hFrom, -⟩
      have hNone : draft.source = none :=
        Option.not_isSome_iff_eq_none.mp
          (mt hFrom.mp hSource)
      rw [walk_of_whole hAll]
      simp only [hDraft, bind, Except.bind, Draft.finish,
        hNone]
  | noDestination hAll hSound hSource hDestination =>
      rcases exists_draft hSound with
        ⟨draft, hDraft, hFrom, hTo⟩
      rcases Option.isSome_iff_exists.mp
          (hFrom.mpr hSource) with ⟨source, hIn⟩
      have hNone : draft.destination = none :=
        Option.not_isSome_iff_eq_none.mp
          (mt hTo.mp hDestination)
      rw [walk_of_whole hAll]
      simp only [hDraft, bind, Except.bind, Draft.finish,
        hIn, hNone]

end Entry

------------------------------------------------------------
-- Responses
------------------------------------------------------------

/-
  Whether a body starts with the header of a rule that routes
  from CAN to CAN.
-/
structure GatewayHeader.Heads (body : Bytes) : Prop where
  length : size ≤ body.length
  family : body[0]? = some canFamily
  gatewayType : body[1]? = some canToCan

/- The two bytes that a gateway header starts with. -/
theorem GatewayHeader.exists_read
    {body : Bytes}
    (h : size ≤ body.length) :
    ∃ header,
      layout.read? body = some header ∧
        body[0]? = some header.family ∧
        body[1]? = some header.gatewayType := by
  have hByte (byte : UInt8) :
      Layout.u8.read [byte] = byte := by
    simp [Layout.u8, Layout.word, Bytes.toNat]
  rcases body with _ | ⟨family, _ | ⟨type, rest⟩⟩
  · cases h
  · exact absurd h (by simp [size])
  · refine ⟨_, if_pos h, ?_, ?_⟩
    · exact congrArg some (hByte family).symm
    · exact congrArg some (hByte type).symm

namespace Response

/-
  What a message about routes may look like, and what it is
  read as: a route of another family, a header that is not
  there or of another gateway, an entry, or the first defect,
  which lies on the boundary and within the message.
-/
structure RouteGrammar
    (body : Bytes)
    (meaning : Except DecodeError Kind) : Prop where
  otherFamily :
    ∀ family, body[0]? = some family →
      family ≠ GatewayHeader.canFamily →
        meaning = .ok (.other MessageType.newRoute)
  missingHeader :
    (∀ family, body[0]? = some family →
      family = GatewayHeader.canFamily) →
      body.length < GatewayHeader.size →
        meaning =
          .error (.malformed Header.size .missingGatewayHeader)
  otherGateway :
    body[0]? = some GatewayHeader.canFamily →
      GatewayHeader.size ≤ body.length →
        body[1]? ≠ some GatewayHeader.canToCan →
          meaning =
            .error
              (.malformed Header.size .unsupportedGatewayType)
  accepted :
    GatewayHeader.Heads body →
      ((∃ entry, meaning = .ok (.entry entry)) ↔
        Entry.Accepts Header.size
          (body.drop GatewayHeader.size))
  rejected :
    GatewayHeader.Heads body →
      ∀ error,
        meaning = .error error ↔
          ∃ offset defect,
            error = .malformed offset defect ∧
              Entry.Rejects Header.size
                (body.drop GatewayHeader.size) offset defect
  decided :
    GatewayHeader.Heads body →
      ∀ kind, meaning = .ok kind →
        ∃ entry, kind = .entry entry
  placed :
    GatewayHeader.Heads body →
      ∀ offset defect,
        meaning = .error (.malformed offset defect) →
          4 ∣ offset ∧ Header.size ≤ offset ∧
            offset < Header.size + body.length

/- A body that concerns the gateway is read as an entry. -/
theorem decodeBody_newRoute
    {body : Bytes}
    (h :
      ∀ family, body[0]? = some family →
        family = GatewayHeader.canFamily) :
    decodeBody MessageType.newRoute body =
      (Entry.decode body Header.size).map Kind.entry := by
  have hConcerns : concernsGateway body = true := by
    unfold concernsGateway
    rw [List.head?_eq_getElem?]
    cases hFamily : body[0]? with
    | none => rfl
    | some family => simp [h family hFamily]
  unfold decodeBody
  rw [if_neg (by decide), if_neg (by decide),
    if_pos ⟨rfl, hConcerns⟩]

section Heads

variable {body : Bytes}

/- A body that starts with the right header is read on. -/
theorem exists_decodeHeader
    (h : GatewayHeader.Heads body) :
    ∃ header,
      Entry.decodeHeader body Header.size = .ok header ∧
        decodeBody MessageType.newRoute body =
          (Entry.decode body Header.size).map Kind.entry := by
  rcases GatewayHeader.exists_read h.length with
    ⟨header, hRead, -, hType⟩
  have hGateway :
      header.gatewayType = GatewayHeader.canToCan :=
    Option.some.inj (hType.symm.trans h.gatewayType)
  refine ⟨header, ?_, decodeBody_newRoute ?_⟩
  · simp only [Entry.decodeHeader, hRead, hGateway, if_true]
  · intro family hFamily
    exact Option.some.inj (hFamily.symm.trans h.family)

theorem decodeBody_of_accepts
    (h : GatewayHeader.Heads body)
    (hAccepts :
      Entry.Accepts Header.size
        (body.drop GatewayHeader.size)) :
    ∃ entry,
      decodeBody MessageType.newRoute body =
        .ok (.entry entry) := by
  rcases exists_decodeHeader h with ⟨header, hHeader, hBody⟩
  rcases Entry.decode_of_accepts hHeader hAccepts with
    ⟨entry, hEntry⟩
  refine ⟨entry, ?_⟩
  rw [hBody, hEntry]
  rfl

theorem decodeBody_of_rejects
    {offset : Nat}
    {defect : Defect}
    (h : GatewayHeader.Heads body)
    (hRejects :
      Entry.Rejects Header.size
        (body.drop GatewayHeader.size) offset defect) :
    decodeBody MessageType.newRoute body =
      .error (.malformed offset defect) := by
  rcases exists_decodeHeader h with ⟨header, hHeader, hBody⟩
  rw [hBody, Entry.decode_of_rejects hHeader hRejects]
  rfl

/- Success goes with acceptance. -/
theorem accepts_of_decodeBody
    {kind : Kind}
    (h : GatewayHeader.Heads body)
    (hKind :
      decodeBody MessageType.newRoute body = .ok kind) :
    Entry.Accepts Header.size
      (body.drop GatewayHeader.size) := by
  rcases Entry.accepts_or_rejects Header.size
      (body.drop GatewayHeader.size) with
    hAccepts | ⟨offset, defect, hRejects⟩
  · exact hAccepts
  · rw [decodeBody_of_rejects h hRejects] at hKind
    cases hKind

/- Failure goes with rejection. -/
theorem rejects_of_decodeBody
    {error : DecodeError}
    (h : GatewayHeader.Heads body)
    (hError :
      decodeBody MessageType.newRoute body = .error error) :
    ∃ offset defect,
      error = .malformed offset defect ∧
        Entry.Rejects Header.size
          (body.drop GatewayHeader.size) offset defect := by
  rcases Entry.accepts_or_rejects Header.size
      (body.drop GatewayHeader.size) with
    hAccepts | ⟨offset, defect, hRejects⟩
  · rcases decodeBody_of_accepts h hAccepts with
      ⟨entry, hEntry⟩
    rw [hEntry] at hError
    cases hError
  · rw [decodeBody_of_rejects h hRejects] at hError
    exact ⟨offset, defect, (Except.error.inj hError).symm,
      hRejects⟩

end Heads

/- Bodies of messages about routes follow the grammar. -/
theorem routeGrammar_decodeBody
    (body : Bytes) :
    RouteGrammar body
      (decodeBody MessageType.newRoute body) where
  otherFamily family hFamily hOther := by
    have hConcerns : concernsGateway body = false := by
      unfold concernsGateway
      rw [List.head?_eq_getElem?, hFamily]
      simpa using hOther
    unfold decodeBody
    rw [if_neg (by decide), if_neg (by decide),
      if_neg (by simp [hConcerns])]
  missingHeader hFamily hShort := by
    have hNone : GatewayHeader.layout.read? body = none :=
      if_neg (Nat.not_le.mpr hShort)
    rw [decodeBody_newRoute hFamily]
    simp only [Entry.decode, Entry.decodeHeader, hNone]
    rfl
  otherGateway hFamily hLength hOther := by
    rcases GatewayHeader.exists_read hLength with
      ⟨header, hRead, -, hType⟩
    have hGateway :
        header.gatewayType ≠ GatewayHeader.canToCan := by
      intro hSame
      rw [hSame] at hType
      exact hOther hType
    rw [decodeBody_newRoute fun family hFound =>
      Option.some.inj (hFound.symm.trans hFamily)]
    simp only [Entry.decode, Entry.decodeHeader, hRead,
      hGateway, if_false]
    rfl
  accepted hHeads := by
    constructor
    · rintro ⟨entry, hEntry⟩
      exact accepts_of_decodeBody hHeads hEntry
    · exact decodeBody_of_accepts hHeads
  rejected hHeads error := by
    constructor
    · exact rejects_of_decodeBody hHeads
    · rintro ⟨offset, defect, rfl, hRejects⟩
      exact decodeBody_of_rejects hHeads hRejects
  decided hHeads kind hKind := by
    rcases decodeBody_of_accepts hHeads
        (accepts_of_decodeBody hHeads hKind) with
      ⟨entry, hEntry⟩
    rw [hKind] at hEntry
    exact ⟨entry, Except.ok.inj hEntry⟩
  placed hHeads offset defect hError := by
    rcases rejects_of_decodeBody hHeads hError with
      ⟨place, found, hSame, hRejects⟩
    cases hSame
    have hPlace := hRejects.place (by decide)
    have hLength := hHeads.length
    rw [List.length_drop] at hPlace
    omega

/-
  A message about routes, whatever comes after it, is read as
  the grammar says.
-/
theorem routeGrammar_decode
    {bytes : Bytes}
    {header : Header}
    (hHeader : Header.layout.read? bytes = some header)
    (hSize : Header.size ≤ header.length.toNat)
    (hFits : header.length.toNat ≤ bytes.length)
    (hType : header.type = MessageType.newRoute) :
    RouteGrammar
      ((bytes.take header.length.toNat).drop Header.size)
      ((decode bytes).map fun decoded => decoded.1.kind) := by
  let message : Framed :=
    { header,
      bytes := bytes.take header.length.toNat,
      used :=
        min (Bytes.align header.length.toNat) bytes.length }
  have hSplit : Framed.split bytes = .ok message :=
    Framed.split_eq_ok_iff.mpr
      ⟨hHeader, hSize, hFits, rfl, rfl⟩
  have hMeaning :
      ((decode bytes).map fun decoded => decoded.1.kind) =
        decodeBody MessageType.newRoute
          (message.bytes.drop Header.size) := by
    unfold decode ofFramed
    rw [hSplit, ← hType]
    change
      (((decodeBody header.type
            (message.bytes.drop Header.size) >>= _) >>=
          _).map _) = _
    cases decodeBody header.type
      (message.bytes.drop Header.size) <;> rfl
  rw [hMeaning]
  exact routeGrammar_decodeBody _

/-
  A message with an attribute that is said to be longer than
  what is left of the message.
-/
def overlongSource : Bytes :=
  [28, 0, 0, 0, 24, 0, 0, 0, 1, 0, 0, 0, 0, 0, 0, 0,
    29, 1, 0, 0,
    12, 0, 9, 0, 1, 0, 0, 0]

theorem routeGrammar_decode_overlongSource :
    ∃ header,
      Header.layout.read? overlongSource = some header ∧
        Header.size ≤ header.length.toNat ∧
        header.length.toNat ≤ overlongSource.length ∧
        header.type = MessageType.newRoute ∧
        Entry.Rejects Header.size [12, 0, 9, 0, 1, 0, 0, 0]
          20 .attributeExceedsMessage := by
  let header : Header := ⟨28, 24, 0, 1, 0⟩
  have hHeader :
      Header.layout.read? overlongSource = some header := by
    cbv
  have hSize : Header.size ≤ header.length.toNat := by
    decide
  have hFits :
      header.length.toNat ≤ overlongSource.length := by
    decide
  have hGrammar := routeGrammar_decode hHeader hSize hFits rfl
  have hHeads :
      GatewayHeader.Heads
        ((overlongSource.take header.length.toNat).drop
          Header.size) :=
    ⟨by decide, by decide, by decide⟩
  have hError :
      ((decode overlongSource).map fun decoded =>
          decoded.1.kind) =
        .error (.malformed 20 .attributeExceedsMessage) := by
    cbv
  rcases (hGrammar.rejected hHeads _).mp hError with
    ⟨offset, defect, hSame, hRejects⟩
  cases hSame
  exact ⟨header, hHeader, hSize, hFits, rfl, hRejects⟩

end Response

end GatewayRules
