import GatewayRules.Proofs.AttributeMeaning
import Mathlib

/-
  Entries that were read from a message.  Whatever the message
  looks like, its entry is normal: nothing of it is lost when
  it is written as a message again, and neither is anything of
  its rule when a request to add the rule is made.

  Main declarations:
    * `Profile.three_lt_of_ofNumber`
    * `Entry.isNormal_of_means`
    * `Request.decode_add`
    * `Response.decode_canonical`
-/

------------------------------------------------------------
-- Normal Entries
------------------------------------------------------------

namespace GatewayRules

/- Only numbers without a name are read as other profiles. -/
theorem Profile.three_lt_of_ofNumber
    {number n : UInt8}
    (h : ofNumber number = .other n) :
    3 < n := by
  unfold ofNumber at h
  split at h
  · cases h
  · rename_i hZero
    split at h
    · cases h
    · rename_i hOne
      split at h
      · cases h
      · rename_i hTwo
        split at h
        · cases h
        · rename_i hThree
          cases h
          exact (three_lt_iff number).mpr
            ⟨hZero, hOne, hTwo, hThree⟩

/- The profile of a checksum that an attribute holds. -/
theorem Attribute.three_lt_of_checksum?
    {a : Attribute}
    {c : Crc8Checksum}
    {n : UInt8}
    (hChecksum : a.checksum? = some (.crc8 c))
    (hProfile : c.profile = .other n) :
    3 < n := by
  unfold checksum? at hChecksum
  split at hChecksum
  · rcases Option.map_eq_some_iff.mp hChecksum with
      ⟨value, -, hXor⟩
    cases hXor
  · rcases Option.map_eq_some_iff.mp hChecksum with
      ⟨stored, -, hCrc8⟩
    cases hCrc8
    exact Profile.three_lt_of_ofNumber hProfile
  · cases hChecksum

/- What attributes mean is normal. -/
theorem Entry.isNormal_of_means
    {attributes : List Attribute}
    {entry : Entry}
    (h : Means attributes entry) :
    entry.IsNormal where
  modification := by
    intro hEmpty
    have hNone :
        ∀ a ∈ attributes, ∀ operation,
          a.slot? ≠ some (.function operation) := by
      intro a hMember operation
      have hGives := h.function operation
      have hGet :
          entry.rule.modification.bind (·.get operation) =
            none := by
        rw [hEmpty]
        exact Modification.eq_empty_iff.mp rfl operation
      exact
        Attribute.last?_eq_none_iff.mp
          (hGives.eq_none_iff.mp hGet) a hMember
    rw [h.modification.mpr hNone] at hEmpty
    cases hEmpty
  profile := by
    intro c n hChecksum hProfile
    have hGives := h.checksum
    rw [hChecksum] at hGives
    cases hFirst : Attribute.first? attributes .checksum with
    | none =>
        rw [hFirst] at hGives
        cases Option.some.inj hGives
    | some a =>
        rw [hFirst] at hGives
        have hRead : a.checksum? = some (.crc8 c) := by
          simpa [Attribute.Gives] using hGives
        exact a.three_lt_of_checksum? hRead hProfile

------------------------------------------------------------
-- Requests to Add a Rule
------------------------------------------------------------

/- An entry whose counters are zero has those of its rule. -/
theorem Rule.attributes_entry
    (rule : Rule) :
    Entry.attributes { rule } = rule.attributes :=
  rfl

namespace Request

/- What a request to add a rule says is the rule itself. -/
theorem decode_add
    {rule : Rule}
    (hValid : rule.validate = .ok ())
    (sequence : UInt32)
    (mode : AddMode) :
    ∃ request,
      add rule sequence mode = .ok request ∧
        Response.decode request =
          .ok
            ({ sequence,
               sender := 0,
               flags :=
                 MessageFlag.request ||| MessageFlag.acknowledge
                   ||| MessageFlag.create ||| mode.flag,
               kind := .entry (Entry.normalize { rule }) },
              request.length) := by
  let flags :=
    MessageFlag.request ||| MessageFlag.acknowledge
      ||| MessageFlag.create ||| mode.flag
  let request :=
    about MessageType.newRoute flags sequence rule.flags
      rule.attributes
  have hRequest : add rule sequence mode = .ok request := by
    unfold add
    rw [hValid]
    rfl
  have hLength : rule.attributes.length ≤ 13 :=
    Nat.le_trans rule.length_attributes_le (by decide)
  have hFills :=
    fills_about MessageType.newRoute flags sequence rule.flags
      rule.length_payload_le hLength
  refine ⟨request, hRequest, ?_⟩
  rw [Response.decode_of_fills hFills]
  have hMeaning := ofFramed_about { rule } flags sequence
  rw [Rule.attributes_entry] at hMeaning
  rw [hMeaning]
  rfl

end Request

------------------------------------------------------------
-- Decoded Entries
------------------------------------------------------------

namespace Response

/-
  An entry that was decoded from any message is normal, and is
  decoded again from its own message.  If its rule is valid,
  this rule, with counters of zero, is also what a request to
  add it is decoded to.
-/
theorem decode_canonical
    {bytes : Bytes}
    {response : Response}
    {used : Nat}
    {entry : Entry}
    (hDecode : decode bytes = .ok (response, used))
    (hEntry : response.kind = .entry entry)
    (sequence : UInt32)
    (mode : AddMode) :
    entry.rule.modification ≠ some .empty ∧
      (∀ c n, entry.rule.checksum = some (.crc8 c) →
        c.profile = .other n → 3 < n) ∧
      decode (Answer.entry entry sequence) =
        .ok
          ({ sequence,
             sender := 0,
             flags := MessageFlag.multipart,
             kind := .entry entry },
            (Answer.entry entry sequence).length) ∧
      (entry.rule.validate = .ok () →
        ∃ request,
          Request.add entry.rule sequence mode = .ok request ∧
            decode request =
              .ok
                ({ sequence,
                   sender := 0,
                   flags :=
                     MessageFlag.request
                       ||| MessageFlag.acknowledge
                       ||| MessageFlag.create ||| mode.flag,
                   kind := .entry { rule := entry.rule } },
                  request.length)) := by
  rcases exists_framed_of_decode hDecode with
    ⟨message, -, -, hMeaning⟩
  rcases ofFramed_eq_entry_iff.mp ⟨hMeaning, hEntry⟩ with
    ⟨header, attributes, -, -, -, hMeans, -⟩
  have hNormal := Entry.isNormal_of_means hMeans
  have hSame : entry.normalize = entry :=
    entry.normalize_eq_self_iff.mpr hNormal
  refine ⟨hNormal.modification, hNormal.profile, ?_, ?_⟩
  · rw [decode_of_fills (Answer.fills_entry entry sequence),
      Answer.ofFramed_entry, hSame]
    rfl
  · intro hValid
    have hRule :
        Entry.normalize { rule := entry.rule } =
          { rule := entry.rule } := by
      apply (Entry.normalize_eq_self_iff _).mpr
      exact ⟨hNormal.modification, hNormal.profile⟩
    rcases Request.decode_add hValid sequence mode with
      ⟨request, hRequest, hDecoded⟩
    rw [hRule] at hDecoded
    exact ⟨request, hRequest, hDecoded⟩

/-
  A message with a template that is longer than its kind
  allows, bytes where none are expected, and an attribute of an
  unknown kind.
-/
def overlongTemplate : Bytes :=
  [80, 0, 0, 0, 24, 0, 2, 0, 7, 0, 0, 0, 0, 0, 0, 0,
    29, 1, 1, 0,
    22, 0, 3, 0, 35, 1, 0, 0, 9, 170, 170, 0,
    1, 2, 3, 4, 5, 6, 7, 8, 4, 255, 0, 0,
    8, 0, 5, 0, 254, 255, 0, 170,
    4, 0, 20, 0,
    8, 0, 9, 0, 1, 0, 0, 0,
    8, 0, 10, 0, 2, 0, 0, 0,
    8, 0, 7, 0, 5, 0, 0, 0]

theorem decode_canonical_overlongTemplate :
    ∃ response entry,
      decode overlongTemplate = .ok (response, 80) ∧
        response.kind = .entry entry ∧
        entry.counters = { handled := 5 } ∧
        decode (Answer.entry entry 1) =
          .ok (⟨1, 0, 2, .entry entry⟩, 76) ∧
        ∃ request,
          Request.add entry.rule 1 .replace = .ok request ∧
            decode request =
              .ok
                (⟨1, 0, 1285, .entry { rule := entry.rule }⟩,
                  request.length) := by
  let template : Frame :=
    .classic ⟨291, 9, 0, ⟨[1, 2, 3, 4, 5, 6, 7, 8], rfl⟩⟩
  let entry : Entry :=
    { rule :=
        { source := ⟨1, by decide⟩,
          destination := ⟨2, by decide⟩,
          flags := RuleFlags.echo,
          modification :=
            some { onXor := some ⟨Targets.data, template⟩ },
          checksum := some (.xor ⟨⟨-2, -1, 0⟩, 170⟩) },
      counters := { handled := 5 } }
  let response : Response := ⟨7, 0, 2, .entry entry⟩
  have hDecode :
      decode overlongTemplate = .ok (response, 80) := by
    cbv
  have hValid : entry.rule.validate = .ok () := by
    cbv
  rcases decode_canonical hDecode rfl 1 .replace with
    ⟨-, -, hAgain, hAdd⟩
  refine ⟨response, entry, hDecode, rfl, rfl, ?_, ?_⟩
  · have hLength : (Answer.entry entry 1).length = 76 := by
      cbv
    rw [hAgain, hLength]
    rfl
  · exact hAdd hValid

end Response

end GatewayRules
