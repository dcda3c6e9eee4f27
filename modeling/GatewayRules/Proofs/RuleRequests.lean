import GatewayRules.Proofs.CanonicalEntry
import GatewayRules.Proofs.SoundRule
import Mathlib

/-
  Messages about one rule.  The requests to add and to delete a
  rule and the entry under which it is reported describe it by
  the same bytes, behind headers that tell them apart.  So a
  rule that was read from a message is deleted by all its
  fields.

  Main declarations:
    * `Request.HeadedBy`
    * `Request.drop_about`
    * `Rule.normalize_of_valid`
    * `Response.isNormal_of_decode`
    * `Request.describe_alike`
-/

------------------------------------------------------------
-- Headers and Bodies
------------------------------------------------------------

namespace GatewayRules

namespace Request

/-
  Whether a message begins with a header of its own length, a
  type, flags, and a number, from a sender without an address.
-/
def HeadedBy
    (type flags : UInt16)
    (sequence : UInt32)
    (message : Bytes) : Prop :=
  ∃ length : UInt32,
    length.toNat = message.length ∧
      Header.layout.read? message =
        some { length, type, flags, sequence, sender := 0 }

/- A message about few short attributes has such a header. -/
theorem headedBy_about
    (type flags : UInt16)
    (sequence : UInt32)
    (ruleFlags : RuleFlags)
    {attributes : List (AttributeKind × Bytes)}
    (hPayload : ∀ item ∈ attributes, item.2.length ≤ 282)
    (hCount : attributes.length ≤ 13) :
    HeadedBy type flags sequence
      (about type flags sequence ruleFlags attributes) := by
  let builder :=
    aboutBuilder type flags sequence ruleFlags attributes
  have hFits :=
    fits_aboutBuilder type flags sequence ruleFlags hPayload
      hCount
  rw [about_eq_finish]
  refine ⟨builder.header.length, ?_, builder.read?_finish⟩
  rw [Builder.length_finish]
  exact Builder.toNat_header_length hFits.2

/- The body of a message depends on what it is about alone. -/
theorem drop_about
    (type flags : UInt16)
    (sequence : UInt32)
    (ruleFlags : RuleFlags)
    (attributes : List (AttributeKind × Bytes)) :
    (about type flags sequence ruleFlags attributes).drop
        Header.size =
      GatewayHeader.layout.write (.ofFlags ruleFlags)
        ++ Attribute.encodeAll
          (Attribute.numbered attributes) := by
  rw [about_eq_finish]
  exact Builder.drop_finish _

end Request

------------------------------------------------------------
-- Normal Forms of Valid Rules
------------------------------------------------------------

namespace Rule

/- There is a function in the modification of a valid rule. -/
theorem modification_ne_empty
    {rule : Rule}
    (hValid : rule.validate = .ok ()) :
    rule.modification ≠ some .empty := by
  intro hEmpty
  have hKind := (validate_eq_ok_iff.mp hValid).1 _ hEmpty
  simp [Modification.kind?, Modification.functions,
    Operation.all, Modification.get, Modification.empty]
    at hKind

/- A valid rule comes back but for the name of a profile. -/
theorem normalize_of_valid
    {rule : Rule}
    (hValid : rule.validate = .ok ()) :
    rule.normalize =
      { rule with
        checksum := rule.checksum.map Checksum.normalize } := by
  unfold normalize
  rw [if_neg (modification_ne_empty hValid)]

end Rule

/- The entry that any message says is normal. -/
theorem Response.isNormal_of_decode
    {bytes : Bytes}
    {response : Response}
    {used : Nat}
    {entry : Entry}
    (hDecode : decode bytes = .ok (response, used))
    (hEntry : response.kind = .entry entry) :
    entry.IsNormal := by
  rcases exists_framed_of_decode hDecode with
    ⟨message, -, -, hMeaning⟩
  rcases ofFramed_eq_entry_iff.mp ⟨hMeaning, hEntry⟩ with
    ⟨header, attributes, -, -, -, hMeans, -⟩
  exact Entry.isNormal_of_means hMeans

------------------------------------------------------------
-- Three Messages About a Rule
------------------------------------------------------------

namespace Request

/-
  A valid rule can be added and deleted.  The requests have
  complete headers, which tell them apart, and the same body,
  which is also that of the rule as an entry without counts.
  The request to add the rule says the rule, but for the name
  of a profile that is given by its number.  If any message of
  the gateway says the rule, the body of the request to delete
  it says exactly this rule, too.
-/
theorem describe_alike
    {rule : Rule}
    (hValid : rule.validate = .ok ())
    (sequence : UInt32)
    (mode : AddMode) :
    let addFlags :=
      MessageFlag.request ||| MessageFlag.acknowledge
        ||| MessageFlag.create ||| mode.flag
    let deleteFlags :=
      MessageFlag.request ||| MessageFlag.acknowledge
    ∃ added deleted,
      add rule sequence mode = .ok added ∧
        delete rule sequence = .ok deleted ∧
        HeadedBy MessageType.newRoute addFlags sequence
          added ∧
        HeadedBy MessageType.deleteRoute deleteFlags sequence
          deleted ∧
        added.drop Header.size = deleted.drop Header.size ∧
        (∀ number,
          (Answer.entry { rule } number).drop Header.size =
            deleted.drop Header.size) ∧
        Response.decode added =
          .ok
            ({ sequence,
               sender := 0,
               flags := addFlags,
               kind :=
                 .entry
                   { rule :=
                       { rule with
                         checksum :=
                           rule.checksum.map
                             Checksum.normalize } } },
              added.length) ∧
        ∀ bytes response used counters,
          Response.decode bytes = .ok (response, used) →
            response.kind = .entry { rule, counters } →
              Entry.decode (deleted.drop Header.size)
                  Header.size =
                .ok { rule } := by
  intro addFlags deleteFlags
  rcases decode_add hValid sequence mode with
    ⟨added, hAdd, hDecoded⟩
  let deleted :=
    about MessageType.deleteRoute deleteFlags sequence
      rule.flags rule.attributes
  have hAdded :
      added =
        about MessageType.newRoute addFlags sequence
          rule.flags rule.attributes :=
    eq_of_checked hAdd
  have hDelete : delete rule sequence = .ok deleted := by
    unfold delete
    rw [hValid]
    rfl
  have hCount : rule.attributes.length ≤ 13 :=
    Nat.le_trans rule.length_attributes_le (by decide)
  have hNormal :
      Entry.normalize { rule } =
        { rule :=
            { rule with
              checksum :=
                rule.checksum.map Checksum.normalize } } := by
    unfold Entry.normalize
    rw [Rule.normalize_of_valid hValid]
  refine
    ⟨added, deleted, hAdd, hDelete, ?_,
      headedBy_about _ _ _ _ rule.length_payload_le hCount,
      ?_, ?_, ?_, ?_⟩
  · rw [hAdded]
    exact headedBy_about _ _ _ _ rule.length_payload_le hCount
  · rw [hAdded, drop_about, drop_about]
  · intro number
    unfold Answer.entry
    rw [Rule.attributes_entry, drop_about, drop_about]
  · rw [← hNormal]
    exact hDecoded
  · intro bytes response used counters hDecode hEntry
    have hRead := Response.isNormal_of_decode hDecode hEntry
    have hSame : Entry.normalize { rule } = { rule } :=
      (Entry.normalize_eq_self_iff _).mpr
        ⟨hRead.modification, hRead.profile⟩
    have hBody := Entry.decode_body { rule } Header.size
    rw [Rule.attributes_entry, hSame] at hBody
    rw [drop_about]
    exact hBody

/- A rule with a function and a checksum of some profile. -/
def profiled (profile : Profile) : Rule :=
  { Gateway.plainEntry.rule with
    modification := some { onSet := some classicFunction },
    checksum :=
      some <| .crc8
        { offsets := ⟨0, -2, -1⟩,
          init := 255,
          final := 0,
          table := Block.zeroFilled 256 [1, 2, 3],
          profile,
          profileData := Block.zeroFilled 20 [9] },
    hopLimit := some 1 }

/-
  The request to add a rule whose profile is given by a number
  says the rule with the name of the profile, and this is also
  the rule that is then deleted.
-/
theorem describe_alike_profiled :
    (profiled (.other 2)).validate = .ok () ∧
      ∃ added deleted,
        add (profiled (.other 2)) 7 .replace = .ok added ∧
          Response.decode added =
            .ok
              (⟨7, 0, 1285,
                .entry { rule := profiled .sixteenBytes }⟩,
                added.length) ∧
          delete (profiled .sixteenBytes) 8 = .ok deleted ∧
          Entry.decode (deleted.drop Header.size)
              Header.size =
            .ok { rule := profiled .sixteenBytes } := by
  have hNumbered :
      (profiled (.other 2)).validate = .ok () := by
    decide
  have hNamed :
      (profiled .sixteenBytes).validate = .ok () := by
    decide
  rcases describe_alike hNumbered 7 .replace with
    ⟨added, -, hAdd, -, -, -, -, -, hDecoded, -⟩
  rcases describe_alike hNamed 8 .exclusive with
    ⟨-, deleted, -, hDelete, -, -, -, -, -, hDeleted⟩
  exact
    ⟨hNumbered, added, deleted, hAdd, hDecoded, hDelete,
      hDeleted added _ _ _ hDecoded rfl⟩

end Request

end GatewayRules
