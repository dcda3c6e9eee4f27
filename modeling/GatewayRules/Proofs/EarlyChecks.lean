import GatewayRules.Proofs.BuiltRule
import GatewayRules.Proofs.ModificationGrammar
import Mathlib

/-
  When the parts of a rule are checked.  Every text that
  describes a part is read for the kind of frames that the
  rule routes, so that what is wrong with a part is found as it
  is read.  What is left for the rule as a whole is how its
  parts fit together: a checksum needs a modification.  The hop
  limit is not checked before either.

  Main declarations:
    * `RuleOptions.parts` and `RuleOptions.rule_eq_parts`
    * `Violation.isOfPart`
    * `Descriptor.OnlyViolates`
    * `Descriptor.onlyViolates_modification`
    * `RuleOptions.States.validate_eq`
    * `RuleOptions.rule_checkedEarly`
-/

------------------------------------------------------------
-- The Parts of a Rule
------------------------------------------------------------

namespace GatewayRules

namespace RuleOptions

/- The interfaces and settings of a rule that is yet to build. -/
abbrev Parts :=
  Interface.Index × Interface.Index × List Rule.Setting

/- What options come to before a rule is built from it. -/
def parts
    (directory : Interface.Directory)
    (options : RuleOptions) : Except Complaint Parts := do
  let source ← interface directory options.source
  let destination ← interface directory options.destination
  let filter ← setting options.filter fun text => do
    return .filter (← Descriptor.filter text)
  let modification ← setting options.modificationTexts
    fun texts => do
      return .modification
        (← Descriptor.modification options.kind texts)
  let xor ← setting options.xor fun text => do
    return .checksum <| .xor
      (← Descriptor.xorChecksum options.kind text)
  let crc8 ← setting options.crc8 fun text => do
    return .checksum <| .crc8
      (← Descriptor.crc8Checksum options.kind options.profile text)
  let hops ← setting options.hops fun hops =>
    return .hopLimit hops
  let uid ← setting options.uid fun text => do
    return .uid (← Descriptor.word text)
  return (source, destination,
    .flags options.flags ::
      filter ++ modification ++ xor ++ crc8 ++ hops ++ uid)

variable {directory : Interface.Directory}
variable {options : RuleOptions}

/- The rule is built last, from parts that were all read. -/
theorem rule_eq_parts
    (directory : Interface.Directory)
    (options : RuleOptions) :
    options.rule directory =
      (do
        let (source, destination, settings) ←
          options.parts directory
        Descriptor.checked
          (Rule.build source destination settings)) := by
  unfold rule parts
  simp only [bind_assoc, pure_bind]

/- The parts are those of the rule that the options state. -/
theorem states_of_parts
    {source destination : Interface.Index}
    {settings : List Rule.Setting}
    (h :
      options.parts directory =
        .ok (source, destination, settings)) :
    options.States directory
      (settings.foldl Rule.apply
        (Rule.plain source destination)) := by
  unfold parts at h
  simp only [bind_eq_ok_iff, setting_eq_ok_iff,
    setting_pure] at h
  rcases h with
    ⟨_, hSource, _, hDestination, _, ⟨filter, hFilter, rfl⟩, _,
      ⟨modification, hModification, rfl⟩, _, ⟨xor, hXor, rfl⟩,
      _, ⟨crc8, hCrc8, rfl⟩, _, hHops, _, ⟨uid, hUid, rfl⟩,
      hParts⟩
  cases hHops
  cases hParts
  rw [Rule.foldl_given]
  exact
    { source := hSource,
      destination := hDestination,
      flags := rfl,
      filter := hFilter,
      modification := hModification,
      checksum := ⟨xor, crc8, hXor, hCrc8, rfl⟩,
      hopLimit := rfl,
      uid := hUid }

end RuleOptions

------------------------------------------------------------
-- Violations Within One Part
------------------------------------------------------------

/-
  Whether a violation is one of a single part of a rule, and
  not one of how parts fit together or of the hop limit.
-/
def Violation.isOfPart : Violation → Bool
  | .mixedFrameKinds => false
  | .frameKindMismatch => false
  | .checksumWithoutModification => false
  | .zeroHopLimit => false
  | _ => true

/- Behind functions of its own kind, only a function is at fault. -/
theorem Modification.isOfPart_of_conflict?
    {front : List (Operation × Function)}
    {entry : Operation × Function}
    {violation : Violation}
    (hAlike :
      ∀ other ∈ front,
        other.2.template.kind = entry.2.template.kind)
    (h : conflict? front entry = some violation) :
    violation.isOfPart = true := by
  unfold conflict? at h
  rcases Option.or_eq_some_iff.mp h with hOwn | ⟨-, hOthers⟩
  · rcases Function.eq_of_violation? hOwn with rfl | rfl <;> rfl
  · have hNone :
        ¬ ∃ other ∈ front,
          other.2.template.kind ≠ entry.2.template.kind := by
      rintro ⟨other, hOther, hKind⟩
      exact hKind (hAlike other hOther)
    rw [if_neg hNone] at hOthers
    split at hOthers
    · cases hOthers
      rfl
    · cases hOthers

namespace Descriptor

variable {α β : Type}

/-
  Whether a step complains of no violations but those of single
  parts, whatever else it complains of.
-/
def OnlyViolates (step : Except Complaint α) : Prop :=
  ∀ violation,
    step = .error (.ofViolation violation) →
      violation.isOfPart = true

namespace OnlyViolates

theorem ok (a : α) : OnlyViolates (.ok a) :=
  nofun

/- One step after the other, both complain of no others. -/
theorem bind
    {first : Except Complaint α}
    {second : α → Except Complaint β}
    (hFirst : OnlyViolates first)
    (hSecond : ∀ a, first = .ok a → OnlyViolates (second a)) :
    OnlyViolates (first >>= second) := by
  intro violation h
  cases hStep : first with
  | error complaint =>
      rw [hStep] at h
      cases h
      exact hFirst violation hStep
  | ok a =>
      rw [hStep] at h
      exact hSecond a hStep violation h

/- What a check finds is complained of as it is. -/
theorem checked
    {result : Except Violation α}
    (h :
      ∀ violation,
        result = .error violation →
          violation.isOfPart = true) :
    OnlyViolates (checked result) := by
  intro violation hChecked
  cases result with
  | ok a => cases hChecked
  | error other =>
      cases hChecked
      exact h violation rfl

/- One check after the other finds no others than they do. -/
theorem checked_bind
    {first : Except Violation α}
    {second : α → Except Violation β}
    (hFirst : OnlyViolates (Descriptor.checked first))
    (hSecond :
      ∀ a, OnlyViolates (Descriptor.checked (second a))) :
    OnlyViolates (Descriptor.checked (first >>= second)) := by
  cases first with
  | ok a => exact hSecond a
  | error violation =>
      intro other h
      cases h
      exact hFirst violation rfl

theorem checked_ite
    {p : Prop}
    [Decidable p]
    {result : Except Violation α}
    {violation : Violation}
    (hResult : OnlyViolates (Descriptor.checked result))
    (h : violation.isOfPart = true) :
    OnlyViolates
      (Descriptor.checked
        (if p then result else .error violation)) := by
  split
  · exact hResult
  · intro other hOther
    cases hOther
    exact h

/- A text that is not understood is no violation. -/
theorem expect
    {complaint : Complaint}
    (value? : Option α)
    (h : ∀ violation, complaint ≠ .ofViolation violation) :
    OnlyViolates (expect complaint value?) := by
  intro violation hExpect
  cases value? with
  | some a => cases hExpect
  | none =>
      cases hExpect
      exact absurd rfl (h violation)

theorem mapError
    {ε : Type}
    {complain : ε → Complaint}
    (result : Except ε α)
    (h : ∀ e violation, complain e ≠ .ofViolation violation) :
    OnlyViolates (result.mapError complain) := by
  intro violation hResult
  cases result with
  | ok a => cases hResult
  | error e => exact absurd (Except.error.inj hResult) (h e _)

/- An option that is given is read, and no others are. -/
theorem setting
    {option : Option α}
    {read : α → Except Complaint β}
    (wrap : β → Rule.Setting)
    (h : ∀ a, OnlyViolates (read a)) :
    OnlyViolates
      (RuleOptions.setting option fun a => do
        return wrap (← read a)) := by
  cases option with
  | none => exact ok []
  | some a =>
      refine bind (bind (h a) fun b _ => ?_) fun setting _ => ?_
      · exact ok (wrap b)
      · exact ok [setting]

end OnlyViolates

------------------------------------------------------------
-- Reading Parts
------------------------------------------------------------

variable {kind : FrameKind}

theorem onlyViolates_word
    (text : List Char) :
    OnlyViolates (word text) :=
  .expect _ nofun

theorem onlyViolates_byte
    (text : List Char) :
    OnlyViolates (byte text) :=
  .expect _ nofun

theorem onlyViolates_data
    (text : List Char) :
    OnlyViolates (data text) :=
  .mapError _ nofun

theorem onlyViolates_filter
    (text : List Char) :
    OnlyViolates (filter text) := by
  refine .bind (.expect _ nofun) ?_
  rintro ⟨id, mask⟩ -
  exact
    .bind (onlyViolates_word id) fun _ _ =>
      .bind (onlyViolates_word mask) fun _ _ => .ok _

theorem onlyViolates_targets
    (text : List Char) :
    OnlyViolates (targets text) := by
  unfold targets
  generalize (Flags.empty : Targets) = start
  induction text generalizing start with
  | nil => exact .ok start
  | cons char text ih =>
      rw [List.foldlM_cons]
      refine .bind ?_ fun next _ => ih next
      exact .bind (.expect _ nofun) fun _ _ => .ok _

/- What a frame cannot hold is found without a rule. -/
theorem onlyViolates_withLength
    (f : Frame)
    (length : UInt8) :
    OnlyViolates (checked (f.withLength length)) := by
  apply OnlyViolates.checked_ite _ rfl
  cases f <;> exact .ok _

theorem onlyViolates_frame
    (kind : FrameKind)
    (text : List Char) :
    OnlyViolates (frame kind text) := by
  unfold frame
  split
  · refine .bind (onlyViolates_word _) fun id _ => ?_
    refine .bind (onlyViolates_data _) fun bytes _ => ?_
    refine .bind (.checked_ite (.ok _) rfl) fun f _ => ?_
    exact .bind (onlyViolates_byte _) fun length _ =>
      onlyViolates_withLength f length
  · refine .bind (onlyViolates_byte _) fun flags _ => ?_
    refine .bind (onlyViolates_word _) fun id _ => ?_
    refine .bind (onlyViolates_data _) fun bytes _ => ?_
    refine .bind (.checked_ite (.ok _) rfl) fun f _ => ?_
    exact .bind (onlyViolates_byte _) fun length _ =>
      onlyViolates_withLength f length
  · exact nofun

theorem onlyViolates_function
    (kind : FrameKind)
    (text : List Char) :
    OnlyViolates (function kind text) := by
  refine .bind (.expect _ nofun) ?_
  rintro ⟨name, rest⟩ -
  refine .bind (.expect _ nofun) ?_
  rintro ⟨letters, template⟩ -
  refine .bind (.expect _ nofun) fun op _ => ?_
  refine .bind (onlyViolates_targets letters) fun t _ => ?_
  exact .bind (onlyViolates_frame kind template) fun _ _ => .ok _

/- The kind that a text is read for is that of its template. -/
theorem kind_of_function
    {text : List Char}
    {entry : Operation × Function}
    (h : function kind text = .ok entry) :
    entry.2.template.kind = kind := by
  unfold function at h
  simp only [bind_eq_ok_iff, frame_eq_ok_iff,
    Prod.exists] at h
  rcases h with
    ⟨name, rest, -, letters, template, -, op, -, t, -, f,
      hTemplate, hEntry⟩
  cases hEntry
  exact hTemplate.kind_eq

theorem Functions.kind_eq
    {texts : List (List Char)}
    {entries : List (Operation × Function)}
    (h : Functions kind texts entries) :
    ∀ entry ∈ entries, entry.2.template.kind = kind := by
  induction h with
  | nil => exact nofun
  | cons hEntry _ ih =>
      exact List.forall_mem_cons.mpr
        ⟨kind_of_function hEntry, ih⟩

theorem onlyViolates_foldlM_addModification
    {texts : List (List Char)}
    {start : Modification}
    {front : List (Operation × Function)}
    (hStart : start.Comprises front)
    (hKind : ∀ entry ∈ front, entry.2.template.kind = kind) :
    OnlyViolates (texts.foldlM (addModification kind) start) := by
  -- All functions in front are of the kind that is read for.
  induction texts generalizing start front with
  | nil => exact .ok start
  | cons text texts ih =>
      rw [List.foldlM_cons, addModification_eq, bind_assoc]
      refine .bind (onlyViolates_function kind text) ?_
      intro entry hEntry
      have hOwn := kind_of_function hEntry
      have hAlike :
          ∀ other ∈ front,
            other.2.template.kind =
              entry.2.template.kind := by
        intro other hOther
        rw [hKind other hOther, hOwn]
      refine .bind (.checked ?_) ?_
      · intro violation h
        rw [hStart.add_eq entry] at h
        split at h
        case h_1 other hConflict =>
          cases h
          exact Modification.isOfPart_of_conflict? hAlike
            hConflict
        case h_2 => cases h
      · intro next hNext
        rw [checked_eq_ok_iff, hStart.add_eq entry] at hNext
        split at hNext
        case h_1 => cases hNext
        case h_2 hConflict =>
          cases hNext
          refine ih (hStart.put ?_) ?_
          · exact
              (Modification.conflict?_eq_none_iff_compatible
                hStart.compatible).mp hConflict
          · intro other hOther
            rcases List.mem_append.mp hOther with hFront | hLast
            · exact hKind other hFront
            · rw [List.mem_singleton.mp hLast]
              exact hOwn

/- Functions that are read for one kind are never mixed. -/
theorem onlyViolates_modification
    (kind : FrameKind)
    (texts : List (List Char)) :
    OnlyViolates (modification kind texts) :=
  onlyViolates_foldlM_addModification
    Modification.comprises_empty nofun

theorem onlyViolates_offsets
    (first last result : List Char) :
    OnlyViolates (offsets first last result) :=
  .bind (.expect _ nofun) fun _ _ =>
    .bind (.expect _ nofun) fun _ _ =>
      .bind (.expect _ nofun) fun _ _ => .ok _

theorem onlyViolates_validate
    (offsets : Offsets)
    (maxLength : Nat) :
    OnlyViolates (checked (offsets.validate maxLength)) := by
  have hOne (field : OffsetField) (offset : Int8) :
      OnlyViolates
        (checked
          (Offsets.validateOne field offset maxLength)) :=
    .checked_ite (.ok ()) rfl
  exact .checked_bind (hOne _ _) fun _ =>
    .checked_bind (hOne _ _) fun _ => hOne _ _

theorem onlyViolates_xorChecksum
    (kind : FrameKind)
    (text : List Char) :
    OnlyViolates (xorChecksum kind text) := by
  unfold xorChecksum
  split
  · refine .bind (onlyViolates_offsets _ _ _) fun o _ => ?_
    refine .bind (onlyViolates_byte _) fun init _ => ?_
    exact .checked_bind (onlyViolates_validate _ _) fun _ =>
      .ok _
  · exact nofun

/- The offsets of a checksum that is read are in its payload. -/
theorem validate_of_xorChecksum
    {text : List Char}
    {c : XorChecksum}
    (h : xorChecksum kind text = .ok c) :
    c.offsets.validate kind.maxLength = .ok () := by
  unfold xorChecksum at h
  split at h
  · simp only [bind_eq_ok_iff, checked_eq_ok_iff] at h
    rcases h with ⟨o, -, init, -, hMake⟩
    rcases bind_eq_ok_iff.mp hMake with ⟨⟨⟩, hValid, hSame⟩
    cases hSame
    exact hValid
  · cases h

theorem onlyViolates_withProfile
    (c : Crc8Checksum)
    (text : List Char) :
    OnlyViolates (withProfile c text) := by
  unfold withProfile
  refine .bind (.expect _ nofun) fun number _ => ?_
  refine .bind (onlyViolates_data _) fun bytes _ => ?_
  exact .checked_ite (.ok _) rfl

theorem onlyViolates_crc8Checksum
    (kind : FrameKind)
    (profile : Option (List Char))
    (text : List Char) :
    OnlyViolates (crc8Checksum kind profile text) := by
  unfold crc8Checksum
  split
  · refine .bind (onlyViolates_offsets _ _ _) fun o _ => ?_
    refine .bind (onlyViolates_byte _) fun init _ => ?_
    refine .bind (onlyViolates_byte _) fun final _ => ?_
    refine .bind (.mapError _ ?_) fun table _ => ?_
    · intro fault violation h
      cases h
    refine .bind ?_ fun c _ => ?_
    · unfold Crc8Checksum.make
      split
      · exact .checked_bind (onlyViolates_validate _ _)
          fun _ => .ok _
      · intro violation h
        cases h
        rfl
    · cases profile with
      | none => exact .ok c
      | some profile => exact onlyViolates_withProfile c profile
  · intro violation h
    cases h

/- A profile has nothing to do with the offsets. -/
theorem offsets_withProfile
    {text : List Char}
    {c other : Crc8Checksum}
    (h : withProfile c text = .ok other) :
    other.offsets = c.offsets := by
  unfold withProfile at h
  simp only [bind_eq_ok_iff, checked_eq_ok_iff] at h
  rcases h with ⟨number, -, bytes, -, hWith⟩
  rcases ite_eq_ok_iff.mp hWith with ⟨-, rfl⟩
  rfl

theorem validate_of_crc8Checksum
    {profile : Option (List Char)}
    {text : List Char}
    {c : Crc8Checksum}
    (h : crc8Checksum kind profile text = .ok c) :
    c.offsets.validate kind.maxLength = .ok () := by
  unfold crc8Checksum at h
  split at h
  · simp only [bind_eq_ok_iff, checked_eq_ok_iff] at h
    rcases h with
      ⟨o, -, init, -, final, -, table, -, plain, hMake,
        hProfile⟩
    have hOffsets : c.offsets = plain.offsets := by
      cases profile with
      | none =>
          cases hProfile
          rfl
      | some profile => exact offsets_withProfile hProfile
    rw [hOffsets]
    unfold Crc8Checksum.make at hMake
    split at hMake
    · rcases bind_eq_ok_iff.mp hMake with ⟨⟨⟩, hValid, hSame⟩
      cases hSame
      exact hValid
    · cases hMake
  · cases h

end Descriptor

namespace RuleOptions

theorem onlyViolates_interface
    (directory : Interface.Directory)
    (text : List Char) :
    Descriptor.OnlyViolates (interface directory text) := by
  unfold interface Interface.Name.ofText
  refine .bind (.checked ?_) fun name _ => .mapError _ nofun
  intro violation h
  unfold Interface.Name.make at h
  dsimp only at h
  split at h
  · cases h
  · cases h
    rfl

theorem onlyViolates_parts
    (directory : Interface.Directory)
    (options : RuleOptions) :
    Descriptor.OnlyViolates (options.parts directory) := by
  unfold parts
  refine .bind (onlyViolates_interface _ _) fun _ _ => ?_
  refine .bind (onlyViolates_interface _ _) fun _ _ => ?_
  refine .bind (.setting _ Descriptor.onlyViolates_filter)
    fun _ _ => ?_
  refine .bind
    (.setting _ (Descriptor.onlyViolates_modification _))
    fun _ _ => ?_
  refine .bind
    (.setting _ (Descriptor.onlyViolates_xorChecksum _))
    fun _ _ => ?_
  refine .bind
    (.setting _ (Descriptor.onlyViolates_crc8Checksum _ _))
    fun _ _ => ?_
  rw [setting_pure]
  refine .bind (.ok _) fun _ _ => ?_
  refine .bind (.setting _ Descriptor.onlyViolates_word)
    fun _ _ => ?_
  exact .ok _

------------------------------------------------------------
-- Parts Beside Each Other
------------------------------------------------------------

variable {directory : Interface.Directory}
variable {options : RuleOptions}
variable {rule : Rule}

/-
  Whether options ask for a checksum but not for any
  modification that it could be of.
-/
def SumsUnmodified (options : RuleOptions) : Prop :=
  (options.xor ≠ none ∨ options.crc8 ≠ none) ∧
    options.modifications = []

/- What is read is what was given, if anything was. -/
theorem Reads.eq_none_iff
    {α β : Type}
    {read : α → Except Complaint β}
    {option : Option α}
    {value : Option β}
    (h : Reads read option value) :
    value = none ↔ option = none := by
  cases h with
  | none => exact iff_of_true rfl rfl
  | some => exact iff_of_false nofun nofun

theorem modificationTexts_eq_none_iff :
    options.modificationTexts = none ↔
      options.modifications = [] := by
  unfold modificationTexts
  split
  case h_1 hNone => exact iff_of_true rfl hNone
  case h_2 hTexts => exact iff_of_false nofun hTexts

namespace States

theorem kind_eq
    (h : options.States directory rule) :
    rule.kind = options.kind := by
  unfold Rule.kind RuleOptions.kind
  rw [h.flags]

/-
  A modification that options state has some functions, all
  for frames of the kind that the rule routes.
-/
theorem exists_comprises
    {m : Modification}
    (h : options.States directory rule)
    (hModification : rule.modification = some m) :
    ∃ entries,
      entries ≠ [] ∧ m.Comprises entries ∧
        ∀ entry ∈ entries,
          entry.2.template.kind = rule.kind := by
  have hRead := h.modification
  rw [hModification] at hRead
  cases hTexts : options.modificationTexts with
  | none =>
      rw [hTexts] at hRead
      cases hRead
  | some texts =>
      rw [hTexts] at hRead
      cases hRead with
      | some hRead =>
          rcases Descriptor.modification_eq_ok_iff.mp hRead with
            ⟨entries, hEntries, hAdd⟩
          refine
            ⟨entries, ?_, Modification.comprises_of_addAll hAdd,
              ?_⟩
          · -- Without functions there would be no texts.
            rintro rfl
            cases hEntries
            rw [modificationTexts_eq_none_iff.mpr
              (eq_of_modificationTexts hTexts)] at hTexts
            cases hTexts
          · rw [h.kind_eq]
            exact hEntries.kind_eq

theorem kind_of_mem_templates
    {template : Frame}
    (h : options.States directory rule)
    (hTemplate : template ∈ rule.templates) :
    template.kind = rule.kind := by
  cases hModification : rule.modification with
  | none => simp [Rule.templates, hModification] at hTemplate
  | some m =>
      rcases (Rule.mem_templates_iff hModification).mp
          hTemplate with
        ⟨operation, f, hGet, rfl⟩
      rcases h.exists_comprises hModification with
        ⟨entries, -, hComprises, hKind⟩
      exact hKind _ ((hComprises.get_iff operation f).mp hGet)

/- A modification that options state passes the check. -/
theorem validateModification_eq
    (h : options.States directory rule) :
    rule.validateModification = .ok () := by
  rw [Rule.validateModification_eq_ok_iff]
  intro m hModification
  rcases h.exists_comprises hModification with
    ⟨entries, hNonempty, hComprises, hKind⟩
  rcases List.exists_mem_of_ne_nil _ hNonempty with
    ⟨entry, hEntry⟩
  rw [hComprises.kind?_of_mem hEntry, hKind entry hEntry]

/- The offsets of a checksum were checked as it was read. -/
theorem validate_checksum
    {c : Checksum}
    (h : options.States directory rule)
    (hChecksum : rule.checksum = some c) :
    c.validate rule.kind.maxLength = .ok () := by
  rcases h.checksum with ⟨xor, crc8, hXor, hCrc8, hBoth⟩
  rw [hBoth] at hChecksum
  rw [h.kind_eq]
  generalize options.crc8 = crc8Text at hCrc8
  generalize options.xor = xorText at hXor
  cases hCrc8 with
  | some hRead =>
      cases hChecksum
      exact Descriptor.validate_of_crc8Checksum hRead
  | none =>
      cases hXor with
      | none => cases hChecksum
      | some hRead =>
          cases hChecksum
          exact Descriptor.validate_of_xorChecksum hRead

/- Options ask for a checksum if the rule that they state has one. -/
theorem sumsUnmodified_iff
    (h : options.States directory rule) :
    options.SumsUnmodified ↔
      rule.checksum ≠ none ∧ rule.modification = none := by
  rcases h.checksum with ⟨xor, crc8, hXor, hCrc8, hBoth⟩
  unfold SumsUnmodified
  rw [h.modification.eq_none_iff, modificationTexts_eq_none_iff,
    hBoth]
  refine and_congr_left' ?_
  simp only [ne_eq, ← hXor.eq_none_iff, ← hCrc8.eq_none_iff]
  cases xor <;> cases crc8 <;> simp

/-
  What is left to check of a rule whose parts were read: that
  its checksum is one of modified frames, and its hop limit.
-/
theorem validate_eq
    (h : options.States directory rule) :
    rule.validate =
      if rule.checksum ≠ none ∧ rule.modification = none then
        .error .checksumWithoutModification
      else
        rule.validateHopLimit := by
  unfold Rule.validate
  rw [h.validateModification_eq]
  cases hChecksum : rule.checksum with
  | none =>
      simp [Rule.validateChecksum, hChecksum]
      rfl
  | some c =>
      have hValid := h.validate_checksum hChecksum
      cases hModification : rule.modification with
      | none =>
          simp [Rule.validateChecksum, hChecksum,
            hModification]
          rfl
      | some m =>
          simp [Rule.validateChecksum, hChecksum,
            hModification, hValid]
          rfl

end States

/-
  Parts that were read fail to make a rule only by a checksum
  without a modification, or else by a hop limit of zero.
-/
theorem build_eq_error_iff_of_parts
    {source destination : Interface.Index}
    {settings : List Rule.Setting}
    {violation : Violation}
    (h :
      options.parts directory =
        .ok (source, destination, settings)) :
    Rule.build source destination settings =
        .error violation ↔
      (violation = .checksumWithoutModification ∧
          options.SumsUnmodified) ∨
        (violation = .zeroHopLimit ∧
          ¬ options.SumsUnmodified ∧
          options.hops = some 0) := by
  have hStates := states_of_parts h
  rw [Rule.foldl_apply] at hStates
  have hSums := hStates.sumsUnmodified_iff
  rw [Rule.build_eq_error_iff, hStates.validate_eq,
    ← hStates.hopLimit]
  by_cases hLacking : options.SumsUnmodified
  · rw [if_pos (hSums.mp hLacking)]
    simp [hLacking, eq_comm]
  · rw [if_neg (mt hSums.mpr hLacking)]
    unfold Rule.validateHopLimit
    split_ifs with hHops
    · simp [hLacking, hHops, eq_comm]
    · simp [hLacking, hHops]

/- Options ask for FD frames by one of their flags. -/
theorem contains_fd_of_ofGiven?
    {given : List Given}
    (h : ofGiven? given = some options) :
    options.flags.contains RuleFlags.fd =
      Given.isGiven given .fd := by
  have hUnion :
      ∀ echo timestamp sendBack fd : Bool,
        ((((if echo then RuleFlags.echo else Flags.empty).union
          (if timestamp then RuleFlags.sourceTimestamp
            else Flags.empty)).union
          (if sendBack then RuleFlags.sendBack
            else Flags.empty)).union
          (if fd then RuleFlags.fd else Flags.empty)).contains
            RuleFlags.fd = fd := by
    decide
  unfold ofGiven? at h
  dsimp only at h
  split_ifs at h
  split at h
  case h_1 =>
    cases h
    exact hUnion _ _ _ _
  case h_2 => cases h

/-
  No complaint about options is that kinds of frames do not fit
  together, since each part is read for the kind that the rule
  routes.  Of parts that were all read, the only complaints are
  that there is a checksum without a modification, and that the
  hop limit is zero.  A rule that comes of options has all its
  templates of the kind asked for, and requests are made for it.
-/
theorem rule_checkedEarly
    (directory : Interface.Directory)
    (options : RuleOptions) :
    (∀ violation,
      options.rule directory =
          .error (.ofViolation violation) →
        violation ≠ .mixedFrameKinds ∧
          violation ≠ .frameKindMismatch) ∧
      (∀ complaint,
        options.parts directory = .error complaint →
          options.rule directory = .error complaint) ∧
      (∀ source destination settings,
        options.parts directory =
            .ok (source, destination, settings) →
          options.rule directory =
              Descriptor.checked
                (Rule.build source destination settings) ∧
            ∀ violation,
              Rule.build source destination settings =
                  .error violation ↔
                (violation = .checksumWithoutModification ∧
                    options.SumsUnmodified) ∨
                  (violation = .zeroHopLimit ∧
                    ¬ options.SumsUnmodified ∧
                    options.hops = some 0)) ∧
      (∀ rule,
        options.rule directory = .ok rule →
          (∀ template ∈ rule.templates,
            template.kind = .fd ↔
              options.flags.contains RuleFlags.fd = true) ∧
            ∀ sequence,
              (∀ mode, ∃ request,
                Request.add rule sequence mode =
                  .ok request) ∧
                ∃ request,
                  Request.delete rule sequence =
                    .ok request) ∧
      ∀ given,
        ofGiven? given = some options →
          (options.flags.contains RuleFlags.fd = true ↔
            Given.isGiven given .fd = true) := by
  have hBuilt (source destination : Interface.Index)
      (settings : List Rule.Setting)
      (hParts :
        options.parts directory =
          .ok (source, destination, settings)) :
      options.rule directory =
        Descriptor.checked
          (Rule.build source destination settings) := by
    rw [rule_eq_parts, hParts]
    rfl
  have hRefused (complaint : Complaint)
      (hParts : options.parts directory = .error complaint) :
      options.rule directory = .error complaint := by
    rw [rule_eq_parts, hParts]
    rfl
  refine ⟨?_, hRefused, ?_, ?_, ?_⟩
  · intro violation hRule
    cases hParts : options.parts directory with
    | error complaint =>
        rw [hRefused complaint hParts] at hRule
        cases hRule
        have hOfPart :=
          onlyViolates_parts directory options violation hParts
        constructor <;>
          · rintro rfl
            cases hOfPart
    | ok parts =>
        rcases parts with ⟨source, destination, settings⟩
        rw [hBuilt source destination settings hParts] at hRule
        cases hBuild :
            Rule.build source destination settings with
        | ok rule =>
            rw [hBuild] at hRule
            cases hRule
        | error other =>
            rw [hBuild] at hRule
            cases hRule
            rcases (build_eq_error_iff_of_parts hParts).mp
                hBuild with
              ⟨rfl, -⟩ | ⟨rfl, -⟩ <;>
              exact ⟨nofun, nofun⟩
  · intro source destination settings hParts
    exact
      ⟨hBuilt source destination settings hParts, fun _ =>
        build_eq_error_iff_of_parts hParts⟩
  · intro rule hRule
    have hDescribes := rule_eq_ok_iff.mp hRule
    refine ⟨?_, ?_⟩
    · intro template hTemplate
      have hKind :=
        hDescribes.states.kind_of_mem_templates hTemplate
      rw [← hDescribes.states.flags]
      exact Rule.eq_kind_iff.mp hKind
    · intro sequence
      have hAdd (mode : AddMode) :
          ∃ request,
            Request.add rule sequence mode = .ok request :=
        Request.exists_checked_iff.mpr hDescribes.valid
      exact
        ⟨hAdd, Request.exists_checked_iff.mpr hDescribes.valid⟩
  · intro given hGiven
    rw [contains_fd_of_ofGiven? hGiven]

end RuleOptions

end GatewayRules
