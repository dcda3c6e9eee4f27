import GatewayRules.Proofs.RuleWords
import Mathlib

/-
  What the options of a rule describe.  Where there are words
  for each part of a valid rule, the options describe this
  rule, if every function suits its frames.  A function without
  a target, or with the FD flags of a classic frame for one, is
  complained about.

  Main declarations:
    * `Rule.IsDescribable`
    * `Rule.foldl_settings`
    * `Rule.rule_describing`
    * `Rule.rule_describing_of_suits`
    * `Rule.exists_complaint_of_not_suits`
-/

------------------------------------------------------------
-- Describable Rules
------------------------------------------------------------

namespace GatewayRules

/-
  Whether the options of the program can say what a rule is:
  the rule is valid, there are words for each function and each
  flag, and the checksum does not hold more than is written.
-/
structure Rule.IsDescribable (rule : Rule) : Prop where
  valid : rule.validate = .ok ()
  functions :
    ∀ m, rule.modification = some m →
      ∀ operation f, m.get operation = some f →
        f.IsDescribable rule.kind
  uncoded :
    ∀ m, rule.modification = some m →
      ∀ operation f, m.get operation = some f →
        f.template.withDlc 0 = f.template
  flags : rule.flags.isKnown = true
  named :
    ∀ c, rule.checksum = some (.crc8 c) →
      ∀ n, c.profile = .other n → 3 < n
  unspecified :
    ∀ c, rule.checksum = some (.crc8 c) →
      c.profile = .unspecified →
        c.profileData = Block.zeroFilled 20 []

/- A checksum that does not hold more than is written. -/
theorem Crc8Checksum.asWritten_eq_self
    {c : Crc8Checksum}
    (hNamed : ∀ n, c.profile = .other n → 3 < n)
    (hUnspecified :
      c.profile = .unspecified →
        c.profileData = Block.zeroFilled 20 []) :
    c.asWritten = c := by
  have hProfile := c.profile.normalize_eq_self_iff.mpr hNamed
  unfold asWritten
  rw [hProfile]
  by_cases hNone : c.profile = .unspecified
  · rw [if_pos hNone, ← hUnspecified hNone]
  · rw [if_neg hNone]

/- A modification whose templates have no raw length code. -/
theorem Modification.withDlc_eq_self
    {m : Modification}
    (hUncoded :
      ∀ operation f, m.get operation = some f →
        f.template.withDlc 0 = f.template) :
    m.withDlc 0 = m := by
  apply ext_get
  intro operation
  rw [get_withDlc]
  cases hGet : m.get operation with
  | none => rfl
  | some f =>
      have hTemplate := hUncoded operation f hGet
      rw [Option.map_some, Function.withDlc, hTemplate]

------------------------------------------------------------
-- The Rule That Is Described
------------------------------------------------------------

namespace RuleOptions

/- An option that is read from what was written. -/
theorem setting_map
    {α β : Type}
    {value : Option α}
    {write : α → β}
    {make : β → Except Complaint Rule.Setting}
    {setting : α → Rule.Setting}
    (hMake :
      ∀ a, value = some a → make (write a) = .ok (setting a)) :
    RuleOptions.setting (value.map write) make =
      .ok (value.map setting).toList := by
  cases value with
  | none => rfl
  | some a =>
      rw [Option.map_some, RuleOptions.setting, hMake a rfl]
      rfl

end RuleOptions

namespace Rule

variable {rule : Rule}
variable {directory : Interface.Directory}
variable {source destination : List Char}

/- There is something to modify in a valid modification. -/
theorem modificationTexts_describing
    (hValid : rule.validate = .ok ()) :
    (rule.describing source destination).modificationTexts =
      rule.modification.map Modification.values := by
  unfold RuleOptions.modificationTexts describing
    modificationValues
  cases hModification : rule.modification with
  | none => rfl
  | some m =>
      have hKind :=
        (validate_eq_ok_iff.mp hValid).1 m hModification
      have hNonempty : m.values ≠ [] := by
        intro hNone
        have hFunctions : m.functions = [] :=
          List.map_eq_nil_iff.mp hNone
        simp [Modification.kind?, hFunctions] at hKind
      simp only [Option.toList_some, List.flatMap_singleton,
        Option.map_some]

/- The checksum of a valid rule stays within its frames. -/
theorem validate_offsets
    (hValid : rule.validate = .ok ())
    (c : Checksum)
    (hChecksum : rule.checksum = some c) :
    c.offsets.validate rule.kind.maxLength = .ok () :=
  Offsets.validate_eq_ok_iff.mpr
    ((validate_eq_ok_iff.mp hValid).2.1 c hChecksum).2


/- The settings of a rule with the given ones for its functions. -/
def settings
    (rule : Rule)
    (modification : List Setting) : List Setting :=
  .flags rule.flags :: (rule.filter.map .filter).toList
    ++ modification
    ++ (rule.xor?.map fun c => .checksum (.xor c)).toList
    ++ (rule.crc8?.map fun c => .checksum (.crc8 c)).toList
    ++ (rule.hopLimit.map .hopLimit).toList
    ++ (rule.uid.map .uid).toList

/- The settings for given values give a rule these values. -/
theorem foldl_given
    (source destination : Interface.Index)
    (filter : Option Filter)
    (modification : Option Modification)
    (xor : Option XorChecksum)
    (crc8 : Option Crc8Checksum)
    (flags : RuleFlags)
    (hopLimit : Option UInt8)
    (uid : Option UInt32) :
    (Setting.flags flags :: (filter.map Setting.filter).toList
          ++ (modification.map Setting.modification).toList
          ++ (xor.map fun c => Setting.checksum (.xor c)).toList
          ++ (crc8.map fun c =>
            Setting.checksum (.crc8 c)).toList
          ++ (hopLimit.map Setting.hopLimit).toList
          ++ (uid.map Setting.uid).toList).foldl
        apply (plain source destination) =
      { source, destination, filter, modification,
        checksum :=
          (crc8.map Checksum.crc8).or (xor.map Checksum.xor),
        flags, hopLimit, uid } := by
  cases filter <;> cases modification <;> cases xor <;>
    cases crc8 <;> cases hopLimit <;> cases uid <;> rfl

/- The settings of a rule make up the rule. -/
theorem foldl_settings :
    (rule.settings
          (rule.modification.map .modification).toList).foldl
        apply (plain rule.source rule.destination) =
      rule := by
  have hChecksum :
      (rule.crc8?.map Checksum.crc8).or
          (rule.xor?.map Checksum.xor) =
        rule.checksum := by
    unfold crc8? xor?
    rcases rule.checksum with _ | _ | _ <;> rfl
  unfold settings
  rw [foldl_given, hChecksum]

theorem filter_text (f : Filter) :
    Descriptor.filter f.text.toList = .ok f := by
  have hId := Number.digits?_paddedNumber .upper 3 f.id.toNat
  have hMask := Number.digits?_number .upper f.mask.toNat
  have hColon :
      ':' ∉ Hex.paddedNumber .upper 3 f.id.toNat :=
    Number.not_mem_of_digits? hId (by decide)
  unfold Descriptor.filter
  rw [f.toList_text, Split.atFirst?_append_cons hColon]
  change
    (do
      let id ← Descriptor.word (Hex.paddedNumber .upper 3 _)
      let mask ← Descriptor.word (Hex.number .upper _)
      return ({ id, mask } : Filter)) = _
  rw [Descriptor.word_of_digits? hId,
    Descriptor.word_of_digits? hMask]
  rfl

/- A plain checksum is read from its value. -/
theorem setting_xor
    (hValid : rule.validate = .ok ()) :
    RuleOptions.setting (rule.xor?.map XorChecksum.value)
        (fun text => do
          return .checksum <| .xor
            (← Descriptor.xorChecksum rule.kind text)) =
      .ok
        (rule.xor?.map fun c =>
          Setting.checksum (.xor c)).toList := by
  apply RuleOptions.setting_map
  intro c hXor
  have hOffsets :
      c.offsets.validate rule.kind.maxLength = .ok () :=
    validate_offsets hValid (.xor c) (checksum_of_xor? hXor)
  rw [Descriptor.xorChecksum_value hOffsets]
  rfl

/- A table-driven one is read from two values. -/
theorem setting_crc8
    (hRule : rule.IsDescribable) :
    RuleOptions.setting (rule.crc8?.map Crc8Checksum.value)
        (fun text => do
          return .checksum <| .crc8
            (← Descriptor.crc8Checksum rule.kind
              (rule.crc8?.bind Crc8Checksum.profileValue?)
              text)) =
      .ok
        (rule.crc8?.map fun c =>
          Setting.checksum (.crc8 c)).toList := by
  apply RuleOptions.setting_map
  intro c hCrc8
  have hChecksum := checksum_of_crc8? hCrc8
  have hOffsets :
      c.offsets.validate rule.kind.maxLength = .ok () :=
    validate_offsets hRule.valid (.crc8 c) hChecksum
  rw [hCrc8, Option.bind_some,
    Descriptor.crc8Checksum_value hOffsets,
    Crc8Checksum.asWritten_eq_self
      (hRule.named c hChecksum)
      (hRule.unspecified c hChecksum)]
  rfl

/-
  All that is described apart from the modification is read as
  what it was.
-/
theorem rule_describing
    (hRule : rule.IsDescribable)
    (hSource :
      RuleOptions.interface directory source =
        .ok rule.source)
    (hDestination :
      RuleOptions.interface directory destination =
        .ok rule.destination) :
    (rule.describing source destination).rule directory =
      (do
        let modification ←
          RuleOptions.setting
            (rule.modification.map Modification.values)
            fun values => do
              return .modification
                (← Descriptor.modification rule.kind values)
        Descriptor.checked <|
          build rule.source rule.destination
            (rule.settings modification)) := by
  have hFilter :
      RuleOptions.setting
          (rule.filter.map fun f => f.text.toList)
          (fun text => do
            return .filter (← Descriptor.filter text)) =
        .ok (rule.filter.map Setting.filter).toList := by
    apply RuleOptions.setting_map
    intro f _
    rw [filter_text]
    rfl
  have hHops :
      RuleOptions.setting rule.hopLimit
          (fun hops => return Setting.hopLimit hops) =
        .ok (rule.hopLimit.map Setting.hopLimit).toList := by
    cases rule.hopLimit <;> rfl
  have hUid :
      RuleOptions.setting
          (rule.uid.map fun uid => Hex.number .upper uid.toNat)
          (fun text => do
            return .uid (← Descriptor.word text)) =
        .ok (rule.uid.map Setting.uid).toList := by
    apply RuleOptions.setting_map
    intro uid _
    rw [Descriptor.word_of_digits?
      (Number.digits?_number .upper uid.toNat)]
    rfl
  have hKind :
      (rule.describing source destination).kind = rule.kind :=
    rfl
  unfold RuleOptions.rule
  rw [modificationTexts_describing hRule.valid, hKind]
  simp only [describing]
  rw [hSource, hDestination, hFilter, setting_xor hRule.valid,
    setting_crc8 hRule, hHops, hUid]
  rfl

/- Whether every function of a rule suits its frames. -/
def Suits (rule : Rule) : Prop :=
  ∀ m, rule.modification = some m →
    ∀ operation f, m.get operation = some f →
      f.Suits rule.kind

/- What the values for a modification are read as. -/
theorem modification_describing
    {m : Modification}
    (hRule : rule.IsDescribable)
    (hModification : rule.modification = some m) :
    Descriptor.modification rule.kind m.values =
      Descriptor.checked
        (Modification.empty.addAll m.functions) := by
  rw [Descriptor.modification_values
      (hRule.functions m hModification),
    Modification.withDlc_eq_self
      (hRule.uncoded m hModification)]

/- A rule whose functions suit its frames is described. -/
theorem rule_describing_of_suits
    (hRule : rule.IsDescribable)
    (hSource :
      RuleOptions.interface directory source =
        .ok rule.source)
    (hDestination :
      RuleOptions.interface directory destination =
        .ok rule.destination)
    (hSuits : rule.Suits) :
    (rule.describing source destination).rule directory =
      .ok rule := by
  have hModification :
      RuleOptions.setting
          (rule.modification.map Modification.values)
          (fun values => do
            return .modification
              (← Descriptor.modification rule.kind values)) =
        .ok
          (rule.modification.map Setting.modification).toList := by
    apply RuleOptions.setting_map
    intro m hModification
    rw [modification_describing hRule hModification,
      Modification.addAll_functions (hSuits m hModification)]
    rfl
  have hBuild :
      build rule.source rule.destination
          (rule.settings
            (rule.modification.map .modification).toList) =
        .ok rule := by
    unfold build
    rw [foldl_settings]
    change
      (do
        rule.validate
        return rule) =
      _
    rw [hRule.valid]
    rfl
  rw [rule_describing hRule hSource hDestination,
    hModification]
  change Descriptor.checked (build _ _ _) = _
  rw [hBuild]
  rfl

/- The description of any other rule is complained about. -/
theorem exists_complaint_of_not_suits
    (hRule : rule.IsDescribable)
    (hSource :
      RuleOptions.interface directory source =
        .ok rule.source)
    (hDestination :
      RuleOptions.interface directory destination =
        .ok rule.destination)
    (hOther : ¬ rule.Suits) :
    ∃ complaint,
      (rule.describing source destination).rule directory =
        .error complaint := by
  rw [rule_describing hRule hSource hDestination]
  unfold Suits at hOther
  push Not at hOther
  rcases hOther with
    ⟨m, hModification, operation, f, hGet, hFunction⟩
  rw [hModification, Option.map_some, RuleOptions.setting,
    modification_describing hRule hModification]
  cases hAdd : Modification.empty.addAll m.functions with
  | error violation => exact ⟨_, rfl⟩
  | ok next =>
      have hSuits :=
        Modification.suits_of_addAll_functions
          (fun operation f hGet =>
            (hRule.functions m hModification operation f
              hGet).template)
          hAdd
      exact absurd (hSuits operation f hGet) hFunction

end Rule

end GatewayRules
