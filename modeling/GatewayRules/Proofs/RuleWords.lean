import GatewayRules.CommandLine.Command
import GatewayRules.Proofs.DescriptorText
import Mathlib

/-
  The words of the text of a rule are options with values.
  Where the names of the interfaces stand in the place of
  their indices, the program takes these words apart into what
  describes the rule, unless a value looks like an option.

  Main declarations:
    * `RuleFlags.given` and `Rule.given`
    * `Rule.namedWords`
    * `Rule.namedWords_eq`
    * `Rule.describing`
    * `Rule.ofGiven?_given`
-/

------------------------------------------------------------
-- Flags
------------------------------------------------------------

namespace GatewayRules

namespace RuleFlags

/- Each known flag with the option that sets it. -/
def choices : List (RuleFlags × CommandOption) :=
  [(echo, .echo), (sourceTimestamp, .timestamp),
    (sendBack, .sendBack), (fd, .fd)]

/- The options that set the known ones of some flags. -/
def given (flags : RuleFlags) : List Given :=
  choices.filterMap fun choice =>
    if flags.contains choice.1 then
      some { option := choice.2 }
    else
      none

theorem plain_of_mem_choices :
    ∀ choice ∈ choices,
      choice.2.takesValue = false ∧ choice.2 ≠ .help ∧
        choice.2 ≠ .version := by
  decide

theorem exists_choice_of_mem_given
    {flags : RuleFlags}
    {g : Given}
    (hMember : g ∈ flags.given) :
    ∃ choice ∈ choices,
      flags.contains choice.1 = true ∧
        g = { option := choice.2 } := by
  rcases List.mem_filterMap.mp hMember with
    ⟨choice, hChoice, hGiven⟩
  split at hGiven
  · cases hGiven
    exact ⟨choice, hChoice, ‹_›, rfl⟩
  · cases hGiven

variable (flags : RuleFlags)

/- The words for flags are the options that set them. -/
theorem words_options :
    ((options.filterMap fun option =>
        if flags.contains option.1 then
          some option.2
        else
          none).flatMap fun text => Split.words text.toList) =
      flags.given.flatMap Given.words := by
  have hOptions :
      options =
        choices.map fun choice =>
          (choice.1, String.ofList choice.2.word) :=
    rfl
  rw [hOptions, given, List.filterMap_map]
  generalize choices = list
  induction list with
  | nil => rfl
  | cons choice list ih =>
      cases hContains : flags.contains choice.1 with
      | false => simpa [hContains] using ih
      | true =>
          simpa [hContains, CommandOption.words_word,
            Given.words] using ih

theorem fits_given
    {listed : List CommandOption}
    (hListed :
      ∀ choice ∈ choices, choice.2 ∈ listed) :
    ∀ g ∈ flags.given, g.Fits listed := by
  intro g hMember
  rcases exists_choice_of_mem_given hMember with
    ⟨choice, hChoice, -, rfl⟩
  have hPlain := plain_of_mem_choices choice hChoice
  refine
    ⟨hListed choice hChoice, hPlain.2.1, hPlain.2.2, ?_,
      fun _ => rfl⟩
  intro hTakes
  rw [hPlain.1] at hTakes
  cases hTakes

@[simp]
theorem values_given
    (option : CommandOption) :
    Given.values flags.given option = [] := by
  apply List.filterMap_eq_nil_iff.mpr
  intro g hMember
  rcases exists_choice_of_mem_given hMember with
    ⟨choice, -, -, rfl⟩
  exact ite_self none

theorem countP_given
    {option : CommandOption}
    (hOther : ∀ choice ∈ choices, choice.2 ≠ option) :
    flags.given.countP (·.option = option) = 0 := by
  apply List.countP_eq_zero.mpr
  intro g hMember
  rcases exists_choice_of_mem_given hMember with
    ⟨choice, hChoice, -, rfl⟩
  simpa using hOther choice hChoice

/- An option is given if it is that of a flag that is set. -/
theorem isGiven_given
    (option : CommandOption) :
    Given.isGiven flags.given option =
      choices.any fun choice =>
        choice.2 = option && flags.contains choice.1 := by
  rw [Bool.eq_iff_iff, Given.isGiven, List.any_eq_true,
    List.any_eq_true]
  constructor
  · rintro ⟨g, hMember, hOption⟩
    rcases exists_choice_of_mem_given hMember with
      ⟨choice, hChoice, hContains, rfl⟩
    exact ⟨choice, hChoice, by simp_all⟩
  · rintro ⟨choice, hChoice, hBoth⟩
    rcases Bool.and_eq_true_iff.mp hBoth with
      ⟨hOption, hContains⟩
    refine ⟨{ option := choice.2 }, ?_, hOption⟩
    exact List.mem_filterMap.mpr
      ⟨choice, hChoice, by simp [hContains]⟩

/- Known flags are made up of those that are set. -/
theorem union_of_isKnown
    {flags : RuleFlags}
    (hKnown : flags.isKnown = true) :
    ((((if flags.contains echo then echo else Flags.empty).union
          (if flags.contains sourceTimestamp then
            sourceTimestamp
          else
            Flags.empty)).union
        (if flags.contains sendBack then
          sendBack
        else
          Flags.empty)).union
      (if flags.contains fd then fd else Flags.empty)) =
      flags := by
  revert flags
  apply Flags.of_isKnown
  decide

end RuleFlags

------------------------------------------------------------
-- The Words of a Rule
------------------------------------------------------------

/- The text of a filter is two numbers. -/
theorem Filter.toList_text (filter : Filter) :
    filter.text.toList =
      Hex.paddedNumber .upper 3 filter.id.toNat
        ++ ':' :: Hex.number .upper filter.mask.toNat := by
  simp [text]

theorem Filter.noBlank_text (filter : Filter) :
    Split.NoBlank filter.text.toList := by
  have hId :=
    Number.noBlank_of_digits?
      (Number.digits?_paddedNumber .upper 3 filter.id.toNat)
  have hMask :=
    Number.noBlank_of_digits?
      (Number.digits?_number .upper filter.mask.toNat)
  rw [toList_text]
  exact hId.append (.cons rfl hMask)

namespace Rule

variable (rule : Rule)

/- The checksum of a rule, if it is a plain one. -/
def xor? : Option XorChecksum :=
  match rule.checksum with
  | some (.xor c) => some c
  | _ => none

/- The checksum of a rule, if it is a table-driven one. -/
def crc8? : Option Crc8Checksum :=
  match rule.checksum with
  | some (.crc8 c) => some c
  | _ => none

/- What the text says of each function. -/
def modificationValues : List (List Char) :=
  rule.modification.toList.flatMap Modification.values

/- What options say of a rule, and the names of interfaces. -/
def describing
    (source destination : List Char) : RuleOptions where
  source
  destination
  flags := rule.flags
  filter := rule.filter.map fun f => f.text.toList
  modifications := rule.modificationValues
  xor := rule.xor?.map XorChecksum.value
  crc8 := rule.crc8?.map Crc8Checksum.value
  profile := rule.crc8?.bind Crc8Checksum.profileValue?
  hops := rule.hopLimit
  uid := rule.uid.map fun uid => Hex.number .upper uid.toNat

/- The options of a rule in front of those for its checksum. -/
def givenBefore
    (source destination : List Char) : List Given :=
  Given.each .source [source]
    ++ Given.each .destination [destination]
    ++ rule.flags.given
    ++ Given.each .filter
      (rule.filter.map fun f => f.text.toList).toList
    ++ Given.each (Modification.option rule.kind)
      rule.modificationValues

/- The options behind those for its checksum. -/
def givenBehind : List Given :=
  Given.each .hops
      (rule.hopLimit.map fun hops =>
        (Number.decimal hops.toNat).toList).toList
    ++ Given.each .uid
      (rule.uid.map fun uid =>
        Hex.number .upper uid.toNat).toList

/- All options of a rule, and the names of interfaces. -/
def given
    (source destination : List Char) : List Given :=
  rule.givenBefore source destination
    ++ Given.each .xor (rule.xor?.map XorChecksum.value).toList
    ++ Given.each .crc8
      (rule.crc8?.map Crc8Checksum.value).toList
    ++ Given.each .profile
      (rule.crc8?.bind Crc8Checksum.profileValue?).toList
    ++ rule.givenBehind

/- The words for a checksum. -/
theorem words_checksum :
    ((rule.checksum.map Checksum.text).toList.flatMap
        fun text => Split.words text.toList) =
      (Given.each .xor
            (rule.xor?.map XorChecksum.value).toList
          ++ Given.each .crc8
            (rule.crc8?.map Crc8Checksum.value).toList
          ++ Given.each .profile
            (rule.crc8?.bind
              Crc8Checksum.profileValue?).toList).flatMap
        Given.words := by
  rw [List.flatMap_append, List.flatMap_append,
    Given.words_each, Given.words_each, Given.words_each]
  unfold xor? crc8?
  cases rule.checksum with
  | none => rfl
  | some checksum =>
      cases checksum with
      | xor c => simp [Checksum.text, c.words_text]
      | crc8 c => simp [Checksum.text, c.words_text]

/- The words of an option whose value is a single word. -/
theorem words_option
    {α : Type}
    (option : CommandOption)
    (letter : String)
    (text : α → String)
    (hLetter : letter.toList = option.word ++ [' '])
    (hText :
      ∀ a, Split.NoBlank (text a).toList ∧
        (text a).toList ≠ [])
    (value : Option α) :
    ((value.map fun a => letter ++ text a).toList.flatMap
        fun text => Split.words text.toList) =
      (Given.each option
        (value.map fun a => (text a).toList).toList).flatMap
          Given.words := by
  rw [Given.words_each]
  cases value with
  | none => rfl
  | some a =>
      have hWords :=
        option.words_valued (hText a).1 (hText a).2
      simp [hLetter, hWords]

/- The words for a modification. -/
theorem words_modification
    (hKind :
      ∀ m, rule.modification = some m →
        ∀ operation f, m.get operation = some f →
          f.template.kind = rule.kind) :
    ((rule.modification.map Modification.text).toList.flatMap
        fun text => Split.words text.toList) =
      (Given.each (Modification.option rule.kind)
        rule.modificationValues).flatMap Given.words := by
  rw [Given.words_each, modificationValues]
  cases hModification : rule.modification with
  | none => rfl
  | some m =>
      have hWords :=
        Modification.words_text (hKind m hModification)
      simp [hWords]

/- The words of a text are the options of the rule. -/
theorem words_text
    (hKind :
      ∀ m, rule.modification = some m →
        ∀ operation f, m.get operation = some f →
          f.template.kind = rule.kind) :
    Split.words rule.text.toList =
      (rule.given rule.source.text.toList
        rule.destination.text.toList).flatMap
          Given.words := by
  have hNumber {base n : Nat} {digits : List Char}
      (hDigits : Number.digits? base digits = some n) :
      Split.NoBlank digits ∧ digits ≠ [] :=
    ⟨Number.noBlank_of_digits? hDigits,
      Number.ne_nil_of_digits? hDigits⟩
  have hFilter (f : Filter) :
      Split.NoBlank f.text.toList ∧ f.text.toList ≠ [] := by
    have hId :=
      hNumber (Number.digits?_paddedNumber .upper 3 f.id.toNat)
    refine ⟨f.noBlank_text, ?_⟩
    rw [f.toList_text]
    exact List.append_ne_nil_of_left_ne_nil hId.2 _
  have hIndex
      (option : CommandOption)
      (letter : String)
      (hLetter : letter.toList = option.word ++ [' '])
      (index : Interface.Index) :
      Split.words (letter ++ index.text).toList =
        (Given.each option [index.text.toList]).flatMap
          Given.words := by
    have hWords :=
      words_option option letter Interface.Index.text hLetter
        (fun _ => hNumber (Number.digits?_decimal _))
        (some index)
    rwa [Option.map_some, Option.toList_some,
      List.flatMap_singleton] at hWords
  have hFilters :=
    words_option .filter "-f " Filter.text rfl hFilter
      rule.filter
  have hHops :=
    words_option .hops "-l "
      (fun hops : UInt8 => Number.decimal hops.toNat) rfl
      (fun _ => hNumber (Number.digits?_decimal _))
      rule.hopLimit
  have hUid :=
    words_option .uid "-u "
      (fun uid : UInt32 =>
        String.ofList (Hex.number .upper uid.toNat))
      rfl
      (fun uid => by
        rw [String.toList_ofList]
        exact
          hNumber (Number.digits?_number .upper uid.toNat))
      rule.uid
  simp only [String.toList_ofList] at hUid
  unfold text options given givenBefore givenBehind
  rw [Split.words_intercalate]
  simp only [List.flatMap_append, List.flatMap_cons,
    List.flatMap_nil, List.append_nil,
    hIndex .source "-s " rfl, hIndex .destination "-d " rfl,
    hFilters, hHops, hUid, rule.flags.words_options,
    rule.words_modification hKind, rule.words_checksum,
    List.append_assoc]

/-
  The words of the text, with names in the place of the
  indices of the interfaces.
-/
def namedWords
    (source destination : List Char) : List (List Char) :=
  ((Split.words rule.text.toList).set 1 source).set 3
    destination

theorem namedWords_eq
    (source destination : List Char)
    (hKind :
      ∀ m, rule.modification = some m →
        ∀ operation f, m.get operation = some f →
          f.template.kind = rule.kind) :
    rule.namedWords source destination =
      (rule.given source destination).flatMap Given.words := by
  rw [namedWords, rule.words_text hKind]
  rfl

end Rule

------------------------------------------------------------
-- What the Words Describe
------------------------------------------------------------

/- A text that begins with a digit does not begin with a sign. -/
theorem Number.head?_append_of_digits?
    {base n : Nat}
    {digits : List Char}
    (hDigits : digits? base digits = some n)
    (back : List Char) :
    (digits ++ back).head? ≠ some '-' := by
  cases digits with
  | nil => cases hDigits
  | cons char rest =>
      intro hHead
      cases hHead
      exact absurd
        (isDigit_of_digits? hDigits '-' List.mem_cons_self)
        (by decide)

theorem Number.head?_of_digits?
    {base n : Nat}
    {digits : List Char}
    (hDigits : digits? base digits = some n) :
    digits.head? ≠ some '-' := by
  have hHead := head?_append_of_digits? hDigits []
  rwa [List.append_nil] at hHead

/- Only a negative number begins with a sign. -/
theorem Number.head?_signedDecimal_append
    {n : Int}
    (hNonneg : 0 ≤ n)
    (back : List Char) :
    ((signedDecimal n).toList ++ back).head? ≠ some '-' := by
  cases n with
  | ofNat n =>
      exact head?_append_of_digits? (digits?_decimal n) back
  | negSucc n => exact absurd hNonneg (by omega)

/- A hop limit is read from its number. -/
theorem CommandOption.hopsOf?_decimal (hops : UInt8) :
    hopsOf? (Number.decimal hops.toNat).toList =
      some hops := by
  have hHigh : (hops.toNat : Int) ≤ 255 := by
    have hBound := hops.toNat_lt
    omega
  have hRead :=
    Number.signed?_of_digits? (Number.digits?_decimal hops.toNat)
      (Int.natCast_nonneg hops.toNat) hHigh
  rw [hopsOf?, hRead]
  simp

/- The options among which those of a rule are looked for. -/
def CommandOption.ofAdd : List CommandOption :=
  .replace :: ofRule

namespace Rule

variable {rule : Rule}
variable {source destination : List Char}

/- An option that may be given, with a value that may be taken. -/
theorem fits_option
    {α : Type}
    {option : CommandOption}
    {write : α → List Char}
    {value : Option α}
    (hListed : option ∈ CommandOption.ofAdd)
    (hTakes : option.takesValue = true)
    (hValue :
      ∀ a, value = some a →
        (write a).head? ≠ some '-' ∧
          option.accepts (write a) = true) :
    ∀ g ∈ Given.each option (value.map write).toList,
      g.Fits CommandOption.ofAdd := by
  apply Given.fits_each hListed hTakes
  intro text hText
  rcases Option.map_eq_some_iff.mp
      (Option.mem_toList.mp hText) with ⟨a, ha, rfl⟩
  exact hValue a ha

theorem fits_givenBefore
    (hSource : source.head? ≠ some '-')
    (hDestination : destination.head? ≠ some '-') :
    ∀ g ∈ rule.givenBefore source destination,
      g.Fits CommandOption.ofAdd := by
  unfold givenBefore
  simp only [List.forall_mem_append]
  refine ⟨⟨⟨⟨?_, ?_⟩, ?_⟩, ?_⟩, ?_⟩
  · apply Given.fits_each (by decide) rfl
    simpa [CommandOption.accepts] using hSource
  · apply Given.fits_each (by decide) rfl
    simpa [CommandOption.accepts] using hDestination
  · exact rule.flags.fits_given (by decide)
  · apply fits_option (by decide) rfl
    intro f _
    rw [f.toList_text]
    exact
      ⟨Number.head?_append_of_digits?
          (Number.digits?_paddedNumber .upper 3 f.id.toNat) _,
        rfl⟩
  · have hOption :
        Modification.option rule.kind ∈ CommandOption.ofAdd ∧
          (Modification.option rule.kind).takesValue = true ∧
          ∀ text,
            (Modification.option rule.kind).accepts text =
              true := by
      cases rule.kind
      · exact ⟨by decide, rfl, fun _ => rfl⟩
      · exact ⟨by decide, rfl, fun _ => rfl⟩
    apply Given.fits_each hOption.1 hOption.2.1
    intro text hText
    rcases List.mem_flatMap.mp hText with ⟨m, -, hValue⟩
    rcases List.mem_map.mp hValue with ⟨entry, -, rfl⟩
    refine ⟨?_, hOption.2.2 _⟩
    rw [Modification.toList_functionText]
    cases entry.1 <;> simp [Operation.name]

theorem fits_givenBehind :
    ∀ g ∈ rule.givenBehind, g.Fits CommandOption.ofAdd := by
  unfold givenBehind
  simp only [List.forall_mem_append]
  constructor
  · apply fits_option (by decide) rfl
    intro hops _
    refine
      ⟨Number.head?_of_digits?
        (Number.digits?_decimal hops.toNat), ?_⟩
    simp [CommandOption.accepts, CommandOption.hopsOf?_decimal]
  · apply fits_option (by decide) rfl
    intro uid _
    exact
      ⟨Number.head?_of_digits?
          (Number.digits?_number .upper uid.toNat),
        rfl⟩

theorem checksum_of_xor?
    {c : XorChecksum}
    (h : rule.xor? = some c) :
    rule.checksum = some (.xor c) := by
  unfold xor? at h
  split at h
  · cases h
    assumption
  · cases h

theorem checksum_of_crc8?
    {c : Crc8Checksum}
    (h : rule.crc8? = some c) :
    rule.checksum = some (.crc8 c) := by
  unfold crc8? at h
  split at h
  · cases h
    assumption
  · cases h

/-
  All options of a rule fit if the first offset of the
  checksum, which its value begins with, is not negative.
-/
theorem fits_given
    (hSource : source.head? ≠ some '-')
    (hDestination : destination.head? ≠ some '-')
    (hFirst :
      ∀ c, rule.checksum = some c →
        0 ≤ c.offsets.first.toInt) :
    ∀ g ∈ rule.given source destination,
      g.Fits CommandOption.ofAdd := by
  have hOffsets (offsets : Offsets) (back : List Char)
      (hNonneg : 0 ≤ offsets.first.toInt) :
      (offsets.text.toList ++ back).head? ≠ some '-' := by
    rw [offsets.toList_text, List.append_assoc]
    exact Number.head?_signedDecimal_append hNonneg _
  unfold given
  simp only [List.forall_mem_append]
  refine
    ⟨⟨⟨⟨fits_givenBefore hSource hDestination, ?_⟩, ?_⟩, ?_⟩,
      fits_givenBehind⟩
  · apply fits_option (by decide) rfl
    intro c hXor
    have hNonneg := hFirst _ (checksum_of_xor? hXor)
    exact ⟨hOffsets c.offsets _ hNonneg, rfl⟩
  · apply fits_option (by decide) rfl
    intro c hCrc8
    have hNonneg := hFirst _ (checksum_of_crc8? hCrc8)
    exact ⟨hOffsets c.offsets _ hNonneg, rfl⟩
  · apply Given.fits_each (by decide) rfl
    intro text hText
    rcases Option.bind_eq_some_iff.mp
        (Option.mem_toList.mp hText) with ⟨c, -, hProfile⟩
    unfold Crc8Checksum.profileValue? at hProfile
    split at hProfile
    · cases hProfile
    · cases hProfile
      exact
        ⟨Number.head?_append_of_digits?
            (Number.digits?_decimal c.profile.number.toNat) _,
          rfl⟩

theorem values_given
    (option : CommandOption) :
    Given.values (rule.given source destination) option =
      match option with
      | .source => [source]
      | .destination => [destination]
      | .filter =>
          (rule.filter.map fun f => f.text.toList).toList
      | .modify =>
          if rule.kind = .classic then
            rule.modificationValues
          else
            []
      | .fdModify =>
          if rule.kind = .fd then rule.modificationValues else []
      | .xor => (rule.xor?.map XorChecksum.value).toList
      | .crc8 => (rule.crc8?.map Crc8Checksum.value).toList
      | .profile =>
          (rule.crc8?.bind Crc8Checksum.profileValue?).toList
      | .hops =>
          (rule.hopLimit.map fun hops =>
            (Number.decimal hops.toNat).toList).toList
      | .uid =>
          (rule.uid.map fun uid =>
            Hex.number .upper uid.toNat).toList
      | _ => [] := by
  unfold given givenBefore givenBehind
  simp only [Given.values_append, Given.values_each,
    RuleFlags.values_given]
  cases rule.kind <;> cases option <;>
    simp [Modification.option]

/- Only options for functions are repeated. -/
theorem countP_given_le
    {option : CommandOption}
    (hOnce : option.isRepeatable = false) :
    (rule.given source destination).countP
        (·.option = option) ≤ 1 := by
  have hRepeatable :
      ∀ choice ∈ RuleFlags.choices,
        choice.2.isRepeatable = true := by
    decide
  have hFlags :
      rule.flags.given.countP (·.option = option) = 0 := by
    apply RuleFlags.countP_given
    rintro choice hChoice rfl
    rw [hRepeatable choice hChoice] at hOnce
    cases hOnce
  have hOption : Modification.option rule.kind ≠ option := by
    rintro rfl
    revert hOnce
    cases rule.kind <;> decide
  have hOptional {α : Type} (value : Option α) :
      value.toList.length ≤ 1 := by
    cases value <;> simp
  unfold given givenBefore givenBehind
  simp only [List.countP_append, Given.countP_each, hFlags,
    if_neg hOption]
  cases option <;> simp [hOptional]

/- An option without a value is given for a flag only. -/
theorem isGiven_given
    {option : CommandOption}
    (hPlain : option.takesValue = false) :
    Given.isGiven (rule.given source destination) option =
      Given.isGiven rule.flags.given option := by
  have hEach (other : CommandOption) (texts : List (List Char))
      (hTakes : other.takesValue = true) :
      Given.isGiven (Given.each other texts) option = false := by
    apply Given.isGiven_each_of_ne
    rintro rfl
    rw [hPlain] at hTakes
    cases hTakes
  have hOption :
      (Modification.option rule.kind).takesValue = true := by
    cases rule.kind <;> rfl
  unfold given givenBefore givenBehind
  simp only [Given.isGiven_append, hEach _ _ hOption,
    hEach .source _ rfl, hEach .destination _ rfl,
    hEach .filter _ rfl, hEach .xor _ rfl, hEach .crc8 _ rfl,
    hEach .profile _ rfl, hEach .hops _ rfl, hEach .uid _ rfl,
    Bool.false_or, Bool.or_false]

/- The flags that are given are those of the rule. -/
theorem flags_given
    (hKnown : rule.flags.isKnown = true) :
    (((RuleOptions.flagOf (rule.given source destination)
            .echo RuleFlags.echo).union
          (RuleOptions.flagOf (rule.given source destination)
            .timestamp RuleFlags.sourceTimestamp)).union
        (RuleOptions.flagOf (rule.given source destination)
          .sendBack RuleFlags.sendBack)).union
        (RuleOptions.flagOf (rule.given source destination)
          .fd RuleFlags.fd) =
      rule.flags := by
  have hFlag (option : CommandOption) (flag : RuleFlags)
      (hChoice : (flag, option) ∈ RuleFlags.choices) :
      RuleOptions.flagOf (rule.given source destination) option
          flag =
        if rule.flags.contains flag then flag else Flags.empty := by
    have hPlain :=
      (RuleFlags.plain_of_mem_choices _ hChoice).1
    have hGiven :
        Given.isGiven rule.flags.given option =
          rule.flags.contains flag := by
      rw [RuleFlags.isGiven_given]
      fin_cases hChoice <;> simp [RuleFlags.choices]
    rw [RuleOptions.flagOf, isGiven_given hPlain, hGiven]
  rw [hFlag .echo _ (by decide), hFlag .timestamp _ (by decide),
    hFlag .sendBack _ (by decide), hFlag .fd _ (by decide)]
  exact RuleFlags.union_of_isKnown hKnown

/-
  What the program takes the options of a rule for, if they
  fit.
-/
theorem ofGiven?_given
    (hKnown : rule.flags.isKnown = true)
    (hFits :
      ∀ g ∈ rule.given source destination,
        g.Fits CommandOption.ofAdd) :
    RuleOptions.ofGiven? (rule.given source destination) =
      some (rule.describing source destination) := by
  have hConsistent :
      Given.areConsistent (rule.given source destination) =
        true :=
    Given.areConsistent_of_fits hFits fun _ => countP_given_le
  have hHead {α : Type} (value : Option α) :
      value.toList.head? = value := by
    cases value <;> rfl
  have hSingle :
      ((rule.xor?.map XorChecksum.value).isSome &&
        (rule.crc8?.map Crc8Checksum.value).isSome) = false := by
    unfold xor? crc8?
    cases rule.checksum with
    | none => rfl
    | some checksum => cases checksum <;> rfl
  have hProfile :
      ((rule.crc8?.bind Crc8Checksum.profileValue?).isSome &&
        (rule.crc8?.map Crc8Checksum.value).isNone &&
          (rule.xor?.map XorChecksum.value).isNone) = false := by
    cases rule.crc8? <;> simp
  have hModifications :
      (if rule.kind = .classic then
          rule.modificationValues
        else
          []) ++
        (if rule.kind = .fd then rule.modificationValues else []) =
        rule.modificationValues := by
    cases rule.kind <;> simp
  have hHops :
      (rule.hopLimit.map fun hops =>
          (Number.decimal hops.toNat).toList).bind
        CommandOption.hopsOf? =
        rule.hopLimit := by
    cases rule.hopLimit with
    | none => rfl
    | some hops => exact CommandOption.hopsOf?_decimal hops
  have hValue (option : CommandOption) :
      Given.value? (rule.given source destination) option =
        (Given.values (rule.given source destination)
          option).head? :=
    rfl
  unfold RuleOptions.ofGiven?
  simp only [hConsistent, hValue, values_given, hHead, hSingle,
    hProfile, hModifications, flags_given hKnown, hHops]
  rfl

end Rule

end GatewayRules
