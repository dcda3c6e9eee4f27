import GatewayRules.Proofs.DescribedRule
import Mathlib

/-
  What options say of a rule, part by part.  In which order
  the parts are read decides the complaint, but not whether
  there is one: options describe a rule if each of them can be
  read and the rule that they make up is valid, and otherwise
  there is something wrong with one of them.

  Main declarations:
    * `Descriptor.function` and
      `Descriptor.modification_eq_ok_iff`
    * `RuleOptions.Reads`
    * `RuleOptions.States` and `RuleOptions.Describes`
    * `RuleOptions.Faulty`
    * `RuleOptions.rule_eq_ok_iff`
    * `RuleOptions.exists_complaint_iff`
-/

------------------------------------------------------------
-- Readings
------------------------------------------------------------

namespace GatewayRules

variable {α β : Type}

/- One step after the other succeeds if both do. -/
theorem bind_eq_ok_iff
    {ε : Type}
    {first : Except ε α}
    {second : α → Except ε β}
    {b : β} :
    (first >>= second) = .ok b ↔
      ∃ a, first = .ok a ∧ second a = .ok b := by
  cases first with
  | error e =>
      refine iff_of_false nofun ?_
      rintro ⟨a, hFirst, -⟩
      cases hFirst
  | ok a =>
      constructor
      · intro h
        exact ⟨a, rfl, h⟩
      · rintro ⟨other, hFirst, hSecond⟩
        cases hFirst
        exact hSecond

/- What is made under a condition is made if that is met. -/
theorem ite_eq_ok_iff
    {ε : Type}
    {p : Prop}
    [Decidable p]
    {e : ε}
    {a b : α} :
    (if p then Except.ok a else .error e) = .ok b ↔
      p ∧ a = b := by
  by_cases h : p <;> simp [h]

namespace Descriptor

@[simp]
theorem checked_eq_ok_iff
    {result : Except Violation α}
    {a : α} :
    checked result = .ok a ↔ result = .ok a := by
  cases result with
  | error violation => exact iff_of_false nofun nofun
  | ok b =>
      constructor
      · intro h
        cases h
        rfl
      · intro h
        cases h
        rfl

/- What does not come to a complaint comes to something. -/
theorem exists_ok
    {result : Except Complaint α}
    (h : ∀ complaint, result ≠ .error complaint) :
    ∃ a, result = .ok a := by
  cases result with
  | error complaint => exact absurd rfl (h complaint)
  | ok a => exact ⟨a, rfl⟩

variable {kind : FrameKind}
variable {texts : List (List Char)}
variable {m : Modification}

/- An operation and its function, set apart by colons. -/
def function
    (kind : FrameKind)
    (text : List Char) :
    Except Complaint (Operation × Function) := do
  let complaint := Complaint.invalid .modification text
  let (name, rest) ← expect complaint (Split.atFirst? ':' text)
  let (letters, template) ← expect complaint
    (Split.atFirst? ':' rest)
  let operation ← operation name
  let targets ← targets letters
  let template ← frame kind template
  return (operation, ⟨targets, template⟩)

/- A function is read before it is added. -/
theorem addModification_eq
    (kind : FrameKind)
    (m : Modification)
    (text : List Char) :
    addModification kind m text =
      (do
        let entry ← function kind text
        checked (m.add entry.1 entry.2)) := by
  unfold addModification function
  simp only [bind_assoc, pure_bind]

/- Whether texts are those of some functions, one by one. -/
abbrev Functions
    (kind : FrameKind)
    (texts : List (List Char))
    (entries : List (Operation × Function)) : Prop :=
  List.Forall₂
    (fun text entry => function kind text = .ok entry)
    texts entries

theorem foldlM_addModification_eq_ok_iff
    {start : Modification} :
    texts.foldlM (addModification kind) start = .ok m ↔
      ∃ entries,
        Functions kind texts entries ∧
          start.addAll entries = .ok m := by
  -- Every text adds to what those in front of it have made up.
  induction texts generalizing start with
  | nil =>
      constructor
      · intro h
        cases h
        exact ⟨[], .nil, rfl⟩
      · rintro ⟨entries, hRead, hAdd⟩
        cases hRead
        cases hAdd
        rfl
  | cons text texts ih =>
      rw [List.foldlM_cons, addModification_eq]
      simp only [bind_eq_ok_iff, checked_eq_ok_iff, ih]
      constructor
      · rintro ⟨next, ⟨entry, hEntry, hNext⟩, entries, hRead,
          hAdd⟩
        refine ⟨entry :: entries, .cons hEntry hRead, ?_⟩
        rw [Modification.addAll, List.foldlM_cons, hNext]
        exact hAdd
      · rintro ⟨_, hRead, hAdd⟩
        cases hRead with
        | @cons _ entry _ entries hEntry hRead =>
            rw [Modification.addAll, List.foldlM_cons] at hAdd
            cases hNext : start.add entry.1 entry.2 with
            | error violation =>
                rw [hNext] at hAdd
                cases hAdd
            | ok next =>
                rw [hNext] at hAdd
                exact
                  ⟨next, ⟨entry, hEntry, hNext⟩, entries, hRead,
                    hAdd⟩

/-
  Texts describe a modification if each is that of a function,
  and the functions can stand beside each other.
-/
theorem modification_eq_ok_iff :
    modification kind texts = .ok m ↔
      ∃ entries,
        Functions kind texts entries ∧
          Modification.empty.addAll entries = .ok m :=
  foldlM_addModification_eq_ok_iff

/- There are functions for texts if there is one for each. -/
theorem exists_functions
    (hEach :
      ∀ text ∈ texts, ∃ entry, function kind text = .ok entry) :
    ∃ entries, Functions kind texts entries := by
  induction texts with
  | nil => exact ⟨[], .nil⟩
  | cons text texts ih =>
      rw [List.forall_mem_cons] at hEach
      rcases hEach.1 with ⟨entry, hEntry⟩
      rcases ih hEach.2 with ⟨entries, hEntries⟩
      exact ⟨entry :: entries, .cons hEntry hEntries⟩

/- The functions of texts are no others. -/
theorem Functions.unique
    {entries others : List (Operation × Function)}
    (h : Functions kind texts entries)
    (hOthers : Functions kind texts others) :
    entries = others := by
  induction h generalizing others with
  | nil =>
      cases hOthers
      rfl
  | cons hEntry _ ih =>
      cases hOthers with
      | cons hOther hRest =>
          cases hEntry.symm.trans hOther
          rw [ih hRest]

/- Each of the texts is that of a function. -/
theorem Functions.exists_of_mem
    {entries : List (Operation × Function)}
    {text : List Char}
    (h : Functions kind texts entries)
    (hText : text ∈ texts) :
    ∃ entry, function kind text = .ok entry := by
  induction h with
  | nil => cases hText
  | cons hEntry _ ih =>
      cases hText with
      | head => exact ⟨_, hEntry⟩
      | tail _ hRest => exact ih hRest

/- A profile is read after the rest of a checksum. -/
theorem crc8Checksum_eq_ok_iff
    {text profile : List Char}
    {c : Crc8Checksum} :
    crc8Checksum kind (some profile) text = .ok c ↔
      ∃ plain,
        crc8Checksum kind none text = .ok plain ∧
          withProfile plain profile = .ok c := by
  unfold crc8Checksum
  split
  · simp only [bind_eq_ok_iff]
    constructor
    · rintro ⟨offsets, hOffsets, init, hInit, final, hFinal,
        table, hTable, plain, hPlain, hProfile⟩
      exact
        ⟨plain,
          ⟨offsets, hOffsets, init, hInit, final, hFinal,
            table, hTable, plain, hPlain, rfl⟩,
          hProfile⟩
    · rintro ⟨plain, ⟨offsets, hOffsets, init, hInit, final,
        hFinal, table, hTable, other, hPlain, hSame⟩, hProfile⟩
      cases hSame
      exact
        ⟨offsets, hOffsets, init, hInit, final, hFinal,
          table, hTable, plain, hPlain, hProfile⟩
  · refine iff_of_false nofun ?_
    rintro ⟨plain, hPlain, -⟩
    cases hPlain

end Descriptor

------------------------------------------------------------
-- What Options Say
------------------------------------------------------------

namespace RuleOptions

/- Whether an option is read as a value, where it is given. -/
abbrev Reads
    (read : α → Except Complaint β)
    (option : Option α)
    (value : Option β) : Prop :=
  Option.Rel (fun a b => read a = .ok b) option value

/- An option that is given is read, if it can be. -/
theorem exists_reads
    {read : α → Except Complaint β}
    {option : Option α}
    (hGiven : ∀ a, option = some a → ∃ b, read a = .ok b) :
    ∃ value, Reads read option value := by
  cases option with
  | none => exact ⟨none, .none⟩
  | some a =>
      rcases hGiven a rfl with ⟨b, hRead⟩
      exact ⟨some b, .some hRead⟩

/- What is given for an option that is read can be read. -/
theorem Reads.exists_of_given
    {read : α → Except Complaint β}
    {option : Option α}
    {value : Option β}
    {a : α}
    (h : Reads read option value)
    (hGiven : option = some a) :
    ∃ b, read a = .ok b := by
  cases h with
  | none => cases hGiven
  | some hRead =>
      cases hGiven
      exact ⟨_, hRead⟩

theorem Reads.ne_error
    {read : α → Except Complaint β}
    {option : Option α}
    {value : Option β}
    {a : α}
    (h : Reads read option value)
    (hGiven : option = some a)
    (complaint : Complaint) :
    read a ≠ .error complaint := by
  rcases h.exists_of_given hGiven with ⟨b, hRead⟩
  rw [hRead]
  exact nofun

/- An option is not read as anything else. -/
theorem Reads.unique
    {read : α → Except Complaint β}
    {option : Option α}
    {value other : Option β}
    (h : Reads read option value)
    (hOther : Reads read option other) :
    value = other := by
  cases h with
  | none =>
      cases hOther
      rfl
  | some hRead =>
      cases hOther with
      | some hOther =>
          cases hRead.symm.trans hOther
          rfl

/- The setting for an option holds what was read. -/
theorem setting_eq_ok_iff
    {read : α → Except Complaint β}
    {wrap : β → Rule.Setting}
    {option : Option α}
    {settings : List Rule.Setting} :
    setting option (fun a => do return wrap (← read a)) =
        .ok settings ↔
      ∃ value,
        Reads read option value ∧
          settings = (value.map wrap).toList := by
  cases option with
  | none =>
      constructor
      · intro h
        cases h
        exact ⟨none, .none, rfl⟩
      · rintro ⟨value, hRead, rfl⟩
        cases hRead
        rfl
  | some a =>
      constructor
      · intro h
        cases hRead : read a with
        | error complaint =>
            simp only [setting, hRead] at h
            cases h
        | ok b =>
            simp only [setting, hRead] at h
            cases h
            exact ⟨some b, .some hRead, rfl⟩
      · rintro ⟨value, hRead, rfl⟩
        cases hRead with
        | some hRead =>
            simp only [setting, hRead]
            rfl

theorem setting_pure
    (wrap : α → Rule.Setting)
    (option : Option α) :
    setting option (fun a => return wrap a) =
      .ok (option.map wrap).toList := by
  cases option <;> rfl

/-
  Whether options say what a rule is.  Each property is read
  from the text of its own, where there is one.
-/
structure States
    (directory : Interface.Directory)
    (options : RuleOptions)
    (rule : Rule) : Prop where
  source :
    interface directory options.source = .ok rule.source
  destination :
    interface directory options.destination =
      .ok rule.destination
  flags : rule.flags = options.flags
  filter :
    Reads Descriptor.filter options.filter rule.filter
  modification :
    Reads (Descriptor.modification options.kind)
      options.modificationTexts rule.modification
  checksum :
    ∃ xor crc8,
      Reads (Descriptor.xorChecksum options.kind) options.xor
          xor ∧
        Reads
          (Descriptor.crc8Checksum options.kind
            options.profile)
          options.crc8 crc8 ∧
        rule.checksum =
          (crc8.map Checksum.crc8).or (xor.map Checksum.xor)
  hopLimit : rule.hopLimit = options.hops
  uid : Reads Descriptor.word options.uid rule.uid

/- Whether options describe a rule: it also has to be valid. -/
structure Describes
    (directory : Interface.Directory)
    (options : RuleOptions)
    (rule : Rule) : Prop where
  states : options.States directory rule
  valid : rule.validate = .ok ()

/-
  What can be wrong with options: an interface that is not
  found, a text that is not understood, functions that cannot
  stand beside each other, or a rule that is not valid.  A
  profile is of no interest without the checksum for it.
-/
inductive Faulty
    (directory : Interface.Directory)
    (options : RuleOptions) : Prop where
  | source
      (complaint : Complaint)
      (h :
        interface directory options.source =
          .error complaint)
  | destination
      (complaint : Complaint)
      (h :
        interface directory options.destination =
          .error complaint)
  | filter
      (text : List Char)
      (complaint : Complaint)
      (hGiven : options.filter = some text)
      (h : Descriptor.filter text = .error complaint)
  | function
      (text : List Char)
      (complaint : Complaint)
      (hGiven : text ∈ options.modifications)
      (h :
        Descriptor.function options.kind text =
          .error complaint)
  | modification
      (entries : List (Operation × Function))
      (violation : Violation)
      (hRead :
        Descriptor.Functions options.kind
          options.modifications entries)
      (h :
        Modification.empty.addAll entries = .error violation)
  | xor
      (text : List Char)
      (complaint : Complaint)
      (hGiven : options.xor = some text)
      (h :
        Descriptor.xorChecksum options.kind text =
          .error complaint)
  | crc8
      (text : List Char)
      (complaint : Complaint)
      (hGiven : options.crc8 = some text)
      (h :
        Descriptor.crc8Checksum options.kind none text =
          .error complaint)
  | profile
      (text profile : List Char)
      (c : Crc8Checksum)
      (complaint : Complaint)
      (hGiven : options.crc8 = some text)
      (hRead :
        Descriptor.crc8Checksum options.kind none text = .ok c)
      (hProfile : options.profile = some profile)
      (h : Descriptor.withProfile c profile = .error complaint)
  | uid
      (text : List Char)
      (complaint : Complaint)
      (hGiven : options.uid = some text)
      (h : Descriptor.word text = .error complaint)
  | rule
      (rule : Rule)
      (violation : Violation)
      (hStates : options.States directory rule)
      (h : rule.validate = .error violation)

------------------------------------------------------------
-- Describing a Rule
------------------------------------------------------------

variable {directory : Interface.Directory}
variable {options : RuleOptions}
variable {rule : Rule}

/- What is built is what the settings make up, if it is valid. -/
theorem build_eq_ok_iff
    {source destination : Interface.Index}
    {settings : List Rule.Setting} :
    Rule.build source destination settings = .ok rule ↔
      settings.foldl Rule.apply
            (Rule.plain source destination) = rule ∧
        rule.validate = .ok () := by
  unfold Rule.build
  cases hValid :
      (settings.foldl Rule.apply
        (Rule.plain source destination)).validate with
  | error violation =>
      refine iff_of_false ?_ ?_
      · intro h
        simp only [hValid] at h
        cases h
      · rintro ⟨rfl, hRule⟩
        cases hValid.symm.trans hRule
  | ok =>
      simp only [hValid]
      constructor
      · intro h
        cases h
        exact ⟨rfl, hValid⟩
      · rintro ⟨rfl, -⟩
        rfl

/- The rule of options is the one that they describe. -/
theorem rule_eq_ok_iff :
    options.rule directory = .ok rule ↔
      options.Describes directory rule := by
  unfold RuleOptions.rule
  simp only [bind_eq_ok_iff, setting_eq_ok_iff,
    setting_pure, Descriptor.checked_eq_ok_iff,
    build_eq_ok_iff]
  constructor
  · rintro ⟨source, hSource, destination, hDestination, _,
      ⟨filter, hFilter, rfl⟩, _,
      ⟨modification, hModification, rfl⟩, _, ⟨xor, hXor, rfl⟩,
      _, ⟨crc8, hCrc8, rfl⟩, _, hHops, _, ⟨uid, hUid, rfl⟩,
      hRule, hValid⟩
    cases hHops
    rw [Rule.foldl_given] at hRule
    subst hRule
    exact
      { states :=
          { source := hSource,
            destination := hDestination,
            flags := rfl,
            filter := hFilter,
            modification := hModification,
            checksum := ⟨xor, crc8, hXor, hCrc8, rfl⟩,
            hopLimit := rfl,
            uid := hUid },
        valid := hValid }
  · rintro ⟨hStates, hValid⟩
    rcases hStates.checksum with
      ⟨xor, crc8, hXor, hCrc8, hChecksum⟩
    refine
      ⟨rule.source, hStates.source, rule.destination,
        hStates.destination, _,
        ⟨rule.filter, hStates.filter, rfl⟩, _,
        ⟨rule.modification, hStates.modification, rfl⟩, _,
        ⟨xor, hXor, rfl⟩, _, ⟨crc8, hCrc8, rfl⟩, _, rfl, _,
        ⟨rule.uid, hStates.uid, rfl⟩, ?_, hValid⟩
    rw [Rule.foldl_given, ← hStates.flags, ← hStates.hopLimit,
      ← hChecksum]

/- Functions that can stand beside each other are added. -/
theorem exists_modification
    (hSound : ¬ options.Faulty directory) :
    ∃ m,
      Descriptor.modification options.kind
        options.modifications = .ok m := by
  obtain ⟨entries, hRead⟩ :
      ∃ entries,
        Descriptor.Functions options.kind
          options.modifications entries :=
    Descriptor.exists_functions fun text hGiven =>
      Descriptor.exists_ok fun complaint h =>
        hSound (.function text complaint hGiven h)
  cases hAdd : Modification.empty.addAll entries with
  | error violation =>
      exact
        absurd (.modification entries violation hRead hAdd)
          hSound
  | ok m =>
      exact
        ⟨m,
          Descriptor.modification_eq_ok_iff.mpr
            ⟨entries, hRead, hAdd⟩⟩

/- A table-driven checksum is read with its profile. -/
theorem exists_crc8
    {text : List Char}
    (hSound : ¬ options.Faulty directory)
    (hGiven : options.crc8 = some text) :
    ∃ c,
      Descriptor.crc8Checksum options.kind options.profile
        text = .ok c := by
  obtain ⟨plain, hPlain⟩ :
      ∃ plain,
        Descriptor.crc8Checksum options.kind none text =
          .ok plain :=
    Descriptor.exists_ok fun complaint h =>
      hSound (.crc8 text complaint hGiven h)
  cases hProfile : options.profile with
  | none => exact ⟨plain, hPlain⟩
  | some profile =>
      obtain ⟨c, hRead⟩ :
          ∃ c, Descriptor.withProfile plain profile = .ok c :=
        Descriptor.exists_ok fun complaint h =>
          hSound
            (.profile text profile plain complaint hGiven
              hPlain hProfile h)
      exact
        ⟨c,
          Descriptor.crc8Checksum_eq_ok_iff.mpr
            ⟨plain, hPlain, hRead⟩⟩

/- The texts for a modification are all that are given. -/
theorem eq_of_modificationTexts
    {texts : List (List Char)}
    (h : options.modificationTexts = some texts) :
    options.modifications = texts := by
  unfold modificationTexts at h
  split at h
  · cases h
  · exact Option.some.inj h

/- Where nothing is wrong with options, they describe a rule. -/
theorem exists_describes
    (hSound : ¬ options.Faulty directory) :
    ∃ rule, options.Describes directory rule := by
  -- A part that could not be read would be what is wrong.
  obtain ⟨source, hSource⟩ :
      ∃ index, interface directory options.source = .ok index :=
    Descriptor.exists_ok fun complaint h =>
      hSound (.source complaint h)
  obtain ⟨destination, hDestination⟩ :
      ∃ index,
        interface directory options.destination = .ok index :=
    Descriptor.exists_ok fun complaint h =>
      hSound (.destination complaint h)
  obtain ⟨filter, hFilter⟩ :
      ∃ value,
        Reads Descriptor.filter options.filter value :=
    exists_reads fun text hGiven =>
      Descriptor.exists_ok fun complaint h =>
        hSound (.filter text complaint hGiven h)
  obtain ⟨modification, hModification⟩ :
      ∃ value,
        Reads (Descriptor.modification options.kind)
          options.modificationTexts value :=
    exists_reads fun texts hGiven => by
      rw [← eq_of_modificationTexts hGiven]
      exact exists_modification hSound
  obtain ⟨xor, hXor⟩ :
      ∃ value,
        Reads (Descriptor.xorChecksum options.kind) options.xor
          value :=
    exists_reads fun text hGiven =>
      Descriptor.exists_ok fun complaint h =>
        hSound (.xor text complaint hGiven h)
  obtain ⟨crc8, hCrc8⟩ :
      ∃ value,
        Reads
          (Descriptor.crc8Checksum options.kind
            options.profile)
          options.crc8 value :=
    exists_reads fun text hGiven => exists_crc8 hSound hGiven
  obtain ⟨uid, hUid⟩ :
      ∃ value, Reads Descriptor.word options.uid value :=
    exists_reads fun text hGiven =>
      Descriptor.exists_ok fun complaint h =>
        hSound (.uid text complaint hGiven h)
  -- The parts make up a rule, which may still not be valid.
  let rule : Rule :=
    { source, destination, filter, modification,
      checksum :=
        (crc8.map Checksum.crc8).or (xor.map Checksum.xor),
      flags := options.flags,
      hopLimit := options.hops,
      uid }
  have hStates : options.States directory rule :=
    { source := hSource,
      destination := hDestination,
      flags := rfl,
      filter := hFilter,
      modification := hModification,
      checksum := ⟨xor, crc8, hXor, hCrc8, rfl⟩,
      hopLimit := rfl,
      uid := hUid }
  cases hValid : rule.validate with
  | error violation =>
      exact absurd (.rule rule violation hStates hValid) hSound
  | ok => exact ⟨rule, hStates, hValid⟩

/- Options do not say what two different rules are. -/
theorem States.unique
    {other : Rule}
    (h : options.States directory rule)
    (hOther : options.States directory other) :
    rule = other := by
  rcases h.checksum with ⟨xor, crc8, hXor, hCrc8, hChecksum⟩
  rcases hOther.checksum with
    ⟨otherXor, otherCrc8, hOtherXor, hOtherCrc8,
      hOtherChecksum⟩
  have hSame : rule.checksum = other.checksum := by
    rw [hChecksum, hOtherChecksum, hXor.unique hOtherXor,
      hCrc8.unique hOtherCrc8]
  have hSource : rule.source = other.source := by
    have hBoth := h.source.symm.trans hOther.source
    exact Except.ok.inj hBoth
  have hDestination :
      rule.destination = other.destination := by
    have hBoth := h.destination.symm.trans hOther.destination
    exact Except.ok.inj hBoth
  have hFilter := h.filter.unique hOther.filter
  have hModification :=
    h.modification.unique hOther.modification
  have hFlags := h.flags.trans hOther.flags.symm
  have hHops := h.hopLimit.trans hOther.hopLimit.symm
  have hUid := h.uid.unique hOther.uid
  cases rule
  cases other
  congr

/- The functions that options say can be put together. -/
theorem States.exists_functions
    (h : options.States directory rule) :
    ∃ entries m,
      Descriptor.Functions options.kind options.modifications
          entries ∧
        Modification.empty.addAll entries = .ok m := by
  cases hTexts : options.modificationTexts with
  | none =>
      have hNone : options.modifications = [] := by
        unfold modificationTexts at hTexts
        split at hTexts
        · assumption
        · cases hTexts
      rw [hNone]
      exact ⟨[], .empty, .nil, rfl⟩
  | some texts =>
      rcases h.modification.exists_of_given hTexts with
        ⟨m, hRead⟩
      rcases Descriptor.modification_eq_ok_iff.mp hRead with
        ⟨entries, hEntries, hAdd⟩
      rw [eq_of_modificationTexts hTexts]
      exact ⟨entries, m, hEntries, hAdd⟩

/- A table-driven checksum that options say can be read. -/
theorem States.exists_crc8
    {text : List Char}
    (h : options.States directory rule)
    (hGiven : options.crc8 = some text) :
    ∃ plain,
      Descriptor.crc8Checksum options.kind none text =
          .ok plain ∧
        ∀ profile, options.profile = some profile →
          ∃ c, Descriptor.withProfile plain profile = .ok c := by
  rcases h.checksum with ⟨-, crc8, -, hCrc8, -⟩
  rcases hCrc8.exists_of_given hGiven with ⟨c, hRead⟩
  cases hProfile : options.profile with
  | none =>
      rw [hProfile] at hRead
      exact ⟨c, hRead, nofun⟩
  | some profile =>
      rw [hProfile] at hRead
      rcases Descriptor.crc8Checksum_eq_ok_iff.mp hRead with
        ⟨plain, hPlain, hWith⟩
      refine ⟨plain, hPlain, ?_⟩
      intro other hOther
      cases hOther
      exact ⟨c, hWith⟩

/- Options with something wrong do not describe a rule. -/
theorem Faulty.not_describes
    (hFaulty : options.Faulty directory)
    (rule : Rule) :
    ¬ options.Describes directory rule := by
  rintro ⟨hStates, hValid⟩
  rcases hStates.exists_functions with
    ⟨entries, m, hEntries, hAdd⟩
  cases hFaulty with
  | source complaint h => cases hStates.source.symm.trans h
  | destination complaint h =>
      cases hStates.destination.symm.trans h
  | filter text complaint hGiven h =>
      exact hStates.filter.ne_error hGiven complaint h
  | function text complaint hGiven h =>
      rcases hEntries.exists_of_mem hGiven with ⟨entry, hEntry⟩
      cases hEntry.symm.trans h
  | modification others violation hRead h =>
      -- The texts are not read as any other functions.
      rw [hRead.unique hEntries, hAdd] at h
      cases h
  | xor text complaint hGiven h =>
      rcases hStates.checksum with ⟨xor, crc8, hXor, -, -⟩
      exact hXor.ne_error hGiven complaint h
  | crc8 text complaint hGiven h =>
      rcases hStates.exists_crc8 hGiven with ⟨plain, hPlain, -⟩
      cases hPlain.symm.trans h
  | profile text profile c complaint hGiven hRead hProfile h =>
      rcases hStates.exists_crc8 hGiven with
        ⟨plain, hPlain, hWith⟩
      cases hPlain.symm.trans hRead
      rcases hWith profile hProfile with ⟨d, hOk⟩
      cases hOk.symm.trans h
  | uid text complaint hGiven h =>
      exact hStates.uid.ne_error hGiven complaint h
  | rule other violation hOther h =>
      rw [hOther.unique hStates, hValid] at h
      cases h

/-
  Options are complained about if there is something wrong
  with them, whatever is read first.
-/
theorem exists_complaint_iff :
    (∃ complaint,
        options.rule directory = .error complaint) ↔
      options.Faulty directory := by
  constructor
  · rintro ⟨complaint, hComplaint⟩
    by_contra hSound
    rcases exists_describes hSound with ⟨rule, hDescribes⟩
    have hRule := rule_eq_ok_iff.mpr hDescribes
    cases hComplaint.symm.trans hRule
  · intro hFaulty
    cases hRule : options.rule directory with
    | error complaint => exact ⟨complaint, rfl⟩
    | ok rule =>
        exact
          absurd (rule_eq_ok_iff.mp hRule)
            (hFaulty.not_describes rule)

end RuleOptions

end GatewayRules
