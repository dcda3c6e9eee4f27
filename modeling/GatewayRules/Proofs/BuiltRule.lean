import GatewayRules.Proofs.UnitedTargets
import Mathlib

/-
  Rules that are built from settings.  Of the settings of one
  property, the last counts.  A rule is built exactly if nothing
  is wrong with what is asked for, in any of its functions, and
  what is reported otherwise is the first of all violations.
  Requests are made for every rule that was built.

  Main declarations:
    * `Frame.IsMade` and `Modification.IsMade`
    * `Rule.violations` and `Rule.validate_eq`
    * `Rule.asked` and `Rule.foldl_apply`
    * `Rule.IsPermitted`
    * `Rule.build_checked`
-/

------------------------------------------------------------
-- Templates and Modifications That Can Be Made
------------------------------------------------------------

namespace GatewayRules

namespace Frame

/- The templates that can be made, step by step. -/
inductive IsMade : Frame → Prop where
  | classic
      {id : UInt32}
      {data : Bytes}
      {f : Frame}
      (h : makeClassic id data = .ok f) :
      IsMade f
  | fd
      {id : UInt32}
      {data : Bytes}
      {flags : FdFlags}
      {f : Frame}
      (h : makeFd id data flags = .ok f) :
      IsMade f
  | withLength
      {f next : Frame}
      {length : UInt8}
      (hFrame : IsMade f)
      (h : f.withLength length = .ok next) :
      IsMade next
  | withDlc
      {f : Frame}
      (hFrame : IsMade f)
      (dlc : UInt8) :
      IsMade (f.withDlc dlc)

/- No template is made longer than its kind allows. -/
theorem IsMade.length_le
    {f : Frame}
    (h : f.IsMade) :
    f.length.toNat ≤ f.kind.maxLength := by
  induction h with
  | @classic id data f h =>
      unfold makeClassic at h
      split at h
      case isTrue hShort =>
        cases h
        exact (Nat.mod_le _ _).trans hShort
      case isFalse => cases h
  | @fd id data flags f h =>
      unfold makeFd at h
      split at h
      case isTrue hShort =>
        cases h
        exact (Nat.mod_le _ _).trans hShort
      case isFalse => cases h
  | @withLength f next length _ h _ =>
      unfold Frame.withLength at h
      split at h
      case isTrue hShort =>
        cases f with
        | classic f =>
            cases h
            exact hShort
        | fd f =>
            cases h
            exact hShort
      case isFalse => cases h
  | @withDlc f _ dlc ih =>
      cases f with
      | classic f => exact ih
      | fd f => exact ih

end Frame

namespace Modification

/-
  The modifications that can be made: function by function, or
  with one template, or both.
-/
inductive IsMade : Modification → Prop where
  | empty : IsMade empty
  | add
      {m next : Modification}
      {operation : Operation}
      {f : Function}
      (hOthers : IsMade m)
      (hTemplate : f.template.IsMade)
      (h : m.add operation f = .ok next) :
      IsMade next
  | ofTemplate
      {m : Modification}
      {template : Frame}
      {groups : List (Targets × Operation)}
      (hTemplate : template.IsMade)
      (h : ofTemplate template groups = .ok m) :
      IsMade m

/- Whatever is made could be made function by function. -/
theorem IsMade.exists_functions
    {m : Modification}
    (h : m.IsMade) :
    ∃ entries,
      (∀ entry ∈ entries, entry.2.template.IsMade) ∧
        Modification.empty.addAll entries = .ok m := by
  induction h with
  | empty => exact ⟨[], nofun, rfl⟩
  | @add m next operation f _ hTemplate h ih =>
      rcases ih with ⟨entries, hEntries, hAdd⟩
      refine ⟨entries ++ [(operation, f)], ?_, ?_⟩
      · intro entry hEntry
        rcases List.mem_append.mp hEntry with hOther | hLast
        · exact hEntries entry hOther
        · rw [List.mem_singleton.mp hLast]
          exact hTemplate
      · rw [addAll, List.foldlM_append]
        change
          (Modification.empty.addAll entries >>= fun m =>
            m.addAll [(operation, f)]) = _
        rw [hAdd]
        change m.addAll [(operation, f)] = _
        rw [addAll_cons, h]
        rfl
  | @ofTemplate m template groups hTemplate h =>
      refine ⟨unitedFunctions template groups, ?_, ?_⟩
      · intro entry hEntry
        rcases List.mem_map.mp hEntry with ⟨operation, -, rfl⟩
        exact hTemplate
      · rw [← ofTemplate_eq]
        exact h

/- A function that is there was given with its template. -/
theorem IsMade.of_get
    {m : Modification}
    {operation : Operation}
    {f : Function}
    (h : m.IsMade)
    (hGet : m.get operation = some f) :
    f.template.IsMade ∧ f.Suits f.template.kind := by
  rcases h.exists_functions with ⟨entries, hEntries, hAdd⟩
  have hComprises := comprises_of_addAll hAdd
  have hEntry := (hComprises.get_iff operation f).mp hGet
  rcases hComprises.compatible.alike with ⟨kind, hSuits⟩
  have hFunction : f.Suits kind := hSuits _ hEntry
  refine ⟨hEntries _ hEntry, ?_⟩
  exact Function.violation?_eq_none_iff.mp
    (Function.suits_iff.mp hFunction).1

/- The first function is asked for the kind of them all. -/
theorem IsMade.kind?_eq_some_iff
    {m : Modification}
    {kind : FrameKind}
    (h : m.IsMade) :
    m.kind? = some kind ↔
      m ≠ .empty ∧
        ∀ operation f, m.get operation = some f →
          f.template.kind = kind := by
  rcases h.exists_functions with ⟨entries, -, hAdd⟩
  rw [Modification.kind?_eq_some_iff hAdd]
  refine and_congr_right fun _ => ?_
  constructor
  · intro hSuits operation f hGet
    exact (hSuits operation f hGet).template
  · intro hKind operation f hGet
    rw [← hKind operation f hGet]
    exact (h.of_get hGet).2

end Modification

------------------------------------------------------------
-- All Violations of a Rule
------------------------------------------------------------

/- Report the first of several violations, if there is any. -/
def Violation.report : List Violation → Except Violation Unit
  | [] => .ok ()
  | first :: _ => .error first

theorem Violation.report_append
    (front back : List Violation) :
    report (front ++ back) =
      (report front >>= fun _ => report back) := by
  cases front <;> rfl

theorem Violation.report_eq_error_iff
    {violations : List Violation}
    {violation : Violation} :
    report violations = .error violation ↔
      violations.head? = some violation := by
  cases violations with
  | nil => simp [report]
  | cons first rest => simp [report]

namespace Offsets

/- The offsets that do not point into a payload. -/
def violations
    (offsets : Offsets)
    (maxLength : Nat) : List Violation :=
  [(OffsetField.first, offsets.first), (.last, offsets.last),
      (.result, offsets.result)].filterMap
    fun (field, offset) =>
      if InRange offset maxLength then
        none
      else
        some (.offsetOutOfRange field offset maxLength)

theorem validate_eq
    (offsets : Offsets)
    (maxLength : Nat) :
    offsets.validate maxLength =
      Violation.report (offsets.violations maxLength) := by
  simp only [validate, validateOne_eq, violations]
  by_cases hFirst : InRange offsets.first maxLength
  · by_cases hLast : InRange offsets.last maxLength
    · by_cases hResult : InRange offsets.result maxLength
      · simp [hFirst, hLast, hResult]
        rfl
      · simp [hFirst, hLast, hResult]
        rfl
    · simp [hFirst, hLast]
      rfl
  · simp [hFirst]
    rfl

end Offsets

namespace Rule

variable {rule : Rule}

/- The templates of all functions of a rule. -/
def templates (rule : Rule) : List Frame :=
  rule.modification.toList.flatMap fun m =>
    m.functions.map fun entry => entry.2.template

theorem mem_templates_iff
    {m : Modification}
    {template : Frame}
    (hModification : rule.modification = some m) :
    template ∈ rule.templates ↔
      ∃ operation f,
        m.get operation = some f ∧ f.template = template := by
  simp [templates, hModification, Modification.mem_functions]

/- What is wrong with a modification in a rule. -/
def modificationViolations (rule : Rule) : List Violation :=
  (if rule.modification = some .empty then
      [.emptyModification]
    else
      [])
    ++ if ∃ f ∈ rule.templates, f.kind ≠ rule.kind then
      [.frameKindMismatch]
    else
      []

/- What is wrong with a checksum in a rule. -/
def checksumViolations (rule : Rule) : List Violation :=
  rule.checksum.toList.flatMap fun c =>
    (if rule.modification = none then
        [.checksumWithoutModification]
      else
        [])
      ++ c.offsets.violations rule.kind.maxLength

/- All that is wrong with a rule, in the order of the checks. -/
def violations (rule : Rule) : List Violation :=
  rule.modificationViolations ++ rule.checksumViolations
    ++ if rule.hopLimit = some 0 then [.zeroHopLimit] else []

/-
  Where functions were put together one by one, the first of
  them tells what is wrong with any.
-/
theorem validateModification_eq
    (hMade : ∀ m, rule.modification = some m → m.IsMade) :
    rule.validateModification =
      Violation.report rule.modificationViolations := by
  unfold validateModification modificationViolations
  cases hModification : rule.modification with
  | none => simp [templates, hModification, Violation.report]
  | some m =>
      cases hKind : m.kind? with
      | none =>
          obtain rfl :=
            Modification.eq_empty_of_kind?_eq_none hKind
          simp [hKind, Violation.report]
      | some kind =>
          have hFunctions :=
            (hMade m hModification).kind?_eq_some_iff.mp hKind
          have hMixed :
              (∃ f ∈ rule.templates, f.kind ≠ rule.kind) ↔
                kind ≠ rule.kind := by
            constructor
            · rintro ⟨template, hTemplate, hOther⟩
              rcases (mem_templates_iff hModification).mp
                  hTemplate with
                ⟨operation, f, hGet, rfl⟩
              rwa [← hFunctions.2 operation f hGet]
            · intro hOther
              rcases Modification.exists_function_of_kind?
                  hKind with
                ⟨operation, f, hGet, rfl⟩
              exact
                ⟨f.template,
                  (mem_templates_iff hModification).mpr
                    ⟨operation, f, hGet, rfl⟩,
                  hOther⟩
          simp only [hMixed, Option.some.injEq, hFunctions.1,
            if_false, List.nil_append]
          by_cases hSame : kind = rule.kind
          · simp [hKind, hSame, Violation.report]
          · simp [hKind, hSame, Violation.report]

theorem validateChecksum_eq
    (rule : Rule) :
    rule.validateChecksum =
      Violation.report rule.checksumViolations := by
  unfold validateChecksum checksumViolations
  cases rule.checksum with
  | none => rfl
  | some c =>
      cases rule.modification with
      | none => simp [Violation.report]
      | some m => simp [Checksum.validate, Offsets.validate_eq]

theorem validate_eq
    (hMade : ∀ m, rule.modification = some m → m.IsMade) :
    rule.validate = Violation.report rule.violations := by
  unfold validate violations
  rw [validateModification_eq hMade, validateChecksum_eq,
    Violation.report_append, Violation.report_append,
    bind_assoc]
  unfold validateHopLimit
  split_ifs <;> rfl

------------------------------------------------------------
-- What Settings Ask For
------------------------------------------------------------

/- The last of the settings that are about one property. -/
def last?
    {α : Type}
    (property : Setting → Option α)
    (settings : List Setting) : Option α :=
  (settings.filterMap property).getLast?

/- The rule that settings ask for, property by property. -/
def asked
    (source destination : Interface.Index)
    (settings : List Setting) : Rule where
  source := source
  destination := destination
  filter :=
    settings |> last? fun
      | .filter filter => some filter
      | _ => none
  modification :=
    settings |> last? fun
      | .modification m => some m
      | _ => none
  checksum :=
    settings |> last? fun
      | .checksum c => some c
      | _ => none
  flags :=
    (settings |> last? fun
      | .flags flags => some flags
      | _ => none).getD Flags.empty
  hopLimit :=
    settings |> last? fun
      | .hopLimit hops => some hops
      | _ => none
  uid :=
    settings |> last? fun
      | .uid uid => some uid
      | _ => none

theorem last?_append_singleton
    {α : Type}
    (property : Setting → Option α)
    (settings : List Setting)
    (setting : Setting) :
    last? property (settings ++ [setting]) =
      (property setting).or (last? property settings) := by
  unfold last?
  rw [List.filterMap_append, List.getLast?_append]
  cases hProperty : property setting <;> simp [hProperty]

/- Settings one after the other come to what they ask for. -/
theorem foldl_apply
    (source destination : Interface.Index)
    (settings : List Setting) :
    settings.foldl apply (plain source destination) =
      asked source destination settings := by
  induction settings using List.reverseRecOn with
  | nil => rfl
  | append_singleton settings setting ih =>
      rw [List.foldl_append, ih]
      cases setting <;>
        simp [asked, apply, last?_append_singleton]

/- What is asked for last was asked for. -/
theorem mem_of_asked_modification
    {source destination : Interface.Index}
    {settings : List Setting}
    {m : Modification}
    (h :
      (asked source destination settings).modification =
        some m) :
    .modification m ∈ settings := by
  have hLast := List.mem_of_getLast? h
  rcases List.mem_filterMap.mp hLast with
    ⟨setting, hSetting, hProperty⟩
  cases setting with
  | modification other =>
      cases hProperty
      exact hSetting
  | filter | checksum | flags | hopLimit | uid =>
      cases hProperty

------------------------------------------------------------
-- What May Be Asked For
------------------------------------------------------------

/-
  Whether all functions of a rule are for frames that it
  routes, its checksum comes with a modification and stays
  within such frames, and its hop limit is not zero.
-/
structure IsPermitted (rule : Rule) : Prop where
  modification :
    ∀ m, rule.modification = some m →
      m ≠ .empty ∧
        ∀ operation f, m.get operation = some f →
          (f.template.kind = .fd ↔
            rule.flags.contains RuleFlags.fd = true)
  checksum :
    ∀ c, rule.checksum = some c →
      rule.modification ≠ none ∧
        c.offsets.PointInto rule.kind.maxLength
  hopLimit : rule.hopLimit ≠ some 0

/- Frames are of the kind of a rule if both are FD or none. -/
theorem eq_kind_iff
    {kind : FrameKind} :
    kind = rule.kind ↔
      (kind = .fd ↔
        rule.flags.contains RuleFlags.fd = true) := by
  unfold Rule.kind
  cases kind <;>
    cases rule.flags.contains RuleFlags.fd <;>
    decide

theorem validate_eq_ok_iff_isPermitted
    (hMade : ∀ m, rule.modification = some m → m.IsMade) :
    rule.validate = .ok () ↔ rule.IsPermitted := by
  rw [validate_eq_ok_iff]
  constructor
  · rintro ⟨hKind, hChecksum, hHops⟩
    refine ⟨?_, hChecksum, hHops⟩
    intro m hModification
    have hFunctions :=
      (hMade m hModification).kind?_eq_some_iff.mp
        (hKind m hModification)
    refine ⟨hFunctions.1, ?_⟩
    intro operation f hGet
    exact eq_kind_iff.mp (hFunctions.2 operation f hGet)
  · intro h
    refine ⟨?_, h.checksum, h.hopLimit⟩
    intro m hModification
    have hFunctions := h.modification m hModification
    apply (hMade m hModification).kind?_eq_some_iff.mpr
    refine ⟨hFunctions.1, ?_⟩
    intro operation f hGet
    exact eq_kind_iff.mpr (hFunctions.2 operation f hGet)

------------------------------------------------------------
-- Rules That Are Built
------------------------------------------------------------

/- What is asked for is checked once, as a whole. -/
theorem build_eq
    (source destination : Interface.Index)
    (settings : List Setting) :
    build source destination settings =
      (asked source destination settings).validate.map
        fun _ => asked source destination settings := by
  simp only [build, foldl_apply]
  cases (asked source destination settings).validate <;> rfl

theorem build_eq_ok_iff
    {source destination : Interface.Index}
    {settings : List Setting} :
    build source destination settings = .ok rule ↔
      (asked source destination settings).validate = .ok () ∧
        rule = asked source destination settings := by
  rw [build_eq]
  cases (asked source destination settings).validate with
  | error violation => simp [Except.map]
  | ok => simp [Except.map, eq_comm]

theorem build_eq_error_iff
    {source destination : Interface.Index}
    {settings : List Setting}
    {violation : Violation} :
    build source destination settings = .error violation ↔
      (asked source destination settings).validate =
        .error violation := by
  rw [build_eq]
  cases (asked source destination settings).validate with
  | error other => simp [Except.map]
  | ok => simp [Except.map]

/-
  A rule is built exactly if what is asked for is permitted,
  and it is what is asked for, with templates that their kinds
  of frames can hold.  Requests are made for it.  Otherwise
  the first violation is reported.
-/
theorem build_checked
    {settings : List Setting}
    (hMade :
      ∀ m, Setting.modification m ∈ settings → m.IsMade)
    (source destination : Interface.Index) :
    ((∃ rule, build source destination settings = .ok rule) ↔
        (asked source destination settings).IsPermitted) ∧
      (∀ rule,
        build source destination settings = .ok rule →
          rule = asked source destination settings ∧
            (∀ m, rule.modification = some m →
              ∀ operation f, m.get operation = some f →
                f.template.length.toNat ≤
                    f.template.kind.maxLength ∧
                  (f.targets.contains Targets.fdFlags = true →
                    f.template.kind = .fd)) ∧
            ∀ sequence,
              (∀ mode, ∃ request,
                Request.add rule sequence mode =
                  .ok request) ∧
                ∃ request,
                  Request.delete rule sequence =
                    .ok request) ∧
      ∀ violation,
        build source destination settings = .error violation ↔
          (asked source destination settings).violations.head? =
            some violation := by
  have hAsked (m : Modification)
      (h :
        (asked source destination settings).modification =
          some m) :
      m.IsMade :=
    hMade m (mem_of_asked_modification h)
  refine ⟨?_, ?_, ?_⟩
  · rw [← validate_eq_ok_iff_isPermitted hAsked]
    constructor
    · rintro ⟨rule, hBuild⟩
      rcases build_eq_ok_iff.mp hBuild with ⟨hValid, rfl⟩
      exact hValid
    · intro hValid
      exact ⟨_, build_eq_ok_iff.mpr ⟨hValid, rfl⟩⟩
  · intro rule hBuild
    rcases build_eq_ok_iff.mp hBuild with ⟨hValid, rfl⟩
    refine ⟨rfl, ?_, ?_⟩
    · intro m hModification operation f hGet
      have hFunction := (hAsked m hModification).of_get hGet
      exact
        ⟨hFunction.1.length_le, hFunction.2.flagged⟩
    · intro sequence
      have hAdd (mode : AddMode) :
          ∃ request,
            Request.add
                (asked source destination settings) sequence
                mode =
              .ok request :=
        Request.exists_checked_iff.mpr hValid
      exact ⟨hAdd, Request.exists_checked_iff.mpr hValid⟩
  · intro violation
    rw [build_eq_error_iff, validate_eq hAsked,
      Violation.report_eq_error_iff]

/- An FD template that fills whole frames. -/
def wholeFunction : Function where
  targets := Targets.length
  template :=
    .fd
      { id := 0x123,
        length := 64,
        flags := ⟨7⟩,
        data := Block.zeroFilled 64 [] }

/-
  Settings for classic frames, and later ones for FD frames in
  the place of each of them.
-/
def revised : List Setting :=
  [.hopLimit 0,
    .flags Flags.empty,
    .modification { onSet := some Request.classicFunction },
    .checksum (.xor ⟨⟨-64, 63, 0⟩, 0⟩),
    .modification
      { onAnd := some wholeFunction,
        onXor := some Request.fdFunction },
    .flags RuleFlags.fd,
    .hopLimit 1]

theorem build_checked_revised :
    (∀ m, Setting.modification m ∈ revised → m.IsMade) ∧
      (∃ rule,
        build ⟨1, by decide⟩ ⟨2, by decide⟩ revised =
            .ok rule ∧
          (∃ request,
            Request.add rule 7 .replace = .ok request) ∧
          ∃ request, Request.delete rule 7 = .ok request) ∧
      build ⟨1, by decide⟩ ⟨2, by decide⟩ revised.reverse =
        .error (.offsetOutOfRange .first (-64) 8) := by
  have hClassic : Request.classicFunction.template.IsMade :=
    .classic
      (show
        Frame.makeClassic 0x7FF [] =
          .ok Request.classicFunction.template from rfl)
  have hFd : Request.fdFunction.template.IsMade :=
    .fd
      (show
        Frame.makeFd 0x123 [] ⟨7⟩ =
          .ok Request.fdFunction.template from rfl)
  have hWhole : wholeFunction.template.IsMade :=
    hFd.withLength
      (show
        Request.fdFunction.template.withLength 64 =
          .ok wholeFunction.template from rfl)
  have hMade :
      ∀ m, Setting.modification m ∈ revised → m.IsMade := by
    intro m hSetting
    simp only [revised, List.mem_cons, reduceCtorEq,
      Setting.modification.injEq, false_or, or_false,
      List.not_mem_nil] at hSetting
    rcases hSetting with rfl | rfl
    · have hSet :
          Modification.empty.add .set Request.classicFunction =
            .ok { onSet := some Request.classicFunction } :=
        rfl
      exact .add .empty hClassic hSet
    · have hAnd :
          Modification.empty.add .and wholeFunction =
            .ok { onAnd := some wholeFunction } :=
        rfl
      have hXor :
          Modification.add { onAnd := some wholeFunction } .xor
              Request.fdFunction =
            .ok
              { onAnd := some wholeFunction,
                onXor := some Request.fdFunction } :=
        rfl
      exact .add (.add .empty hWhole hAnd) hFd hXor
  have hReversed :
      ∀ m, Setting.modification m ∈ revised.reverse →
        m.IsMade := by
    intro m hSetting
    exact hMade m (List.mem_reverse.mp hSetting)
  refine ⟨hMade, ?_, ?_⟩
  · have hBuilt :
        build ⟨1, by decide⟩ ⟨2, by decide⟩ revised =
          .ok
            (asked ⟨1, by decide⟩ ⟨2, by decide⟩ revised) :=
      rfl
    have hRequests :=
      ((build_checked hMade ⟨1, by decide⟩
        ⟨2, by decide⟩).2.1 _ hBuilt).2.2 7
    exact ⟨_, hBuilt, hRequests.1 .replace, hRequests.2⟩
  · exact
      ((build_checked hReversed ⟨1, by decide⟩
        ⟨2, by decide⟩).2.2 _).mpr
        rfl

end Rule

end GatewayRules
