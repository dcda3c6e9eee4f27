import GatewayRules.Proofs.DumpDelivery

/-
  The rules that requests are made for.  A rule is sound if
  every one of its functions suits the frames that it routes,
  its checksum stays within them, and it lets them hop.  Of a
  modification, only the first function is checked before a
  request is made.  That is enough for modifications that were
  put together function by function, but not for those that
  were read from a message of the gateway.

  Main declarations:
    * `Function.Suits` and `Rule.IsSound`
    * `Modification.suits_of_addAll`
    * `Modification.kind?_eq_some_iff`
    * `Offsets.InRange` and `Offsets.isWithin_iff_inRange`
    * `Rule.validate_eq_ok_iff`
    * `Request.made_iff_isSound`
    * `Request.made_for_mixedKinds`
-/

------------------------------------------------------------
-- Sound Rules
------------------------------------------------------------

namespace GatewayRules

/-
  Whether a function may be part of a rule for frames of a
  kind: the template is of that kind, there is something that
  it applies to, and the FD flags are only reached through an
  FD template.
-/
structure Function.Suits
    (kind : FrameKind)
    (f : Function) : Prop where
  template : f.template.kind = kind
  targeted : f.targets.isEmpty = false
  flagged :
    f.targets.contains Targets.fdFlags = true →
      f.template.kind = .fd

/- Whether an offset is that of a byte of a payload. -/
def Offsets.InRange
    (offset : Int8)
    (maxLength : Nat) : Prop :=
  -(maxLength : Int) ≤ offset.toInt ∧ offset.toInt < maxLength

instance
    (offset : Int8)
    (maxLength : Nat) :
    Decidable (Offsets.InRange offset maxLength) := by
  unfold Offsets.InRange
  infer_instance

/- Whether all offsets are those of bytes of a payload. -/
structure Offsets.PointInto
    (maxLength : Nat)
    (offsets : Offsets) : Prop where
  first : InRange offsets.first maxLength
  last : InRange offsets.last maxLength
  result : InRange offsets.result maxLength

/-
  Whether a rule keeps to the constraints of the gateway in
  each of its functions, its checksum, and its hop limit.
-/
structure Rule.IsSound (rule : Rule) : Prop where
  functions :
    ∀ m, rule.modification = some m →
      ∀ operation f, m.get operation = some f →
        f.Suits rule.kind
  checksum :
    ∀ c, rule.checksum = some c →
      (∃ m, rule.modification = some m ∧ m ≠ .empty) ∧
        c.offsets.PointInto rule.kind.maxLength
  hopLimit : rule.hopLimit ≠ some 0

------------------------------------------------------------
-- The Kind of a Modification
------------------------------------------------------------

namespace Modification

theorem mem_functions
    {m : Modification}
    {operation : Operation}
    {f : Function} :
    (operation, f) ∈ m.functions ↔
      m.get operation = some f := by
  cases operation <;>
    simp [functions, Operation.all, List.mem_filterMap]

/- A modification is made up of the functions it has. -/
theorem ext_get
    {m n : Modification}
    (h : ∀ operation, m.get operation = n.get operation) :
    m = n := by
  rcases m with ⟨onAnd, onOr, onXor, onSet⟩
  rcases n with ⟨onAnd', onOr', onXor', onSet'⟩
  simp only [Modification.mk.injEq]
  exact ⟨h .and, h .or, h .xor, h .set⟩

/- A modification without functions has none to get. -/
theorem eq_empty_iff
    {m : Modification} :
    m = .empty ↔ ∀ operation, m.get operation = none := by
  constructor
  · rintro rfl operation
    cases operation <;> rfl
  · intro h
    rcases m with ⟨onAnd, onOr, onXor, onSet⟩
    have hAnd : onAnd = none := h .and
    have hOr : onOr = none := h .or
    have hXor : onXor = none := h .xor
    have hSet : onSet = none := h .set
    rw [hAnd, hOr, hXor, hSet]
    rfl

/- The kind is that of a function, if there is one. -/
theorem exists_function_of_kind?
    {m : Modification}
    {kind : FrameKind}
    (h : m.kind? = some kind) :
    ∃ operation f,
      m.get operation = some f ∧ f.template.kind = kind := by
  unfold kind? at h
  rcases Option.map_eq_some_iff.mp h with
    ⟨⟨operation, f⟩, hHead, hKind⟩
  exact
    ⟨operation, f,
      mem_functions.mp (List.mem_of_mem_head? hHead), hKind⟩

theorem eq_empty_of_kind?_eq_none
    {m : Modification}
    (h : m.kind? = none) :
    m = .empty := by
  have hNone : m.functions = [] := by
    simpa [kind?] using h
  apply eq_empty_iff.mpr
  intro operation
  apply Option.eq_none_iff_forall_ne_some.mpr
  intro f hGet
  have hFunction := mem_functions.mpr hGet
  rw [hNone] at hFunction
  cases hFunction

/-
  Where all functions suit one kind of frames, this is the
  kind of the modification, unless it is empty.
-/
theorem kind?_of_suits
    {m : Modification}
    {kind : FrameKind}
    (hSuits :
      ∀ operation f, m.get operation = some f →
        f.Suits kind)
    (hNonempty : m ≠ .empty) :
    m.kind? = some kind := by
  cases hKind : m.kind? with
  | some found =>
      rcases exists_function_of_kind? hKind with
        ⟨operation, f, hGet, rfl⟩
      rw [(hSuits operation f hGet).template]
  | none =>
      exact
        absurd (eq_empty_of_kind?_eq_none hKind) hNonempty

/-
  Adding a function keeps the functions to one kind of frames,
  which is that of the function that was added.
-/
theorem suits_of_add
    {m next : Modification}
    {kind : FrameKind}
    {operation : Operation}
    {f : Function}
    (hSuits :
      ∀ operation f, m.get operation = some f →
        f.Suits kind)
    (hAdd : m.add operation f = .ok next) :
    ∀ other g, next.get other = some g →
      g.Suits f.template.kind := by
  unfold add at hAdd
  by_cases hTargets : f.targets.isEmpty = true
  · simp [hTargets] at hAdd
  by_cases hFlags :
      f.targets.contains Targets.fdFlags = true ∧
        f.template.kind = .classic
  · simp [hTargets, hFlags] at hAdd
  by_cases hTwice : (m.get operation).isSome = true
  · simp [hTargets, hFlags, hTwice] at hAdd
  by_cases hMixed :
      m.kind?.any (· ≠ f.template.kind) = true
  · rw [if_neg hTargets, if_neg hFlags, if_neg hTwice,
      if_pos hMixed] at hAdd
    cases hAdd
  rw [if_neg hTargets, if_neg hFlags, if_neg hTwice,
    if_neg hMixed] at hAdd
  cases hAdd
  intro other g hGet
  rw [get_put] at hGet
  by_cases hOther : other = operation
  · rw [if_pos hOther] at hGet
    cases hGet
    refine ⟨rfl, Bool.eq_false_iff.mpr hTargets, ?_⟩
    intro hContains
    cases hKind : f.template.kind with
    | fd => rfl
    | classic => exact absurd ⟨hContains, hKind⟩ hFlags
  · rw [if_neg hOther] at hGet
    have hNonempty : m ≠ .empty := by
      intro hEmpty
      rw [eq_empty_iff.mp hEmpty other] at hGet
      cases hGet
    rw [kind?_of_suits hSuits hNonempty] at hMixed
    have hSame : kind = f.template.kind := by
      simpa using hMixed
    rw [← hSame]
    exact hSuits other g hGet

/-
  What is put together function by function suits one kind of
  frames throughout.
-/
theorem suits_of_addAll
    {entries : List (Operation × Function)}
    {m next : Modification}
    {kind : FrameKind}
    (hSuits :
      ∀ operation f, m.get operation = some f →
        f.Suits kind)
    (hAdd : m.addAll entries = .ok next) :
    ∃ kind,
      ∀ operation f, next.get operation = some f →
        f.Suits kind := by
  induction entries generalizing m kind with
  | nil =>
      cases hAdd
      exact ⟨kind, hSuits⟩
  | cons entry entries ih =>
      cases hFirst : m.add entry.1 entry.2 with
      | error violation =>
          simp only [addAll, List.foldlM_cons, hFirst] at hAdd
          cases hAdd
      | ok first =>
          simp only [addAll, List.foldlM_cons, hFirst] at hAdd
          exact ih (suits_of_add hSuits hFirst) hAdd

/-
  The kind of the first function of such a modification stands
  for all of them.
-/
theorem kind?_eq_some_iff
    {entries : List (Operation × Function)}
    {m : Modification}
    {kind : FrameKind}
    (hAdd : empty.addAll entries = .ok m) :
    m.kind? = some kind ↔
      m ≠ .empty ∧
        ∀ operation f, m.get operation = some f →
          f.Suits kind := by
  constructor
  · intro hKind
    have hStart :
        ∀ operation f, empty.get operation = some f →
          f.Suits kind := by
      intro operation f hGet
      rw [eq_empty_iff.mp rfl operation] at hGet
      cases hGet
    have hNonempty : m ≠ .empty := by
      rintro rfl
      cases hKind
    rcases suits_of_addAll hStart hAdd with
      ⟨found, hSuits⟩
    rw [kind?_of_suits hSuits hNonempty] at hKind
    cases hKind
    exact ⟨hNonempty, hSuits⟩
  · rintro ⟨hNonempty, hSuits⟩
    exact kind?_of_suits hSuits hNonempty

end Modification

------------------------------------------------------------
-- What Is Checked
------------------------------------------------------------

namespace Offsets

/- The distance with its sign is the offset. -/
theorem isWithin_iff_inRange
    {offset : Int8}
    {maxLength : Nat} :
    isWithin offset maxLength ↔ InRange offset maxLength := by
  unfold isWithin InRange
  split
  case isTrue hNegative =>
    have : offset.toInt < 0 :=
      Int8.lt_iff_toInt_lt.mp hNegative
    simp only [decide_eq_true_eq]
    omega
  case isFalse hNonnegative =>
    have : ¬ offset.toInt < 0 :=
      fun h => hNonnegative (Int8.lt_iff_toInt_lt.mpr h)
    simp only [decide_eq_true_eq]
    omega

theorem validateOne_eq
    (field : OffsetField)
    (offset : Int8)
    (maxLength : Nat) :
    validateOne field offset maxLength =
      if InRange offset maxLength then
        .ok ()
      else
        .error (.offsetOutOfRange field offset maxLength) := by
  simp only [validateOne, isWithin_iff_inRange]

theorem validate_eq_ok_iff
    {offsets : Offsets}
    {maxLength : Nat} :
    offsets.validate maxLength = .ok () ↔
      offsets.PointInto maxLength := by
  simp only [validate, validateOne_eq]
  by_cases hFirst : InRange offsets.first maxLength
  · by_cases hLast : InRange offsets.last maxLength
    · by_cases hResult : InRange offsets.result maxLength
      · simp only [hFirst, hLast, hResult, if_true]
        exact iff_of_true rfl ⟨hFirst, hLast, hResult⟩
      · simp only [hFirst, hLast, hResult, if_true, if_false]
        exact iff_of_false nofun fun h => hResult h.result
    · simp only [hFirst, hLast, if_true, if_false]
      exact iff_of_false nofun fun h => hLast h.last
  · simp only [hFirst, if_false]
    exact iff_of_false nofun fun h => hFirst h.first

end Offsets

namespace Rule

theorem validateModification_eq_ok_iff
    {rule : Rule} :
    rule.validateModification = .ok () ↔
      ∀ m, rule.modification = some m →
        m.kind? = some rule.kind := by
  unfold validateModification
  cases rule.modification with
  | none => simp
  | some m =>
      cases hKind : m.kind? with
      | none => simp [hKind]
      | some kind =>
          by_cases hSame : kind = rule.kind
          · simp [hKind, hSame]
          · simp [hKind, hSame]

theorem validateChecksum_eq_ok_iff
    {rule : Rule} :
    rule.validateChecksum = .ok () ↔
      ∀ c, rule.checksum = some c →
        rule.modification ≠ none ∧
          c.offsets.PointInto rule.kind.maxLength := by
  unfold validateChecksum
  cases rule.checksum with
  | none => simp
  | some c =>
      cases rule.modification with
      | none => simp
      | some m =>
          simp [Checksum.validate, Offsets.validate_eq_ok_iff]

/-
  A rule passes if its first function is of the right kind,
  its checksum stays within the payload of a modified frame,
  and its hop limit is not zero.
-/
theorem validate_eq_ok_iff
    {rule : Rule} :
    rule.validate = .ok () ↔
      (∀ m, rule.modification = some m →
        m.kind? = some rule.kind) ∧
      (∀ c, rule.checksum = some c →
        rule.modification ≠ none ∧
          c.offsets.PointInto rule.kind.maxLength) ∧
      rule.hopLimit ≠ some 0 := by
  rw [← validateModification_eq_ok_iff,
    ← validateChecksum_eq_ok_iff]
  unfold validate
  cases rule.validateModification with
  | error violation => simp [bind, Except.bind]
  | ok =>
      cases rule.validateChecksum with
      | error violation => simp [bind, Except.bind]
      | ok => simp [bind, Except.bind, validateHopLimit]

/-
  A rule whose modification was put together function by
  function passes exactly if it is sound and modifies
  something or is without a modification.
-/
theorem validate_eq_ok_iff_isSound
    {rule : Rule}
    (hComposed :
      ∀ m, rule.modification = some m →
        ∃ entries, Modification.empty.addAll entries = .ok m) :
    rule.validate = .ok () ↔
      rule.IsSound ∧ rule.modification ≠ some .empty := by
  rw [validate_eq_ok_iff]
  constructor
  · rintro ⟨hKind, hChecksum, hHops⟩
    have hWhole (m : Modification)
        (hModification : rule.modification = some m) :
        m ≠ .empty ∧
          ∀ operation f, m.get operation = some f →
            f.Suits rule.kind := by
      rcases hComposed m hModification with ⟨entries, hAdd⟩
      exact (Modification.kind?_eq_some_iff hAdd).mp
        (hKind m hModification)
    refine ⟨⟨?_, ?_, hHops⟩, ?_⟩
    · intro m hModification
      exact (hWhole m hModification).2
    · intro c hSummed
      rcases hChecksum c hSummed with ⟨hModified, hOffsets⟩
      rcases Option.ne_none_iff_exists'.mp hModified with
        ⟨m, hModification⟩
      exact
        ⟨⟨m, hModification, (hWhole m hModification).1⟩,
          hOffsets⟩
    · intro hEmpty
      exact (hWhole .empty hEmpty).1 rfl
  · rintro ⟨hSound, hNonempty⟩
    refine ⟨?_, ?_, hSound.hopLimit⟩
    · intro m hModification
      apply Modification.kind?_of_suits
        (hSound.functions m hModification)
      rintro rfl
      exact hNonempty hModification
    · intro c hSummed
      rcases hSound.checksum c hSummed with
        ⟨⟨m, hModification, -⟩, hOffsets⟩
      rw [hModification]
      exact ⟨nofun, hOffsets⟩

end Rule

------------------------------------------------------------
-- Requests That Are Made
------------------------------------------------------------

namespace Request

/- What is made after a check is made if it succeeds. -/
theorem exists_checked_iff
    {check : Except Violation Unit}
    {bytes : Bytes} :
    (∃ request,
      (do
        check
        return bytes) = Except.ok request) ↔
      check = .ok () := by
  cases check with
  | error violation => exact iff_of_false nofun nofun
  | ok => exact iff_of_true ⟨bytes, rfl⟩ rfl

/-
  A request to add or to delete a rule whose modification was
  put together function by function is made exactly if the
  rule is sound and does not have an empty modification.
-/
theorem made_iff_isSound
    {rule : Rule}
    (hComposed :
      ∀ m, rule.modification = some m →
        ∃ entries, Modification.empty.addAll entries = .ok m)
    (sequence : UInt32)
    (mode : AddMode) :
    ((∃ request, add rule sequence mode = .ok request) ↔
        rule.IsSound ∧ rule.modification ≠ some .empty) ∧
      ((∃ request, delete rule sequence = .ok request) ↔
        rule.IsSound ∧ rule.modification ≠ some .empty) := by
  rw [← Rule.validate_eq_ok_iff_isSound hComposed]
  exact ⟨exists_checked_iff, exists_checked_iff⟩

/- An FD template that sets the identifier and every flag. -/
def fdFunction : Function where
  targets := ⟨9⟩
  template :=
    .fd
      { id := 0x123,
        length := 0,
        flags := ⟨7⟩,
        data := Block.zeroFilled 64 [] }

/- A classic template for the identifier. -/
def classicFunction : Function where
  targets := Targets.id
  template :=
    .classic
      { id := 0x7FF,
        length := 0,
        dlc := 0,
        data := Block.zeroFilled 8 [] }

/- A rule for FD frames that are changed twice and summed up. -/
def summedUp : Rule :=
  { Gateway.plainEntry.rule with
    modification :=
      some
        { onXor := some fdFunction,
          onSet := some fdFunction },
    checksum := some (.xor ⟨⟨-64, 63, 0⟩, 0⟩),
    flags := RuleFlags.fd,
    hopLimit := some 1 }

theorem made_iff_isSound_summedUp :
    Modification.empty.addAll
        [(.set, fdFunction), (.xor, fdFunction)] =
      .ok
        { onXor := some fdFunction,
          onSet := some fdFunction } ∧
      (∃ request, add summedUp 7 .replace = .ok request) ∧
      summedUp.IsSound := by
  have hAdd :
      Modification.empty.addAll
          [(.set, fdFunction), (.xor, fdFunction)] =
        .ok
          { onXor := some fdFunction,
            onSet := some fdFunction } :=
    rfl
  have hRequest :
      ∃ request, add summedUp 7 .replace = .ok request :=
    exists_checked_iff.mpr rfl
  have hComposed :
      ∀ m, summedUp.modification = some m →
        ∃ entries,
          Modification.empty.addAll entries = .ok m := by
    intro m hModification
    cases hModification
    exact ⟨_, hAdd⟩
  exact
    ⟨hAdd, hRequest,
      ((made_iff_isSound hComposed 7 .replace).1.mp
        hRequest).1⟩

/-
  An entry with a classic template in front of an FD template,
  for classic frames.
-/
def mixedKinds : Entry where
  rule :=
    { Gateway.plainEntry.rule with
      modification :=
        some
          { onAnd := some classicFunction,
            onOr := some fdFunction } }

/-
  Such an entry can be read from a message of the gateway, and
  requests are made for its rule though that is not sound.
-/
theorem made_for_mixedKinds :
    (Response.decode (Answer.entry mixedKinds 1)).map
          (fun decoded => decoded.1.kind) =
        .ok (.entry mixedKinds) ∧
      (∃ request,
        add mixedKinds.rule 1 .exclusive = .ok request) ∧
      (∃ request,
        delete mixedKinds.rule 1 = .ok request) ∧
      ¬ mixedKinds.rule.IsSound := by
  refine ⟨?_, exists_checked_iff.mpr rfl,
    exists_checked_iff.mpr rfl, ?_⟩
  · have hNormal : mixedKinds.normalize = mixedKinds := by
      decide
    rw [Response.decode_of_fills
        (Answer.fills_entry mixedKinds 1),
      Answer.ofFramed_entry, hNormal]
    rfl
  · intro hSound
    have hSuits :=
      hSound.functions _ rfl .or fdFunction rfl
    have hKind :
        fdFunction.template.kind ≠ mixedKinds.rule.kind := by
      decide
    exact hKind hSuits.template

end Request

end GatewayRules
