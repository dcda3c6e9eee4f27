import GatewayRules.Message.Response
import GatewayRules.Proofs.AttributeWalk
import GatewayRules.Proofs.NormalEntry

/-
  Reading the attributes of an entry.  They are taken in one
  after the other; each fills the place of the draft that it
  was written from, so that the draft in the end holds all
  that the entry holds.

  Main declarations:
    * `Draft.Reads` and `Draft.Reads.append`
    * `Draft.reads_rule`
    * `Draft.reads_entry`
-/

------------------------------------------------------------
-- Reading Attributes
------------------------------------------------------------

namespace GatewayRules

namespace AttributeKind

/- The number of a kind leaves the upper two bits alone. -/
theorem number_and_mask
    (kind : AttributeKind) :
    kind.number &&& Attribute.numberMask = kind.number := by
  cases kind with
  | modification kind operation =>
      cases kind <;> cases operation <;> rfl
  | _ => rfl

end AttributeKind

namespace Draft

/-
  Whether a draft becomes another one by taking in attributes,
  wherever in a message they stand.
-/
def Reads
    (draft : Draft)
    (attributes : List (AttributeKind × Bytes))
    (next : Draft) : Prop :=
  ∀ offset,
    draft.absorbAll
      (Attribute.place offset (Attribute.numbered attributes)) =
        .ok next

theorem Reads.nil (draft : Draft) : Reads draft [] draft :=
  fun _ => rfl

/- One attribute is taken in, and then the others. -/
theorem Reads.cons
    {draft next last : Draft}
    {kind : AttributeKind}
    {payload : Bytes}
    {attributes : List (AttributeKind × Bytes)}
    (hFirst : ∀ offset,
      draft.absorbKnown ⟨kind.number, payload, offset⟩ kind =
        .ok next)
    (hRest : Reads next attributes last) :
    Reads draft ((kind, payload) :: attributes) last := by
  intro offset
  have hAbsorb :
      draft.absorb
          (Attribute.placed offset (kind.number, payload)) =
        .ok next := by
    simp only [absorb, Attribute.placed,
      AttributeKind.number_and_mask,
      AttributeKind.ofNumber?_number]
    exact hFirst offset
  change
    (draft.absorb
        (Attribute.placed offset (kind.number, payload)) >>=
      fun next => next.absorbAll _) = _
  rw [hAbsorb]
  exact hRest _

theorem Reads.single
    {draft next : Draft}
    {kind : AttributeKind}
    {payload : Bytes}
    (h : ∀ offset,
      draft.absorbKnown ⟨kind.number, payload, offset⟩ kind =
        .ok next) :
    Reads draft [(kind, payload)] next :=
  .cons h (.nil next)

theorem Reads.append
    {draft next last : Draft}
    {first second : List (AttributeKind × Bytes)}
    (hFirst : Reads draft first next)
    (hSecond : Reads next second last) :
    Reads draft (first ++ second) last := by
  intro offset
  have hNumbered :
      Attribute.numbered (first ++ second) =
        Attribute.numbered first ++ Attribute.numbered second :=
    List.map_append
  rw [hNumbered, Attribute.place_append, absorbAll,
    List.foldlM_append]
  have hStart := hFirst offset
  rw [absorbAll] at hStart
  rw [hStart]
  exact hSecond _

/- An optional attribute is taken in if it is there. -/
theorem Reads.option
    {α : Type}
    {draft next : Draft}
    {value : Option α}
    {write : α → AttributeKind × Bytes}
    (hNone : value = none → draft = next)
    (hSome : ∀ a, value = some a →
      Reads draft [write a] next) :
    Reads draft (value.map write).toList next := by
  cases value with
  | none =>
      rw [hNone rfl]
      exact .nil next
  | some a => exact hSome a rfl

end Draft

------------------------------------------------------------
-- The Parts of an Entry
------------------------------------------------------------

/- The value of a payload that was written in a layout. -/
theorem Attribute.value_write
    {α : Type}
    (layout : Layout α)
    (a : α)
    (number : UInt16)
    (offset : Nat) :
    Attribute.value ⟨number, layout.write a, offset⟩ layout =
      .ok a := by
  simp [Attribute.value]

theorem Attribute.interface_write
    (index : Interface.Index)
    (number : UInt16)
    (offset : Nat) :
    Attribute.interface
        ⟨number, Layout.u32.write index.value, offset⟩ =
      .ok index := by
  have hMake :
      Interface.Index.make? index.value = some index := by
    simp [Interface.Index.make?, index.value_ne_zero]
  unfold Attribute.interface
  rw [Attribute.value_write]
  simp only [bind, Except.bind, hMake]

namespace Draft

/- A counter that is left out is zero in any case. -/
theorem reads_counter
    {draft next : Draft}
    {kind : AttributeKind}
    {count : UInt32}
    (hZero : count = 0 → draft = next)
    (hRead : ∀ offset,
      draft.absorbKnown
          ⟨kind.number, Layout.u32.write count, offset⟩ kind =
        .ok next) :
    Reads draft
      (if count ≠ 0 then
        [(kind, Layout.u32.write count)] else [])
      next := by
  by_cases h : count = 0
  · rw [if_neg (Decidable.not_not.mpr h), hZero h]
    exact .nil next
  · rw [if_pos h]
    exact .single hRead

theorem reads_counters
    (counters : Counters) :
    Reads {} counters.attributes { counters } := by
  rcases counters with ⟨handled, dropped, deleted⟩
  have hHandled :
      Reads {}
        (if handled ≠ 0 then
          [(.handled, Layout.u32.write handled)] else [])
        { counters := { handled } } := by
    apply reads_counter
    · rintro rfl
      rfl
    · intro offset
      simp only [absorbKnown, Attribute.value_write]
      rfl
  have hDropped :
      Reads { counters := { handled } }
        (if dropped ≠ 0 then
          [(.dropped, Layout.u32.write dropped)] else [])
        { counters := { handled, dropped } } := by
    apply reads_counter
    · rintro rfl
      rfl
    · intro offset
      simp only [absorbKnown, Attribute.value_write]
      rfl
  have hDeleted :
      Reads { counters := { handled, dropped } }
        (if deleted ≠ 0 then
          [(.deleted, Layout.u32.write deleted)] else [])
        { counters := { handled, dropped, deleted } } := by
    apply reads_counter
    · rintro rfl
      rfl
    · intro offset
      simp only [absorbKnown, Attribute.value_write]
      rfl
  have hParts :
      Counters.attributes ⟨handled, dropped, deleted⟩ =
        (if handled ≠ 0 then
            [(.handled, Layout.u32.write handled)] else [])
          ++ (if dropped ≠ 0 then
            [(.dropped, Layout.u32.write dropped)] else [])
          ++ (if deleted ≠ 0 then
            [(.deleted, Layout.u32.write deleted)] else []) := by
    simp only [Counters.attributes, List.filter_cons,
      List.filter_nil]
    by_cases hHandled : handled = 0 <;>
      by_cases hDropped : dropped = 0 <;>
        by_cases hDeleted : deleted = 0 <;>
          simp [hHandled, hDropped, hDeleted]
  rw [hParts]
  exact (hHandled.append hDropped).append hDeleted

/- A function is put in the place of its operation. -/
theorem reads_function
    (draft : Draft)
    (operation : Operation)
    (f : Function) :
    Reads draft [Function.attribute operation f]
      (draft.putFunction operation f) := by
  rcases f with ⟨targets, template⟩
  cases template with
  | classic frame =>
      apply Reads.single
      intro offset
      simp only [absorbKnown, Attribute.value_write]
      rfl
  | fd frame =>
      apply Reads.single
      intro offset
      simp only [absorbKnown, Attribute.value_write]
      rfl

theorem reads_functions
    (draft : Draft)
    (functions : List (Operation × Function)) :
    Reads draft
      (functions.map fun entry =>
        Function.attribute entry.1 entry.2)
      (functions.foldl
        (fun draft entry => draft.putFunction entry.1 entry.2)
        draft) := by
  induction functions generalizing draft with
  | nil => exact .nil draft
  | cons entry functions ih =>
      exact (reads_function draft entry.1 entry.2).append
        (ih (draft.putFunction entry.1 entry.2))

/- Putting all functions of a modification makes it up. -/
theorem foldl_putFunction
    {draft : Draft}
    (m : Modification)
    (h : draft.modification = .empty) :
    m.functions.foldl
        (fun draft entry => draft.putFunction entry.1 entry.2)
        draft =
      { draft with modification := m } := by
  rcases draft with
    ⟨source, destination, filter, modification, checksum,
      hopLimit, uid, counters⟩
  rcases m with ⟨onAnd, onOr, onXor, onSet⟩
  subst h
  cases onAnd <;> cases onOr <;> cases onXor <;>
    cases onSet <;> rfl

/- A checksum is read with its profile in normal form. -/
theorem reads_checksum
    {draft : Draft}
    (checksum : Checksum)
    (h : draft.checksum = none) :
    Reads draft [checksum.attribute]
      { draft with checksum := some checksum.normalize } := by
  have hKeep (c : Checksum) :
      draft.keepChecksum c =
        { draft with checksum := some c } := by
    simp [keepChecksum, h]
  cases checksum with
  | xor c =>
      apply Reads.single
      intro offset
      simp only [absorbKnown, Attribute.value_write]
      exact congrArg Except.ok (hKeep _)
  | crc8 c =>
      have hStored :
          Crc8Checksum.ofStored c.store =
            { c with profile := c.profile.normalize } := by
        simp [Crc8Checksum.ofStored, Crc8Checksum.store,
          Profile.ofNumber_number]
      apply Reads.single
      intro offset
      simp only [absorbKnown, Attribute.value_write]
      change Except.ok (draft.keepChecksum _) = _
      rw [hStored, hKeep]
      rfl

/- The draft of a rule after all its attributes. -/
theorem reads_rule
    (rule : Rule)
    (counters : Counters) :
    Reads { counters } rule.attributes
      { source := some rule.source,
        destination := some rule.destination,
        filter := rule.filter,
        modification := rule.modification.getD .empty,
        checksum := rule.checksum.map Checksum.normalize,
        hopLimit := rule.hopLimit,
        uid := rule.uid,
        counters } := by
  rcases rule with
    ⟨source, destination, filter, modification, checksum,
      flags, hopLimit, uid⟩
  let routed : Draft :=
    { source := some source, destination := some destination,
      counters }
  let modified : Draft :=
    { routed with
      filter, modification := modification.getD .empty }
  let summed : Draft :=
    { modified with
      checksum := checksum.map Checksum.normalize }
  have hInterfaces :
      Reads { counters }
        [(.source, Layout.u32.write source.value),
          (.destination, Layout.u32.write destination.value)]
        routed := by
    have hSource :
        Reads { counters }
          [(.source, Layout.u32.write source.value)]
          { source := some source, counters } := by
      apply Reads.single
      intro offset
      simp only [absorbKnown, Attribute.interface_write]
      rfl
    have hDestination :
        Reads { source := some source, counters }
          [(.destination, Layout.u32.write destination.value)]
          routed := by
      apply Reads.single
      intro offset
      simp only [absorbKnown, Attribute.interface_write]
      rfl
    exact hSource.append hDestination
  have hFilter :
      Reads routed
        (filter.map fun f =>
          (AttributeKind.filter, Filter.layout.write f)).toList
        { routed with filter } := by
    apply Reads.option
    · rintro rfl
      rfl
    · rintro f rfl
      apply Reads.single
      intro offset
      simp only [absorbKnown, Attribute.value_write]
      rfl
  have hModification :
      Reads { routed with filter }
        ((modification.map fun m =>
          m.functions.map fun entry =>
            Function.attribute entry.1 entry.2).getD [])
        modified := by
    cases modification with
    | none => exact .nil _
    | some m =>
        have hFunctions :=
          reads_functions { routed with filter } m.functions
        rw [foldl_putFunction m rfl] at hFunctions
        exact hFunctions
  have hChecksum :
      Reads modified (checksum.map Checksum.attribute).toList
        summed := by
    apply Reads.option
    · rintro rfl
      rfl
    · rintro c rfl
      exact reads_checksum c rfl
  have hHopLimit :
      Reads summed
        (hopLimit.map fun hops =>
          (AttributeKind.hopLimit, Layout.u8.write hops)).toList
        { summed with hopLimit } := by
    apply Reads.option
    · rintro rfl
      rfl
    · rintro hops rfl
      apply Reads.single
      intro offset
      simp only [absorbKnown, Attribute.value_write]
      rfl
  have hUid :
      Reads { summed with hopLimit }
        (uid.map fun uid =>
          (AttributeKind.uid, Layout.u32.write uid)).toList
        { summed with hopLimit, uid } := by
    apply Reads.option
    · rintro rfl
      rfl
    · rintro uid rfl
      apply Reads.single
      intro offset
      simp only [absorbKnown, Attribute.value_write]
      rfl
  exact ((((hInterfaces.append hFilter).append
    hModification).append hChecksum).append hHopLimit).append hUid

/- The draft of an entry after all its attributes. -/
theorem reads_entry
    (entry : Entry) :
    Reads {} entry.attributes
      { source := some entry.rule.source,
        destination := some entry.rule.destination,
        filter := entry.rule.filter,
        modification := entry.rule.modification.getD .empty,
        checksum := entry.rule.checksum.map Checksum.normalize,
        hopLimit := entry.rule.hopLimit,
        uid := entry.rule.uid,
        counters := entry.counters } :=
  (reads_counters entry.counters).append
    (reads_rule entry.rule entry.counters)

end Draft

end GatewayRules
