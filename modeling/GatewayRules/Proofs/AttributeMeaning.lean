import GatewayRules.Proofs.EntryGrammar
import GatewayRules.Proofs.SoundRule
import Mathlib

/-
  The meaning of a sequence of attributes.  An entry has a
  place for each thing that attributes can say.  Of several
  attributes for one place the last one counts, but of several
  checksums the first.  A message is read as an entry exactly
  if its attributes mean this entry.

  Main declarations:
    * `Slot` and `Attribute.slot?`
    * `Entry.Means`
    * `Draft.Takes` and `Draft.takes_absorb`
    * `Draft.gives_last` and `Draft.gives_first`
    * `Entry.means_of_finish` and `Entry.Means.unique`
    * `Response.ofFramed_eq_entry_iff`
-/

------------------------------------------------------------
-- Places
------------------------------------------------------------

namespace GatewayRules

/-
  The places of an entry.  A function goes to the place of its
  operation, whatever the kind of its template, and checksums
  of both algorithms share one place.
-/
inductive Slot where
  | source
  | destination
  | filter
  | function (operation : Operation)
  | checksum
  | hopLimit
  | uid
  | handled
  | dropped
  | deleted
deriving DecidableEq

/- The place for what attributes of a kind say. -/
def AttributeKind.slot? : AttributeKind → Option Slot
  | .unspecified => none
  | .modification _ operation => some (.function operation)
  | .xorChecksum => some .checksum
  | .crc8Checksum => some .checksum
  | .handled => some .handled
  | .dropped => some .dropped
  | .source => some .source
  | .destination => some .destination
  | .filter => some .filter
  | .deleted => some .deleted
  | .hopLimit => some .hopLimit
  | .uid => some .uid

/- The place for what attributes with a number say. -/
def Slot.ofNumber? (number : UInt16) : Option Slot :=
  (AttributeKind.ofNumber? number).bind AttributeKind.slot?

/- Zero and the numbers from nineteen on stand for no place. -/
theorem Slot.ofNumber?_eq_none_iff
    (number : UInt16) :
    ofNumber? number = none ↔ number = 0 ∨ 19 ≤ number := by
  have hLength : AttributeKind.all.length = 19 := rfl
  have hSome :
      ∀ n : Fin 19,
        ((AttributeKind.all[n.val]?).bind
          AttributeKind.slot? = none ↔ n.val = 0) := by
    decide
  have hZero : number = 0 ↔ number.toNat = 0 := by
    rw [← UInt16.toNat_inj]
    rfl
  have hLarge : 19 ≤ number ↔ 19 ≤ number.toNat :=
    UInt16.le_iff_toNat_le
  unfold ofNumber? AttributeKind.ofNumber?
  rw [hZero, hLarge]
  rcases Nat.lt_or_ge number.toNat 19 with hKnown | hUnknown
  · rw [hSome ⟨number.toNat, hKnown⟩]
    change number.toNat = 0 ↔ _
    omega
  · have hNone : AttributeKind.all[number.toNat]? = none :=
      List.getElem?_eq_none (by omega)
    rw [hNone]
    simp [hUnknown]

------------------------------------------------------------
-- What Attributes Say
------------------------------------------------------------

namespace Attribute

def slot? (a : Attribute) : Option Slot :=
  Slot.ofNumber? a.number

/- The value of an attribute in a layout, if it has one. -/
def reads
    {α : Type}
    (layout : Layout α)
    (a : Attribute) : Option α :=
  layout.read? a.payload

/- The interface that an attribute names, if it names one. -/
def interface? (a : Attribute) : Option Interface.Index :=
  (a.reads Layout.u32).bind Interface.Index.make?

/- The function of an attribute, of either kind of frames. -/
def function? (a : Attribute) : Option Function :=
  match AttributeKind.ofNumber? a.number with
  | some (.modification .classic _) =>
      (a.reads Function.classicLayout).map fun value =>
        ⟨value.2, .classic value.1⟩
  | some (.modification .fd _) =>
      (a.reads Function.fdLayout).map fun value =>
        ⟨value.2, .fd value.1⟩
  | _ => none

/- The checksum of an attribute, of either algorithm. -/
def checksum? (a : Attribute) : Option Checksum :=
  match AttributeKind.ofNumber? a.number with
  | some .xorChecksum =>
      (a.reads XorChecksum.layout).map Checksum.xor
  | some .crc8Checksum =>
      (a.reads Crc8Checksum.storedLayout).map fun stored =>
        .crc8 (.ofStored stored)
  | _ => none

/- The first attribute for a place, if there is one. -/
def first?
    (attributes : List Attribute)
    (slot : Slot) : Option Attribute :=
  (attributes.filter (·.slot? = some slot)).head?

/- The last attribute for a place, if there is one. -/
def last?
    (attributes : List Attribute)
    (slot : Slot) : Option Attribute :=
  (attributes.filter (·.slot? = some slot)).getLast?

/-
  Whether a value is the one that an attribute has, or the
  default if there is no attribute.
-/
def Gives
    {α : Type}
    (a : Option Attribute)
    (read : Attribute → Option α)
    (absent value : α) : Prop :=
  a.elim (some absent) read = some value

end Attribute

namespace Entry

/-
  Whether an entry is what attributes say.  Without a function
  for any operation, there is no modification at all.
-/
structure Means
    (attributes : List Attribute)
    (entry : Entry) : Prop where
  source :
    Attribute.Gives (Attribute.last? attributes .source)
      (fun a => a.interface?.map some)
      none (some entry.rule.source)
  destination :
    Attribute.Gives (Attribute.last? attributes .destination)
      (fun a => a.interface?.map some)
      none (some entry.rule.destination)
  filter :
    Attribute.Gives (Attribute.last? attributes .filter)
      (fun a => (a.reads Filter.layout).map some)
      none entry.rule.filter
  function :
    ∀ operation,
      Attribute.Gives
        (Attribute.last? attributes (.function operation))
        (fun a => a.function?.map some)
        none
        (entry.rule.modification.bind (·.get operation))
  modification :
    entry.rule.modification = none ↔
      ∀ a ∈ attributes, ∀ operation,
        a.slot? ≠ some (.function operation)
  checksum :
    Attribute.Gives (Attribute.first? attributes .checksum)
      (fun a => a.checksum?.map some)
      none entry.rule.checksum
  hopLimit :
    Attribute.Gives (Attribute.last? attributes .hopLimit)
      (fun a => (a.reads Layout.u8).map some)
      none entry.rule.hopLimit
  uid :
    Attribute.Gives (Attribute.last? attributes .uid)
      (fun a => (a.reads Layout.u32).map some)
      none entry.rule.uid
  handled :
    Attribute.Gives (Attribute.last? attributes .handled)
      (·.reads Layout.u32) 0 entry.counters.handled
  dropped :
    Attribute.Gives (Attribute.last? attributes .dropped)
      (·.reads Layout.u32) 0 entry.counters.dropped
  deleted :
    Attribute.Gives (Attribute.last? attributes .deleted)
      (·.reads Layout.u32) 0 entry.counters.deleted

end Entry

------------------------------------------------------------
-- Taking In One Attribute
------------------------------------------------------------

namespace Draft

/-
  What taking in an attribute can do to a draft: nothing, or
  something in the one place that the attribute is for.
-/
inductive Takes
    (draft : Draft)
    (a : Attribute) : Draft → Prop where
  | nothing
      (hSlot : a.slot? = none) :
      Takes draft a draft
  | source
      {index : Interface.Index}
      (hSlot : a.slot? = some .source)
      (hRead : a.interface? = some index) :
      Takes draft a { draft with source := some index }
  | destination
      {index : Interface.Index}
      (hSlot : a.slot? = some .destination)
      (hRead : a.interface? = some index) :
      Takes draft a { draft with destination := some index }
  | filter
      {filter : Filter}
      (hSlot : a.slot? = some .filter)
      (hRead : a.reads Filter.layout = some filter) :
      Takes draft a { draft with filter := some filter }
  | function
      {operation : Operation}
      {f : Function}
      (hSlot : a.slot? = some (.function operation))
      (hRead : a.function? = some f) :
      Takes draft a
        { draft with
          modification := draft.modification.put operation f }
  | checksum
      {checksum : Checksum}
      (hSlot : a.slot? = some .checksum)
      (hRead : a.checksum? = some checksum) :
      Takes draft a
        { draft with
          checksum := some (draft.checksum.getD checksum) }
  | hopLimit
      {hops : UInt8}
      (hSlot : a.slot? = some .hopLimit)
      (hRead : a.reads Layout.u8 = some hops) :
      Takes draft a { draft with hopLimit := some hops }
  | uid
      {uid : UInt32}
      (hSlot : a.slot? = some .uid)
      (hRead : a.reads Layout.u32 = some uid) :
      Takes draft a { draft with uid := some uid }
  | handled
      {handled : UInt32}
      (hSlot : a.slot? = some .handled)
      (hRead : a.reads Layout.u32 = some handled) :
      Takes draft a
        { draft with counters := { draft.counters with handled } }
  | dropped
      {dropped : UInt32}
      (hSlot : a.slot? = some .dropped)
      (hRead : a.reads Layout.u32 = some dropped) :
      Takes draft a
        { draft with counters := { draft.counters with dropped } }
  | deleted
      {deleted : UInt32}
      (hSlot : a.slot? = some .deleted)
      (hRead : a.reads Layout.u32 = some deleted) :
      Takes draft a
        { draft with counters := { draft.counters with deleted } }

/- What was made of a value was made of the value read. -/
theorem exists_read_of_value
    {α : Type}
    {a : Attribute}
    {layout : Layout α}
    {update : α → Draft}
    {next : Draft}
    (h :
      (a.value layout >>= fun value =>
        Except.ok (update value)) = .ok next) :
    ∃ value, a.reads layout = some value ∧
      update value = next := by
  unfold Attribute.value at h
  unfold Attribute.reads
  cases hRead : layout.read? a.payload with
  | none =>
      rw [hRead] at h
      cases h
  | some value =>
      rw [hRead] at h
      exact ⟨value, rfl, Except.ok.inj h⟩

theorem exists_index_of_interface
    {a : Attribute}
    {update : Interface.Index → Draft}
    {next : Draft}
    (h :
      (a.interface >>= fun index =>
        Except.ok (update index)) = .ok next) :
    ∃ index, a.interface? = some index ∧
      update index = next := by
  unfold Attribute.interface Attribute.value at h
  unfold Attribute.interface? Attribute.reads
  cases hRead : Layout.u32.read? a.payload with
  | none =>
      rw [hRead] at h
      cases h
  | some value =>
      cases hMake : Interface.Index.make? value with
      | none =>
          simp only [hRead, bind, Except.bind, hMake] at h
          cases h
      | some index =>
          simp only [hRead, bind, Except.bind, hMake] at h
          exact ⟨index, by simp [hMake], Except.ok.inj h⟩

/- An attribute that is taken in fills its place. -/
theorem takes_absorb
    {draft next : Draft}
    {a : Attribute}
    (h : draft.absorb a = .ok next) :
    draft.Takes a next := by
  unfold absorb at h
  cases hKind : AttributeKind.ofNumber? a.number with
  | none =>
      rw [hKind] at h
      cases h
      exact .nothing (by simp [Attribute.slot?, Slot.ofNumber?, hKind])
  | some kind =>
      rw [hKind] at h
      have hSlot : a.slot? = kind.slot? := by
        simp [Attribute.slot?, Slot.ofNumber?, hKind]
      cases kind with
      | unspecified =>
          cases h
          exact .nothing hSlot
      | modification kind operation =>
          cases kind with
          | classic =>
              rcases exists_read_of_value h with
                ⟨value, hRead, rfl⟩
              exact .function hSlot (by
                simp [Attribute.function?, hKind, hRead])
          | fd =>
              rcases exists_read_of_value h with
                ⟨value, hRead, rfl⟩
              exact .function hSlot (by
                simp [Attribute.function?, hKind, hRead])
      | xorChecksum =>
          rcases exists_read_of_value h with
            ⟨value, hRead, rfl⟩
          exact .checksum hSlot (by
            simp [Attribute.checksum?, hKind, hRead])
      | crc8Checksum =>
          rcases exists_read_of_value h with
            ⟨value, hRead, rfl⟩
          exact .checksum hSlot (by
            simp [Attribute.checksum?, hKind, hRead])
      | handled =>
          rcases exists_read_of_value h with
            ⟨value, hRead, rfl⟩
          exact .handled hSlot hRead
      | dropped =>
          rcases exists_read_of_value h with
            ⟨value, hRead, rfl⟩
          exact .dropped hSlot hRead
      | deleted =>
          rcases exists_read_of_value h with
            ⟨value, hRead, rfl⟩
          exact .deleted hSlot hRead
      | source =>
          rcases exists_index_of_interface h with
            ⟨index, hRead, rfl⟩
          exact .source hSlot hRead
      | destination =>
          rcases exists_index_of_interface h with
            ⟨index, hRead, rfl⟩
          exact .destination hSlot hRead
      | filter =>
          rcases exists_read_of_value h with
            ⟨value, hRead, rfl⟩
          exact .filter hSlot hRead
      | hopLimit =>
          rcases exists_read_of_value h with
            ⟨value, hRead, rfl⟩
          exact .hopLimit hSlot hRead
      | uid =>
          rcases exists_read_of_value h with
            ⟨value, hRead, rfl⟩
          exact .uid hSlot hRead

end Draft

------------------------------------------------------------
-- Taking In All Attributes
------------------------------------------------------------

namespace Attribute

/- The last attribute for a place is looked for from the end. -/
theorem last?_cons
    (a : Attribute)
    (attributes : List Attribute)
    (slot : Slot) :
    last? (a :: attributes) slot =
      (last? attributes slot).or
        (if a.slot? = some slot then some a else none) := by
  unfold last?
  by_cases hSlot : a.slot? = some slot
  · simp [List.getLast?_cons, hSlot, Option.or_some]
  · simp [hSlot]

theorem first?_cons
    (a : Attribute)
    (attributes : List Attribute)
    (slot : Slot) :
    first? (a :: attributes) slot =
      if a.slot? = some slot then
        some a
      else
        first? attributes slot := by
  unfold first?
  by_cases hSlot : a.slot? = some slot
  · simp [hSlot]
  · simp [hSlot]

theorem last?_eq_none_iff
    {attributes : List Attribute}
    {slot : Slot} :
    last? attributes slot = none ↔
      ∀ a ∈ attributes, a.slot? ≠ some slot := by
  simp [last?]

/- What may be left out is missing just with its attribute. -/
theorem Gives.eq_none_iff
    {α : Type}
    {a : Option Attribute}
    {read : Attribute → Option α}
    {value : Option α}
    (h : Gives a (fun a => (read a).map some) none value) :
    value = none ↔ a = none := by
  cases a with
  | none => simpa [Gives, eq_comm] using h
  | some a =>
      constructor
      · rintro rfl
        simp [Gives] at h
      · nofun

end Attribute

namespace Draft

/- Attributes are taken in one after the other. -/
theorem exists_absorb_of_absorbAll
    {draft last : Draft}
    {a : Attribute}
    {attributes : List Attribute}
    (h : draft.absorbAll (a :: attributes) = .ok last) :
    ∃ next,
      draft.absorb a = .ok next ∧
        next.absorbAll attributes = .ok last := by
  cases hFirst : draft.absorb a with
  | error error =>
      simp only [absorbAll, List.foldlM_cons, hFirst] at h
      cases h
  | ok next =>
      simp only [absorbAll, List.foldlM_cons, hFirst] at h
      exact ⟨next, rfl, h⟩

/-
  A part of drafts that attributes for a place overwrite, and
  no others change, is in the end as the last of them says.
-/
theorem gives_last
    {α : Type}
    (slot : Slot)
    (read : Attribute → Option α)
    (field : Draft → α)
    {draft last : Draft}
    {attributes : List Attribute}
    (hStep :
      ∀ {draft next : Draft} {a : Attribute},
        draft.Takes a next →
          if a.slot? = some slot then
            read a = some (field next)
          else
            field next = field draft)
    (h : draft.absorbAll attributes = .ok last) :
    Attribute.Gives (Attribute.last? attributes slot) read
      (field draft) (field last) := by
  induction attributes generalizing draft with
  | nil =>
      cases h
      rfl
  | cons a attributes ih =>
      rcases exists_absorb_of_absorbAll h with
        ⟨next, hFirst, hRest⟩
      have hLast := ih hRest
      have hOwn := hStep (takes_absorb hFirst)
      unfold Attribute.Gives at hLast ⊢
      rw [Attribute.last?_cons]
      cases hLater : Attribute.last? attributes slot with
      | some later =>
          rw [hLater] at hLast
          exact hLast
      | none =>
          rw [hLater] at hLast
          have hField : field next = field last :=
            Option.some.inj hLast
          by_cases hSlot : a.slot? = some slot
          · rw [if_pos hSlot] at hOwn ⊢
            rw [← hField]
            exact hOwn
          · rw [if_neg hSlot] at hOwn ⊢
            rw [← hField, hOwn]
            rfl

/- A function is put in the place of its own operation. -/
theorem Takes.function_eq
    {draft next : Draft}
    {a : Attribute}
    (h : draft.Takes a next)
    (operation : Operation) :
    if a.slot? = some (.function operation) then
      a.function?.map some =
        some (next.modification.get operation)
    else
      next.modification.get operation =
        draft.modification.get operation := by
  cases h with
  | @function other f hSlot hRead =>
      by_cases hSame : operation = other
      · simp [hSlot, hRead, hSame]
      · simp [hSlot, hSame, Ne.symm hSame]
  | _ hSlot => simp [hSlot]

/- An attribute leaves a checksum that there is as it is. -/
theorem Takes.checksum_eq
    {draft next : Draft}
    {a : Attribute}
    (h : draft.Takes a next) :
    if a.slot? = some .checksum then
      ∃ checksum, a.checksum? = some checksum ∧
        next.checksum = some (draft.checksum.getD checksum)
    else
      next.checksum = draft.checksum := by
  cases h with
  | checksum hSlot hRead =>
      simp [hSlot, hRead]
  | _ hSlot => simp [hSlot]

/- The first checksum stays. -/
theorem checksum_of_absorbAll
    {draft last : Draft}
    {attributes : List Attribute}
    {kept : Checksum}
    (hKept : draft.checksum = some kept)
    (h : draft.absorbAll attributes = .ok last) :
    last.checksum = some kept := by
  induction attributes generalizing draft with
  | nil =>
      cases h
      exact hKept
  | cons a attributes ih =>
      rcases exists_absorb_of_absorbAll h with
        ⟨next, hFirst, hRest⟩
      have hStep := (takes_absorb hFirst).checksum_eq
      apply ih _ hRest
      by_cases hSlot : a.slot? = some .checksum
      · rw [if_pos hSlot] at hStep
        rcases hStep with ⟨checksum, -, hNext⟩
        rw [hNext, hKept]
        rfl
      · rw [if_neg hSlot] at hStep
        rw [hStep, hKept]

/- The checksum is in the end as the first attribute says. -/
theorem gives_first
    {draft last : Draft}
    {attributes : List Attribute}
    (hNone : draft.checksum = none)
    (h : draft.absorbAll attributes = .ok last) :
    Attribute.Gives (Attribute.first? attributes .checksum)
      (fun a => a.checksum?.map some)
      none last.checksum := by
  induction attributes generalizing draft with
  | nil =>
      cases h
      exact congrArg some hNone.symm
  | cons a attributes ih =>
      rcases exists_absorb_of_absorbAll h with
        ⟨next, hFirst, hRest⟩
      have hStep := (takes_absorb hFirst).checksum_eq
      rw [Attribute.first?_cons]
      by_cases hSlot : a.slot? = some .checksum
      · rw [if_pos hSlot] at hStep ⊢
        rcases hStep with ⟨checksum, hRead, hNext⟩
        rw [hNone] at hNext
        simp [Attribute.Gives, hRead,
          checksum_of_absorbAll hNext hRest]
      · rw [if_neg hSlot] at hStep ⊢
        exact ih (hStep.trans hNone) hRest

end Draft

------------------------------------------------------------
-- The Entry of a Sequence
------------------------------------------------------------

namespace Entry

/- A modification has the functions of its operations. -/
theorem modification_bind_get
    (m : Modification)
    (operation : Operation) :
    (if m.isEmpty then none else some m).bind
        (·.get operation) = m.get operation := by
  by_cases hEmpty : m.isEmpty = true
  · have hGet :=
      Modification.eq_empty_iff.mp (m.isEmpty_iff.mp hEmpty)
        operation
    simp [hEmpty, hGet]
  · simp [hEmpty]

/-
  There is no modification exactly if no attribute is for a
  function, where the functions are those of the last
  attributes.
-/
theorem modification_eq_none_iff
    {attributes : List Attribute}
    {m : Modification}
    (hFunction :
      ∀ operation,
        m.get operation = none ↔
          Attribute.last? attributes (.function operation) =
            none) :
    (if m.isEmpty then none else some m) = none ↔
      ∀ a ∈ attributes, ∀ operation,
        a.slot? ≠ some (.function operation) := by
  have hEmpty :
      m.isEmpty = true ↔
        ∀ operation, ∀ a ∈ attributes,
          a.slot? ≠ some (.function operation) := by
    rw [Modification.isEmpty_iff, Modification.eq_empty_iff]
    exact forall_congr' fun operation =>
      (hFunction operation).trans Attribute.last?_eq_none_iff
  rw [ite_eq_left_iff]
  simp only [reduceCtorEq, imp_false, Decidable.not_not]
  rw [hEmpty]
  exact ⟨fun h a hMember operation => h operation a hMember,
    fun h operation a hMember => h a hMember operation⟩

/- A draft is finished if it has both interfaces. -/
theorem exists_interfaces_of_finish
    {draft : Draft}
    {flags : RuleFlags}
    {base : Nat}
    {entry : Entry}
    (hFinish : draft.finish flags base = .ok entry) :
    ∃ source destination,
      draft.source = some source ∧
        draft.destination = some destination := by
  cases hFrom : draft.source with
  | none =>
      simp only [Draft.finish, hFrom] at hFinish
      cases hFinish
  | some source =>
      cases hTo : draft.destination with
      | none =>
          simp only [Draft.finish, hFrom, hTo] at hFinish
          cases hFinish
      | some destination =>
          exact ⟨source, destination, rfl, rfl⟩

/- What a finished draft holds is what the attributes say. -/
theorem means_of_finish
    {attributes : List Attribute}
    {draft : Draft}
    {flags : RuleFlags}
    {base : Nat}
    {entry : Entry}
    (hDraft : Draft.absorbAll {} attributes = .ok draft)
    (hFinish : draft.finish flags base = .ok entry) :
    Means attributes entry ∧ entry.rule.flags = flags := by
  rcases exists_interfaces_of_finish hFinish with
    ⟨source, destination, hFrom, hTo⟩
  have hSource :=
    Draft.gives_last .source
      (fun a => a.interface?.map some) Draft.source
      (fun h => by cases h <;> simp [*])
      hDraft
  have hDestination :=
    Draft.gives_last .destination
      (fun a => a.interface?.map some) Draft.destination
      (fun h => by cases h <;> simp [*])
      hDraft
  have hFunction (operation : Operation) :
      Attribute.Gives
        (Attribute.last? attributes (.function operation))
        (fun a => a.function?.map some)
        none (draft.modification.get operation) := by
    have hLast :=
      Draft.gives_last (.function operation)
        (fun a => a.function?.map some)
        (fun draft => draft.modification.get operation)
        (fun h => h.function_eq operation)
        hDraft
    have hStart :
        Modification.empty.get operation = none :=
      Modification.eq_empty_iff.mp rfl operation
    rw [← hStart]
    exact hLast
  rw [hFrom] at hSource
  rw [hTo] at hDestination
  simp only [Draft.finish, hFrom, hTo] at hFinish
  cases hFinish
  refine ⟨?_, rfl⟩
  exact
    { source := hSource
      destination := hDestination
      filter :=
        Draft.gives_last .filter _ Draft.filter
          (fun h => by cases h <;> simp [*])
          hDraft
      function := by
        intro operation
        rw [modification_bind_get]
        exact hFunction operation
      modification :=
        modification_eq_none_iff fun operation =>
          (hFunction operation).eq_none_iff
      checksum := Draft.gives_first rfl hDraft
      hopLimit :=
        Draft.gives_last .hopLimit _ Draft.hopLimit
          (fun h => by cases h <;> simp [*])
          hDraft
      uid :=
        Draft.gives_last .uid _ Draft.uid
          (fun h => by cases h <;> simp [*])
          hDraft
      handled :=
        Draft.gives_last .handled _
          (fun draft => draft.counters.handled)
          (fun h => by cases h <;> simp [*])
          hDraft
      dropped :=
        Draft.gives_last .dropped _
          (fun draft => draft.counters.dropped)
          (fun h => by cases h <;> simp [*])
          hDraft
      deleted :=
        Draft.gives_last .deleted _
          (fun draft => draft.counters.deleted)
          (fun h => by cases h <;> simp [*])
          hDraft }

/- Attributes of a sequence mean no more than one entry. -/
theorem Means.unique
    {attributes : List Attribute}
    {first second : Entry}
    (hFirst : Means attributes first)
    (hSecond : Means attributes second)
    (hFlags : first.rule.flags = second.rule.flags) :
    first = second := by
  have hSame
      {α : Type}
      {a : Option Attribute}
      {read : Attribute → Option α}
      {absent one other : α}
      (hOne : Attribute.Gives a read absent one)
      (hOther : Attribute.Gives a read absent other) :
      one = other :=
    Option.some.inj (hOne.symm.trans hOther)
  have hModification :
      first.rule.modification = second.rule.modification := by
    have hNone :=
      hFirst.modification.trans hSecond.modification.symm
    have hGet (operation : Operation) :=
      hSame (hFirst.function operation)
        (hSecond.function operation)
    cases hM : first.rule.modification with
    | none => exact (hNone.mp hM).symm
    | some m =>
        cases hN : second.rule.modification with
        | none =>
            rw [hNone.mpr hN] at hM
            cases hM
        | some n =>
            rw [hM, hN] at hGet
            exact congrArg some (Modification.ext_get hGet)
  rcases first with ⟨rule, counters⟩
  rcases second with ⟨otherRule, otherCounters⟩
  have hRule : rule = otherRule := by
    rcases rule with ⟨s, d, f, m, c, flags, h, u⟩
    rcases otherRule with ⟨s', d', f', m', c', flags', h', u'⟩
    simp only [Rule.mk.injEq]
    exact
      ⟨Option.some.inj (hSame hFirst.source hSecond.source),
        Option.some.inj
          (hSame hFirst.destination hSecond.destination),
        hSame hFirst.filter hSecond.filter,
        hModification,
        hSame hFirst.checksum hSecond.checksum,
        hFlags,
        hSame hFirst.hopLimit hSecond.hopLimit,
        hSame hFirst.uid hSecond.uid⟩
  have hCounters : counters = otherCounters := by
    rcases counters with ⟨handled, dropped, deleted⟩
    rcases otherCounters with ⟨handled', dropped', deleted'⟩
    simp only [Counters.mk.injEq]
    exact
      ⟨hSame hFirst.handled hSecond.handled,
        hSame hFirst.dropped hSecond.dropped,
        hSame hFirst.deleted hSecond.deleted⟩
  rw [hRule, hCounters]

/- Where attributes mean an entry, they name its interfaces. -/
theorem Means.names
    {attributes : List Attribute}
    {entry : Entry}
    (h : Means attributes entry) :
    Names attributes .source ∧ Names attributes .destination := by
  have hNames
      {slot : Slot}
      {kind : AttributeKind}
      (hSlot :
        ∀ other : AttributeKind,
          other.slot? = some slot → other = kind)
      (hLast : Attribute.last? attributes slot ≠ none) :
      Names attributes kind := by
    rw [ne_eq, Attribute.last?_eq_none_iff] at hLast
    push Not at hLast
    rcases hLast with ⟨a, hMember, hOwn⟩
    rcases Option.bind_eq_some_iff.mp hOwn with
      ⟨other, hOther, hKind⟩
    refine ⟨a, hMember, ?_⟩
    rw [Attribute.Is, hOther, hSlot other hKind]
  have hSource :
      Attribute.last? attributes .source ≠ none :=
    mt h.source.eq_none_iff.mpr (Option.some_ne_none _)
  have hDestination :
      Attribute.last? attributes .destination ≠ none :=
    mt h.destination.eq_none_iff.mpr (Option.some_ne_none _)
  refine ⟨hNames ?_ hSource, hNames ?_ hDestination⟩
  · intro other hOther
    cases other <;> first | rfl | cases hOther
  · intro other hOther
    cases other <;> first | rfl | cases hOther

/- The entry of a body is what the attributes in it say. -/
theorem exists_means_of_decode
    {body : Bytes}
    {base : Nat}
    {header : GatewayHeader}
    {entry : Entry}
    (hHeader : decodeHeader body base = .ok header)
    (hEntry : decode body base = .ok entry) :
    ∃ attributes,
      Attribute.Sequence (base + GatewayHeader.size)
          (body.drop GatewayHeader.size) attributes ∧
        Sound attributes ∧
        Means attributes entry ∧
        entry.rule.flags = header.flags := by
  rcases accepts_or_rejects base
      (body.drop GatewayHeader.size) with
    ⟨attributes, hAll, hSound, -, -⟩ |
      ⟨offset, defect, hRejects⟩
  · rcases exists_draft hSound with ⟨draft, hDraft, -⟩
    rw [decode_of_header hHeader, walk_of_whole hAll] at hEntry
    simp only [hDraft, bind, Except.bind] at hEntry
    exact ⟨attributes, hAll, hSound,
      means_of_finish hDraft hEntry⟩
  · rw [decode_of_rejects hHeader hRejects] at hEntry
    cases hEntry

/- What attributes say is the entry of a body of them. -/
theorem decode_of_means
    {body : Bytes}
    {base : Nat}
    {header : GatewayHeader}
    {attributes : List Attribute}
    {entry : Entry}
    (hHeader : decodeHeader body base = .ok header)
    (hAll :
      Attribute.Sequence (base + GatewayHeader.size)
        (body.drop GatewayHeader.size) attributes)
    (hSound : Sound attributes)
    (hMeans : Means attributes entry)
    (hFlags : entry.rule.flags = header.flags) :
    decode body base = .ok entry := by
  rcases decode_of_accepts hHeader
      ⟨attributes, hAll, hSound, hMeans.names⟩ with
    ⟨found, hFound⟩
  rcases exists_draft hSound with ⟨draft, hDraft, -⟩
  have hFinish := hFound
  rw [decode_of_header hHeader, walk_of_whole hAll] at hFinish
  simp only [hDraft, bind, Except.bind] at hFinish
  rcases means_of_finish hDraft hFinish with
    ⟨hFoundMeans, hFoundFlags⟩
  rw [hFound,
    hFoundMeans.unique hMeans (hFoundFlags.trans hFlags.symm)]

end Entry

------------------------------------------------------------
-- Messages
------------------------------------------------------------

/-
  Whether a message about a route has a gateway header with
  attributes behind it.
-/
structure Framed.Lists
    (message : Framed)
    (header : GatewayHeader)
    (attributes : List Attribute) : Prop where
  type : message.header.type = MessageType.newRoute
  header :
    GatewayHeader.layout.read?
      (message.bytes.drop Header.size) = some header
  attributes :
    Attribute.Sequence (Header.size + GatewayHeader.size)
      ((message.bytes.drop Header.size).drop
        GatewayHeader.size)
      attributes

/- A gateway header that is read is not too short. -/
theorem GatewayHeader.length_of_read?
    {body : Bytes}
    {header : GatewayHeader}
    (h : layout.read? body = some header) :
    size ≤ body.length :=
  (layout.read?_isSome_iff body).mp (Option.isSome_of_eq_some h)

namespace Response

/- A message that is decoded was cut off before. -/
theorem exists_framed_of_decode
    {bytes : Bytes}
    {response : Response}
    {used : Nat}
    (h : decode bytes = .ok (response, used)) :
    ∃ message,
      Framed.split bytes = .ok message ∧
        message.used = used ∧
        ofFramed message = .ok response := by
  unfold decode at h
  cases hSplit : Framed.split bytes with
  | error error =>
      rw [hSplit] at h
      cases h
  | ok message =>
      cases hMeaning : ofFramed message with
      | error error =>
          simp only [hSplit, hMeaning, bind, Except.bind] at h
          cases h
      | ok found =>
          simp only [hSplit, hMeaning, bind, Except.bind] at h
          cases h
          exact ⟨message, rfl, rfl, hMeaning⟩

/- An entry is read only from a body about a route. -/
theorem decode_of_decodeBody
    {type : UInt16}
    {body : Bytes}
    {entry : Entry}
    (h : decodeBody type body = .ok (.entry entry)) :
    type = MessageType.newRoute ∧
      concernsGateway body = true ∧
      Entry.decode body Header.size = .ok entry := by
  unfold decodeBody at h
  by_cases hError : type = MessageType.error
  · rw [if_pos hError] at h
    split at h <;> cases h
  · rw [if_neg hError] at h
    by_cases hDone : type = MessageType.done
    · rw [if_pos hDone] at h
      split at h
      · split at h <;> cases h
      · cases h
    · rw [if_neg hDone] at h
      split at h
      · rename_i hRoute
        refine ⟨hRoute.1, hRoute.2, ?_⟩
        cases hEntry : Entry.decode body Header.size with
        | error error =>
            rw [hEntry] at h
            cases h
        | ok found =>
            rw [hEntry] at h
            cases h
            rfl
      · cases h

/- A body of an entry starts with the header of its flags. -/
theorem exists_header_of_decode
    {body : Bytes}
    {base : Nat}
    {entry : Entry}
    (hConcerns : concernsGateway body = true)
    (hEntry : Entry.decode body base = .ok entry) :
    ∃ header,
      GatewayHeader.layout.read? body = some header ∧
        Entry.decodeHeader body base = .ok header ∧
        header = GatewayHeader.ofFlags header.flags := by
  cases hRead : GatewayHeader.layout.read? body with
  | none =>
      simp only [Entry.decode, Entry.decodeHeader, hRead]
        at hEntry
      cases hEntry
  | some header =>
      rcases GatewayHeader.exists_read
          (GatewayHeader.length_of_read? hRead) with
        ⟨found, hFound, hFirst, -⟩
      rw [hRead] at hFound
      cases hFound
      have hFamily : header.family = GatewayHeader.canFamily := by
        unfold concernsGateway at hConcerns
        rw [List.head?_eq_getElem?, hFirst] at hConcerns
        simpa using hConcerns
      by_cases hGateway :
          header.gatewayType = GatewayHeader.canToCan
      · refine ⟨header, rfl, ?_, ?_⟩
        · simp only [Entry.decodeHeader, hRead, hGateway,
            if_true]
        · rcases header with ⟨family, gatewayType, flags⟩
          change family = _ at hFamily
          change gatewayType = _ at hGateway
          rw [hFamily, hGateway]
          rfl
      · simp only [Entry.decode, Entry.decodeHeader, hRead,
          hGateway, if_false] at hEntry
        cases hEntry

/- The header of a rule is the one that its flags call for. -/
theorem decodeHeader_of_lists
    {message : Framed}
    {flags : RuleFlags}
    {attributes : List Attribute}
    (hLists :
      message.Lists (GatewayHeader.ofFlags flags) attributes) :
    Entry.decodeHeader (message.bytes.drop Header.size)
        Header.size =
      .ok (GatewayHeader.ofFlags flags) := by
  unfold Entry.decodeHeader
  rw [hLists.header]
  rfl

/- Its body begins with the address family. -/
theorem family_of_lists
    {message : Framed}
    {flags : RuleFlags}
    {attributes : List Attribute}
    (hLists :
      message.Lists (GatewayHeader.ofFlags flags) attributes) :
    ∀ family,
      (message.bytes.drop Header.size)[0]? = some family →
        family = GatewayHeader.canFamily := by
  intro family hFound
  rcases GatewayHeader.exists_read
      (GatewayHeader.length_of_read? hLists.header) with
    ⟨header, hRead, hFirst, -⟩
  rw [hLists.header] at hRead
  cases hRead
  exact Option.some.inj (hFound.symm.trans hFirst)

/-
  A message is read as an entry exactly if it lists attributes
  without defects that mean this entry, behind the header of a
  rule that routes from CAN to CAN.
-/
theorem ofFramed_eq_entry_iff
    {message : Framed}
    {response : Response}
    {entry : Entry} :
    ofFramed message = .ok response ∧
        response.kind = .entry entry ↔
      ∃ header attributes,
        message.Lists header attributes ∧
          header = GatewayHeader.ofFlags entry.rule.flags ∧
          Entry.Sound attributes ∧
          Entry.Means attributes entry ∧
          response =
            { sequence := message.header.sequence,
              sender := message.header.sender,
              flags := message.header.flags,
              kind := .entry entry } := by
  constructor
  · rintro ⟨hResponse, hKind⟩
    unfold ofFramed at hResponse
    cases hBody : decodeBody message.header.type
        (message.bytes.drop Header.size) with
    | error error =>
        rw [hBody] at hResponse
        cases hResponse
    | ok kind =>
        rw [hBody] at hResponse
        cases hResponse
        change kind = .entry entry at hKind
        subst hKind
        rcases decode_of_decodeBody hBody with
          ⟨hType, hConcerns, hEntry⟩
        rcases exists_header_of_decode hConcerns hEntry with
          ⟨header, hRead, hHeader, hRoute⟩
        rcases Entry.exists_means_of_decode hHeader hEntry with
          ⟨attributes, hAll, hSound, hMeans, hFlags⟩
        rw [← hFlags] at hRoute
        exact ⟨header, attributes, ⟨hType, hRead, hAll⟩,
          hRoute, hSound, hMeans, rfl⟩
  · rintro
      ⟨header, attributes, hLists, rfl, hSound, hMeans, rfl⟩
    refine ⟨?_, rfl⟩
    have hEntry :=
      Entry.decode_of_means (decodeHeader_of_lists hLists)
        hLists.attributes hSound hMeans rfl
    unfold ofFramed
    rw [hLists.type,
      decodeBody_newRoute (family_of_lists hLists), hEntry]
    rfl

end Response

end GatewayRules
