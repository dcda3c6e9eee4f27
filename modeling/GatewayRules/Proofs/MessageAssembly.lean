import GatewayRules.Exchange.Send
import GatewayRules.Proofs.AttributeWalk
import GatewayRules.Proofs.WholeMessage

/-
  Messages that are put together step by step.  Whatever is
  done, and in whatever order, a message stays on the boundary
  and ends up whole: its header tells its length and the number
  that was set last, and behind it stand the items that were
  added, each with its padding.  The parts that a builder keeps
  are the parts of one buffer, which grows at its end and is
  written over in two places of its header.

  Main declarations:
    * `Bytes.Laid` and `Bytes.laid_iff`
    * `Builder.Step` and `Builder.after`
    * `Builder.body_after` and `Builder.sequence_after`
    * `Builder.buffer_next`
    * `Builder.finish_after_eq_assemble`
    * `Builder.finished_after`
-/

------------------------------------------------------------
-- Items on the Boundary
------------------------------------------------------------

namespace GatewayRules

namespace Bytes

/-
  Whether bytes, the first of them at an offset, are items one
  after the other, each followed by those zeros, at most three
  of them, that reach to the next boundary.
-/
inductive Laid : Nat → List Bytes → Bytes → Prop where
  | nil (offset : Nat) : Laid offset [] []
  | cons
      {offset zeros : Nat}
      {item rest : Bytes}
      {items : List Bytes}
      (hZeros : zeros < 4)
      (hBoundary : 4 ∣ offset + item.length + zeros)
      (hRest :
        Laid (offset + item.length + zeros) items rest) :
      Laid offset (item :: items)
        (item ++ List.replicate zeros 0 ++ rest)

/- Only one number of zeros leads to the next boundary. -/
theorem padding_eq
    {n zeros : Nat}
    (hZeros : zeros < 4)
    (hBoundary : 4 ∣ n + zeros) :
    padding n = List.replicate zeros 0 := by
  have hCount : align n - n = zeros := by
    unfold align
    omega
  rw [padding, hCount]

/- Behind a boundary, items are laid as they are padded. -/
theorem laid_iff
    {offset : Nat}
    {items : List Bytes}
    {bytes : Bytes}
    (h : 4 ∣ offset) :
    Laid offset items bytes ↔ bytes = items.flatMap padded := by
  constructor
  · intro hLaid
    induction hLaid with
    | nil => rfl
    | cons hZeros hBoundary hRest ih =>
        have hItem := hBoundary
        rw [Nat.add_assoc, Nat.dvd_add_right h] at hItem
        rw [List.flatMap_cons, ← ih hBoundary, padded,
          padding_eq hZeros hItem]
  · rintro rfl
    induction items generalizing offset with
    | nil => exact .nil offset
    | cons item items ih =>
        have hLower := le_align item.length
        have hUpper := align_lt item.length
        have hAlign := dvd_align item.length
        have hBoundary :
            4 ∣ offset + item.length
              + (align item.length - item.length) := by
          omega
        rw [List.flatMap_cons, padded, padding]
        exact .cons (by omega) hBoundary (ih hBoundary)

/- A byte string with a part of it written over. -/
def patch
    (bytes : Bytes)
    (offset : Nat)
    (part : Bytes) : Bytes :=
  bytes.take offset ++ part ++ bytes.drop (offset + part.length)

/- What stands in front of the part and behind it stays. -/
theorem patch_append
    (front old part rest : Bytes)
    {offset : Nat}
    (hOffset : front.length = offset)
    (hPart : part.length = old.length) :
    patch (front ++ (old ++ rest)) offset part =
      front ++ (part ++ rest) := by
  rw [patch, List.take_left' hOffset, hPart, ← List.drop_drop,
    List.drop_left' hOffset, List.drop_left,
    List.append_assoc]

end Bytes

/- An attribute before it is padded. -/
def Attribute.unpadded
    (type : UInt16)
    (payload : Bytes) : Bytes :=
  Layout.u16.write (UInt16.ofNat (4 + payload.length))
    ++ Layout.u16.write type ++ payload

theorem Attribute.unpadded_ne_nil
    (type : UInt16)
    (payload : Bytes) :
    unpadded type payload ≠ [] := by
  apply List.ne_nil_of_length_pos
  simp only [unpadded, List.length_append,
    Layout.length_write, Layout.size_u16]
  omega

------------------------------------------------------------
-- Steps
------------------------------------------------------------

namespace Builder

/- What can be done to a message before it is finished. -/
inductive Step where
  | setSequence (number : UInt32)
  | append (bytes : Bytes) (hNonempty : bytes ≠ [])
  | appendAttribute (type : UInt16) (payload : Bytes)
  | appendValue (kind : AttributeKind) (payload : Bytes)

namespace Step

/- The number that a step sets. -/
def number? : Step → Option UInt32
  | .setSequence number => some number
  | .append _ _
  | .appendAttribute _ _
  | .appendValue _ _ => none

/- What a step adds to the body. -/
def item? : Step → Option Bytes
  | .setSequence _ => none
  | .append bytes _ => some bytes
  | .appendAttribute type payload =>
      some (Attribute.unpadded type payload)
  | .appendValue kind payload =>
      some (Attribute.unpadded kind.number payload)

/- What a step does to a message that is in one buffer. -/
def write (buffer : Bytes) : Step → Bytes
  | .setSequence number =>
      buffer.patch 8 (Layout.u32.write number)
  | .append bytes _ => Bytes.padded (buffer ++ bytes)
  | .appendAttribute type payload =>
      Bytes.padded (buffer ++ Attribute.unpadded type payload)
  | .appendValue kind payload =>
      Bytes.padded
        (buffer ++ Attribute.unpadded kind.number payload)

/- A step adds at least one byte if it adds any. -/
theorem ne_nil_of_item?
    {step : Step}
    {item : Bytes}
    (h : step.item? = some item) :
    item ≠ [] := by
  cases step with
  | setSequence number => cases h
  | append bytes hNonempty =>
      cases h
      exact hNonempty
  | appendAttribute type payload
  | appendValue kind payload =>
      cases h
      exact Attribute.unpadded_ne_nil _ payload

theorem item?_eq_none_iff
    {step : Step} :
    step.item? = none ↔
      ∃ number, step = .setSequence number := by
  cases step <;> simp [item?]

end Step

/- The items that steps add, in order. -/
def items (steps : List Step) : List Bytes :=
  steps.filterMap Step.item?

/- The number that was set last, and zero if none was. -/
def lastNumber (steps : List Step) : UInt32 :=
  (steps.filterMap Step.number?).getLast?.getD 0

def next (builder : Builder) : Step → Builder
  | .setSequence number => builder.setSequence number
  | .append bytes _ => builder.append bytes
  | .appendAttribute type payload =>
      builder.appendAttribute type payload
  | .appendValue kind payload =>
      builder.appendAttributes [(kind, payload)]

/- A message after some steps. -/
def after
    (builder : Builder)
    (steps : List Step) : Builder :=
  steps.foldl next builder

/-
  The message that steps make of one buffer, which is a header
  at first and gets its length at last.
-/
def assemble
    (type flags : UInt16)
    (steps : List Step) : Bytes :=
  let buffer :=
    steps.foldl Step.write
      (Header.layout.write
        { length := 0, type, flags, sequence := 0,
          sender := 0 })
  buffer.patch 0 (Layout.u32.write (UInt32.ofNat buffer.length))

------------------------------------------------------------
-- What Steps Leave Behind
------------------------------------------------------------

variable {builder : Builder}

theorem fields_next
    (builder : Builder)
    (step : Step) :
    (builder.next step).type = builder.type ∧
      (builder.next step).flags = builder.flags := by
  cases step <;> exact ⟨rfl, rfl⟩

theorem sequence_next
    (builder : Builder)
    (step : Step) :
    (builder.next step).sequence =
      step.number?.getD builder.sequence := by
  cases step <;> rfl

/- On the boundary, the item of a step is padded by itself. -/
theorem body_next
    (step : Step)
    (h : 4 ∣ builder.body.length) :
    (builder.next step).body =
      builder.body ++ step.item?.elim [] Bytes.padded := by
  cases step with
  | setSequence number => exact (List.append_nil _).symm
  | append bytes hNonempty =>
      exact Bytes.padded_append_of_dvd bytes h
  | appendAttribute type payload =>
      exact body_appendAttribute type payload h
  | appendValue kind payload =>
      exact body_appendAttribute kind.number payload h

theorem dvd_next
    (step : Step)
    (h : 4 ∣ builder.body.length) :
    4 ∣ (builder.next step).body.length := by
  rw [body_next step h, List.length_append]
  apply Nat.dvd_add h
  cases step.item? with
  | none => exact Nat.dvd_zero 4
  | some item =>
      rw [Option.elim_some, Bytes.length_padded]
      exact Bytes.dvd_align _

theorem fields_after
    (builder : Builder)
    (steps : List Step) :
    (builder.after steps).type = builder.type ∧
      (builder.after steps).flags = builder.flags := by
  induction steps generalizing builder with
  | nil => exact ⟨rfl, rfl⟩
  | cons step steps ih =>
      have hStep := fields_next builder step
      have hRest := ih (builder.next step)
      exact ⟨hRest.1.trans hStep.1, hRest.2.trans hStep.2⟩

theorem sequence_after
    (builder : Builder)
    (steps : List Step) :
    (builder.after steps).sequence =
      (steps.filterMap Step.number?).getLast?.getD
        builder.sequence := by
  induction steps generalizing builder with
  | nil => rfl
  | cons step steps ih =>
      have hRest := ih (builder.next step)
      rw [sequence_next] at hRest
      change ((builder.next step).after steps).sequence = _
      rw [hRest, List.filterMap_cons]
      cases step.number? with
      | none => rfl
      | some number =>
          rw [List.getLast?_cons]
          rfl

theorem dvd_after
    (steps : List Step)
    (h : 4 ∣ builder.body.length) :
    4 ∣ (builder.after steps).body.length := by
  induction steps generalizing builder with
  | nil => exact h
  | cons step steps ih => exact ih (dvd_next step h)

/- Steps add their items, each with its padding. -/
theorem body_after
    (steps : List Step)
    (h : 4 ∣ builder.body.length) :
    (builder.after steps).body =
      builder.body ++ (items steps).flatMap Bytes.padded := by
  induction steps generalizing builder with
  | nil => exact (List.append_nil _).symm
  | cons step steps ih =>
      have hRest := ih (dvd_next step h)
      rw [body_next step h, List.append_assoc] at hRest
      change ((builder.next step).after steps).body = _
      rw [hRest, items, items, List.filterMap_cons]
      cases step.item? with
      | none => rfl
      | some item =>
          rw [List.flatMap_cons]
          rfl

theorem flatMap_padded_items_eq_nil_iff
    {steps : List Step} :
    (items steps).flatMap Bytes.padded = [] ↔
      ∀ step ∈ steps,
        ∃ number, step = .setSequence number := by
  rw [List.flatMap_eq_nil_iff]
  constructor
  · intro h step hStep
    apply Step.item?_eq_none_iff.mp
    rw [Option.eq_none_iff_forall_ne_some]
    intro item hItem
    have hPadded :=
      h item (List.mem_filterMap.mpr ⟨step, hStep, hItem⟩)
    exact Step.ne_nil_of_item? hItem
      (List.append_eq_nil_iff.mp hPadded).1
  · intro h item hItem
    rcases List.mem_filterMap.mp hItem with
      ⟨step, hStep, hSome⟩
    rw [Step.item?_eq_none_iff.mpr (h step hStep)] at hSome
    cases hSome

------------------------------------------------------------
-- One Buffer
------------------------------------------------------------

/-
  A message as it stands in one buffer, where its length is
  not told yet.
-/
def buffer (builder : Builder) : Bytes :=
  Header.layout.write { builder.header with length := 0 }
    ++ builder.body

@[simp]
theorem length_buffer
    (builder : Builder) :
    builder.buffer.length = builder.length := by
  simp [buffer, length]

/- What is added to the body is added to the buffer. -/
theorem buffer_append
    (builder : Builder)
    (bytes : Bytes) :
    (builder.append bytes).buffer =
      Bytes.padded (builder.buffer ++ bytes) := by
  have hHeader (header : Header) :
      4 ∣ (Header.layout.write header).length := by
    rw [Header.layout.length_write]
    decide
  rw [buffer, buffer, List.append_assoc,
    Bytes.padded_append_of_dvd _ (hHeader _)]
  rfl

/- The number of a message has its place behind eight bytes. -/
theorem buffer_setSequence
    (builder : Builder)
    (number : UInt32) :
    (builder.setSequence number).buffer =
      builder.buffer.patch 8 (Layout.u32.write number) := by
  have hPatch :=
    Bytes.patch_append
      (Layout.u32.write 0 ++ (Layout.u16.write builder.type
        ++ Layout.u16.write builder.flags))
      (Layout.u32.write builder.sequence)
      (Layout.u32.write number)
      (Layout.u32.write 0 ++ builder.body)
      rfl rfl
  simpa [buffer, header, setSequence, Header.layout,
    Layout.view, Layout.pair] using hPatch.symm

/- The length has its place at the front. -/
theorem finish_eq_patch
    (builder : Builder) :
    builder.finish =
      builder.buffer.patch 0
        (Layout.u32.write (UInt32.ofNat builder.length)) := by
  have hPatch :=
    Bytes.patch_append []
      (Layout.u32.write 0)
      (Layout.u32.write (UInt32.ofNat builder.length))
      ((Layout.u16.write builder.type
        ++ (Layout.u16.write builder.flags
          ++ (Layout.u32.write builder.sequence
            ++ Layout.u32.write 0))) ++ builder.body)
      rfl rfl
  simpa [finish, buffer, header, Header.layout, Layout.view,
    Layout.pair] using hPatch.symm

theorem buffer_next
    (builder : Builder)
    (step : Step) :
    (builder.next step).buffer = step.write builder.buffer := by
  cases step with
  | setSequence number =>
      exact buffer_setSequence builder number
  | append bytes hNonempty => exact buffer_append builder bytes
  | appendAttribute type payload =>
      exact buffer_append builder _
  | appendValue kind payload => exact buffer_append builder _

theorem buffer_after
    (builder : Builder)
    (steps : List Step) :
    (builder.after steps).buffer =
      steps.foldl Step.write builder.buffer := by
  induction steps generalizing builder with
  | nil => rfl
  | cons step steps ih =>
      rw [List.foldl_cons, ← buffer_next]
      exact ih (builder.next step)

/- A builder finishes what one buffer would have become. -/
theorem finish_after_eq_assemble
    (type flags : UInt16)
    (steps : List Step) :
    ((start type flags).after steps).finish =
      assemble type flags steps := by
  have hBuffer := buffer_after (start type flags) steps
  have hStart :
      (start type flags).buffer =
        Header.layout.write
          { length := 0, type, flags, sequence := 0,
            sender := 0 } :=
    List.append_nil _
  rw [hStart] at hBuffer
  rw [finish_eq_patch, assemble, ← hBuffer, length_buffer]

------------------------------------------------------------
-- While It Grows and When It Is Finished
------------------------------------------------------------

/- A finished message may be sent unless it is too long. -/
theorem validate_finish_eq_ok_iff
    {builder : Builder} :
    Request.validate builder.finish = .ok () ↔
      builder.length < UInt32.size := by
  have hSize : Header.size ≤ builder.length :=
    Nat.le_add_right _ _
  have hDeclared :
      builder.header.length.toNat =
        builder.length % UInt32.size :=
    UInt32.toNat_ofNat'
  unfold Request.validate
  simp only [read?_finish, length_finish, hDeclared]
  rcases Nat.lt_or_ge builder.length UInt32.size with
    hShort | hLong
  · rw [Nat.mod_eq_of_lt hShort, if_neg]
    · exact iff_of_true rfl hShort
    · rintro (hLess | hOther)
      · exact Nat.not_lt.mpr hSize hLess
      · exact hOther rfl
  · have hOther :
        builder.length % UInt32.size ≠ builder.length := by
      have hLess :=
        Nat.mod_lt builder.length (by decide : 0 < UInt32.size)
      omega
    rw [if_pos (.inr hOther)]
    exact iff_of_false nofun (Nat.not_lt.mpr hLong)

/-
  What holds of a message after some steps: it ends on the
  boundary, not in front of the end of its header, and there
  is something behind its header unless all that was done was
  to set its number.
-/
structure Grown
    (steps : List Step)
    (builder : Builder) : Prop where
  aligned : 4 ∣ builder.length
  headed : Header.size ≤ builder.length
  isEmpty_iff :
    builder.isEmpty ↔
      ∀ step ∈ steps,
        ∃ number, step = .setSequence number

/-
  What holds of the message that is finished after some steps.
  It may be sent, it is one message that takes up all of its
  bytes, its header tells its length and the number that was
  set last, and its body consists of the items that were added.
  The body is the same whenever these items are added in this
  order, wherever numbers are set, and the message is that
  which is put together in one buffer.
-/
structure Finished
    (type flags : UInt16)
    (steps : List Step)
    (message : Bytes) : Prop where
  accepted : Request.validate message = .ok ()
  framed :
    ∃ header : Header,
      Framed.split message =
          .ok
            { header,
              bytes := message,
              used := message.length } ∧
        header.length.toNat = message.length ∧
        header.type = type ∧
        header.flags = flags ∧
        header.sequence = lastNumber steps ∧
        header.sender = 0
  laid :
    Bytes.Laid Header.size (items steps)
      (message.drop Header.size)
  settled :
    ∀ others,
      items others = items steps →
        ((start type flags).after others).finish.drop
            Header.size =
          message.drop Header.size
  assembled : message = assemble type flags steps

section Start

variable (type flags : UInt16) (steps : List Step)

theorem header_after_start :
    let builder := (start type flags).after steps
    builder.header =
      { length := UInt32.ofNat builder.length,
        type,
        flags,
        sequence := lastNumber steps,
        sender := 0 } := by
  intro builder
  have hKept := fields_after (start type flags) steps
  have hSequence : builder.sequence = lastNumber steps :=
    sequence_after (start type flags) steps
  rw [header, hKept.1, hKept.2, hSequence]
  rfl

theorem body_after_start :
    ((start type flags).after steps).body =
      (items steps).flatMap Bytes.padded :=
  body_after steps (Nat.dvd_zero 4)

theorem dvd_after_start :
    4 ∣ ((start type flags).after steps).body.length :=
  dvd_after steps (Nat.dvd_zero 4)

theorem laid_after :
    Bytes.Laid Header.size (items steps)
      (((start type flags).after steps).finish.drop
        Header.size) := by
  rw [drop_finish, body_after_start]
  exact (Bytes.laid_iff (by decide)).mpr rfl

theorem grown_after :
    Grown steps ((start type flags).after steps) := by
  constructor
  · exact Nat.dvd_add (by decide)
      (dvd_after_start type flags steps)
  · exact Nat.le_add_right _ _
  · rw [isEmpty, List.isEmpty_iff, body_after_start]
    exact flatMap_padded_items_eq_nil_iff

/-
  Steps in any order lead to a message that is right after each
  of them, and that is right as a whole when it is finished, as
  long as its length can be told.
-/
theorem finished_after
    (hShort :
      ((start type flags).after steps).length <
        UInt32.size) :
    (∀ done, done <+: steps →
      Grown done ((start type flags).after done)) ∧
      Finished type flags steps
        ((start type flags).after steps).finish := by
  refine ⟨fun done _ => grown_after type flags done, ?_⟩
  have hSize : 4 ∣ Header.size := by decide
  have hHeader := header_after_start type flags steps
  have hAligned := dvd_after_start type flags steps
  have hLaid := laid_after type flags steps
  constructor
  · exact validate_finish_eq_ok_iff.mpr hShort
  · have hSplit := (fills_finish hAligned hShort).split
    have hLength := toNat_header_length hShort
    rw [framed, hHeader, ← length_finish] at hSplit
    rw [hHeader, ← length_finish] at hLength
    exact ⟨_, hSplit, hLength, rfl, rfl, rfl, rfl⟩
  · exact hLaid
  · intro others hItems
    -- How items are laid leaves no choice of the body.
    have hOther := laid_after type flags others
    rw [hItems, Bytes.laid_iff hSize] at hOther
    rw [Bytes.laid_iff hSize] at hLaid
    rw [hOther, hLaid]
  · exact finish_after_eq_assemble type flags steps

end Start

/-
  An item of one byte, a payload of five, and a number that is
  set once more when they are there.
-/
theorem finished_after_numberedTwice :
    let header := GatewayHeader.layout.write (.ofFlags ⟨0⟩)
    let steps : List Step :=
      [.setSequence 7, .append header (by decide),
        .appendAttribute 0x3FFF [1, 2, 3, 4, 5],
        .setSequence 9, .appendValue .hopLimit [3]]
    let builder := (start 24 1).after steps
    builder.length < UInt32.size ∧
      builder.finish =
        [40, 0, 0, 0, 24, 0, 1, 0, 9, 0, 0, 0, 0, 0, 0, 0,
          29, 1, 0, 0, 9, 0, 0xFF, 0x3F, 1, 2, 3, 4, 5, 0, 0, 0,
          5, 0, 13, 0, 3, 0, 0, 0] ∧
      (∀ done, done <+: steps →
        Grown done ((start 24 1).after done)) ∧
      Finished 24 1 steps builder.finish := by
  intro header steps builder
  have hShort : builder.length < UInt32.size := by decide
  exact ⟨hShort, by decide, finished_after 24 1 steps hShort⟩

end Builder

end GatewayRules
