import GatewayRules.Proofs.CutDatagram
import GatewayRules.Proofs.DumpDelivery
import GatewayRules.Proofs.Provenance
import Mathlib

/-
  Dumps in datagrams that do not fit the buffer.  A list that
  succeeds gives the entries up to the end of the dump from
  what fits the buffer.  No datagram before the end was cut
  through a message, as this makes the exchange fail; and
  unless messages of the exchange were lost behind a cut, the
  list holds the entries of the whole datagrams.

  Main declarations:
    * `Framed.endsDump` and `Framed.entriesBeforeEnd`
    * `Framed.ownMessages`
    * `Framing.Keeps`
    * `FirstEnding.fault_eq_none`
    * `Exchange.exists_read_of_ok`
    * `Gateway.ListedFrom`
    * `Gateway.list_readsCut`
-/

------------------------------------------------------------
-- The Entries of a Dump
------------------------------------------------------------

namespace GatewayRules

namespace Framed

/- Whether a message ends the dump of an exchange. -/
def endsDump
    (own : UInt32)
    (message : Framed) : Bool :=
  if message.header.sequence = own then
    match message.meaning with
    | .ok kind => kind.ending?.isSome
    | .error _ => false
  else
    false

/- The entries that messages hold before the end of a dump. -/
def entriesBeforeEnd
    (own : UInt32)
    (messages : List Framed) : List Entry :=
  (messages.takeWhile fun message =>
    !message.endsDump own).filterMap (entryOf? own)

theorem entriesBeforeEnd_cons
    (own : UInt32)
    (message : Framed)
    (messages : List Framed) :
    entriesBeforeEnd own (message :: messages) =
      if message.endsDump own then
        []
      else
        (message.entryOf? own).toList
          ++ entriesBeforeEnd own messages := by
  unfold entriesBeforeEnd
  cases hEnd : message.endsDump own with
  | true => simp [hEnd]
  | false =>
      cases hEntry : message.entryOf? own <;>
        simp [hEnd, hEntry]

/- The messages of an exchange, without their padding. -/
def ownMessages
    (own : UInt32)
    (messages : List Framed) : List Framed :=
  (messages.map unpadded).filter fun message =>
    message.header.sequence = own

theorem ownMessages_append
    (own : UInt32)
    (first second : List Framed) :
    ownMessages own (first ++ second) =
      ownMessages own first ++ ownMessages own second := by
  unfold ownMessages
  rw [List.map_append, List.filter_append]

theorem ownMessages_flatMap
    {α : Type}
    (own : UInt32)
    (f : α → List Framed)
    (all : List α) :
    ownMessages own (all.flatMap f) =
      all.flatMap fun x => ownMessages own (f x) := by
  unfold ownMessages
  rw [List.map_flatMap, List.filter_flatMap]

/- Only the messages of an exchange hold its entries. -/
theorem filterMap_ownMessages
    (own : UInt32)
    (messages : List Framed) :
    (ownMessages own messages).filterMap (entryOf? own) =
      messages.filterMap (entryOf? own) := by
  unfold ownMessages
  rw [List.filterMap_filter, List.filterMap_map]
  congr 1
  funext message
  by_cases hOwn : message.header.sequence = own
  · simp only [Function.comp, unpadded, hOwn, decide_true,
      if_true]
    rfl
  · simp [unpadded, hOwn, entryOf?]

/- Only the messages of an exchange end its dump. -/
theorem entriesBeforeEnd_ownMessages
    (own : UInt32)
    (messages : List Framed) :
    entriesBeforeEnd own (ownMessages own messages) =
      entriesBeforeEnd own messages := by
  induction messages with
  | nil => rfl
  | cons message messages ih =>
      by_cases hOwn : message.header.sequence = own
      · have hFirst :
            ownMessages own (message :: messages) =
              message.unpadded :: ownMessages own messages := by
          simp [ownMessages, unpadded, hOwn]
        rw [hFirst, entriesBeforeEnd_cons,
          entriesBeforeEnd_cons, ih]
        rfl
      · have hSkip :
            ownMessages own (message :: messages) =
              ownMessages own messages := by
          simp [ownMessages, unpadded, hOwn]
        rw [hSkip, entriesBeforeEnd_cons, ih]
        simp [endsDump, entryOf?, hOwn]

/-
  What comes after the end of a dump is not looked at, and
  neither are padding and messages for others.
-/
theorem entriesBeforeEnd_of_prefix
    {own : UInt32}
    {before messages : List Framed}
    {last : Framed}
    (hOpen :
      ∀ message ∈ before, message.endsDump own = false)
    (hEnd : last.endsDump own = true)
    (hPrefix :
      ownMessages own (before ++ [last]) <+:
        ownMessages own messages) :
    entriesBeforeEnd own messages =
      before.filterMap (entryOf? own) := by
  have hLast : ownMessages own [last] = [last.unpadded] := by
    have hOwn : last.header.sequence = own := by
      by_contra hOther
      simp [endsDump, hOther] at hEnd
    simp [ownMessages, unpadded, hOwn]
  rcases hPrefix with ⟨after, hAfter⟩
  rw [ownMessages_append, hLast, List.append_assoc] at hAfter
  calc
    entriesBeforeEnd own messages =
        entriesBeforeEnd own (ownMessages own messages) :=
      (entriesBeforeEnd_ownMessages own messages).symm
    _ = (ownMessages own before).filterMap
          (entryOf? own) := by
      rw [← hAfter]
      unfold entriesBeforeEnd
      rw [List.takeWhile_append_of_pos]
      · have hStop : last.unpadded.endsDump own = true := hEnd
        simp [hStop]
      · intro message hMember
        rcases List.mem_map.mp (List.mem_filter.mp hMember).1
          with ⟨whole, hWhole, rfl⟩
        have hNot : whole.unpadded.endsDump own = false :=
          hOpen whole hWhole
        rw [hNot]
        rfl
    _ = before.filterMap (entryOf? own) :=
      filterMap_ownMessages own before

/- A message that decides an exchange ends its dump. -/
theorem Says.endsDump
    {own : UInt32}
    {kind : Response.Kind}
    {message : Framed}
    (h : message.Says own kind)
    (hEnding : kind.ending?.isSome) :
    message.endsDump own = true := by
  simpa [Framed.endsDump, h.1, h.2] using hEnding

end Framed

/- A message that calls for no ending does not end the dump. -/
theorem Occurrence.endsDump_of_ending?
    {own : UInt32}
    {maxRetries : Nat}
    {before : List Occurrence}
    {message : Framed}
    (h :
      (Occurrence.message message).ending? own maxRetries
        before = none) :
    message.endsDump own = false := by
  unfold ending? at h
  unfold Framed.endsDump
  by_cases hOwn : message.header.sequence = own
  · simp only [hOwn, if_true] at h ⊢
    cases hMeaning : message.meaning with
    | error error => rfl
    | ok kind =>
        rw [hMeaning] at h
        exact Option.isSome_eq_false_iff.mpr
          (Option.isNone_iff_eq_none.mpr h)
  · rw [if_neg hOwn]

/- All messages of a datagram, also those that do not fit. -/
def ReceiveResult.wholeMessages :
    ReceiveResult → List Framed
  | .datagram bytes => (Framing.ofDatagram bytes).messages
  | .failed _ => []
  | .expired => []

/- What fits of a datagram are the first of its messages. -/
theorem ReceiveResult.prefix_messages
    (own : UInt32)
    (capacity : Nat)
    (result : ReceiveResult) :
    Framed.ownMessages own (result.messages capacity) <+:
      Framed.ownMessages own result.wholeMessages := by
  cases result with
  | datagram bytes =>
      exact
        (Framing.prefix_messages_take bytes capacity).filter _
  | failed error => exact List.prefix_rfl
  | expired => exact List.prefix_rfl

/-
  Whether a datagram is read with all its messages of an
  exchange: it fits, or it is cut behind a message and what is
  lost is for others.
-/
def Framing.Keeps
    (own : UInt32)
    (capacity : Nat)
    (datagram : Bytes) : Prop :=
  datagram.length ≤ capacity ∨
    ∃ lost,
      CutBehind datagram capacity lost ∧
        ∀ message ∈ (ofDatagram lost).messages,
          message.header.sequence ≠ own

theorem Framing.Keeps.ownMessages_eq
    {own : UInt32}
    {capacity : Nat}
    {datagram : Bytes}
    (h : Keeps own capacity datagram) :
    Framed.ownMessages own
        (ofDatagram (datagram.take capacity)).messages =
      Framed.ownMessages own (ofDatagram datagram).messages := by
  rcases h with hFits | ⟨lost, hCut, hForeign⟩
  · rw [List.take_of_length_le hFits]
  · have hLost :
        Framed.ownMessages own (ofDatagram lost).messages =
          [] := by
      apply List.filter_eq_nil_iff.mpr
      intro message hMember
      rcases List.mem_map.mp hMember with ⟨whole, hWhole, rfl⟩
      exact mt of_decide_eq_true (hForeign whole hWhole)
    unfold Framed.ownMessages at hLost ⊢
    rw [← hCut.messages_append, List.filter_append, hLost,
      List.append_nil]

------------------------------------------------------------
-- Where a Dump Ends
------------------------------------------------------------

/- What comes first in a joined list ends in one of its parts. -/
theorem exists_of_prefix_flatMap
    {α β : Type}
    {f : α → List β}
    {all : List α}
    {before : List β}
    {last : β}
    (h : before ++ [last] <+: all.flatMap f) :
    ∃ earlier x later part,
      all = earlier ++ x :: later ∧
        before = earlier.flatMap f ++ part ∧
        part ++ [last] <+: f x := by
  induction all generalizing before with
  | nil => simp at h
  | cons x rest ih =>
      rw [List.flatMap_cons] at h
      rcases List.prefix_or_prefix_of_prefix h
          (List.prefix_append (f x) _) with hHere | hLater
      · exact ⟨[], x, rest, before, rfl, rfl, hHere⟩
      · rcases List.prefix_concat_iff.mp hLater with
          hWhole | ⟨more, hMore⟩
        · refine ⟨[], x, rest, before, rfl, rfl, ?_⟩
          rw [hWhole]
        · rw [← hMore, List.append_assoc,
            List.prefix_append_right_inj] at h
          rcases ih h with
            ⟨earlier, y, later, part, hAll, hBefore, hPart⟩
          refine ⟨x :: earlier, y, later, part, ?_, ?_, hPart⟩
          · rw [hAll]
            rfl
          · rw [← hMore, hBefore, List.flatMap_cons,
              List.append_assoc]

/- The front of a part is reached behind the parts before it. -/
theorem prefix_flatMap
    {α β : Type}
    {f : α → List β}
    {x : α}
    {part : List β}
    (earlier later : List α)
    (h : part <+: f x) :
    earlier.flatMap f ++ part <+:
      (earlier ++ x :: later).flatMap f := by
  rw [List.flatMap_append, List.flatMap_cons,
    List.prefix_append_right_inj]
  exact h.trans (List.prefix_append _ _)

/-
  If the datagrams before are read with all their messages,
  what is read of a datagram is the next in the whole ones.
-/
theorem ReceiveResult.prefix_wholeMessages
    {own : UInt32}
    {capacity : Nat}
    {earlier : List ReceiveResult}
    {result : ReceiveResult}
    {part : List Framed}
    (hKeeps :
      ∀ bytes, datagram bytes ∈ earlier →
        Framing.Keeps own capacity bytes)
    (later : List ReceiveResult)
    (hPart : part <+: result.messages capacity) :
    Framed.ownMessages own
        (earlier.flatMap (messages capacity) ++ part) <+:
      Framed.ownMessages own
        ((earlier ++ result :: later).flatMap
          wholeMessages) := by
  have hEarlier :
      Framed.ownMessages own
          (earlier.flatMap (messages capacity)) =
        Framed.ownMessages own
          (earlier.flatMap wholeMessages) := by
    rw [Framed.ownMessages_flatMap, Framed.ownMessages_flatMap]
    apply List.flatMap_congr
    intro x hMember
    cases x with
    | failed error => rfl
    | expired => rfl
    | datagram bytes =>
        exact (hKeeps bytes hMember).ownMessages_eq
  have hRead :
      Framed.ownMessages own part <+:
        Framed.ownMessages own result.wholeMessages :=
    ((hPart.map Framed.unpadded).filter _).trans
      (prefix_messages own capacity result)
  rw [Framed.ownMessages_append, hEarlier,
    Framed.ownMessages_flatMap, Framed.ownMessages_flatMap]
  exact prefix_flatMap earlier later hRead

namespace Exchange

/- A message that an exchange meets is in one of the datagrams. -/
theorem exists_datagram_of_history
    {config : Config}
    {receives : List ReceiveResult}
    {before : List Occurrence}
    {message : Framed}
    (h :
      before ++ [.message message] <+:
        history config receives) :
    ∃ earlier datagram later part,
      receives =
          earlier ++ ReceiveResult.datagram datagram :: later ∧
        before =
          ReceiveResult.allOccurrences config.capacity earlier
            ++ part ∧
        part ++ [.message message] <+:
          (ReceiveResult.datagram datagram).occurrences
            config.capacity := by
  have hOnly
      {result : ReceiveResult}
      {part : List Occurrence}
      (hPart :
        part ++ [.message message] <+:
          result.occurrences config.capacity) :
      ∃ datagram, result = .datagram datagram := by
    have hMember := hPart.subset
      (List.mem_append_right part List.mem_cons_self)
    cases result with
    | datagram datagram => exact ⟨datagram, rfl⟩
    | failed error =>
        simp [ReceiveResult.occurrences] at hMember
    | expired =>
        simp [ReceiveResult.occurrences] at hMember
  unfold history at h
  by_cases hTime : config.timeoutMillis = 0
  · rw [if_pos hTime] at h
    have hMember := h.subset
      (List.mem_append_right before List.mem_cons_self)
    simp at hMember
  · rw [if_neg hTime] at h
    rcases exists_of_prefix_flatMap h with
      ⟨earlier, result, later, part, hAll, hBefore, hPart⟩
    rcases hOnly hPart with ⟨datagram, rfl⟩
    rcases List.eq_nil_or_concat later with
      rfl | ⟨later, last, rfl⟩
    · have hSilence := (List.append_inj' hAll rfl).2
      cases hSilence
    · rw [List.concat_eq_append, ← List.cons_append,
        ← List.append_assoc] at hAll
      exact ⟨earlier, datagram, later, part,
        (List.append_inj' hAll rfl).1, hBefore, hPart⟩

end Exchange

namespace FirstEnding

variable {own : UInt32} {maxRetries : Nat}
variable {history before : List Occurrence}
variable {last : Occurrence} {ending : Ending}

/- What came before the ending called for none. -/
theorem exists_ending?_of_mem
    (h :
      FirstEnding own maxRetries history before last ending)
    {occurrence : Occurrence}
    (hMember : occurrence ∈ before) :
    ∃ earlier,
      occurrence.ending? own maxRetries earlier = none := by
  rcases List.append_of_mem hMember with
    ⟨earlier, later, hBefore⟩
  refine
    ⟨earlier, h.undecided earlier occurrence ⟨later, ?_⟩⟩
  rw [hBefore, List.append_assoc]
  rfl

/- No message before the ending ends the dump. -/
theorem endsDump_of_mem
    (h :
      FirstEnding own maxRetries history before last ending)
    {message : Framed}
    (hMember :
      message ∈ before.filterMap Occurrence.message?) :
    message.endsDump own = false := by
  rcases List.mem_filterMap.mp hMember with
    ⟨occurrence, hOccurrence, hMessage⟩
  cases occurrence with
  | message framed =>
      cases hMessage
      rcases h.exists_ending?_of_mem hOccurrence with
        ⟨earlier, hNone⟩
      exact Occurrence.endsDump_of_ending? hNone
  | fault error => cases hMessage
  | failure error => cases hMessage
  | expiry => cases hMessage

/- The framing of a datagram before the ending is not at fault. -/
theorem fault_eq_none
    (h :
      FirstEnding own maxRetries history before last ending)
    {capacity : Nat}
    {datagram : Bytes}
    (hSubset :
      (ReceiveResult.datagram datagram).occurrences
        capacity ⊆ before) :
    (Framing.ofDatagram (datagram.take capacity)).fault =
      none := by
  cases hFault :
      (Framing.ofDatagram (datagram.take capacity)).fault with
  | none => rfl
  | some error =>
      have hMember : Occurrence.fault error ∈ before := by
        apply hSubset
        simp [ReceiveResult.occurrences, hFault]
      rcases h.exists_ending?_of_mem hMember with
        ⟨earlier, hNone⟩
      cases hNone

end FirstEnding

/- A list that succeeds gives the entries that arrived. -/
theorem Ending.entries_of_result_ok
    {ending : Ending}
    {entries : List Entry}
    {reply : Reply}
    (h : ending.result entries = .ok reply) :
    GatewayOperation.list.entries reply = entries := by
  cases ending with
  | finished =>
      cases h
      rfl
  | acknowledged =>
      by_cases hEmpty : entries = []
      · simp only [result, hEmpty, if_true] at h
        cases h
        exact hEmpty.symm
      · simp only [result, hEmpty, if_false] at h
        cases h
        rfl
  | failed cause =>
      simp only [result] at h
      split at h <;> cases h

/-
  An exchange that succeeds has met the end of a dump in one of
  the datagrams.  What it delivers are the entries before that,
  and no cut was noticed in the datagrams before that one.
-/
theorem Exchange.exists_read_of_ok
    {config : Config}
    {own : UInt32}
    {channel : Channel}
    {reply : Reply}
    (h : (receive config own channel).result = .ok reply) :
    ∃ earlier datagram later before last,
      channel.receives =
          earlier ++ ReceiveResult.datagram datagram :: later ∧
        before ++ [last] <+:
          (ReceiveResult.datagram datagram).messages
            config.capacity ∧
        (∀ message ∈
            earlier.flatMap
                (ReceiveResult.messages config.capacity)
              ++ before,
          message.endsDump own = false) ∧
        last.endsDump own = true ∧
        GatewayOperation.list.entries reply =
          (earlier.flatMap
              (ReceiveResult.messages config.capacity)
            ++ before).filterMap (Framed.entryOf? own) ∧
        ∀ bytes, ReceiveResult.datagram bytes ∈ earlier →
          bytes.length ≤ config.capacity ∨
            ∃ lost,
              Framing.CutBehind bytes config.capacity lost := by
  rcases exists_firstEnding config own channel with
    ⟨-, before, last, ending, -, -, hFirst, hResult⟩
  have hEnding :
      ending.result
          (before.filterMap (Occurrence.entryOf? own)) =
        .ok reply :=
    hResult.symm.trans h
  have hLast :
      ∃ message,
        last = .message message ∧
          message.endsDump own = true := by
    have hSaid
        {kind : Response.Kind}
        (hKind : ending.kind? = some kind)
        (hDecides : kind.ending?.isSome) :
        ∃ message,
          last = .message message ∧
            message.endsDump own = true := by
      rcases Occurrence.exists_message_of_ending?
          hFirst.decided hKind with ⟨message, hMessage, hSays⟩
      refine ⟨message, ?_, hSays.endsDump hDecides⟩
      cases last with
      | message framed =>
          cases hMessage
          rfl
      | _ => cases hMessage
    rcases Ending.kind?_of_result_ok hEnding with hKind | hKind
    · exact hSaid hKind rfl
    · exact hSaid hKind rfl
  rcases hLast with ⟨message, rfl, hEnd⟩
  rcases exists_datagram_of_history hFirst.reached with
    ⟨earlier, datagram, later, part, hReceives, hBefore,
      hPart⟩
  have hMet :
      before.filterMap Occurrence.message? =
        earlier.flatMap
            (ReceiveResult.messages config.capacity)
          ++ part.filterMap Occurrence.message? := by
    rw [hBefore, List.filterMap_append,
      ReceiveResult.filterMap_message?_allOccurrences]
  refine ⟨earlier, datagram, later,
    part.filterMap Occurrence.message?, message, hReceives,
    ?_, ?_, hEnd, ?_, ?_⟩
  · have hMessages := hPart.filterMap Occurrence.message?
    rw [List.filterMap_append,
      ReceiveResult.filterMap_message?_occurrences]
      at hMessages
    exact hMessages
  · rw [← hMet]
    intro met hMember
    exact hFirst.endsDump_of_mem hMember
  · rw [Ending.entries_of_result_ok hEnding,
      Occurrence.filterMap_entryOf?, hMet]
  · intro bytes hMember
    apply Framing.cutBehind_of_fault_eq_none
    · exact Nat.lt_of_lt_of_le (by decide)
        (Nat.le_max_right config.bufferSize Header.size)
    · apply hFirst.fault_eq_none
      intro occurrence hOccurrence
      rw [hBefore]
      exact List.mem_append_left part
        (List.mem_flatMap.mpr ⟨_, hMember, hOccurrence⟩)

------------------------------------------------------------
-- Lists from Datagrams That Were Cut
------------------------------------------------------------

namespace Gateway

/- A successful operation gives what a reply delivers. -/
theorem exists_reply_of_ok
    {session : Session}
    {operation : GatewayOperation}
    {entries : List Entry}
    (h : (perform session operation).result = .ok entries) :
    ∃ request reply,
      (receiving session request).result = .ok reply ∧
        operation.entries reply = entries := by
  have hCourse := course_perform session operation
  generalize perform session operation = performed
    at hCourse h
  cases hCourse with
  | invalid violation hRequest => cases h
  | unsent request error hRequest hSent => cases h
  | answered request hRequest hSent =>
      cases hReceived : (receiving session request).result with
      | error error =>
          rw [hReceived] at h
          cases h
      | ok reply =>
          rw [hReceived] at h
          exact ⟨request, reply, hReceived, Except.ok.inj h⟩

/-
  What a list of entries has to do with the results of a
  channel, one of which is the datagram that ended the dump.
  The entries are those before the end that fit the buffer.
  Every datagram before that one fits, or was cut behind a
  message; unless messages of the exchange are lost there, no
  entry before the end is missing.
-/
structure ListedFrom
    (config : Config)
    (own : UInt32)
    (earlier : List ReceiveResult)
    (datagram : Bytes)
    (later : List ReceiveResult)
    (entries : List Entry) : Prop where
  ended :
    ∃ message ∈
      (ReceiveResult.datagram datagram).messages
        config.capacity,
      message.endsDump own = true
  fitting :
    entries =
      Framed.entriesBeforeEnd own
        ((earlier ++ .datagram datagram :: later).flatMap
          (ReceiveResult.messages config.capacity))
  cutBehind :
    ∀ bytes, ReceiveResult.datagram bytes ∈ earlier →
      bytes.length ≤ config.capacity ∨
        ∃ lost,
          Framing.CutBehind bytes config.capacity lost
  whole :
    (∀ bytes, ReceiveResult.datagram bytes ∈ earlier →
      Framing.Keeps own config.capacity bytes) →
      entries =
        Framed.entriesBeforeEnd own
          ((earlier ++ .datagram datagram :: later).flatMap
            ReceiveResult.wholeMessages)

/-
  A list that succeeds has read its entries from datagrams up
  to one that holds the end of the dump.
-/
theorem list_readsCut
    {session : Session}
    {entries : List Entry}
    (h : (perform session .list).result = .ok entries) :
    ∃ earlier datagram later,
      session.channel.receives =
          earlier ++ .datagram datagram :: later ∧
        ListedFrom session.config (session.numberOf 0) earlier
          datagram later entries := by
  rcases exists_reply_of_ok h with
    ⟨request, reply, hReceived, hReply⟩
  rcases Exchange.exists_read_of_ok hReceived with
    ⟨earlier, datagram, later, before, last, hReceives,
      hHere, hOpen, hEnd, hListed, hCut⟩
  rw [hReply] at hListed
  refine ⟨earlier, datagram, later, ?_,
    ⟨⟨last, hHere.subset (by simp), hEnd⟩, ?_, hCut, ?_⟩⟩
  · rw [← hReceives]
    exact (Exchange.receives_send _ _ _).symm
  · have hFitting := prefix_flatMap earlier later hHere
    rw [← List.append_assoc] at hFitting
    exact hListed.trans
      (Framed.entriesBeforeEnd_of_prefix hOpen hEnd
        ((hFitting.map Framed.unpadded).filter _)).symm
  · intro hKeeps
    have hWhole :=
      ReceiveResult.prefix_wholeMessages hKeeps later hHere
    rw [← List.append_assoc] at hWhole
    exact hListed.trans
      (Framed.entriesBeforeEnd_of_prefix hOpen hEnd
        hWhole).symm

/- An entry for the way back. -/
def secondEntry : Entry where
  rule :=
    Rule.plain plainEntry.rule.destination
      plainEntry.rule.source

/- Two entries of which the second answers someone else. -/
def sharedDatagram : Bytes :=
  Answer.entry plainEntry 1 ++ Answer.entry secondEntry 9

/-
  A session whose buffer holds one entry, and a datagram that
  is cut in front of an entry for someone else.
-/
def cutBeforeOther : Session where
  config := { bufferSize := 36 }
  channel :=
    { receives :=
        [.datagram sharedDatagram,
          .datagram (Answer.done 1)] }

theorem keeps_sharedDatagram :
    Framing.Keeps 1 36 sharedDatagram := by
  have hFills := Answer.fills_entry plainEntry 1
  have hUsed :
      (Answer.entryBuilder plainEntry 1).framed.used = 36 := by
    decide
  have hLost :
      sharedDatagram.drop
          (Answer.entryBuilder plainEntry 1).framed.used =
        Answer.entry secondEntry 9 := by
    rw [hFills.used]
    exact List.drop_left
  refine Or.inr
    ⟨_, .here (hFills.split_append _) ?_ ?_, ?_⟩
  · decide
  · rw [hUsed]
  · rw [hLost,
      Framing.ofDatagram_of_fills
        (Answer.fills_entry secondEntry 9)]
    intro message hMember
    rw [List.mem_singleton.mp hMember]
    decide

theorem list_readsCut_cutBeforeOther :
    (perform cutBeforeOther .list).result = .ok [plainEntry] ∧
      [plainEntry] =
        Framed.entriesBeforeEnd (cutBeforeOther.numberOf 0)
          (cutBeforeOther.channel.receives.flatMap
            ReceiveResult.wholeMessages) := by
  have hListed :
      (perform cutBeforeOther .list).result =
        .ok [plainEntry] := by
    cbv
  rcases list_readsCut hListed with
    ⟨earlier, datagram, later, hReceives, hFrom⟩
  refine ⟨hListed, ?_⟩
  rw [hReceives]
  apply hFrom.whole
  intro bytes hMember
  have hFirst : earlier <+: [.datagram sharedDatagram] := by
    have hEarlier :
        earlier <+: cutBeforeOther.channel.receives :=
      ⟨_, hReceives.symm⟩
    have hEntry :
        [.datagram sharedDatagram] <+:
          cutBeforeOther.channel.receives :=
      List.prefix_append [_] [_]
    have hLength := congrArg List.length hReceives
    simp only [cutBeforeOther, List.length_append,
      List.length_cons, List.length_nil] at hLength
    apply List.prefix_of_prefix_length_le hEarlier hEntry
    simp only [List.length_cons, List.length_nil]
    omega
  have hBytes : bytes = sharedDatagram := by
    simpa using hFirst.subset hMember
  rw [hBytes]
  exact keeps_sharedDatagram

/-
  A session whose buffer holds one entry, and a datagram that
  is cut behind the first of two entries.
-/
def cutBetween : Session where
  config := { bufferSize := 36 }
  channel :=
    { receives :=
        [.datagram
            (Answer.entry plainEntry 1
              ++ Answer.entry secondEntry 1),
          .datagram (Answer.done 1)] }

/-
  The entry behind the cut is missing, and the list succeeds
  all the same.
-/
theorem list_missesSecond :
    (perform cutBetween .list).result = .ok [plainEntry] ∧
      Framed.entriesBeforeEnd (cutBetween.numberOf 0)
          (cutBetween.channel.receives.flatMap
            ReceiveResult.wholeMessages) =
        [plainEntry, secondEntry] := by
  refine ⟨?_, ?_⟩
  · cbv
  · cbv

end Gateway

end GatewayRules
