import GatewayRules.Proofs.CutDatagram
import GatewayRules.Proofs.DumpDelivery
import GatewayRules.Proofs.Provenance
import Mathlib

/-
  Traffic that comes to the same for an exchange.  Whole
  messages for others can be put in front of any message, or
  into datagrams of their own, and can be left out again; and
  the messages that arrive can be put into datagrams in any
  way.  The exchange has the same result.

  Main declarations:
    * `Framed.IsPadded`
    * `Framing.IsWhole` and `Framing.ofDatagram_append_of_isWhole`
    * `Framing.AgreeFor` and `ReceiveResult.AgreeFor`
    * `Exchange.receive_of_agreeFor`
    * `Exchange.receive_regrouped`
-/

------------------------------------------------------------
-- Padded Messages
------------------------------------------------------------

namespace GatewayRules

namespace Framed

/-
  Whether a byte string is one message of the length that its
  header declares, and padding up to the boundary.
-/
def IsPadded (bytes : Bytes) : Prop :=
  ∃ header,
    Header.layout.read? bytes = some header ∧
      Header.size ≤ header.length.toNat ∧
      bytes.length = Bytes.align header.length.toNat

/- Just such a byte string is a whole message. -/
theorem exists_fills_iff
    {bytes : Bytes} :
    (∃ message : Framed, message.Fills bytes) ↔
      IsPadded bytes := by
  constructor
  · rintro ⟨message, hFills⟩
    rcases split_eq_ok_iff.mp hFills.split with
      ⟨hHeader, hSize, hLength, -, hUsed⟩
    have hWhole := hFills.used
    have hAligned := hFills.aligned
    have hUpper :=
      Bytes.align_lt message.header.length.toNat
    have hBoundary :=
      Bytes.dvd_align message.header.length.toNat
    exact ⟨message.header, hHeader, hSize, by omega⟩
  · rintro ⟨header, hHeader, hSize, hLength⟩
    have hLower := Bytes.le_align header.length.toNat
    have hBoundary := Bytes.dvd_align header.length.toNat
    let message : Framed :=
      { header,
        bytes := bytes.take header.length.toNat,
        used := bytes.length }
    have hSplit : split bytes = .ok message := by
      apply split_eq_ok_iff.mpr
      refine ⟨hHeader, hSize, ?_, rfl, ?_⟩
      · change header.length.toNat ≤ bytes.length
        omega
      · change
          bytes.length =
            min (Bytes.align header.length.toNat) bytes.length
        omega
    exact ⟨message, hSplit, rfl, by omega⟩

end Framed

------------------------------------------------------------
-- Datagrams of Whole Messages
------------------------------------------------------------

namespace Framing

/-
  Whether a byte string is taken apart into messages without a
  fault, and the last of them is padded, too.
-/
structure IsWhole (bytes : Bytes) : Prop where
  fault : (ofDatagram bytes).fault = none
  aligned : 4 ∣ bytes.length

/- What begins such a byte string is a whole message. -/
theorem IsWhole.exists_front
    {bytes : Bytes}
    (h : IsWhole bytes)
    (hNonempty : bytes ≠ []) :
    ∃ message : Framed, ∃ front rest,
      message.Fills front ∧
        bytes = front ++ rest ∧
        IsWhole rest := by
  cases hSplit : Framed.split bytes with
  | error fault =>
      have hFault := h.fault
      rw [ofDatagram_of_split_error hNonempty hSplit]
        at hFault
      cases hFault
  | ok message =>
      rcases Framed.split_eq_ok_iff.mp hSplit with
        ⟨-, -, hLength, -, hUsed⟩
      have hAligned := h.aligned
      have hUpper :=
        Bytes.align_lt message.header.length.toNat
      have hBoundary :=
        Bytes.dvd_align message.header.length.toNat
      have hFront : 4 ∣ message.used ∧
          message.used ≤ bytes.length := by
        omega
      have hTake : (bytes.take message.used).length =
          message.used :=
        List.length_take_of_le hFront.2
      refine
        ⟨message, bytes.take message.used,
          bytes.drop message.used, ⟨?_, hTake.symm, ?_⟩,
          (List.take_append_drop _ _).symm, ⟨?_, ?_⟩⟩
      · rw [Framed.split_take hSplit
          (Framed.length_bytes_le_used hSplit), Nat.min_self]
      · rw [hTake]
        exact hFront.1
      · have hFault := h.fault
        rw [ofDatagram_of_split_ok hNonempty hSplit] at hFault
        exact hFault
      · rw [List.length_drop]
        exact Nat.dvd_sub hAligned hFront.1

theorem isWhole_of_fills
    {message : Framed}
    {bytes : Bytes}
    (h : message.Fills bytes) :
    IsWhole bytes := by
  refine ⟨?_, h.aligned⟩
  rw [ofDatagram_of_fills h]

/- The messages of whole bytes come before those that follow. -/
theorem ofDatagram_append_of_isWhole
    {bytes : Bytes}
    (h : IsWhole bytes)
    (rest : Bytes) :
    ofDatagram (bytes ++ rest) =
      ⟨(ofDatagram bytes).messages
          ++ (ofDatagram rest).messages,
        (ofDatagram rest).fault⟩ := by
  -- The bytes get shorter by the whole message in front.
  induction hSize : bytes.length using Nat.strong_induction_on
    generalizing bytes with
  | _ size ih =>
      by_cases hEmpty : bytes = []
      · rw [hEmpty, List.nil_append, ofDatagram_nil]
        rfl
      · rcases h.exists_front hEmpty with
          ⟨message, front, others, hFills, rfl, hOthers⟩
        have hShorter : others.length < size := by
          have hFront := List.length_pos_iff.mpr hFills.ne_nil
          rw [List.length_append] at hSize
          omega
        rw [List.append_assoc, ofDatagram_append hFills,
          ofDatagram_append hFills,
          ih others.length hShorter hOthers rfl]
        simp only [List.cons_append]

------------------------------------------------------------
-- Datagrams That Agree
------------------------------------------------------------

/-
  Whether two datagrams differ only in whole messages for
  others.  These come behind whole messages that both
  datagrams share; the rest of both may be anything.
-/
inductive AgreeFor (own : UInt32) : Bytes → Bytes → Prop where
  | same (bytes : Bytes) : AgreeFor own bytes bytes
  | shared
      {front first second : Bytes}
      (hFront : IsWhole front)
      (h : AgreeFor own first second) :
      AgreeFor own (front ++ first) (front ++ second)
  | left
      {foreign first second : Bytes}
      (hForeign : Framed.Foreign own foreign)
      (h : AgreeFor own first second) :
      AgreeFor own (foreign ++ first) second
  | right
      {foreign first second : Bytes}
      (hForeign : Framed.Foreign own foreign)
      (h : AgreeFor own first second) :
      AgreeFor own first (foreign ++ second)

/- What an exchange has to do with in a datagram. -/
def concerning
    (own : UInt32)
    (framing : Framing) : List Framed × Option DecodeError :=
  (framing.messages.filter fun message =>
      message.header.sequence = own,
    framing.fault)

/- A message for another exchange is not among it. -/
theorem concerning_append_foreign
    {own : UInt32}
    {foreign : Bytes}
    (hForeign : Framed.Foreign own foreign)
    (rest : Bytes) :
    (ofDatagram (foreign ++ rest)).concerning own =
      (ofDatagram rest).concerning own := by
  rcases hForeign with ⟨message, hFills, hOther⟩
  rw [ofDatagram_append hFills]
  simp [concerning, hOther]

/- Datagrams that agree hold the same for the exchange. -/
theorem AgreeFor.concerning_eq
    {own : UInt32}
    {first second : Bytes}
    (h : AgreeFor own first second) :
    (ofDatagram first).concerning own =
      (ofDatagram second).concerning own := by
  induction h with
  | same bytes => rfl
  | shared hFront h ih =>
      rcases Prod.mk.inj ih with ⟨hMessages, hFault⟩
      rw [ofDatagram_append_of_isWhole hFront,
        ofDatagram_append_of_isWhole hFront]
      simp only [concerning, List.filter_append, hMessages,
        hFault]
  | left hForeign h ih =>
      rw [concerning_append_foreign hForeign]
      exact ih
  | right hForeign h ih =>
      rw [concerning_append_foreign hForeign]
      exact ih

/- Nothing in messages for others concerns the exchange. -/
theorem concerning_flatten
    {own : UInt32}
    {units : List Bytes}
    (hForeign : ∀ bytes ∈ units, Framed.Foreign own bytes) :
    (ofDatagram units.flatten).concerning own = ([], none) := by
  induction units with
  | nil => simp [concerning]
  | cons bytes units ih =>
      rw [List.flatten_cons,
        concerning_append_foreign
          (hForeign bytes List.mem_cons_self)]
      exact ih fun other hOther =>
        hForeign other (List.mem_cons_of_mem _ hOther)

end Framing

------------------------------------------------------------
-- Channels That Agree
------------------------------------------------------------

namespace ReceiveResult

/-
  Whether what a channel delivers differs only in messages for
  others: in some datagrams, which still fit the buffer, or in
  datagrams that hold nothing else.
-/
inductive AgreeFor
    (own : UInt32)
    (capacity : Nat) :
    List ReceiveResult → List ReceiveResult → Prop where
  | nil : AgreeFor own capacity [] []
  | same
      (result : ReceiveResult)
      {first second : List ReceiveResult}
      (h : AgreeFor own capacity first second) :
      AgreeFor own capacity (result :: first)
        (result :: second)
  | datagram
      {bytes others : Bytes}
      {first second : List ReceiveResult}
      (hAgree : Framing.AgreeFor own bytes others)
      (hFits : bytes.length ≤ capacity)
      (hOthersFit : others.length ≤ capacity)
      (h : AgreeFor own capacity first second) :
      AgreeFor own capacity (.datagram bytes :: first)
        (.datagram others :: second)
  | left
      {units : List Bytes}
      {first second : List ReceiveResult}
      (hForeign : ∀ bytes ∈ units, Framed.Foreign own bytes)
      (hFits : units.flatten.length ≤ capacity)
      (h : AgreeFor own capacity first second) :
      AgreeFor own capacity
        (.datagram units.flatten :: first) second
  | right
      {units : List Bytes}
      {first second : List ReceiveResult}
      (hForeign : ∀ bytes ∈ units, Framed.Foreign own bytes)
      (hFits : units.flatten.length ≤ capacity)
      (h : AgreeFor own capacity first second) :
      AgreeFor own capacity first
        (.datagram units.flatten :: second)

/- What an exchange meets in a datagram that fits. -/
theorem filter_occurrences_datagram
    {own : UInt32}
    {capacity : Nat}
    {bytes : Bytes}
    (hFits : bytes.length ≤ capacity) :
    ((datagram bytes).occurrences capacity).filter
        (Occurrence.concerns own) =
      ((Framing.ofDatagram bytes).concerning own).1.map
          Occurrence.message
        ++ (((Framing.ofDatagram bytes).concerning own).2.map
          Occurrence.fault).toList := by
  have hMessages :
      (Occurrence.concerns own) ∘ Occurrence.message =
        fun message : Framed =>
          decide (message.header.sequence = own) := by
    funext message
    rfl
  have hFault :
      ((Framing.ofDatagram bytes).fault.map
          Occurrence.fault).toList.filter
            (Occurrence.concerns own) =
        ((Framing.ofDatagram bytes).fault.map
          Occurrence.fault).toList := by
    apply List.filter_eq_self.mpr
    intro occurrence hMember
    rcases Option.map_eq_some_iff.mp
        (Option.mem_toList.mp hMember) with ⟨fault, -, rfl⟩
    rfl
  simp only [occurrences, List.take_of_length_le hFits,
    List.filter_append, List.filter_map, hMessages, hFault,
    Framing.concerning]

/- A datagram for others brings nothing for the exchange. -/
theorem filter_occurrences_foreign
    {own : UInt32}
    {capacity : Nat}
    {units : List Bytes}
    (hForeign : ∀ bytes ∈ units, Framed.Foreign own bytes)
    (hFits : units.flatten.length ≤ capacity) :
    ((datagram units.flatten).occurrences capacity).filter
        (Occurrence.concerns own) = [] := by
  rw [filter_occurrences_datagram hFits,
    Framing.concerning_flatten hForeign]
  rfl

/- Channels that agree bring the same for the exchange. -/
theorem AgreeFor.filter_allOccurrences
    {own : UInt32}
    {capacity : Nat}
    {first second : List ReceiveResult}
    (h : AgreeFor own capacity first second) :
    (allOccurrences capacity first).filter
        (Occurrence.concerns own) =
      (allOccurrences capacity second).filter
        (Occurrence.concerns own) := by
  unfold allOccurrences
  induction h with
  | nil => rfl
  | same result h ih =>
      simp only [List.flatMap_cons, List.filter_append, ih]
  | datagram hAgree hFits hOthersFit h ih =>
      simp only [List.flatMap_cons, List.filter_append, ih,
        filter_occurrences_datagram hFits,
        filter_occurrences_datagram hOthersFit,
        hAgree.concerning_eq]
  | left hForeign hFits h ih =>
      simp only [List.flatMap_cons, List.filter_append, ih,
        filter_occurrences_foreign hForeign hFits,
        List.nil_append]
  | right hForeign hFits h ih =>
      simp only [List.flatMap_cons, List.filter_append, ih,
        filter_occurrences_foreign hForeign hFits,
        List.nil_append]

end ReceiveResult

namespace Exchange

/- The same holds for all that an exchange could meet. -/
theorem filter_history_of_agreeFor
    {config : Config}
    {own : UInt32}
    {first second : List ReceiveResult}
    (h :
      ReceiveResult.AgreeFor own config.capacity first
        second) :
    (history config first).filter
        (Occurrence.concerns own) =
      (history config second).filter
        (Occurrence.concerns own) := by
  unfold history
  by_cases hTime : config.timeoutMillis = 0
  · simp only [hTime, if_true]
  · simp only [hTime, if_false,
      ReceiveResult.allOccurrences_append, List.filter_append,
      h.filter_allOccurrences]

/-
  Messages for others cannot influence an exchange, whatever
  they say: it has the same result over any two channels that
  differ in nothing else.
-/
theorem receive_of_agreeFor
    {config : Config}
    {own : UInt32}
    {first second : Channel}
    (h :
      ReceiveResult.AgreeFor own config.capacity
        first.receives second.receives) :
    (receive config own first).result =
      (receive config own second).result :=
  result_receive_of_filter_eq (filter_history_of_agreeFor h)

/-
  An error for another request whose body is too short for its
  code, so that it would be a defect in a reply.
-/
def corruptReply : Bytes :=
  [18, 0, 0, 0, 2, 0, 0, 0, 8, 0, 0, 0, 0, 0, 0, 0,
    0, 0, 0, 0]

theorem foreign_corruptReply :
    Framed.Foreign 2 corruptReply := by
  let message : Framed :=
    { header := ⟨18, 2, 0, 8, 0⟩,
      bytes := corruptReply.take 18,
      used := 20 }
  have hSplit : Framed.split corruptReply = .ok message := by
    cbv
  exact ⟨message, ⟨hSplit, by decide, by decide⟩, by decide⟩

/- An interrupted call, and a dump in one datagram. -/
def quiet : Channel where
  receives :=
    [.failed (.ofKind .interrupted),
      .datagram
        (Answer.entry Gateway.plainEntry 2 ++ Answer.done 2)]

/- The same with defects of others before and within the dump. -/
def busy : Channel where
  receives :=
    [.datagram corruptReply,
      .failed (.ofKind .interrupted),
      .datagram
        (Answer.entry Gateway.plainEntry 2
          ++ (corruptReply ++ Answer.done 2))]

theorem agreeFor_quiet_busy :
    ReceiveResult.AgreeFor 2 (Config.capacity {})
      quiet.receives busy.receives := by
  have hForeign :
      ∀ bytes ∈ [corruptReply], Framed.Foreign 2 bytes := by
    intro bytes hBytes
    rw [List.mem_singleton.mp hBytes]
    exact foreign_corruptReply
  have hEntry :
      Framing.IsWhole (Answer.entry Gateway.plainEntry 2) :=
    Framing.isWhole_of_fills
      (Answer.fills_entry Gateway.plainEntry 2)
  have hDump :=
    Framing.AgreeFor.shared hEntry
      (.right foreign_corruptReply (.same (Answer.done 2)))
  exact
    .right hForeign (by decide)
      (.same _ (.datagram hDump (by decide) (by decide) .nil))

theorem receive_of_agreeFor_busy :
    ReceiveResult.AgreeFor 2 (Config.capacity {})
        quiet.receives busy.receives ∧
      (receive {} 2 busy).result =
        .ok (.entries [Gateway.plainEntry]) := by
  have hQuiet :
      (receive {} 2 quiet).result =
        .ok (.entries [Gateway.plainEntry]) := by
    cbv
  refine ⟨agreeFor_quiet_busy, ?_⟩
  rw [← receive_of_agreeFor agreeFor_quiet_busy]
  exact hQuiet

/-
  How messages are put into datagrams does not matter to an
  exchange: it has the same result over any two channels that
  deliver the same padded messages in the same order, in
  datagrams that fit the buffer, and bring the same after that.
-/
theorem receive_regrouped
    {config : Config}
    {own : UInt32}
    {first second : List (List Bytes)}
    (hSame : first.flatten = second.flatten)
    (hPadded : ∀ bytes ∈ first.flatten, Framed.IsPadded bytes)
    (hFirst :
      ∀ group ∈ first, group.flatten.length ≤ config.capacity)
    (hSecond :
      ∀ group ∈ second, group.flatten.length ≤ config.capacity)
    (sends : List SendResult)
    (rest : List ReceiveResult) :
    let channel (groups : List (List Bytes)) : Channel :=
      { sends,
        receives :=
          (groups.map fun group => .datagram group.flatten)
            ++ rest }
    (receive config own (channel first)).result =
      (receive config own (channel second)).result := by
  intro channel
  have hWhole :
      ∀ bytes ∈ first.flatten,
        ∃ message : Framed, message.Fills bytes := by
    intro bytes hBytes
    exact Framed.exists_fills_iff.mpr (hPadded bytes hBytes)
  have hOther :
      ∀ bytes ∈ second.flatten,
        ∃ message : Framed, message.Fills bytes := by
    rw [← hSame]
    exact hWhole
  have hHistory :
      history config (channel first).receives =
        history config (channel second).receives := by
    simp only [channel, history, List.append_assoc,
      ReceiveResult.allOccurrences_append,
      allOccurrences_datagrams hWhole hFirst,
      allOccurrences_datagrams hOther hSecond, hSame]
  apply result_receive_of_filter_eq
  rw [hHistory]

/- Another's defect, an entry, and the end of its dump. -/
def mixedDump : List Bytes :=
  [corruptReply, Answer.entry Gateway.plainEntry 2,
    Answer.done 2]

theorem isPadded_of_mem_mixedDump
    {bytes : Bytes}
    (h : bytes ∈ mixedDump) :
    Framed.IsPadded bytes := by
  apply Framed.exists_fills_iff.mp
  rcases List.mem_cons.mp h with rfl | hDump
  · rcases foreign_corruptReply with ⟨message, hFills, -⟩
    exact ⟨message, hFills⟩
  · rcases List.mem_cons.mp hDump with rfl | hDone
    · exact ⟨_, Answer.fills_entry Gateway.plainEntry 2⟩
    · rw [List.mem_singleton.mp hDone]
      rcases Terminator.done.exists_whole 2 with
        ⟨message, hFills, -⟩
      exact ⟨message, hFills⟩

theorem receive_regrouped_mixedDump :
    (∀ bytes ∈ mixedDump, Framed.IsPadded bytes) ∧
      (receive { bufferSize := 76 } 2
          { receives :=
              [.datagram mixedDump.flatten,
                .failed (.ofKind .connectionRefused)] }).result =
        .ok (.entries [Gateway.plainEntry]) := by
  have hPadded :
      ∀ bytes ∈ mixedDump, Framed.IsPadded bytes :=
    fun _ => isPadded_of_mem_mixedDump
  have hApart :
      (receive { bufferSize := 76 } 2
          { receives :=
              (mixedDump.map fun bytes =>
                .datagram [bytes].flatten)
                ++ [.failed
                  (.ofKind .connectionRefused)] }).result =
        .ok (.entries [Gateway.plainEntry]) := by
    cbv
  have hSame :=
    @receive_regrouped { bufferSize := 76 } 2 [mixedDump]
      (mixedDump.map fun bytes => [bytes])
      (by decide) hPadded (by decide) (by decide) []
      [.failed (.ofKind .connectionRefused)]
  exact ⟨hPadded, hSame.trans hApart⟩

end Exchange

end GatewayRules
