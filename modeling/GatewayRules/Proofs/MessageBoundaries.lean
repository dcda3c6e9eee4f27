import GatewayRules.Proofs.EquivalentTraffic
import Mathlib

/-
  Where messages begin and end.  What a byte string is decoded
  to is decided by the message at its front: no part of the
  message is enough, and nothing behind it matters.  The
  messages of a datagram follow one another without gaps up to
  its end, or up to the first place where there is no message.

  Main declarations:
    * `Layout.read?_pair_eq_some_iff`
    * `Response.Confined` and `Response.confined_decode`
    * `Framing.items` and `Framing.offsetBehind`
    * `Framing.Partitions`
    * `Framing.partitions_ofDatagram`
-/

------------------------------------------------------------
-- Reading Combined Layouts
------------------------------------------------------------

namespace GatewayRules

namespace Layout

variable {α β : Type}

theorem read?_view
    (layout : Layout α)
    (get : β → α)
    (make : α → β)
    (make_get : ∀ b, make (get b) = b)
    (bytes : Bytes) :
    (layout.view get make make_get).read? bytes =
      (layout.read? bytes).map make := by
  by_cases hFits : layout.size ≤ bytes.length
  · simp [read?, view, hFits]
  · simp [read?, view, hFits]

/- Of two values, the second is read behind the first. -/
theorem read?_pair
    (first : Layout α)
    (second : Layout β)
    (bytes : Bytes) :
    (first.pair second).read? bytes =
      (first.read? bytes).bind fun a =>
        (second.read? (bytes.drop first.size)).map fun b =>
          (a, b) := by
  have hFirst :
      (bytes.take (first.size + second.size)).take first.size =
        bytes.take first.size := by
    rw [List.take_take, Nat.min_eq_left (Nat.le_add_right _ _)]
  have hSecond :
      (bytes.take (first.size + second.size)).drop first.size =
        (bytes.drop first.size).take second.size := by
    rw [List.drop_take, Nat.add_sub_cancel_left]
  simp only [read?, pair, hFirst, hSecond, List.length_drop]
  by_cases hWhole : first.size + second.size ≤ bytes.length
  · rw [if_pos hWhole, if_pos (by omega), if_pos (by omega)]
    rfl
  · rw [if_neg hWhole]
    by_cases hFront : first.size ≤ bytes.length
    · rw [if_pos hFront, if_neg (by omega)]
      rfl
    · rw [if_neg hFront]
      rfl

theorem read?_pair_eq_some_iff
    {first : Layout α}
    {second : Layout β}
    {bytes : Bytes}
    {a : α}
    {b : β} :
    (first.pair second).read? bytes = some (a, b) ↔
      first.read? bytes = some a ∧
        second.read? (bytes.drop first.size) = some b := by
  rw [read?_pair]
  cases first.read? bytes <;> simp [and_comm]

end Layout

/- A header starts with the length that it declares. -/
theorem Header.read?_length
    {bytes : Bytes}
    {header : Header}
    (hHeader : layout.read? bytes = some header) :
    Layout.u32.read? bytes = some header.length := by
  unfold layout at hHeader
  rw [Layout.read?_view] at hHeader
  rcases Option.map_eq_some_iff.mp hHeader with
    ⟨fields, hFields, rfl⟩
  exact (Layout.read?_pair_eq_some_iff.mp hFields).1

------------------------------------------------------------
-- Byte Strings Without a Message
------------------------------------------------------------

namespace Framed

variable {bytes : Bytes} {header : Header}

/- There is no message in less than a header. -/
theorem split_of_headless
    (hShort : bytes.length < Header.size) :
    split bytes =
      .error (.truncated Header.size bytes.length) := by
  have hNone : Header.layout.read? bytes = none :=
    if_neg (Nat.not_le.mpr hShort)
  unfold split
  rw [hNone]

/- There is none whose length does not cover its header. -/
theorem split_of_undersized
    (hHeader : Header.layout.read? bytes = some header)
    (hSize : header.length.toNat < Header.size) :
    split bytes =
      .error (.malformed 0 .messageShorterThanHeader) := by
  simp only [split, hHeader, hSize, if_true]

/- There is none that is longer than the bytes. -/
theorem split_of_cut
    (hHeader : Header.layout.read? bytes = some header)
    (hSize : Header.size ≤ header.length.toNat)
    (hCut : bytes.length < header.length.toNat) :
    split bytes =
      .error
        (.truncated header.length.toNat bytes.length) := by
  simp only [split, hHeader, Nat.not_lt.mpr hSize, hCut,
    if_false, if_true]

end Framed

------------------------------------------------------------
-- Messages and What Follows Them
------------------------------------------------------------

namespace Response

variable {bytes : Bytes}

/- What cannot be cut off is not decoded. -/
theorem decode_of_split_error
    {error : DecodeError}
    (hSplit : Framed.split bytes = .error error) :
    decode bytes = .error error := by
  unfold decode
  rw [hSplit]
  rfl

/- What is cut off is decoded by itself. -/
theorem decode_of_split_ok
    {message : Framed}
    (hSplit : Framed.split bytes = .ok message) :
    decode bytes =
      (ofFramed message).map fun response =>
        (response, message.used) := by
  unfold decode
  rw [hSplit]
  change
    (ofFramed message >>= fun response =>
      Except.ok (response, message.used)) = _
  cases ofFramed message <;> rfl

/-
  Whether only the bytes of the message at the front of a byte
  string, of which the declared length is given, decide about
  what it is decoded to.
-/
structure Confined
    (bytes : Bytes)
    (length : Nat) : Prop where
  headerCut :
    ∀ n ≤ bytes.length,
      n < Header.size →
        decode (bytes.take n) =
          .error (.truncated Header.size n)
  undersized :
    ∀ n ≤ bytes.length,
      Header.size ≤ n →
        length < Header.size →
          decode (bytes.take n) =
            .error (.malformed 0 .messageShorterThanHeader)
  messageCut :
    ∀ n ≤ bytes.length,
      Header.size ≤ n →
        n < length →
          decode (bytes.take n) = .error (.truncated length n)
  noPart :
    ∀ n ≤ bytes.length,
      n < length → ∃ error, decode (bytes.take n) = .error error
  alone :
    Header.size ≤ length →
      length ≤ bytes.length →
        ∀ beyond n,
          length ≤ n →
            n ≤ length + beyond.length →
              let used := min (Bytes.align length) n
              let part := (bytes.take length ++ beyond).take n
              decode part =
                  ((decode (bytes.take length)).map
                    fun decoded => (decoded.1, used)) ∧
                events part = events (bytes.take length) ∧
                Header.size ≤ used ∧ used ≤ n

/- A header is read from any part that holds it. -/
theorem exists_header_take
    {length : UInt32}
    {n : Nat}
    (hLength : Layout.u32.read? bytes = some length)
    (hFits : n ≤ bytes.length)
    (hSize : Header.size ≤ n) :
    ∃ header,
      Header.layout.read? (bytes.take n) = some header ∧
        header.length = length := by
  rw [Header.layout.read?_take bytes hSize]
  rcases Option.isSome_iff_exists.mp
      ((Header.layout.read?_isSome_iff bytes).mpr
        (Nat.le_trans hSize hFits)) with
    ⟨header, hHeader⟩
  have hOwn := Header.read?_length hHeader
  rw [hLength] at hOwn
  exact ⟨header, hHeader, (Option.some.inj hOwn).symm⟩

/- A message is cut off alike, whatever stands behind it. -/
theorem exists_split_append_take
    {length : UInt32}
    (hLength : Layout.u32.read? bytes = some length)
    (hSize : Header.size ≤ length.toNat)
    (hFits : length.toNat ≤ bytes.length) :
    ∃ message : Framed,
      ∀ beyond n,
        length.toNat ≤ n →
          n ≤ length.toNat + beyond.length →
            Framed.split
                ((bytes.take length.toNat ++ beyond).take n) =
              .ok
                { message with
                  used := min (Bytes.align length.toNat) n } := by
  rcases exists_header_take hLength hFits hSize with
    ⟨header, hHeader, rfl⟩
  have hOwn :
      (bytes.take header.length.toNat).length =
        header.length.toNat :=
    List.length_take_of_le hFits
  refine ⟨⟨header, bytes.take header.length.toNat, 0⟩, ?_⟩
  intro beyond n hWhole hEnd
  apply Framed.split_eq_ok_iff.mpr
  refine ⟨?_, hSize, ?_, ?_, ?_⟩
  · rw [Header.layout.read?_take _
        (Nat.le_trans hSize hWhole),
      Header.layout.read?_append beyond
        (Nat.le_trans hSize (Nat.le_of_eq hOwn.symm))]
    exact hHeader
  · rw [List.length_take, List.length_append, hOwn]
    exact Nat.le_min.mpr ⟨hWhole, Nat.le_add_right _ _⟩
  · rw [List.take_take, Nat.min_eq_left hWhole,
      List.take_left' hOwn]
  · rw [List.length_take, List.length_append, hOwn,
      Nat.min_eq_left hEnd]

/-
  A byte string whose first four bytes declare a length is
  decoded by the bytes up to this length alone.  No part that
  ends before is decoded, and each length of the part has its
  own error.
-/
theorem confined_decode
    {length : UInt32}
    (hLength : Layout.u32.read? bytes = some length) :
    Confined bytes length.toNat := by
  have hHeaderCut :
      ∀ n ≤ bytes.length,
        n < Header.size →
          decode (bytes.take n) =
            .error (.truncated Header.size n) := by
    intro n hFits hShort
    have hTake : (bytes.take n).length = n :=
      List.length_take_of_le hFits
    have hSplit :
        Framed.split (bytes.take n) =
          .error (.truncated Header.size n) := by
      rw [Framed.split_of_headless, hTake]
      rw [hTake]
      exact hShort
    exact decode_of_split_error hSplit
  have hMessageCut :
      ∀ n ≤ bytes.length,
        Header.size ≤ n →
          n < length.toNat →
            decode (bytes.take n) =
              .error (.truncated length.toNat n) := by
    intro n hFits hSize hCut
    rcases exists_header_take hLength hFits hSize with
      ⟨header, hHeader, rfl⟩
    have hTake : (bytes.take n).length = n :=
      List.length_take_of_le hFits
    have hSplit :=
      Framed.split_of_cut hHeader
        (Nat.le_trans hSize (Nat.le_of_lt hCut))
        (by rw [hTake]; exact hCut)
    rw [hTake] at hSplit
    exact decode_of_split_error hSplit
  refine ⟨hHeaderCut, ?_, hMessageCut, ?_, ?_⟩
  · intro n hFits hSize hShort
    rcases exists_header_take hLength hFits hSize with
      ⟨header, hHeader, rfl⟩
    exact decode_of_split_error
      (Framed.split_of_undersized hHeader hShort)
  · intro n hFits hCut
    rcases Nat.lt_or_ge n Header.size with hShort | hSize
    · exact ⟨_, hHeaderCut n hFits hShort⟩
    · exact ⟨_, hMessageCut n hFits hSize hCut⟩
  · intro hSize hFits beyond n hWhole hEnd used part
    rcases exists_split_append_take hLength hSize hFits with
      ⟨message, hSplit⟩
    have hPart := hSplit beyond n hWhole hEnd
    have hAlone := hSplit [] length.toNat (Nat.le_refl _)
      (Nat.le_add_right _ _)
    rw [List.append_nil, List.take_take, Nat.min_self]
      at hAlone
    have hAlign := Bytes.le_align length.toNat
    refine ⟨?_, ?_, ?_, Nat.min_le_right _ _⟩
    · rw [decode_of_split_ok hPart, decode_of_split_ok hAlone]
      change
        (ofFramed message).map _ =
          ((ofFramed message).map _).map _
      cases ofFramed message <;> rfl
    · unfold events
      rw [hPart, hAlone]
      rfl
    · exact Nat.le_min.mpr
        ⟨Nat.le_trans hSize hAlign,
          Nat.le_trans hSize hWhole⟩

/-
  An error without a code stays one even if four more bytes
  follow, and a part of it is only seen to be cut.
-/
theorem confined_decode_corruptReply :
    Layout.u32.read? Exchange.corruptReply = some 18 ∧
      decode (Exchange.corruptReply.take 17) =
        .error (.truncated 18 17) ∧
      decode (Exchange.corruptReply.take 18 ++ [0, 0, 0, 0]) =
        .error (.malformed 16 .errorWithoutCode) := by
  have hLength :
      Layout.u32.read? Exchange.corruptReply = some 18 := by
    cbv
  have hConfined := confined_decode hLength
  have hAlone :
      decode (Exchange.corruptReply.take 18) =
        .error (.malformed 16 .errorWithoutCode) := by
    cbv
  refine ⟨hLength, ?_, ?_⟩
  · exact hConfined.messageCut 17 (by decide) (by decide)
      (by decide)
  · have hLonger :=
      (hConfined.alone (by decide) (by decide) [0, 0, 0, 0]
        22 (by decide) (by decide)).1
    change
      decode (Exchange.corruptReply.take 18 ++ [0, 0, 0, 0]) =
        (decode (Exchange.corruptReply.take 18)).map _
      at hLonger
    rw [hLonger, hAlone]
    rfl

end Response

------------------------------------------------------------
-- The Messages of a Datagram
------------------------------------------------------------

namespace Framing

/- What comes up one after the other in a datagram. -/
def items
    (framing : Framing) : List (Except DecodeError Framed) :=
  framing.messages.map Except.ok
    ++ (framing.fault.map Except.error).toList

/-
  The offset behind messages that start at an offset, each
  padded to the boundary unless the datagram ends before.
-/
def offsetBehind
    (size start : Nat)
    (messages : List Framed) : Nat :=
  messages.foldl
    (fun offset message =>
      min size
        (offset + Bytes.align message.header.length.toNat))
    start

/- Offsets are shifted by what stands in front. -/
theorem offsetBehind_add
    (front size start : Nat)
    (messages : List Framed) :
    offsetBehind (front + size) (front + start) messages =
      front + offsetBehind size start messages := by
  induction messages generalizing start with
  | nil => rfl
  | cons message messages ih =>
      unfold offsetBehind at ih ⊢
      simp only [List.foldl_cons]
      rw [Nat.add_assoc, Nat.add_min_add_left, ih]

/- The other messages start where the first one was left. -/
theorem offsetBehind_cons
    {datagram : Bytes}
    {message : Framed}
    (hSplit : Framed.split datagram = .ok message)
    (messages : List Framed) :
    offsetBehind datagram.length 0 (message :: messages) =
      message.used
        + offsetBehind (datagram.drop message.used).length 0
          messages := by
  have hReach := (Framed.used_pos_of_split hSplit).2
  rcases Framed.split_eq_ok_iff.mp hSplit with
    ⟨-, -, -, -, hUsed⟩
  rw [← offsetBehind_add, List.length_drop,
    Nat.add_sub_cancel' hReach]
  unfold offsetBehind
  rw [List.foldl_cons, Nat.zero_add, Nat.add_zero, hUsed,
    Nat.min_comm]

/-
  Whether messages and a fault are those of a datagram: each
  message is read where the one before it ends, and behind the
  last there is the end of the datagram or no message.
-/
structure Partitions
    (datagram : Bytes)
    (framing : Framing) : Prop where
  message :
    ∀ before message after,
      framing.messages = before ++ message :: after →
        let offset := offsetBehind datagram.length 0 before
        Framed.split (datagram.drop offset) = .ok message ∧
          Header.layout.read? (datagram.drop offset) =
            some message.header ∧
          Header.size ≤ message.header.length.toNat ∧
          offset + message.header.length.toNat ≤
            datagram.length ∧
          message.bytes =
            (datagram.drop offset).take
              message.header.length.toNat
  whole :
    framing.fault = none ↔
      offsetBehind datagram.length 0 framing.messages =
        datagram.length
  broken :
    ∀ fault,
      framing.fault = some fault →
        Framed.split
            (datagram.drop
              (offsetBehind datagram.length 0
                framing.messages)) =
          .error fault
  count :
    framing.items.length ≤ datagram.length / Header.size + 1

theorem partitions_nil : Partitions [] ⟨[], none⟩ where
  message before message after hMessages := by
    cases before <;> cases hMessages
  whole := ⟨fun _ => rfl, fun _ => rfl⟩
  broken := nofun
  count := Nat.zero_le _

theorem partitions_of_split_error
    {datagram : Bytes}
    {fault : DecodeError}
    (hNonempty : datagram ≠ [])
    (hSplit : Framed.split datagram = .error fault) :
    Partitions datagram ⟨[], some fault⟩ where
  message before message after hMessages := by
    cases before <;> cases hMessages
  whole := by
    have hLength := List.length_pos_iff.mpr hNonempty
    constructor
    · nofun
    · intro hReach
      change 0 = datagram.length at hReach
      omega
  broken other hOther := by
    cases hOther
    exact hSplit
  count := Nat.le_add_left _ _

/- A message in front moves all others by what it takes up. -/
theorem Partitions.cons
    {datagram : Bytes}
    {message : Framed}
    {rest : Framing}
    (hSplit : Framed.split datagram = .ok message)
    (hRest : Partitions (datagram.drop message.used) rest) :
    Partitions datagram
      ⟨message :: rest.messages, rest.fault⟩ := by
  have hReach := (Framed.used_pos_of_split hSplit).2
  rcases Framed.split_eq_ok_iff.mp hSplit with
    ⟨hHeader, hSize, hLength, hBytes, hUsed⟩
  have hAlign := Bytes.le_align message.header.length.toNat
  constructor
  · intro before other after hMessages
    cases before with
    | nil =>
        cases hMessages
        refine ⟨hSplit, hHeader, hSize, ?_, hBytes⟩
        change 0 + _ ≤ _
        rw [Nat.zero_add]
        exact hLength
    | cons first before =>
        rcases List.cons_eq_cons.mp hMessages with
          ⟨rfl, hOthers⟩
        rcases hRest.message before other after hOthers with
          ⟨hOther, hOtherHeader, hOtherSize, hFits,
            hOtherBytes⟩
        rw [List.drop_drop] at hOther hOtherHeader hOtherBytes
        rw [List.length_drop] at hFits
        have hShift := offsetBehind_cons hSplit before
        rw [List.length_drop] at hShift
        simp only [List.length_drop, ← hShift]
          at hOther hOtherHeader hOtherBytes hFits
        exact ⟨hOther, hOtherHeader, hOtherSize, by omega,
          hOtherBytes⟩
  · change rest.fault = none ↔ _
    rw [hRest.whole, offsetBehind_cons hSplit, List.length_drop]
    omega
  · intro fault hFault
    have hBroken := hRest.broken fault hFault
    rw [List.drop_drop] at hBroken
    rw [offsetBehind_cons hSplit]
    exact hBroken
  · have hCount := hRest.count
    rw [List.length_drop] at hCount
    simp only [items, List.length_append, List.length_map,
      List.length_cons, Header.size] at hCount hSize ⊢
    omega

/-
  The messages of a datagram partition it, and there are no
  more of them than headers would fit.  Behind messages that
  end on the boundary, those of further bytes follow as if
  they stood alone.
-/
theorem partitions_ofDatagram
    (datagram : Bytes) :
    Partitions datagram (ofDatagram datagram) ∧
      ((ofDatagram datagram).fault = none →
        4 ∣ datagram.length →
          ∀ rest,
            (ofDatagram (datagram ++ rest)).items =
              (ofDatagram datagram).items
                ++ (ofDatagram rest).items) := by
  constructor
  · induction datagram using ofDatagram.induct with
    | case1 =>
        rw [ofDatagram_nil]
        exact partitions_nil
    | case2 datagram hNonempty fault hSplit =>
        rw [ofDatagram_of_split_error hNonempty hSplit]
        exact partitions_of_split_error hNonempty hSplit
    | case3 datagram hNonempty message hSplit ih =>
        rw [ofDatagram_of_split_ok hNonempty hSplit]
        exact ih.cons hSplit
  · intro hFault hAligned rest
    rw [ofDatagram_append_of_isWhole ⟨hFault, hAligned⟩]
    simp [items, hFault]

end Framing

end GatewayRules
