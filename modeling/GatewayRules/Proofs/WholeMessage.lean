import GatewayRules.Message.Request

/-
  Whole messages.  A byte string that is one message with its
  padding is taken for that message wherever it stands in a
  datagram, so that a datagram made of such strings is taken
  apart into them again.  What a builder finishes is such a
  string.

  Main declarations:
    * `Framed.split_eq_ok_iff`
    * `Framed.decode_bytes`
    * `Framed.Fills`
    * `Framing.ofDatagram_flatten`
    * `Builder.fills_finish`
-/

------------------------------------------------------------
-- Messages That Were Cut Off
------------------------------------------------------------

namespace GatewayRules

namespace Framed

/-
  A message is cut off exactly when there is a header with a
  length that covers the header and is covered by the bytes.
-/
theorem split_eq_ok_iff
    {bytes : Bytes}
    {message : Framed} :
    split bytes = .ok message ↔
      Header.layout.read? bytes = some message.header ∧
        Header.size ≤ message.header.length.toNat ∧
        message.header.length.toNat ≤ bytes.length ∧
        message.bytes =
          bytes.take message.header.length.toNat ∧
        message.used =
          min (Bytes.align message.header.length.toNat)
            bytes.length := by
  rcases message with ⟨header, content, used⟩
  unfold split
  cases hHeader : Header.layout.read? bytes with
  | none => simp
  | some found =>
      by_cases hShort : found.length.toNat < Header.size
      · simp only [hShort, if_true]
        constructor
        · intro h
          cases h
        · rintro ⟨hFound, hSize, -⟩
          cases hFound
          exact absurd hShort (Nat.not_lt.mpr hSize)
      · by_cases hLong : bytes.length < found.length.toNat
        · simp only [hShort, hLong, if_false, if_true]
          constructor
          · intro h
            cases h
          · rintro ⟨hFound, -, hLength, -⟩
            cases hFound
            exact absurd hLong (Nat.not_lt.mpr hLength)
        · simp only [hShort, hLong, if_false]
          constructor
          · intro h
            cases h
            exact ⟨rfl, Nat.not_lt.mp hShort,
              Nat.not_lt.mp hLong, rfl, rfl⟩
          · rintro ⟨hFound, -, -, hBytes, hUsed⟩
            cases hFound
            rw [hBytes, hUsed]

/- A message that was cut off has the length it declares. -/
theorem length_bytes_of_split
    {bytes : Bytes}
    {message : Framed}
    (h : split bytes = .ok message) :
    message.bytes.length = message.header.length.toNat := by
  rcases split_eq_ok_iff.mp h with ⟨-, -, hLength, hBytes, -⟩
  rw [hBytes, List.length_take]
  exact Nat.min_eq_left hLength

/-
  A message that was cut off is cut off its own bytes, too;
  then there is no padding to step over.
-/
theorem split_bytes_of_split
    {bytes : Bytes}
    {message : Framed}
    (h : split bytes = .ok message) :
    split message.bytes =
      .ok { message with used := message.bytes.length } := by
  have hOwn := length_bytes_of_split h
  rcases split_eq_ok_iff.mp h with
    ⟨hHeader, hSize, hLength, hBytes, -⟩
  apply split_eq_ok_iff.mpr
  refine ⟨?_, hSize, Nat.le_of_eq hOwn.symm, ?_, ?_⟩
  · rw [hBytes, Header.layout.read?_take bytes hSize]
    exact hHeader
  · exact (List.take_of_length_le (Nat.le_of_eq hOwn)).symm
  · have hAlign := Bytes.le_align message.header.length.toNat
    simp only
    omega

/- Decoding the bytes of a message gives its meaning. -/
theorem decode_bytes
    {bytes : Bytes}
    {message : Framed}
    (h : split bytes = .ok message) :
    Response.decode message.bytes =
      (Response.ofFramed message).map
        fun response => (response, message.bytes.length) := by
  unfold Response.decode
  rw [split_bytes_of_split h]
  change
    (Response.ofFramed message >>= fun response =>
      Except.ok (response, message.bytes.length)) = _
  cases Response.ofFramed message <;> rfl

------------------------------------------------------------
-- Whole Messages
------------------------------------------------------------

/-
  Whether a byte string is a message with its padding and
  nothing else, and ends on the boundary.
-/
structure Fills
    (message : Framed)
    (bytes : Bytes) : Prop where
  split : Framed.split bytes = .ok message
  used : message.used = bytes.length
  aligned : 4 ∣ bytes.length

/- A whole message is cut off whatever follows it. -/
theorem Fills.split_append
    {message : Framed}
    {bytes : Bytes}
    (h : message.Fills bytes)
    (rest : Bytes) :
    Framed.split (bytes ++ rest) = .ok message := by
  rcases split_eq_ok_iff.mp h.split with
    ⟨hHeader, hSize, hLength, hBytes, hUsed⟩
  have hWhole := h.used
  have hAligned := h.aligned
  have hUpper :=
    Bytes.align_lt message.header.length.toNat
  have hBoundary :=
    Bytes.dvd_align message.header.length.toNat
  apply split_eq_ok_iff.mpr
  refine ⟨?_, hSize, ?_, ?_, ?_⟩
  · rw [Header.layout.read?_append rest
      (Nat.le_trans hSize hLength)]
    exact hHeader
  · rw [List.length_append]
    omega
  · rw [List.take_append_of_le_length hLength]
    exact hBytes
  · rw [List.length_append]
    omega

theorem Fills.ne_nil
    {message : Framed}
    {bytes : Bytes}
    (h : message.Fills bytes) :
    bytes ≠ [] := by
  intro hEmpty
  rcases split_eq_ok_iff.mp h.split with ⟨-, hSize, hLength, -⟩
  rw [hEmpty, List.length_nil] at hLength
  unfold Header.size at hSize
  omega

end Framed

namespace Framing

/- A whole message in front is the first of a datagram. -/
theorem ofDatagram_append
    {message : Framed}
    {bytes : Bytes}
    (h : message.Fills bytes)
    (rest : Bytes) :
    ofDatagram (bytes ++ rest) =
      ⟨message :: (ofDatagram rest).messages,
        (ofDatagram rest).fault⟩ := by
  have hNonempty : bytes ++ rest ≠ [] := by
    simp [h.ne_nil]
  rw [ofDatagram_of_split_ok hNonempty (h.split_append rest),
    h.used, List.drop_left]

/- A whole message is the only one of its own datagram. -/
theorem ofDatagram_of_fills
    {message : Framed}
    {bytes : Bytes}
    (h : message.Fills bytes) :
    ofDatagram bytes = ⟨[message], none⟩ := by
  have hAlone := ofDatagram_append h []
  rw [List.append_nil, ofDatagram_nil] at hAlone
  exact hAlone

/- Whole messages make up a datagram of just these messages. -/
theorem ofDatagram_flatten
    {units : List Bytes}
    (h : ∀ bytes ∈ units, ∃ message : Framed,
      message.Fills bytes) :
    ofDatagram units.flatten =
      ⟨units.flatMap fun bytes => (ofDatagram bytes).messages,
        none⟩ := by
  induction units with
  | nil => simp
  | cons bytes units ih =>
      rcases h bytes List.mem_cons_self with ⟨message, hFills⟩
      have hRest := ih fun other hOther =>
        h other (List.mem_cons_of_mem _ hOther)
      rw [List.flatten_cons, ofDatagram_append hFills, hRest,
        List.flatMap_cons, ofDatagram_of_fills hFills]
      rfl

end Framing

------------------------------------------------------------
-- Finished Messages
------------------------------------------------------------

namespace Builder

/- The header that a message gets when it is finished. -/
def header (builder : Builder) : Header where
  length := UInt32.ofNat builder.length
  type := builder.type
  flags := builder.flags
  sequence := builder.sequence
  sender := 0

theorem read?_finish (builder : Builder) :
    Header.layout.read? builder.finish =
      some builder.header :=
  Header.layout.read?_write_append _ _

@[simp]
theorem length_finish (builder : Builder) :
    builder.finish.length = builder.length := by
  simp [finish, length]

/- The message that a builder finishes, cut off a datagram. -/
def framed (builder : Builder) : Framed where
  header := builder.header
  bytes := builder.finish
  used := builder.length

/- The length field of a short message is faithful. -/
theorem toNat_header_length
    {builder : Builder}
    (hShort : builder.length < UInt32.size) :
    builder.header.length.toNat = builder.length := by
  change (UInt32.ofNat builder.length).toNat = _
  rw [UInt32.toNat_ofNat']
  exact Nat.mod_eq_of_lt hShort

/-
  A finished message is whole if its body ends on the boundary
  and is short enough for the length field.
-/
theorem fills_finish
    {builder : Builder}
    (hAligned : 4 ∣ builder.body.length)
    (hShort : builder.length < UInt32.size) :
    builder.framed.Fills builder.finish := by
  have hBoundary : 4 ∣ builder.length :=
    Nat.dvd_add (by decide) hAligned
  have hLength := toNat_header_length hShort
  refine ⟨?_, by simp [framed], by simpa using hBoundary⟩
  apply Framed.split_eq_ok_iff.mpr
  simp only [framed, hLength, length_finish,
    Bytes.align_of_dvd hBoundary]
  refine ⟨builder.read?_finish, ?_, Nat.le_refl _, ?_, ?_⟩
  · exact Nat.le_add_right _ _
  · exact (List.take_of_length_le (by simp)).symm
  · exact (Nat.min_self _).symm

/- The body of a finished message starts after the header. -/
theorem drop_finish (builder : Builder) :
    builder.finish.drop Header.size = builder.body :=
  List.drop_left' (by simp)

end Builder

end GatewayRules
