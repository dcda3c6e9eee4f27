import GatewayRules.Message.DecodeError
import GatewayRules.Message.Header

/-
  Framing.  A datagram holds one message after the other, each
  padded to a four-byte boundary; only the headers are read to
  take them apart.

  Key definitions include:
    * `Framed`
    * `Framed.split`
    * `Framing`
    * `Framing.ofDatagram`

  Taking a datagram apart ends because of:
    * `Framed.used_pos_of_split`
-/

namespace GatewayRules

------------------------------------------------------------
-- One Message
------------------------------------------------------------

/-
  A message at the front of a byte string: its header, its
  bytes with the header, and the number of bytes to the next
  message.
-/
structure Framed where
  header : Header
  bytes : Bytes
  used : Nat
deriving DecidableEq

namespace Framed

/- Cut the first message off a byte string. -/
def split (bytes : Bytes) : Except DecodeError Framed :=
  match Header.layout.read? bytes with
  | none => .error (.truncated Header.size bytes.length)
  | some header =>
      let length := header.length.toNat
      if length < Header.size then
        .error (.malformed 0 .messageShorterThanHeader)
      else if bytes.length < length then
        .error (.truncated length bytes.length)
      else
        .ok
          { header,
            bytes := bytes.take length,
            used := min (Bytes.align length) bytes.length }

/- A message that was cut off occupies some bytes. -/
theorem used_pos_of_split
    {bytes : Bytes}
    {message : Framed}
    (h : split bytes = .ok message) :
    0 < message.used ∧ message.used ≤ bytes.length := by
  unfold split at h
  cases hHeader : Header.layout.read? bytes with
  | none => simp [hHeader] at h
  | some header =>
      by_cases hShort : header.length.toNat < Header.size
      · simp [hHeader, hShort] at h
      · by_cases hLong : bytes.length < header.length.toNat
        · simp [hHeader, hShort, hLong] at h
        · have hAlign := Bytes.le_align header.length.toNat
          simp only [hHeader, hShort, hLong, if_false] at h
          cases h
          simp only [Header.size] at hShort
          simp only
          omega

end Framed

------------------------------------------------------------
-- All Messages of a Datagram
------------------------------------------------------------

/-
  The messages of a datagram, and the error that keeps the
  rest of it from being read, if there is one.
-/
structure Framing where
  messages : List Framed
  fault : Option DecodeError

namespace Framing

def ofDatagram (datagram : Bytes) : Framing :=
  if datagram = [] then
    ⟨[], none⟩
  else
    match _h : Framed.split datagram with
    | .error fault => ⟨[], some fault⟩
    | .ok message =>
        let rest := ofDatagram (datagram.drop message.used)
        ⟨message :: rest.messages, rest.fault⟩
termination_by datagram.length
decreasing_by
  have := Framed.used_pos_of_split _h
  simp only [List.length_drop]
  omega

@[simp]
theorem ofDatagram_nil : ofDatagram [] = ⟨[], none⟩ := by
  rw [ofDatagram]
  rfl

/- What cannot be cut ends the messages with its error. -/
theorem ofDatagram_of_split_error
    {datagram : Bytes}
    {fault : DecodeError}
    (hNonempty : datagram ≠ [])
    (h : Framed.split datagram = .error fault) :
    ofDatagram datagram = ⟨[], some fault⟩ := by
  rw [ofDatagram]
  simp only [hNonempty, if_false]
  split <;> simp_all

/- A message that was cut off comes before all others. -/
theorem ofDatagram_of_split_ok
    {datagram : Bytes}
    {message : Framed}
    (hNonempty : datagram ≠ [])
    (h : Framed.split datagram = .ok message) :
    ofDatagram datagram =
      ⟨message :: (ofDatagram (datagram.drop message.used)).messages,
        (ofDatagram (datagram.drop message.used)).fault⟩ := by
  rw [ofDatagram]
  simp only [hNonempty, if_false]
  split <;> simp_all

end Framing

end GatewayRules
