import GatewayRules.Proofs.MessageBoundaries

/-
  Ways to read a datagram.  The responses in a datagram can be
  had by taking it apart into messages and reading each of
  them, or by reading one response after the other where the
  last one ended.  Whatever the bytes are, both give the same
  responses, and the same error in the same place.

  Main declarations:
    * `Response.items`
    * `Response.inPlace`
    * `upToError` and `Framed.response`
    * `Response.items_inPlace`
    * `Response.items_eachWay`
-/

------------------------------------------------------------
-- What Is Read of a Datagram
------------------------------------------------------------

namespace GatewayRules

namespace Response

/- What comes up one after the other in a datagram. -/
def items
    (datagram : Bytes) : List (Except DecodeError Response) :=
  (decodeAll datagram).1.map Except.ok
    ++ ((decodeAll datagram).2.map Except.error).toList

@[simp]
theorem items_nil : items [] = [] := by
  simp [items, decodeAll, decodeFramed]

end Response

/- Items up to the first error, which is the last of them. -/
def upToError
    {ε α : Type} : List (Except ε α) → List (Except ε α)
  | [] => []
  | .error error :: _ => [.error error]
  | .ok a :: rest => .ok a :: upToError rest

/- The response that the bytes of a message are decoded to. -/
def Framed.response
    (message : Framed) : Except DecodeError Response :=
  (Response.decode message.bytes).map Prod.fst

------------------------------------------------------------
-- Reading in Place
------------------------------------------------------------

namespace Response

/- A response that was decoded occupies some bytes. -/
theorem used_pos_of_decode
    {bytes : Bytes}
    {response : Response}
    {used : Nat}
    (h : decode bytes = .ok (response, used)) :
    0 < used ∧ used ≤ bytes.length := by
  cases hSplit : Framed.split bytes with
  | error error =>
      rw [decode_of_split_error hSplit] at h
      cases h
  | ok message =>
      rw [decode_of_split_ok hSplit] at h
      cases hResponse : ofFramed message with
      | error error =>
          rw [hResponse] at h
          cases h
      | ok found =>
          rw [hResponse] at h
          cases h
          exact Framed.used_pos_of_split hSplit

/-
  Decode the response at the front, step over the bytes that
  it is said to occupy, and go on with the rest.  This ends
  when no bytes are left, or with the first error.
-/
def inPlace
    (bytes : Bytes) : List (Except DecodeError Response) :=
  if bytes = [] then
    []
  else
    match _h : decode bytes with
    | .error error => [.error error]
    | .ok (response, used) =>
        .ok response :: inPlace (bytes.drop used)
termination_by bytes.length
decreasing_by
  have := used_pos_of_decode _h
  simp only [List.length_drop]
  omega

variable {bytes : Bytes}

@[simp]
theorem inPlace_nil : inPlace [] = [] := by
  rw [inPlace]
  rfl

theorem inPlace_of_decode_error
    {error : DecodeError}
    (hNonempty : bytes ≠ [])
    (hDecode : decode bytes = .error error) :
    inPlace bytes = [.error error] := by
  rw [inPlace]
  simp only [hNonempty, if_false]
  split <;> simp_all

theorem inPlace_of_decode_ok
    {response : Response}
    {used : Nat}
    (hNonempty : bytes ≠ [])
    (hDecode : decode bytes = .ok (response, used)) :
    inPlace bytes =
      .ok response :: inPlace (bytes.drop used) := by
  rw [inPlace]
  simp only [hNonempty, if_false]
  split <;> simp_all

------------------------------------------------------------
-- One Message in Front of the Others
------------------------------------------------------------

variable {message : Framed}

theorem items_of_split_error
    {error : DecodeError}
    (hNonempty : bytes ≠ [])
    (hSplit : Framed.split bytes = .error error) :
    items bytes = [.error error] := by
  unfold items decodeAll
  rw [Framing.ofDatagram_of_split_error hNonempty hSplit]
  rfl

/- A message without a meaning hides all that follow it. -/
theorem items_of_ofFramed_error
    {error : DecodeError}
    (hNonempty : bytes ≠ [])
    (hSplit : Framed.split bytes = .ok message)
    (hResponse : ofFramed message = .error error) :
    items bytes = [.error error] := by
  have hDecode : decode message.bytes = .error error := by
    rw [Framed.decode_bytes hSplit, hResponse]
    rfl
  unfold items decodeAll
  rw [Framing.ofDatagram_of_split_ok hNonempty hSplit]
  simp [decodeFramed, hDecode]

theorem items_of_ofFramed_ok
    {response : Response}
    (hNonempty : bytes ≠ [])
    (hSplit : Framed.split bytes = .ok message)
    (hResponse : ofFramed message = .ok response) :
    items bytes =
      .ok response :: items (bytes.drop message.used) := by
  have hDecode :
      decode message.bytes =
        .ok (response, message.bytes.length) := by
    rw [Framed.decode_bytes hSplit, hResponse]
    rfl
  unfold items decodeAll
  rw [Framing.ofDatagram_of_split_ok hNonempty hSplit]
  simp [decodeFramed, hDecode]

/-
  Decoding looks at nothing behind the message in front, and
  steps over just as much as cutting the message off does.
-/
theorem items_inPlace
    (datagram : Bytes) :
    items datagram = inPlace datagram := by
  induction datagram using Framing.ofDatagram.induct with
  | case1 => rw [items_nil, inPlace_nil]
  | case2 bytes hNonempty error hSplit =>
      rw [items_of_split_error hNonempty hSplit,
        inPlace_of_decode_error hNonempty
          (decode_of_split_error hSplit)]
  | case3 bytes hNonempty message hSplit ih =>
      have hDecode := decode_of_split_ok hSplit
      cases hResponse : ofFramed message with
      | error error =>
          rw [hResponse] at hDecode
          rw [items_of_ofFramed_error hNonempty hSplit
              hResponse,
            inPlace_of_decode_error hNonempty hDecode]
      | ok response =>
          rw [hResponse] at hDecode
          rw [items_of_ofFramed_ok hNonempty hSplit hResponse,
            inPlace_of_decode_ok hNonempty hDecode, ih]

------------------------------------------------------------
-- Reading Message by Message
------------------------------------------------------------

/- Reading stops at a message without a meaning, or at the end. -/
theorem items_decodeFramed
    (fault : Option DecodeError)
    (messages : List Framed) :
    (decodeFramed fault messages).1.map Except.ok
        ++ ((decodeFramed fault messages).2.map
          Except.error).toList =
      upToError
        (messages.map Framed.response
          ++ (fault.map Except.error).toList) := by
  induction messages with
  | nil => cases fault <;> rfl
  | cons message messages ih =>
      cases hDecode : decode message.bytes with
      | error error =>
          simp [decodeFramed, Framed.response, hDecode,
            Except.map, upToError]
      | ok decoded =>
          simpa [decodeFramed, Framed.response, hDecode,
            Except.map, upToError] using ih

/-
  The responses in a datagram are those that are read in place,
  and those of its messages, up to the first error in framing
  or decoding.
-/
theorem items_eachWay
    (datagram : Bytes) :
    items datagram = inPlace datagram ∧
      items datagram =
        upToError
          ((Framing.ofDatagram datagram).items.map
            fun item => item.bind Framed.response) := by
  refine ⟨items_inPlace datagram, ?_⟩
  have hRead :
      ((Framing.ofDatagram datagram).items.map
          fun item => item.bind Framed.response) =
        (Framing.ofDatagram datagram).messages.map
            Framed.response
          ++ ((Framing.ofDatagram datagram).fault.map
            Except.error).toList := by
    unfold Framing.items
    rw [List.map_append, List.map_map]
    cases (Framing.ofDatagram datagram).fault <;> rfl
  rw [hRead]
  exact items_decodeFramed _ _

end Response

end GatewayRules
