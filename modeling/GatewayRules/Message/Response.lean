import GatewayRules.Event
import GatewayRules.Message.Attribute
import GatewayRules.Message.Framing

/-
  The meaning of the messages that the gateway sends.

  Key definitions include:
    * `Draft`
    * `Draft.absorb`
    * `Entry.decode`
    * `Response`
    * `Response.decode`
    * `Response.events`
    * `Response.decodeAll`
-/

namespace GatewayRules

------------------------------------------------------------
-- Entries
------------------------------------------------------------

/- The value that an attribute holds in a given layout. -/
def Attribute.value
    {α : Type}
    (a : Attribute)
    (layout : Layout α) : Except DecodeError α :=
  match layout.read? a.payload with
  | some value => .ok value
  | none => .error (.malformed a.offset .payloadTooShort)

/- The interface that an attribute names. -/
def Attribute.interface
    (a : Attribute) : Except DecodeError Interface.Index := do
  match Interface.Index.make? (← a.value Layout.u32) with
  | some index => .ok index
  | none => .error (.malformed a.offset .zeroInterface)

/- What is known of an entry after some of its attributes. -/
structure Draft where
  source : Option Interface.Index := none
  destination : Option Interface.Index := none
  filter : Option Filter := none
  modification : Modification := {}
  checksum : Option Checksum := none
  hopLimit : Option UInt8 := none
  uid : Option UInt32 := none
  counters : Counters := {}
deriving DecidableEq

namespace Draft

/- The first checksum stays, whatever others follow. -/
def keepChecksum
    (draft : Draft)
    (checksum : Checksum) : Draft :=
  { draft with
    checksum := some (draft.checksum.getD checksum) }

def putFunction
    (draft : Draft)
    (operation : Operation)
    (f : Function) : Draft :=
  { draft with modification := draft.modification.put operation f }

/- Take in an attribute of a known kind. -/
def absorbKnown
    (draft : Draft)
    (a : Attribute) :
    AttributeKind → Except DecodeError Draft
  | .unspecified => .ok draft
  | .modification .classic operation => do
      let (frame, targets) ← a.value Function.classicLayout
      return draft.putFunction operation ⟨targets, .classic frame⟩
  | .modification .fd operation => do
      let (frame, targets) ← a.value Function.fdLayout
      return draft.putFunction operation ⟨targets, .fd frame⟩
  | .xorChecksum => do
      let checksum ← a.value XorChecksum.layout
      return draft.keepChecksum (.xor checksum)
  | .crc8Checksum => do
      let stored ← a.value Crc8Checksum.storedLayout
      return draft.keepChecksum (.crc8 (.ofStored stored))
  | .handled => do
      let handled ← a.value Layout.u32
      return { draft with
        counters := { draft.counters with handled } }
  | .dropped => do
      let dropped ← a.value Layout.u32
      return { draft with
        counters := { draft.counters with dropped } }
  | .deleted => do
      let deleted ← a.value Layout.u32
      return { draft with
        counters := { draft.counters with deleted } }
  | .source => do
      let index ← a.interface
      return { draft with source := some index }
  | .destination => do
      let index ← a.interface
      return { draft with destination := some index }
  | .filter => do
      let filter ← a.value Filter.layout
      return { draft with filter := some filter }
  | .hopLimit => do
      let hops ← a.value Layout.u8
      return { draft with hopLimit := some hops }
  | .uid => do
      let uid ← a.value Layout.u32
      return { draft with uid := some uid }

/-
  Take in an attribute.  Those of unknown kinds, which newer
  gateways may send, are skipped.
-/
def absorb
    (draft : Draft)
    (a : Attribute) : Except DecodeError Draft :=
  match AttributeKind.ofNumber? a.number with
  | none => .ok draft
  | some kind => draft.absorbKnown a kind

/- Take in attributes in order, up to the first error. -/
def absorbAll
    (draft : Draft)
    (attributes : List Attribute) : Except DecodeError Draft :=
  attributes.foldlM absorb draft

/- What is reported of an attribute that was taken in. -/
def reported
    (draft : Draft)
    (a : Attribute) : List Event :=
  match AttributeKind.ofNumber? a.number with
  | none => [.unknownAttribute a.number a.offset]
  | some .xorChecksum | some .crc8Checksum =>
      if draft.checksum.isSome then [.extraChecksum] else []
  | some _ => []

/- What is reported while attributes are taken in. -/
def events
    (draft : Draft) : List Attribute → List Event
  | [] => []
  | a :: rest =>
      match draft.absorb a with
      | .error _ => []
      | .ok next => draft.reported a ++ next.events rest

/- The entry, if both interfaces are known. -/
def finish
    (draft : Draft)
    (flags : RuleFlags)
    (base : Nat) : Except DecodeError Entry :=
  match draft.source, draft.destination with
  | none, _ => .error (.malformed base .missingSource)
  | some _, none => .error (.malformed base .missingDestination)
  | some source, some destination =>
      .ok
        { rule :=
            { source, destination,
              filter := draft.filter,
              modification :=
                if draft.modification.isEmpty then
                  none
                else
                  some draft.modification,
              checksum := draft.checksum,
              flags,
              hopLimit := draft.hopLimit,
              uid := draft.uid },
          counters := draft.counters }

end Draft

namespace Entry

/- Read the gateway header of a body at a given offset. -/
def decodeHeader
    (body : Bytes)
    (base : Nat) : Except DecodeError GatewayHeader :=
  match GatewayHeader.layout.read? body with
  | none => .error (.malformed base .missingGatewayHeader)
  | some header =>
      if header.gatewayType = GatewayHeader.canToCan then
        .ok header
      else
        .error (.malformed base .unsupportedGatewayType)

/- The attributes that follow the gateway header. -/
def walk
    (body : Bytes)
    (base : Nat) : AttributeWalk :=
  AttributeWalk.ofBytes
    (body.drop GatewayHeader.size) (base + GatewayHeader.size)

/-
  Read the body of a rule message.  Of several errors, the one
  that comes first in the message is reported; that something
  is missing is seen only at the end.
-/
def decode
    (body : Bytes)
    (base : Nat) : Except DecodeError Entry := do
  let header ← decodeHeader body base
  let attributes := walk body base
  let draft ← Draft.absorbAll {} attributes.attributes
  match attributes.fault with
  | some fault => .error fault
  | none => draft.finish header.flags base

/- What is reported while the body of a rule message is read. -/
def events
    (body : Bytes)
    (base : Nat) : List Event :=
  match decodeHeader body base with
  | .error _ => []
  | .ok _ => Draft.events {} (walk body base).attributes

end Entry

------------------------------------------------------------
-- Responses
------------------------------------------------------------

/-
  What a message says: an error code, zero for success; one
  entry of a dump; the end of a dump; or nothing that concerns
  the gateway.
-/
inductive Response.Kind where
  | error (code : Int32)
  | entry (entry : Entry)
  | done
  | other (type : UInt16)
deriving DecidableEq

/- A message with what its header says. -/
structure Response where
  sequence : UInt32
  sender : UInt32
  flags : UInt16
  kind : Response.Kind
deriving DecidableEq

namespace Response

/-
  Whether a body is about routes of the gateway.  Routes of
  other address families come in messages of the same type.
-/
def concernsGateway (body : Bytes) : Bool :=
  body.head?.all (· == GatewayHeader.canFamily)

/- The meaning of a body under the type of its message. -/
def decodeBody
    (type : UInt16)
    (body : Bytes) : Except DecodeError Kind :=
  if type = MessageType.error then
    match Layout.i32.read? body with
    | some code => .ok (.error code)
    | none => .error (.malformed Header.size .errorWithoutCode)
  else if type = MessageType.done then
    match Layout.i32.read? body with
    | some code =>
        if code < 0 then .ok (.error code) else .ok .done
    | none => .ok .done
  else if type = MessageType.newRoute ∧ concernsGateway body then
    (Entry.decode body Header.size).map Kind.entry
  else
    .ok (.other type)

/- The meaning of a message that was cut off a datagram. -/
def ofFramed (message : Framed) : Except DecodeError Response := do
  let kind ← decodeBody message.header.type
    (message.bytes.drop Header.size)
  return {
    sequence := message.header.sequence,
    sender := message.header.sender,
    flags := message.header.flags,
    kind }

/-
  The meaning of the message at the front of a byte string,
  and the number of bytes to the next message.
-/
def decode
    (bytes : Bytes) : Except DecodeError (Response × Nat) := do
  let message ← Framed.split bytes
  let response ← ofFramed message
  return (response, message.used)

/- What is reported while a framed message is read. -/
def framedEvents (message : Framed) : List Event :=
  let body := message.bytes.drop Header.size
  if message.header.type = MessageType.newRoute ∧
      concernsGateway body then
    Entry.events body Header.size
  else
    []

/- What is reported while the first message is read. -/
def events (bytes : Bytes) : List Event :=
  match Framed.split bytes with
  | .error _ => []
  | .ok message => framedEvents message

------------------------------------------------------------
-- Datagrams
------------------------------------------------------------

/-
  The responses of framed messages, up to the first that has
  no meaning or up to the fault that ends the messages.
-/
def decodeFramed
    (fault : Option DecodeError) :
    List Framed → List Response × Option DecodeError
  | [] => ([], fault)
  | message :: rest =>
      match decode message.bytes with
      | .error error => ([], some error)
      | .ok (response, _) =>
          let others := decodeFramed fault rest
          (response :: others.1, others.2)

/-
  The responses in a datagram, and the error that keeps the
  rest of it from being read, if there is one.
-/
def decodeAll
    (datagram : Bytes) : List Response × Option DecodeError :=
  let framing := Framing.ofDatagram datagram
  decodeFramed framing.fault framing.messages

end Response

end GatewayRules
