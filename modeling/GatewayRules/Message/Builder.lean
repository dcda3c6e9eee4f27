import GatewayRules.Message.Header

/-
  Messages under construction.  The body grows by items that
  are each padded to a four-byte boundary; the length is put
  into the header when the message is finished.

  Key definitions include:
    * `Builder`
    * `Builder.start`
    * `Builder.append`
    * `Builder.appendAttribute`
    * `Builder.finish`
-/

namespace GatewayRules

/- A message without its length. -/
structure Builder where
  type : UInt16
  flags : UInt16
  sequence : UInt32
  body : Bytes

namespace Builder

/- A message with nothing but a header. -/
def start
    (type flags : UInt16) : Builder :=
  { type, flags, sequence := 0, body := [] }

/- The length of the message so far. -/
def length (builder : Builder) : Nat :=
  Header.size + builder.body.length

/- Whether there is nothing but a header. -/
def isEmpty (builder : Builder) : Bool :=
  builder.body.isEmpty

def setSequence
    (builder : Builder)
    (sequence : UInt32) : Builder :=
  { builder with sequence }

/- Add bytes, then zeros up to the boundary. -/
def append
    (builder : Builder)
    (bytes : Bytes) : Builder :=
  { builder with
    body := Bytes.padded (builder.body ++ bytes) }

/-
  Add an attribute: its length with its own header, its type,
  and its payload.  The length field has sixteen bits.
-/
def appendAttribute
    (builder : Builder)
    (type : UInt16)
    (payload : Bytes) : Builder :=
  builder.append
    (Layout.u16.write (UInt16.ofNat (4 + payload.length))
      ++ Layout.u16.write type ++ payload)

/- The bytes of the message. -/
def finish (builder : Builder) : Bytes :=
  Header.layout.write
    { length := UInt32.ofNat builder.length,
      type := builder.type,
      flags := builder.flags,
      sequence := builder.sequence,
      sender := 0 }
    ++ builder.body

end Builder

end GatewayRules
