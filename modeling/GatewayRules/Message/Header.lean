import GatewayRules.Bytes.Layout

/-
  The header in front of every message.

  Key definitions include:
    * `Header`
    * `Header.layout`
    * `MessageType`
    * `MessageFlag`
-/

namespace GatewayRules

/-
  Length of the message with its header, type, flags, sequence
  number of the exchange, and address of the sender.
-/
structure Header where
  length : UInt32
  type : UInt16
  flags : UInt16
  sequence : UInt32
  sender : UInt32
deriving DecidableEq

namespace Header

def layout : Layout Header :=
  (Layout.u32.pair <| Layout.u16.pair <| Layout.u16.pair <|
    Layout.u32.pair Layout.u32).view
    (fun h => (h.length, h.type, h.flags, h.sequence, h.sender))
    (fun (length, type, flags, sequence, sender) =>
      ⟨length, type, flags, sequence, sender⟩)
    (fun _ => rfl)

/- The number of bytes of a header. -/
def size : Nat :=
  16

@[simp]
theorem size_layout : layout.size = size :=
  rfl

end Header

------------------------------------------------------------
-- Numbers of the Protocol
------------------------------------------------------------

namespace MessageType

def error : UInt16 := 2

def done : UInt16 := 3

def newRoute : UInt16 := 24

def deleteRoute : UInt16 := 25

def getRoute : UInt16 := 26

end MessageType

namespace MessageFlag

/- Every request has this flag. -/
def request : UInt16 := 0x1

/- The message is one of several that answer a request. -/
def multipart : UInt16 := 0x2

/- The sender wants to hear of success, too. -/
def acknowledge : UInt16 := 0x4

/- The table changed while it was being dumped. -/
def dumpInterrupted : UInt16 := 0x10

/- The whole table is wanted. -/
def dump : UInt16 := 0x300

/- An existing object is to be replaced. -/
def replace : UInt16 := 0x100

/- An existing object is to be left alone. -/
def exclusive : UInt16 := 0x200

/- A new object may be created. -/
def create : UInt16 := 0x400

end MessageFlag

end GatewayRules
