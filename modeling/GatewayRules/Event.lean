import GatewayRules.Bytes.Basic
import GatewayRules.Text.Number

/-
  What the library reports while it works.

  Key definitions include:
    * `Level`
    * `Event`
    * `Event.level`
    * `Event.text`
    * `Event.line`
    * `Event.atLeast`
-/

namespace GatewayRules

/- How much a reader may want to know. -/
inductive Level where
  | warn
  | debug
  | trace
deriving DecidableEq

namespace Level

def name : Level → String
  | .warn => "WARN"
  | .debug => "DEBUG"
  | .trace => "TRACE"

/- The most severe level has the lowest rank. -/
def rank : Level → Nat
  | .warn => 0
  | .debug => 1
  | .trace => 2

end Level

/- Something worth reporting. -/
inductive Event where
  | sending (type : UInt16) (sequence : UInt32) (size : Nat)
  | request (message : Bytes)
  | sendInterrupted (retry : Nat)
  | received (datagram : Bytes)
  | receiveInterrupted (retry : Nat)
  | discarding (type : UInt16) (sequence expected : UInt32)
  | ignoring (type : UInt16) (sequence : UInt32)
  | dumpInterrupted
  | unknownAttribute (number : UInt16) (offset : Nat)
  | extraChecksum
  | unexpectedDump (count : Nat)
deriving DecidableEq

namespace Event

def level : Event → Level
  | .sending .. => .debug
  | .request .. => .trace
  | .sendInterrupted .. => .warn
  | .received .. => .trace
  | .receiveInterrupted .. => .warn
  | .discarding .. => .debug
  | .ignoring .. => .debug
  | .dumpInterrupted => .warn
  | .unknownAttribute .. => .trace
  | .extraChecksum => .warn
  | .unexpectedDump .. => .debug

def text : Event → String
  | .sending type sequence size =>
      "Sending netlink request type "
        ++ Number.decimal type.toNat
        ++ " seq " ++ Number.decimal sequence.toNat
        ++ " (" ++ Number.decimal size ++ " bytes)"
  | .request message =>
      "Request: " ++ String.ofList (Hex.bytes .lower message)
  | .sendInterrupted retry =>
      "Netlink send interrupted; retry " ++ Number.decimal retry
  | .received datagram =>
      "Received " ++ Number.decimal datagram.length
        ++ " bytes: " ++ String.ofList (Hex.bytes .lower datagram)
  | .receiveInterrupted retry =>
      "Netlink receive interrupted; retry "
        ++ Number.decimal retry
  | .discarding type sequence expected =>
      "Discarding netlink message type "
        ++ Number.decimal type.toNat
        ++ " with seq " ++ Number.decimal sequence.toNat
        ++ " (expecting " ++ Number.decimal expected.toNat ++ ")"
  | .ignoring type sequence =>
      "Ignoring netlink message type "
        ++ Number.decimal type.toNat
        ++ " seq " ++ Number.decimal sequence.toNat
  | .dumpInterrupted =>
      "Rule dump was interrupted by a change; "
        ++ "it may be inconsistent"
  | .unknownAttribute number offset =>
      "Skipping unknown gateway attribute "
        ++ Number.decimal number.toNat
        ++ " at " ++ Number.decimal offset
  | .extraChecksum =>
      "Rule has more than one checksum; keeping the first"
  | .unexpectedDump count =>
      "Unexpected dump of " ++ Number.decimal count
        ++ " entries in reply"

/- The event on a line of a log. -/
def line (event : Event) : String :=
  event.level.name ++ " " ++ event.text

/- The events that are at least as severe as a level. -/
def atLeast
    (level : Level)
    (events : List Event) : List Event :=
  events.filter fun event => event.level.rank ≤ level.rank

end Event

end GatewayRules
