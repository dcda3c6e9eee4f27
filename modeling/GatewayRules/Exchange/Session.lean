import GatewayRules.Exchange.Receive
import GatewayRules.Exchange.Send

/-
  Sessions.  A session numbers its requests, so that the reply
  to each can be told from late replies to earlier ones.

  Key definitions include:
    * `Exchange.request`
    * `Session`
    * `Session.advance`
    * `Session.nextSequence`
-/

namespace GatewayRules

/- Send a request and wait for the reply to it. -/
def Exchange.request
    (config : Config)
    (request : Bytes)
    (channel : Channel) : Outcome Channel Reply :=
  let sequence :=
    match Header.layout.read? request with
    | some header => header.sequence
    | none => 0
  let sent := send config request channel
  match sent.result with
  | .error error => { sent with result := .error error }
  | .ok () =>
      (receive config sequence sent.rest).preceded
        sent.transcript

/-
  The settings, the last sequence number that was given out,
  and the channel.
-/
structure Session where
  config : Config := {}
  sequence : UInt32 := 0
  channel : Channel := {}
deriving DecidableEq

namespace Session

/- The number after a given one.  Zero is left out. -/
def nextSequence (sequence : UInt32) : UInt32 :=
  if sequence + 1 = 0 then 1 else sequence + 1

/- Give out the next sequence number. -/
def advance (session : Session) : Session :=
  { session with sequence := nextSequence session.sequence }

end Session

end GatewayRules
