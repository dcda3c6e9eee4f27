import GatewayRules.Exchange.Channel
import GatewayRules.Message.Framing

/-
  Sending a request.  A call that is interrupted is repeated,
  up to a limit; a datagram goes out as a whole or not at all,
  so that any other count of bytes is an error.

  Key definitions include:
    * `Request.validate`
    * `Exchange.offer`
    * `Exchange.send`
-/

namespace GatewayRules

/- The length that a request declares must be the one it has. -/
def Request.validate
    (request : Bytes) : Except ChannelError Unit :=
  let declared :=
    match Header.layout.read? request with
    | some header => header.length.toNat
    | none => 0
  if declared < Header.size ∨ declared ≠ request.length then
    .error (.badRequestLength declared request.length)
  else
    .ok ()

namespace Exchange

/-
  Offer a request to the channel until it is accepted, after
  the call was interrupted a number of times.
-/
def offer
    (maxRetries : Nat)
    (request : Bytes) :
    (interruptions : Nat) → List SendResult →
      Outcome (List SendResult) Unit
  | _, [] =>
      { result := .ok (),
        rest := [],
        transcript := { offers := [⟨request, .complete⟩] } }
  | _, .complete :: rest =>
      { result := .ok (),
        rest,
        transcript := { offers := [⟨request, .complete⟩] } }
  | _, .sent count :: rest =>
      { result :=
          if count = request.length then
            .ok ()
          else
            .error <| .plain <| .channel <|
              .shortSend count request.length,
        rest,
        transcript := { offers := [⟨request, .sent count⟩] } }
  | interruptions, .failed error :: rest =>
      let offers : List Offer := [⟨request, .failed error⟩]
      let fail (error : ChannelError) :
          Outcome (List SendResult) Unit :=
        { result := .error (.plain (.channel error)),
          rest,
          transcript := { offers } }
      if error.kind? = some .interrupted then
        if maxRetries < interruptions + 1 then
          fail (.interrupted (interruptions + 1))
        else
          (offer maxRetries request (interruptions + 1)
            rest).preceded
            { offers,
              events := [.sendInterrupted (interruptions + 1)] }
      else
        fail (ChannelError.ofSystemError error)

/- What is reported of a request before it is offered. -/
def announcement (request : Bytes) : List Event :=
  let sending :=
    match Header.layout.read? request with
    | some header =>
        [.sending header.type header.sequence request.length]
    | none => []
  sending ++ [.request request]

/- Send a complete request. -/
def send
    (config : Config)
    (request : Bytes)
    (channel : Channel) : Outcome Channel Unit :=
  match Request.validate request with
  | .error error =>
      { result := .error (.plain (.channel error)),
        rest := channel,
        transcript := {} }
  | .ok () =>
      let offered :=
        offer config.maxRetries request 0 channel.sends
      (offered.mapRest fun sends => { channel with sends }).preceded
        { events := announcement request }

end Exchange

end GatewayRules
