import GatewayRules.Exchange.Channel
import GatewayRules.Message.Response

/-
  Receiving a reply.  Messages are read in the order of their
  arrival until one of them, or a failed call, decides the
  exchange.  Only the header is trusted of a message with
  another sequence number.

  Key definitions include:
    * `Reply`
    * `Progress`
    * `Progress.onMessage`
    * `Progress.onDatagram`
    * `Exchange.collect`
    * `Exchange.receive`
-/

namespace GatewayRules

/- A reply: success, or the entries of a finished dump. -/
inductive Reply where
  | acknowledged
  | entries (entries : List Entry)
deriving DecidableEq

/-
  How far an exchange has come: the entries that arrived, the
  calls that were interrupted, and whether it was reported
  that the table had changed meanwhile.
-/
structure Progress where
  entries : List Entry := []
  interruptions : Nat := 0
  reportedChange : Bool := false
deriving DecidableEq

/- An exchange after a message: decided, or further along. -/
inductive Step where
  | decided (result : Except Error Reply)
  | further (progress : Progress)

namespace Progress

------------------------------------------------------------
-- Messages
------------------------------------------------------------

/- The exchange fails, with what arrived before. -/
def fail
    (progress : Progress)
    (cause : Cause) : Except Error Reply :=
  .error (Error.after progress.entries cause)

/- The exchange succeeds. -/
def succeed (progress : Progress) : Reply :=
  match progress.entries with
  | [] => .acknowledged
  | _ :: _ => .entries progress.entries

/- Take in what a message for this exchange says. -/
def onKind
    (progress : Progress) : Response.Kind → Step
  | .error code =>
      if code = 0 then
        .decided (.ok progress.succeed)
      else
        .decided (progress.fail (.kernel ⟨code⟩))
  | .entry entry =>
      .further { progress with
        entries := progress.entries ++ [entry] }
  | .done => .decided (.ok (.entries progress.entries))
  | .other _ => .further progress

/- What is reported of a message for this exchange. -/
def reportedOfKind
    (sequence : UInt32) : Response.Kind → List Event
  | .other type => [.ignoring type sequence]
  | _ => []

/-
  Take in a response to the expected request.  That the table
  changed during the dump is reported once.
-/
def onResponse
    (progress : Progress)
    (response : Response) : Step × List Event :=
  let changed :=
    response.flags &&& MessageFlag.dumpInterrupted ≠ 0 ∧
      progress.reportedChange = false
  let progress :=
    { progress with
      reportedChange :=
        progress.reportedChange || decide changed }
  (progress.onKind response.kind,
    (if changed then [.dumpInterrupted] else [])
      ++ reportedOfKind response.sequence response.kind)

/- Take in a message. -/
def onMessage
    (expected : UInt32)
    (progress : Progress)
    (message : Framed) : Step × List Event :=
  let header := message.header
  if header.sequence ≠ expected then
    (.further progress,
      [.discarding header.type header.sequence expected])
  else
    let events := Response.framedEvents message
    match Response.ofFramed message with
    | .error error =>
        (.decided (progress.fail (.decode error)), events)
    | .ok response =>
        let step := progress.onResponse response
        (step.1, events ++ step.2)

------------------------------------------------------------
-- Datagrams
------------------------------------------------------------

/-
  Take in messages until the exchange is decided.  A fault
  after the last of them decides it, too.
-/
def onMessages
    (expected : UInt32)
    (fault : Option DecodeError) :
    Progress → List Framed → Step × List Event
  | progress, [] =>
      match fault with
      | none => (.further progress, [])
      | some error =>
          (.decided (progress.fail (.decode error)), [])
  | progress, message :: rest =>
      match progress.onMessage expected message with
      | (.decided result, events) => (.decided result, events)
      | (.further next, events) =>
          let step := onMessages expected fault next rest
          (step.1, events ++ step.2)

/- Take in a datagram. -/
def onDatagram
    (progress : Progress)
    (expected : UInt32)
    (datagram : Bytes) : Step × List Event :=
  let framing := Framing.ofDatagram datagram
  let step :=
    onMessages expected framing.fault progress framing.messages
  (step.1, .received datagram :: step.2)

end Progress

------------------------------------------------------------
-- Exchanges
------------------------------------------------------------

namespace Exchange

/-
  Receive datagrams until the exchange is decided.  A datagram
  that does not fit the buffer is cut off at its end.  Once
  the time to wait is over, no further call is made.
-/
def collect
    (config : Config)
    (expected : UInt32) :
    Progress → List ReceiveResult →
      Outcome (List ReceiveResult) Reply
  | progress, [] =>
      { result := progress.fail (.channel .timedOut),
        rest := [],
        transcript := { receiveCalls := 1 } }
  | progress, .expired :: rest =>
      { result := progress.fail (.channel .timedOut),
        rest,
        transcript := {} }
  | progress, .failed error :: rest =>
      let fail (error : ChannelError) :
          Outcome (List ReceiveResult) Reply :=
        { result := progress.fail (.channel error),
          rest,
          transcript := { receiveCalls := 1 } }
      match error.kind? with
      | some .interrupted =>
          let interruptions := progress.interruptions + 1
          if config.maxRetries < interruptions then
            fail (.interrupted interruptions)
          else
            (collect config expected
              { progress with interruptions } rest).preceded
              { receiveCalls := 1,
                events := [.receiveInterrupted interruptions] }
      | some .wouldBlock => fail .timedOut
      | some .timedOut => fail .timedOut
      | _ => fail (ChannelError.ofSystemError error)
  | progress, .datagram bytes :: rest =>
      let datagram := bytes.take config.capacity
      match progress.onDatagram expected datagram with
      | (.decided result, events) =>
          { result,
            rest,
            transcript := { receiveCalls := 1, events } }
      | (.further next, events) =>
          (collect config expected next rest).preceded
            { receiveCalls := 1, events }

/-
  Wait for the reply to a request.  Without any time to wait,
  the channel is not even asked.
-/
def receive
    (config : Config)
    (expected : UInt32)
    (channel : Channel) : Outcome Channel Reply :=
  if config.timeoutMillis = 0 then
    { result := .error (.plain (.channel .timedOut)),
      rest := channel,
      transcript := {} }
  else
    (collect config expected {} channel.receives).mapRest
      fun receives => { channel with receives }

end Exchange

end GatewayRules
