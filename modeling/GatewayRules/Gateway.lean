import GatewayRules.Exchange.Session
import GatewayRules.Message.Request

/-
  The operations of a gateway.  Each is one exchange over a
  session and uses up one sequence number, also when nothing
  comes to be sent.

  Key definitions include:
    * `GatewayOperation`
    * `Performed`
    * `Gateway.perform`
    * `Gateway.performAll`
-/

namespace GatewayRules

/- What a gateway can be asked to do. -/
inductive GatewayOperation where
  | add (rule : Rule) (mode : AddMode)
  | delete (rule : Rule)
  | flush
  | list
deriving DecidableEq

namespace GatewayOperation

/- The request for an operation. -/
def request
    (operation : GatewayOperation)
    (sequence : UInt32) : Except Violation Bytes :=
  match operation with
  | .add rule mode => Request.add rule sequence mode
  | .delete rule => Request.delete rule sequence
  | .flush => .ok (Request.flush sequence)
  | .list => .ok (Request.dump sequence)

/- The entries that the reply to an operation delivers. -/
def entries
    (operation : GatewayOperation)
    (reply : Reply) : List Entry :=
  match operation, reply with
  | .list, .entries entries => entries
  | _, _ => []

/- What is reported of a reply that the operation has no use for. -/
def events
    (operation : GatewayOperation)
    (reply : Reply) : List Event :=
  match operation, reply with
  | .list, _ => []
  | _, .acknowledged => []
  | _, .entries entries => [.unexpectedDump entries.length]

end GatewayOperation

/-
  The result of an operation, with the entries of a list; the
  session as it was left; and what happened.
-/
structure Performed where
  result : Except Error (List Entry)
  session : Session
  transcript : Transcript

namespace Gateway

/- Perform an operation. -/
def perform
    (session : Session)
    (operation : GatewayOperation) : Performed :=
  let session := session.advance
  match operation.request session.sequence with
  | .error violation =>
      { result := .error (.plain (.rule violation)),
        session,
        transcript := {} }
  | .ok request =>
      let outcome :=
        Exchange.request session.config request session.channel
      let session := { session with channel := outcome.rest }
      match outcome.result with
      | .error error =>
          { result := .error error,
            session,
            transcript := outcome.transcript }
      | .ok reply =>
          { result := .ok (operation.entries reply),
            session,
            transcript :=
              outcome.transcript.append
                { events := operation.events reply } }

/- Perform operations one after the other. -/
def performAll
    (session : Session) :
    List GatewayOperation → List Performed
  | [] => []
  | operation :: rest =>
      let performed := perform session operation
      performed :: performAll performed.session rest

end Gateway

end GatewayRules
