import GatewayRules.Error
import GatewayRules.Event
import GatewayRules.Message.Header

/-
  The channel to the gateway, seen as the results that its
  calls are going to have.  A channel whose results are used
  up accepts every message and has none to deliver.

  Key definitions include:
    * `SendResult`
    * `ReceiveResult`
    * `Channel`
    * `Config`
    * `Offer`
    * `Transcript`
    * `Transcript.sent`
    * `Outcome`
-/

namespace GatewayRules

------------------------------------------------------------
-- Results of Calls
------------------------------------------------------------

/- How a call to send a message ends. -/
inductive SendResult where
  | complete
  | sent (count : Nat)
  | failed (error : SystemError)
deriving DecidableEq

/-
  How a call to receive a datagram ends, or that the time to
  wait is over before the call, which is then not made.
-/
inductive ReceiveResult where
  | datagram (bytes : Bytes)
  | failed (error : SystemError)
  | expired
deriving DecidableEq

/- The results of the calls to come. -/
structure Channel where
  sends : List SendResult := []
  receives : List ReceiveResult := []
deriving DecidableEq

------------------------------------------------------------
-- Settings
------------------------------------------------------------

/-
  How long to wait for a reply, how many interrupted calls in
  one exchange to repeat, and how large a datagram to expect.
-/
structure Config where
  timeoutMillis : Nat := 1000
  maxRetries : Nat := 3
  bufferSize : Nat := 32768
deriving DecidableEq

/- The receive buffer always has room for a header. -/
def Config.capacity (config : Config) : Nat :=
  max config.bufferSize Header.size

------------------------------------------------------------
-- What Happened
------------------------------------------------------------

/- A call to send a message, and how it ended. -/
structure Offer where
  message : Bytes
  result : SendResult
deriving DecidableEq

/- Whether the channel took the message, or a part of it. -/
def Offer.isAccepted (offer : Offer) : Bool :=
  match offer.result with
  | .complete => true
  | .sent _ => true
  | .failed _ => false

/-
  What an exchange did to the channel: the messages that it
  offered, the calls to receive an answer, and what was
  reported.
-/
structure Transcript where
  offers : List Offer := []
  receiveCalls : Nat := 0
  events : List Event := []
deriving DecidableEq

namespace Transcript

/- One transcript after the other. -/
def append
    (first second : Transcript) : Transcript where
  offers := first.offers ++ second.offers
  receiveCalls := first.receiveCalls + second.receiveCalls
  events := first.events ++ second.events

/- The number of calls to send a message. -/
def sendCalls (transcript : Transcript) : Nat :=
  transcript.offers.length

/- The messages that the channel took. -/
def sent (transcript : Transcript) : List Bytes :=
  (transcript.offers.filter Offer.isAccepted).map Offer.message

@[simp]
theorem sent_append
    (first second : Transcript) :
    (first.append second).sent = first.sent ++ second.sent := by
  simp [sent, append]

end Transcript

/-
  The result of an exchange, what it left of the channel, and
  what happened.
-/
structure Outcome (σ α : Type) where
  result : Except Error α
  rest : σ
  transcript : Transcript

namespace Outcome

variable {σ τ α : Type}

/- The same outcome with more that happened before it. -/
def preceded
    (outcome : Outcome σ α)
    (transcript : Transcript) : Outcome σ α :=
  { outcome with
    transcript := transcript.append outcome.transcript }

/- The same outcome for more of the channel. -/
def mapRest
    (f : σ → τ)
    (outcome : Outcome σ α) : Outcome τ α :=
  { outcome with rest := f outcome.rest }

end Outcome

end GatewayRules
