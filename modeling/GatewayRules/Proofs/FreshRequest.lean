import GatewayRules.Proofs.GatewayRun
import GatewayRules.Proofs.History
import Mathlib

/-
  The requests of a run.  Every operation has a number that no
  other one has had for as long as there are numbers.  A rule
  that is not valid keeps its operation from the channel.  Any
  other operation offers one and the same request until the
  channel takes it or fails, and waits for a reply only after
  the request was taken as a whole.

  Main declarations:
    * `Session.numberOf_ne_of_lt`
    * `GatewayOperation.request_eq_error_iff`
    * `Request.IsComplete`
    * `Exchange.Calls` and `Exchange.send_ends`
    * `Exchange.receive_ne_badRequestLength`
    * `Gateway.Conduct` and `Gateway.conduct_perform`
    * `Gateway.performAll_conduct`
-/

------------------------------------------------------------
-- Numbers That Do Not Come Back
------------------------------------------------------------

namespace GatewayRules

namespace Session

/- A session over a channel before its first operation. -/
def start
    (config : Config)
    (channel : Channel) : Session :=
  { config, channel }

/- A number comes back only after all others. -/
theorem numberOf_ne_of_lt
    {session : Session}
    {j k : Nat}
    (hEarlier : j < k)
    (hNear : k < j + period) :
    session.numberOf j ≠ session.numberOf k := by
  intro hSame
  have hNat := congrArg UInt32.toNat hSame
  rw [toNat_numberOf, toNat_numberOf] at hNat
  rw [period_eq] at hNear hNat
  omega

end Session

------------------------------------------------------------
-- Complete Requests
------------------------------------------------------------

/- The rule that an operation is about, if it is about one. -/
def GatewayOperation.rule? : GatewayOperation → Option Rule
  | .add rule _ => some rule
  | .delete rule => some rule
  | .flush => none
  | .list => none

/- What is made after a check fails with the check alone. -/
theorem Request.checked_eq_error_iff
    {check : Except Violation Unit}
    {bytes : Bytes}
    {violation : Violation} :
    (do
      check
      return bytes) = Except.error violation ↔
      check = .error violation := by
  cases check with
  | error found =>
      constructor
      · intro h
        cases h
        rfl
      · intro h
        cases h
        rfl
  | ok => exact iff_of_false nofun nofun

/- Only a rule that is not valid keeps a request from being made. -/
theorem GatewayOperation.request_eq_error_iff
    {operation : GatewayOperation}
    {sequence : UInt32}
    {violation : Violation} :
    operation.request sequence = .error violation ↔
      ∃ rule,
        operation.rule? = some rule ∧
          rule.validate = .error violation := by
  cases operation with
  | add rule mode =>
      exact Request.checked_eq_error_iff.trans (by simp [rule?])
  | delete rule =>
      exact Request.checked_eq_error_iff.trans (by simp [rule?])
  | flush => simp [request, rule?]
  | list => simp [request, rule?]

/-
  Whether a message has a header with a number, declares the
  length that it has, and ends on the boundary.
-/
structure Request.IsComplete
    (own : UInt32)
    (message : Bytes) : Prop where
  header :
    ∃ header,
      Header.layout.read? message = some header ∧
        header.length.toNat = message.length ∧
        header.sequence = own
  aligned : 4 ∣ message.length

theorem GatewayOperation.isComplete_request
    {operation : GatewayOperation}
    {sequence : UInt32}
    {request : Bytes}
    (h : operation.request sequence = .ok request) :
    Request.IsComplete sequence request := by
  rcases exists_builder h with
    ⟨builder, rfl, hSequence, hAligned, hShort⟩
  refine ⟨⟨builder.header, builder.read?_finish, ?_,
    hSequence⟩, ?_⟩
  · rw [Builder.toNat_header_length hShort,
      Builder.length_finish]
  · rw [Builder.length_finish]
    exact Nat.dvd_add (by decide) hAligned

/- A complete request passes the check before it is sent. -/
theorem Request.IsComplete.validate
    {own : UInt32}
    {message : Bytes}
    (h : IsComplete own message) :
    Request.validate message = .ok () := by
  rcases h.header with ⟨header, hHeader, hLength, -⟩
  have hSize : Header.size ≤ message.length :=
    (Header.layout.read?_isSome_iff message).mp
      (Option.isSome_of_eq_some hHeader)
  unfold Request.validate
  simp only [hHeader, hLength]
  rw [if_neg]
  rintro (hShort | hOther)
  · exact absurd hShort (Nat.not_lt.mpr hSize)
  · exact hOther rfl

------------------------------------------------------------
-- Offering a Request
------------------------------------------------------------

namespace Exchange

/-
  The calls that a request takes: the first ones that the
  channel has.  All but the last were interrupted, and this one
  was only if no other is allowed.
-/
structure Calls
    (maxRetries : Nat)
    (request : Bytes)
    (before after : List SendResult)
    (earlier : List Offer)
    (last : Offer) : Prop where
  first :
    earlier ++ [last] =
      Offer.firstOf request before (earlier.length + 1)
  rest : after = before.drop (earlier.length + 1)
  allowed : earlier.length ≤ maxRetries
  interrupted :
    ∀ offer ∈ earlier, offer.result.isInterruption = true
  spent :
    last.result.isInterruption = true →
      earlier.length = maxRetries

/- The calls of a request that is repeated. -/
theorem Repeats.calls
    {maxRetries retries : Nat}
    {request : Bytes}
    {sends : List SendResult}
    {outcome : Outcome (List SendResult) Unit}
    (h : Repeats maxRetries request 0 sends outcome retries) :
    Calls maxRetries request sends outcome.rest
      (Offer.firstOf request sends retries)
      ⟨request, SendResult.ofCall sends retries⟩ := by
  have hBounded := h.bounded
  constructor
  case first =>
    rw [Offer.length_firstOf]
    exact (Offer.firstOf_succ request sends retries).symm
  case rest =>
    rw [Offer.length_firstOf]
    exact h.rest
  case allowed =>
    rw [Offer.length_firstOf]
    omega
  case interrupted =>
    intro offer hOffer
    rcases Offer.mem_firstOf_iff.mp hOffer with
      ⟨call, hCall, rfl⟩
    exact h.interrupted call hCall
  case spent =>
    intro hLast
    have hSpent := (h.spent hLast).1
    rw [Offer.length_firstOf]
    omega

namespace Calls

variable {maxRetries : Nat} {request : Bytes}
variable {before after : List SendResult}
variable {earlier : List Offer} {last : Offer}

/- All calls are about the one request. -/
theorem same
    (h : Calls maxRetries request before after earlier last) :
    ∀ offer ∈ earlier ++ [last], offer.message = request := by
  rw [h.first]
  intro offer hOffer
  exact Offer.message_of_mem_firstOf hOffer

/- None before the last takes it. -/
theorem notTaken
    (h : Calls maxRetries request before after earlier last) :
    ∀ offer ∈ earlier, ¬ offer.IsWhole := by
  intro offer hOffer hWhole
  have hInterrupted := h.interrupted offer hOffer
  rw [hWhole.isInterruption_eq_false] at hInterrupted
  cases hInterrupted

end Calls

/-
  How sending a complete request ends: the channel gets one
  request until a call is not interrupted, and whether the last
  call takes it as a whole decides if sending succeeds.  The
  length of the request is not to blame.
-/
structure Offered
    (maxRetries : Nat)
    (request : Bytes)
    (channel : Channel)
    (earlier : List Offer)
    (last : Offer)
    (outcome : Outcome Channel Unit) : Prop where
  offers : outcome.transcript.offers = earlier ++ [last]
  calls :
    Calls maxRetries request channel.sends outcome.rest.sends
      earlier last
  silent : outcome.transcript.receiveCalls = 0
  succeeded : outcome.result = .ok () ↔ last.IsWhole
  failed :
    ∀ error, outcome.result = .error error →
      ∃ cause,
        error = .plain (.channel cause) ∧
          ∀ declared actual,
            cause ≠ .badRequestLength declared actual

theorem Offered.same
    {maxRetries : Nat}
    {request : Bytes}
    {channel : Channel}
    {earlier : List Offer}
    {last : Offer}
    {outcome : Outcome Channel Unit}
    (h :
      Offered maxRetries request channel earlier last
        outcome) :
    ∀ offer ∈ outcome.transcript.offers,
      offer.message = request := by
  rw [h.offers]
  exact h.calls.same

/- Sending a complete request is offering it. -/
theorem send_ends
    {own : UInt32}
    {request : Bytes}
    (config : Config)
    (channel : Channel)
    (hComplete : Request.IsComplete own request) :
    ∃ earlier last,
      Offered config.maxRetries request channel earlier last
        (send config request channel) := by
  rcases exists_repeats config.maxRetries request 0
      channel.sends (Nat.zero_le _) with ⟨retries, h⟩
  unfold send
  rw [hComplete.validate]
  refine
    ⟨_, _, ?_, h.calls, ?_, h.result_eq_ok_iff,
      fun error => h.exists_cause⟩
  · exact h.offers.trans (Offer.firstOf_succ _ _ _)
  · exact (Nat.zero_add _).trans h.silent

end Exchange

------------------------------------------------------------
-- Receiving Does Not Blame the Request
------------------------------------------------------------

/- Nothing that is met while receiving is about a request. -/
theorem Occurrence.ending?_ne_badRequestLength
    {own : UInt32}
    {maxRetries : Nat}
    {before : List Occurrence}
    (last : Occurrence)
    (declared actual : Nat) :
    last.ending? own maxRetries before ≠
      some
        (.failed
          (.channel (.badRequestLength declared actual))) := by
  cases last with
  | expiry => simp [ending?]
  | fault error => simp [ending?]
  | failure error =>
      simp only [ending?]
      split <;> simp
  | message message =>
      simp only [ending?]
      cases message.meaning with
      | error error => simp
      | ok kind =>
          cases kind with
          | error code =>
              by_cases hCode : code = 0
              · simp [Response.Kind.ending?, hCode]
              · simp [Response.Kind.ending?, hCode]
          | _ => simp [Response.Kind.ending?]

theorem Exchange.receive_ne_badRequestLength
    {config : Config}
    {own : UInt32}
    {channel : Channel}
    {error : Error}
    (h : (receive config own channel).result = .error error)
    (declared actual : Nat) :
    error.cause ≠
      .channel (.badRequestLength declared actual) := by
  rcases exists_firstEnding config own channel with
    ⟨-, before, last, ending, -, -, hFirst, hResult⟩
  rw [hResult] at h
  intro hCause
  have hEnding :
      ending =
        .failed
          (.channel (.badRequestLength declared actual)) := by
    cases ending with
    | finished => cases h
    | acknowledged =>
        simp only [Ending.result] at h
        split at h <;> cases h
    | failed cause =>
        simp only [Ending.result] at h
        split at h <;> cases h <;> exact congrArg _ hCause
  rw [hEnding] at hFirst
  exact
    Occurrence.ending?_ne_badRequestLength last declared
      actual hFirst.decided

------------------------------------------------------------
-- The Conduct of an Operation
------------------------------------------------------------

namespace Gateway

/-
  What an operation does with its request: it offers the
  request, call by call, until the channel takes it as a whole
  or fails for good, and leaves the channel the other calls.
  Only in the first case does it wait for a reply, and its
  result is then what it receives.
-/
structure Attempt
    (own : UInt32)
    (before : Session)
    (operation : GatewayOperation)
    (request : Bytes)
    (performed : Performed)
    (earlier : List Offer)
    (last : Offer) : Prop where
  offers : performed.transcript.offers = earlier ++ [last]
  calls :
    Exchange.Calls before.config.maxRetries request
      before.channel.sends performed.session.channel.sends
      earlier last
  notTaken : ∀ offer ∈ earlier, ¬ offer.IsWhole
  answered :
    last.IsWhole →
      ∃ channel : Channel,
        channel.receives = before.channel.receives ∧
          performed.result =
            (Exchange.receive before.config own
              channel).result.map operation.entries
  unanswered :
    ¬ last.IsWhole →
      performed.transcript.receiveCalls = 0 ∧
        performed.session.channel.receives =
          before.channel.receives ∧
        ∃ cause, performed.result =
          .error (.plain (.channel cause))

/-
  How an operation has to go: it uses up its number; a rule
  that is not valid is its result, and the channel is left
  alone; otherwise it attempts one complete request with its
  number; and the length of a request is never to blame.
-/
structure Conduct
    (own : UInt32)
    (before : Session)
    (operation : GatewayOperation)
    (performed : Performed) : Prop where
  numbered : performed.session.sequence = own
  refused :
    ∀ rule violation,
      operation.rule? = some rule →
        rule.validate = .error violation →
          performed.result =
              .error (.plain (.rule violation)) ∧
            performed.transcript = {} ∧
            performed.session.channel = before.channel
  requested :
    (∀ rule, operation.rule? = some rule →
        rule.validate = .ok ()) →
      ∃ request earlier last,
        operation.request own = .ok request ∧
          Request.IsComplete own request ∧
          (∀ offer ∈ performed.transcript.offers,
            offer.message = request) ∧
          Attempt own before operation request performed
            earlier last
  blameless :
    ∀ error declared actual,
      performed.result = .error error →
        error.cause ≠
          .channel (.badRequestLength declared actual)

/- A rule that is not valid is all that becomes of it. -/
theorem conduct_of_invalid
    {session : Session}
    {operation : GatewayOperation}
    {violation : Violation}
    (hRequest :
      operation.request (session.numberOf 0) =
        .error violation) :
    Conduct (session.numberOf 0) session operation
      { result := .error (.plain (.rule violation)),
        session := session.advance,
        transcript := {} } := by
  refine ⟨rfl, ?_, ?_, ?_⟩
  · intro rule found hRule hInvalid
    have hFound :
        operation.request (session.numberOf 0) =
          .error found :=
      GatewayOperation.request_eq_error_iff.mpr
        ⟨rule, hRule, hInvalid⟩
    rw [hRequest] at hFound
    cases hFound
    exact ⟨rfl, rfl, rfl⟩
  · intro hValid
    rcases GatewayOperation.request_eq_error_iff.mp hRequest
      with ⟨rule, hRule, hInvalid⟩
    rw [hValid rule hRule] at hInvalid
    cases hInvalid
  · intro error declared actual hError
    cases hError
    exact nofun

/- An operation with a request has no rule that is not valid. -/
theorem valid_of_request
    {operation : GatewayOperation}
    {sequence : UInt32}
    {request : Bytes}
    {rule : Rule}
    {violation : Violation}
    (hRequest : operation.request sequence = .ok request)
    (hRule : operation.rule? = some rule) :
    rule.validate ≠ .error violation := by
  intro hInvalid
  have hError :
      operation.request sequence = .error violation :=
    GatewayOperation.request_eq_error_iff.mpr
      ⟨rule, hRule, hInvalid⟩
  rw [hRequest] at hError
  cases hError

/- An operation starts by offering its request. -/
theorem exists_offered
    {session : Session}
    {operation : GatewayOperation}
    {request : Bytes}
    (hRequest :
      operation.request (session.numberOf 0) = .ok request) :
    ∃ earlier last,
      Exchange.Offered session.config.maxRetries request
        session.channel earlier last
        (sending session request) :=
  Exchange.send_ends _ _
    (GatewayOperation.isComplete_request hRequest)

theorem conduct_of_unsent
    {session : Session}
    {operation : GatewayOperation}
    {request : Bytes}
    {error : Error}
    (hRequest :
      operation.request (session.numberOf 0) = .ok request)
    (hSent :
      (sending session request).result = .error error) :
    Conduct (session.numberOf 0) session operation
      { result := .error error,
        session :=
          { session.advance with
            channel := (sending session request).rest },
        transcript := (sending session request).transcript } := by
  have hComplete :=
    GatewayOperation.isComplete_request hRequest
  rcases exists_offered hRequest with
    ⟨earlier, last, hOffered⟩
  rcases hOffered.failed error hSent with ⟨cause, rfl, hCause⟩
  have hPartial : ¬ last.IsWhole := by
    intro hWhole
    have hDone := hOffered.succeeded.mpr hWhole
    rw [hSent] at hDone
    cases hDone
  refine ⟨rfl, ?_, ?_, ?_⟩
  · intro rule violation hRule hInvalid
    exact absurd hInvalid (valid_of_request hRequest hRule)
  · intro _
    refine
      ⟨request, earlier, last, hRequest, hComplete,
        hOffered.same, hOffered.offers, hOffered.calls,
        hOffered.calls.notTaken, ?_, ?_⟩
    · intro hWhole
      exact absurd hWhole hPartial
    · intro _
      exact
        ⟨hOffered.silent,
          Exchange.receives_send session.config request
            session.channel,
          cause, rfl⟩
  · intro error declared actual hError hBlame
    cases hError
    cases hBlame
    exact hCause declared actual rfl

theorem conduct_of_answered
    {session : Session}
    {operation : GatewayOperation}
    {request : Bytes}
    (hRequest :
      operation.request (session.numberOf 0) = .ok request)
    (hSent : (sending session request).result = .ok ()) :
    Conduct (session.numberOf 0) session operation
      { result :=
          (receiving session request).result.map
            operation.entries,
        session :=
          { session.advance with
            channel := (receiving session request).rest },
        transcript :=
          ((sending session request).transcript.append
            (receiving session request).transcript).append
              { events :=
                  operation.reported
                    (receiving session request).result } } := by
  have hComplete :=
    GatewayOperation.isComplete_request hRequest
  rcases exists_offered hRequest with
    ⟨earlier, last, hOffered⟩
  have hWhole : last.IsWhole := hOffered.succeeded.mp hSent
  have hSilent :
      (receiving session request).transcript.offers = [] :=
    Exchange.offers_receive _ _ _
  have hOffers :
      (((sending session request).transcript.append
          (receiving session request).transcript).append
            { events :=
                operation.reported
                  (receiving session request).result }).offers =
        (sending session request).transcript.offers := by
    simp [Transcript.append, hSilent]
  have hRest :
      (receiving session request).rest.sends =
        (sending session request).rest.sends :=
    Exchange.sends_receive _ _ _
  refine ⟨rfl, ?_, ?_, ?_⟩
  · intro rule violation hRule hInvalid
    exact absurd hInvalid (valid_of_request hRequest hRule)
  · intro _
    refine
      ⟨request, earlier, last, hRequest, hComplete, ?_, ?_, ?_,
        hOffered.calls.notTaken, ?_, ?_⟩
    · rw [hOffers]
      exact hOffered.same
    · rw [hOffers]
      exact hOffered.offers
    · rw [hRest]
      exact hOffered.calls
    · intro _
      exact
        ⟨(sending session request).rest,
          Exchange.receives_send session.config request
            session.channel,
          rfl⟩
    · intro hPartial
      exact absurd hWhole hPartial
  · intro error declared actual hError
    cases hReceived : (receiving session request).result with
    | ok reply =>
        simp only [hReceived] at hError
        cases hError
    | error found =>
        simp only [hReceived] at hError
        cases hError
        exact
          Exchange.receive_ne_badRequestLength hReceived
            declared actual

/- Every operation goes as it has to. -/
theorem conduct_perform
    (session : Session)
    (operation : GatewayOperation) :
    Conduct (session.numberOf 0) session operation
      (perform session operation) := by
  have hCourse := course_perform session operation
  generalize perform session operation = performed at hCourse ⊢
  cases hCourse with
  | invalid violation hRequest =>
      exact conduct_of_invalid hRequest
  | unsent request error hRequest hSent =>
      exact conduct_of_unsent hRequest hSent
  | answered request hRequest hSent =>
      exact conduct_of_answered hRequest hSent

/-
  Every operation of a run goes as it has to, with the number
  that its place in the run gives it, whatever became of those
  before it.  The number is not zero, and no operation that is
  less than a whole period of numbers away has the same.
-/
theorem performAll_conduct
    (config : Config)
    (channel : Channel)
    (earlier later : List GatewayOperation)
    (operation : GatewayOperation) :
    let session := Session.start config channel
    let own := session.numberOf earlier.length
    let before := after session earlier
    (performAll session
          (earlier ++ operation :: later))[earlier.length]? =
        some (perform before operation) ∧
      own.toNat = 1 + earlier.length % (2 ^ 32 - 1) ∧
      (∀ k, k ≠ earlier.length →
        k < earlier.length + (2 ^ 32 - 1) →
          earlier.length < k + (2 ^ 32 - 1) →
            session.numberOf k ≠ own) ∧
      Conduct own before operation
        (perform before operation) := by
  intro session own before
  have hOperation :
      (earlier ++ operation :: later)[earlier.length]? =
        some operation := by
    simp
  have hEarlier :
      (earlier ++ operation :: later).take earlier.length =
        earlier :=
    List.take_left
  refine ⟨?_, ?_, ?_, ?_⟩
  · rw [getElem?_performAll, hOperation, hEarlier]
    rfl
  · rw [Session.toNat_numberOf, Session.period_eq]
    change (0 + earlier.length) % 4294967295 + 1 = _
    omega
  · intro k hOther hBelow hAbove
    rcases Nat.lt_or_gt_of_ne hOther with hLess | hMore
    · exact Session.numberOf_ne_of_lt hLess hAbove
    · exact (Session.numberOf_ne_of_lt hMore hBelow).symm
  · have hNumber : before.numberOf 0 = own :=
      numberOf_after session earlier 0
    rw [← hNumber]
    exact conduct_perform before operation

end Gateway

end GatewayRules
