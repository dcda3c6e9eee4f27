import GatewayRules.Gateway
import GatewayRules.Proofs.EntryCodec
import GatewayRules.Proofs.RepeatedSends
import Mathlib.Logic.Function.Iterate

/-
  Runs of gateway operations.  Every operation takes the next
  sequence number, whatever became of the ones before it, and
  carries it in its request.  The numbers come back only after
  all others but zero have been given out.

  Main declarations:
    * `Session.numberOf` and `Session.toNat_numberOf`
    * `Session.numberOf_injective`
    * `Exchange.send_spec`
    * `Gateway.Course` and `Gateway.course_perform`
    * `Gateway.result_perform`
    * `Gateway.after`
    * `Gateway.getElem?_performAll`
-/

------------------------------------------------------------
-- Sequence Numbers
------------------------------------------------------------

namespace GatewayRules

namespace Session

/- How many sequence numbers there are: all but zero. -/
def period : Nat :=
  UInt32.size - 1

theorem period_eq : period = 4294967295 :=
  rfl

/- The sequence number of an operation, counted from zero. -/
def numberOf
    (session : Session)
    (k : Nat) : UInt32 :=
  nextSequence^[k + 1] session.sequence

theorem toNat_nextSequence
    (sequence : UInt32) :
    (nextSequence sequence).toNat =
      sequence.toNat % period + 1 := by
  have hBound := sequence.toNat_lt
  have hSum :
      (sequence + 1).toNat =
        (sequence.toNat + 1) % 4294967296 := by
    rw [UInt32.toNat_add]
    rfl
  unfold nextSequence
  rw [period_eq]
  by_cases hWrap : sequence + 1 = 0
  · rw [hWrap] at hSum
    rw [if_pos hWrap]
    change 0 = _ at hSum
    change 1 = _
    omega
  · have hNonzero : (sequence + 1).toNat ≠ 0 := by
      intro hZero
      exact hWrap (UInt32.toNat_inj.mp hZero)
    rw [if_neg hWrap]
    omega

/-
  The numbers run from one up to the largest one, and then
  start again.
-/
theorem toNat_numberOf
    (session : Session)
    (k : Nat) :
    (session.numberOf k).toNat =
      (session.sequence.toNat + k) % period + 1 := by
  unfold numberOf
  induction k with
  | zero => exact toNat_nextSequence session.sequence
  | succ k ih =>
      rw [Function.iterate_succ_apply', toNat_nextSequence, ih,
        period_eq]
      omega

/- Fewer operations than numbers never share a number. -/
theorem numberOf_injective
    {session : Session}
    {j k : Nat}
    (hLeft : j < period)
    (hRight : k < period)
    (h : session.numberOf j = session.numberOf k) :
    j = k := by
  have hNat := congrArg UInt32.toNat h
  rw [toNat_numberOf, toNat_numberOf] at hNat
  rw [period_eq] at hLeft hRight hNat
  omega

end Session

------------------------------------------------------------
-- Requests and Their Numbers
------------------------------------------------------------

/- What is made after a check is made only if it succeeds. -/
theorem Request.eq_of_checked
    {check : Except Violation Unit}
    {bytes request : Bytes}
    (h :
      (do
        check
        return bytes) = Except.ok request) :
    request = bytes := by
  cases check with
  | error violation => cases h
  | ok =>
      cases h
      rfl

/-
  A request is finished by a builder with its number, and its
  length is on the boundary and fits the header.
-/
theorem GatewayOperation.exists_builder
    {operation : GatewayOperation}
    {sequence : UInt32}
    {request : Bytes}
    (h : operation.request sequence = .ok request) :
    ∃ builder : Builder,
      request = builder.finish ∧
        builder.sequence = sequence ∧
        4 ∣ builder.body.length ∧
        builder.length < UInt32.size := by
  have hAbout
      (type flags : UInt16)
      (ruleFlags : RuleFlags)
      {attributes : List (AttributeKind × Bytes)}
      (hPayload : ∀ item ∈ attributes, item.2.length ≤ 282)
      (hCount : attributes.length ≤ 13) :
      ∃ builder : Builder,
        Request.about type flags sequence ruleFlags
            attributes = builder.finish ∧
          builder.sequence = sequence ∧
          4 ∣ builder.body.length ∧
          builder.length < UInt32.size :=
    ⟨_, Request.about_eq_finish _ _ _ _ _, rfl,
      Request.fits_aboutBuilder _ _ _ _ hPayload hCount⟩
  have hCount (rule : Rule) : rule.attributes.length ≤ 13 :=
    Nat.le_trans rule.length_attributes_le (by decide)
  cases operation with
  | add rule mode =>
      rw [Request.eq_of_checked h]
      exact hAbout _ _ _ rule.length_payload_le (hCount rule)
  | delete rule =>
      rw [Request.eq_of_checked h]
      exact hAbout _ _ _ rule.length_payload_le (hCount rule)
  | flush =>
      cases h
      exact hAbout _ _ _ (by simp) (by simp)
  | list =>
      cases h
      refine ⟨_, rfl, rfl, ?_, ?_⟩
      · simp [Builder.start, Builder.setSequence,
          Builder.appendGatewayHeader, Builder.append,
          Bytes.dvd_align]
      · simp [Builder.start, Builder.setSequence,
          Builder.appendGatewayHeader, Builder.append,
          Builder.length, Bytes.align, GatewayHeader.size,
          Header.size, UInt32.size]

/- The header of a request carries the number. -/
theorem GatewayOperation.exists_header
    {operation : GatewayOperation}
    {sequence : UInt32}
    {request : Bytes}
    (h : operation.request sequence = .ok request) :
    ∃ header,
      Header.layout.read? request = some header ∧
        header.sequence = sequence := by
  rcases exists_builder h with ⟨builder, rfl, hSequence, -⟩
  exact ⟨builder.header, builder.read?_finish, hSequence⟩

------------------------------------------------------------
-- Sending
------------------------------------------------------------

namespace Exchange

/- Sending leaves alone what there is to receive. -/
theorem receives_send
    (config : Config)
    (request : Bytes)
    (channel : Channel) :
    (send config request channel).rest.receives =
      channel.receives := by
  unfold send
  cases Request.validate request <;> rfl

/- Only the request is sent, and a failure is a channel's. -/
theorem send_spec
    (config : Config)
    (request : Bytes)
    (channel : Channel) :
    (∀ call ∈ (send config request channel).transcript.offers,
      call.message = request) ∧
      ∀ error,
        (send config request channel).result = .error error →
          ∃ cause, error = .plain (.channel cause) := by
  rcases exists_repeats config.maxRetries request 0
      channel.sends (Nat.zero_le _) with ⟨retries, h⟩
  unfold send
  cases Request.validate request with
  | error error => simp
  | ok =>
      constructor
      · intro call hCall
        change call ∈
          (offer config.maxRetries request 0
            channel.sends).transcript.offers at hCall
        rw [h.offers] at hCall
        exact Offer.message_of_mem_firstOf hCall
      · intro error hError
        rcases h.exists_cause hError with ⟨cause, hCause, -⟩
        exact ⟨cause, hCause⟩

/- Receiving leaves alone how calls to send are going to end. -/
theorem sends_receive
    (config : Config)
    (expected : UInt32)
    (channel : Channel) :
    (receive config expected channel).rest.sends =
      channel.sends := by
  unfold receive
  split
  · rfl
  · rfl

/- Nothing is sent while an answer is received. -/
theorem offers_collect
    (config : Config)
    (expected : UInt32)
    (progress : Progress)
    (receives : List ReceiveResult) :
    (collect config expected progress
      receives).transcript.offers = [] := by
  induction receives generalizing progress with
  | nil => rfl
  | cons first rest ih =>
      cases first with
      | expired => rfl
      | datagram bytes =>
          rw [collect]
          cases progress.onDatagram expected
              (bytes.take config.capacity) with
          | mk step events =>
              cases step with
              | decided result => rfl
              | further next => exact ih next
      | failed error =>
          rw [collect]
          cases error.kind? with
          | none => rfl
          | some kind =>
              cases kind with
              | interrupted =>
                  by_cases hLimit :
                      config.maxRetries <
                        progress.interruptions + 1
                  · simp only [hLimit, if_true]
                  · simp only [hLimit, if_false]
                    exact ih _
              | _ => rfl

theorem offers_receive
    (config : Config)
    (expected : UInt32)
    (channel : Channel) :
    (receive config expected channel).transcript.offers =
      [] := by
  unfold receive
  by_cases hTime : config.timeoutMillis = 0
  · rw [if_pos hTime]
  · rw [if_neg hTime]
    exact offers_collect config expected {} channel.receives

end Exchange

------------------------------------------------------------
-- The Course of an Operation
------------------------------------------------------------

/- What is reported of a reply, if there is one. -/
def GatewayOperation.reported
    (operation : GatewayOperation) :
    Except Error Reply → List Event
  | .ok reply => operation.events reply
  | .error _ => []

namespace Gateway

/- Sending a request over the channel of a session. -/
def sending
    (session : Session)
    (request : Bytes) : Outcome Channel Unit :=
  Exchange.send session.config request session.channel

/- Receiving the answer to a request that was sent. -/
def receiving
    (session : Session)
    (request : Bytes) : Outcome Channel Reply :=
  Exchange.receive session.config (session.numberOf 0)
    (sending session request).rest

/-
  How an operation goes: its rule is not valid, its request is
  not sent, or it gets what is received after its request.
-/
inductive Course
    (session : Session)
    (operation : GatewayOperation) : Performed → Prop where
  | invalid
      (violation : Violation)
      (hRequest :
        operation.request (session.numberOf 0) =
          .error violation) :
      Course session operation
        { result := .error (.plain (.rule violation)),
          session := session.advance,
          transcript := {} }
  | unsent
      (request : Bytes)
      (error : Error)
      (hRequest :
        operation.request (session.numberOf 0) = .ok request)
      (hSent :
        (sending session request).result = .error error) :
      Course session operation
        { result := .error error,
          session :=
            { session.advance with
              channel := (sending session request).rest },
          transcript := (sending session request).transcript }
  | answered
      (request : Bytes)
      (hRequest :
        operation.request (session.numberOf 0) = .ok request)
      (hSent : (sending session request).result = .ok ()) :
      Course session operation
        { result :=
            (receiving session request).result.map
              operation.entries,
          session :=
            { session.advance with
              channel := (receiving session request).rest },
          transcript :=
            ((sending session request).transcript.append
              (receiving session request).transcript).append
                { events :=
                    operation.reported
                      (receiving session request).result } }

/- The exchange of an operation whose request is sent. -/
theorem request_of_sent
    {session : Session}
    {operation : GatewayOperation}
    {request : Bytes}
    (hRequest :
      operation.request (session.numberOf 0) = .ok request)
    (hSent : (sending session request).result = .ok ()) :
    Exchange.request session.config request session.channel =
      (receiving session request).preceded
        (sending session request).transcript := by
  rcases operation.exists_header hRequest with
    ⟨header, hHeader, hSequence⟩
  unfold sending at hSent
  unfold Exchange.request
  simp only [hHeader, hSequence, hSent]
  rfl

theorem request_of_unsent
    {session : Session}
    {request : Bytes}
    {error : Error}
    (hSent :
      (sending session request).result = .error error) :
    Exchange.request session.config request session.channel =
      { result := .error error,
        rest := (sending session request).rest,
        transcript := (sending session request).transcript } := by
  unfold sending at hSent
  unfold Exchange.request
  simp only [hSent]
  rfl

/- A valid operation passes on what becomes of its exchange. -/
theorem perform_of_request
    {session : Session}
    {operation : GatewayOperation}
    {request : Bytes}
    {outcome : Outcome Channel Reply}
    (hRequest :
      operation.request (session.numberOf 0) = .ok request)
    (hOutcome :
      Exchange.request session.config request
        session.channel = outcome) :
    perform session operation =
      { result := outcome.result.map operation.entries,
        session :=
          { session.advance with channel := outcome.rest },
        transcript :=
          outcome.transcript.append
            { events := operation.reported outcome.result } } := by
  have hAdvanced :
      operation.request session.advance.sequence =
        .ok request :=
    hRequest
  have hExchange :
      Exchange.request session.advance.config request
        session.advance.channel = outcome :=
    hOutcome
  simp only [perform, hAdvanced, hExchange]
  cases outcome.result with
  | error error =>
      simp [Except.map, GatewayOperation.reported,
        Transcript.append]
  | ok reply => rfl

/- Every operation takes one of the three courses. -/
theorem course_perform
    (session : Session)
    (operation : GatewayOperation) :
    Course session operation (perform session operation) := by
  cases hRequest : operation.request (session.numberOf 0) with
  | error violation =>
      have hPerform :
          perform session operation =
            { result := .error (.plain (.rule violation)),
              session := session.advance,
              transcript := {} } := by
        change operation.request session.advance.sequence = _
          at hRequest
        simp only [perform, hRequest]
      rw [hPerform]
      exact .invalid violation hRequest
  | ok request =>
      cases hSent : (sending session request).result with
      | error error =>
          have hCourse :=
            Course.unsent request error hRequest hSent
          rw [perform_of_request hRequest
            (request_of_unsent hSent)]
          simpa [Except.map, GatewayOperation.reported,
            Transcript.append] using hCourse
      | ok =>
          rw [perform_of_request hRequest
            (request_of_sent hRequest hSent)]
          exact .answered request hRequest hSent

/- What becomes of an operation, without what it leaves. -/
theorem result_perform
    (session : Session)
    (operation : GatewayOperation) :
    (perform session operation).result =
      match operation.request (session.numberOf 0) with
      | .error violation => .error (.plain (.rule violation))
      | .ok request =>
          match (sending session request).result with
          | .error error => .error error
          | .ok () =>
              (receiving session request).result.map
                operation.entries := by
  have hCourse := course_perform session operation
  generalize perform session operation = performed at hCourse ⊢
  cases hCourse with
  | invalid violation hRequest => rw [hRequest]
  | unsent request error hRequest hSent =>
      rw [hRequest]
      simp only [hSent]
  | answered request hRequest hSent =>
      rw [hRequest]
      simp only [hSent]

/- An operation uses up one number, whatever becomes of it. -/
theorem sequence_perform
    (session : Session)
    (operation : GatewayOperation) :
    (perform session operation).session.sequence =
      Session.nextSequence session.sequence := by
  have hCourse := course_perform session operation
  generalize perform session operation = performed at hCourse ⊢
  cases hCourse with
  | invalid => rfl
  | unsent => rfl
  | answered => rfl

------------------------------------------------------------
-- Runs of Operations
------------------------------------------------------------

/- The session as some operations leave it. -/
def after
    (session : Session)
    (operations : List GatewayOperation) : Session :=
  operations.foldl
    (fun session operation =>
      (perform session operation).session)
    session

/- Each operation of a run starts where the last one ended. -/
theorem getElem?_performAll
    (session : Session)
    (operations : List GatewayOperation)
    (k : Nat) :
    (performAll session operations)[k]? =
      operations[k]?.map
        (perform (after session (operations.take k))) := by
  induction operations generalizing session k with
  | nil => rfl
  | cons operation operations ih =>
      cases k with
      | zero => rfl
      | succ k => exact ih _ k

/- After some operations, as many numbers are used up. -/
theorem sequence_after
    (session : Session)
    (operations : List GatewayOperation) :
    (after session operations).sequence =
      Session.nextSequence^[operations.length]
        session.sequence := by
  induction operations generalizing session with
  | nil => rfl
  | cons operation operations ih =>
      change
        (after (perform session operation).session
          operations).sequence = _
      rw [ih, sequence_perform]
      rfl

/- The numbers go on after some operations. -/
theorem numberOf_after
    (session : Session)
    (operations : List GatewayOperation)
    (k : Nat) :
    (after session operations).numberOf k =
      session.numberOf (operations.length + k) := by
  unfold Session.numberOf
  rw [sequence_after, ← Function.iterate_add_apply]
  congr 1
  omega

end Gateway

end GatewayRules
