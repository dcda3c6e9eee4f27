import GatewayRules.Exchange.Send
import Mathlib.Data.List.Basic

/-
  Repeated sends.  A request goes to the channel only if it has
  the length that it declares.  It is then offered once, and
  once more after every interruption, up to a number of times.
  The first call that is not interrupted decides the result,
  and nothing is offered after it.

  Main declarations:
    * `Offer.IsWhole`
    * `SendResult.ofCall`
    * `Request.declaredLength`
    * `Exchange.DecidedBy`
    * `Exchange.Repeats` and `Exchange.exists_repeats`
    * `Exchange.Sends`
    * `Exchange.send_repeated`
-/

------------------------------------------------------------
-- Results of Calls
------------------------------------------------------------

namespace GatewayRules

/- Whether the channel took a message as a whole. -/
def Offer.IsWhole (offer : Offer) : Prop :=
  offer.result = .complete ∨
    offer.result = .sent offer.message.length

theorem ChannelError.ofSystemError_eq
    (error : SystemError) :
    ofSystemError error = .permissionDenied error ∨
      ofSystemError error = .system error := by
  unfold ofSystemError
  split
  · exact Or.inl rfl
  · exact Or.inr rfl

namespace SendResult

/- Whether a call was interrupted. -/
def isInterruption : SendResult → Bool
  | .failed error => error.kind? = some .interrupted
  | _ => false

/- The result of a call; behind the given ones all complete. -/
def ofCall
    (sends : List SendResult)
    (call : Nat) : SendResult :=
  sends[call]?.getD .complete

/- What sending comes to by a call that is not repeated. -/
def verdict
    (size : Nat) : SendResult → Except Error Unit
  | .complete => .ok ()
  | .sent count =>
      if count = size then
        .ok ()
      else
        .error (.plain (.channel (.shortSend count size)))
  | .failed error =>
      .error (.plain (.channel (ChannelError.ofSystemError error)))

variable {request : Bytes} {result : SendResult}

@[simp]
theorem ofCall_cons_zero
    (first : SendResult)
    (rest : List SendResult) :
    ofCall (first :: rest) 0 = first :=
  rfl

theorem verdict_eq_ok_iff :
    result.verdict request.length = .ok () ↔
      Offer.IsWhole ⟨request, result⟩ := by
  cases result with
  | complete => simp [verdict, Offer.IsWhole]
  | failed error => simp [verdict, Offer.IsWhole]
  | sent count =>
      by_cases hCount : count = request.length
      · simp [verdict, Offer.IsWhole, hCount]
      · simp [verdict, Offer.IsWhole, hCount]

theorem verdict_eq_shortSend_iff
    {size count total : Nat} :
    result.verdict size =
        .error (.plain (.channel (.shortSend count total))) ↔
      total = size ∧ count ≠ size ∧ result = .sent count := by
  cases result with
  | complete => simp [verdict]
  | failed error =>
      rcases ChannelError.ofSystemError_eq error with h | h
      · simp [verdict, h]
      · simp [verdict, h]
  | sent other =>
      by_cases hWhole : other = size
      · refine iff_of_false (by simp [verdict, hWhole]) ?_
        rintro ⟨-, hCount, hSent⟩
        cases hSent
        exact hCount hWhole
      · constructor
        · intro h
          simp only [verdict, hWhole, if_false] at h
          cases h
          exact ⟨rfl, hWhole, rfl⟩
        · rintro ⟨rfl, -, hSent⟩
          cases hSent
          exact if_neg hWhole

/- A call does not fail for the length that is declared. -/
theorem exists_cause_of_verdict
    {size : Nat}
    {error : Error}
    (h : result.verdict size = .error error) :
    ∃ cause,
      error = .plain (.channel cause) ∧
        ∀ declared actual,
          cause ≠ .badRequestLength declared actual := by
  cases result with
  | complete => cases h
  | failed found =>
      cases h
      refine ⟨_, rfl, ?_⟩
      rcases ChannelError.ofSystemError_eq found with h | h
      · simp [h]
      · simp [h]
  | sent count =>
      by_cases hCount : count = size
      · simp [verdict, hCount] at h
      · simp only [verdict, hCount, if_false] at h
        cases h
        exact ⟨_, rfl, nofun⟩

/- Only interrupted calls are counted. -/
theorem verdict_ne_interrupted
    (size times : Nat) :
    result.verdict size ≠
      .error (.plain (.channel (.interrupted times))) := by
  cases result with
  | complete => simp [verdict]
  | failed error =>
      rcases ChannelError.ofSystemError_eq error with h | h
      · simp [verdict, h]
      · simp [verdict, h]
  | sent count =>
      by_cases hCount : count = size
      · simp [verdict, hCount]
      · simp [verdict, hCount]

end SendResult

------------------------------------------------------------
-- Offers up to the Last
------------------------------------------------------------

/- The length that the header of a request declares. -/
def Request.declaredLength (request : Bytes) : Nat :=
  match Header.layout.read? request with
  | some header => header.length.toNat
  | none => 0

/- The first calls to send a request. -/
def Offer.firstOf
    (request : Bytes)
    (sends : List SendResult)
    (count : Nat) : List Offer :=
  (List.range count).map fun call =>
    ⟨request, SendResult.ofCall sends call⟩

theorem Offer.length_firstOf
    (request : Bytes)
    (sends : List SendResult)
    (count : Nat) :
    (firstOf request sends count).length = count := by
  unfold firstOf
  rw [List.length_map, List.length_range]

theorem Offer.firstOf_cons
    (request : Bytes)
    (first : SendResult)
    (rest : List SendResult)
    (count : Nat) :
    firstOf request (first :: rest) (count + 1) =
      ⟨request, first⟩ :: firstOf request rest count := by
  unfold firstOf
  rw [List.range_succ_eq_map, List.map_cons, List.map_map]
  rfl

theorem Offer.firstOf_succ
    (request : Bytes)
    (sends : List SendResult)
    (count : Nat) :
    firstOf request sends (count + 1) =
      firstOf request sends count
        ++ [⟨request, SendResult.ofCall sends count⟩] := by
  unfold firstOf
  rw [List.range_succ, List.map_append]
  rfl

theorem Offer.mem_firstOf_iff
    {request : Bytes}
    {sends : List SendResult}
    {count : Nat}
    {offer : Offer} :
    offer ∈ firstOf request sends count ↔
      ∃ call < count,
        ⟨request, SendResult.ofCall sends call⟩ = offer := by
  unfold firstOf
  simp only [List.mem_map, List.mem_range]

theorem Offer.message_of_mem_firstOf
    {request : Bytes}
    {sends : List SendResult}
    {count : Nat}
    {offer : Offer}
    (h : offer ∈ firstOf request sends count) :
    offer.message = request := by
  rcases mem_firstOf_iff.mp h with ⟨_, -, rfl⟩
  rfl

/- An interrupted call takes nothing. -/
theorem Offer.isAccepted_of_isInterruption
    {request : Bytes}
    {result : SendResult}
    (h : result.isInterruption = true) :
    Offer.isAccepted ⟨request, result⟩ = false := by
  cases result with
  | complete => cases h
  | sent count => cases h
  | failed error => rfl

/- A call that takes a message as a whole takes it. -/
theorem Offer.IsWhole.isAccepted
    {offer : Offer}
    (h : offer.IsWhole) :
    offer.isAccepted = true := by
  unfold Offer.isAccepted
  rcases h with hResult | hResult <;> rw [hResult]

/- It is one that was not interrupted. -/
theorem Offer.IsWhole.isInterruption_eq_false
    {request : Bytes}
    {result : SendResult}
    (h : Offer.IsWhole ⟨request, result⟩) :
    result.isInterruption = false := by
  cases result with
  | complete => rfl
  | sent count => rfl
  | failed error => rcases h with h | h <;> cases h

namespace Exchange

/-
  How offering a request ends after it was repeated a number
  of times, when it was interrupted some times before.
-/
structure Repeats
    (maxRetries : Nat)
    (request : Bytes)
    (before : Nat)
    (sends : List SendResult)
    (outcome : Outcome (List SendResult) Unit)
    (retries : Nat) : Prop where
  bounded : before + retries ≤ maxRetries
  interrupted :
    ∀ call < retries,
      (SendResult.ofCall sends call).isInterruption = true
  offers :
    outcome.transcript.offers =
      Offer.firstOf request sends (retries + 1)
  rest : outcome.rest = sends.drop (retries + 1)
  silent : outcome.transcript.receiveCalls = 0
  decided :
    (SendResult.ofCall sends retries).isInterruption = false →
      outcome.result =
        (SendResult.ofCall sends retries).verdict
          request.length
  spent :
    (SendResult.ofCall sends retries).isInterruption = true →
      before + retries = maxRetries ∧
        outcome.result =
          .error
            (.plain
              (.channel (.interrupted (maxRetries + 1))))

variable {maxRetries before retries : Nat} {request : Bytes}
variable {sends : List SendResult}

/- The first call can be the last. -/
theorem Repeats.once
    {first : SendResult}
    {rest : List SendResult}
    {outcome : Outcome (List SendResult) Unit}
    (hBefore : before ≤ maxRetries)
    (hCall : first.isInterruption = false)
    (hOffers : outcome.transcript.offers = [⟨request, first⟩])
    (hRest : outcome.rest = rest)
    (hSilent : outcome.transcript.receiveCalls = 0)
    (hResult :
      outcome.result = first.verdict request.length) :
    Repeats maxRetries request before (first :: rest) outcome
      0 := by
  refine
    ⟨hBefore, nofun, hOffers, hRest, hSilent,
      fun _ => hResult, ?_⟩
  intro hInterrupted
  rw [SendResult.ofCall_cons_zero, hCall] at hInterrupted
  cases hInterrupted

/- An interrupted call is repeated. -/
theorem Repeats.cons
    {error : SystemError}
    {rest : List SendResult}
    {outcome : Outcome (List SendResult) Unit}
    (h :
      Repeats maxRetries request (before + 1) rest outcome
        retries)
    (hKind : error.kind? = some .interrupted)
    (events : List Event) :
    Repeats maxRetries request before (.failed error :: rest)
      (outcome.preceded
        { offers := [⟨request, .failed error⟩], events })
      (retries + 1) := by
  refine ⟨?_, ?_, ?_, h.rest, ?_, h.decided, ?_⟩
  · have := h.bounded
    omega
  · intro call hCall
    cases call with
    | zero => exact decide_eq_true hKind
    | succ call =>
        exact h.interrupted call (Nat.lt_of_succ_lt_succ hCall)
  · rw [Offer.firstOf_cons, ← h.offers]
    rfl
  · exact (Nat.zero_add _).trans h.silent
  · intro hLast
    rcases h.spent hLast with ⟨hSpent, hResult⟩
    exact ⟨by omega, hResult⟩

/- A request is offered until a call is not interrupted. -/
theorem exists_repeats
    (maxRetries : Nat)
    (request : Bytes)
    (before : Nat)
    (sends : List SendResult)
    (hBefore : before ≤ maxRetries) :
    ∃ retries,
      Repeats maxRetries request before sends
        (offer maxRetries request before sends) retries := by
  -- Every interrupted call leaves one less to be repeated.
  induction sends generalizing before with
  | nil =>
      exact
        ⟨0, hBefore, nofun, rfl, rfl, rfl, fun _ => rfl, nofun⟩
  | cons first rest ih =>
      cases first with
      | complete =>
          exact ⟨0, .once hBefore rfl rfl rfl rfl rfl⟩
      | sent count =>
          exact ⟨0, .once hBefore rfl rfl rfl rfl rfl⟩
      | failed error =>
          by_cases hKind : error.kind? = some .interrupted
          · by_cases hLimit : maxRetries < before + 1
            · have hSpent : before = maxRetries := by omega
              simp only [offer, hKind, hLimit, if_true]
              refine ⟨0, hBefore, nofun, rfl, rfl, rfl, ?_, ?_⟩
              · intro hOther
                simp [SendResult.isInterruption, hKind]
                  at hOther
              · intro _
                exact ⟨hSpent, by rw [hSpent]⟩
            · rcases ih (before + 1) (Nat.not_lt.mp hLimit) with
                ⟨retries, hRest⟩
              simp only [offer, hKind, hLimit, if_true,
                if_false]
              exact ⟨retries + 1, hRest.cons hKind _⟩
          · simp only [offer, hKind, if_false]
            exact ⟨0, .once hBefore (decide_eq_false hKind)
              rfl rfl rfl rfl⟩

------------------------------------------------------------
-- The Call That Decides
------------------------------------------------------------

/-
  Whether a call decides what sending comes to: it is allowed,
  and the first that is not interrupted.
-/
structure DecidedBy
    (maxRetries : Nat)
    (sends : List SendResult)
    (call : Nat) : Prop where
  allowed : call ≤ maxRetries
  before :
    ∀ earlier < call,
      (SendResult.ofCall sends earlier).isInterruption = true
  last : (SendResult.ofCall sends call).isInterruption = false

variable {outcome : Outcome (List SendResult) Unit}

/- No call but the last can decide. -/
theorem Repeats.decidedBy_iff
    (h : Repeats maxRetries request 0 sends outcome retries)
    (call : Nat) :
    DecidedBy maxRetries sends call ↔
      call = retries ∧
        (SendResult.ofCall sends retries).isInterruption =
          false := by
  have hBounded := h.bounded
  constructor
  · intro hCall
    have hAllowed := hCall.allowed
    rcases Nat.lt_trichotomy call retries with
      hLess | rfl | hMore
    · have hInterrupted := h.interrupted call hLess
      rw [hCall.last] at hInterrupted
      cases hInterrupted
    · exact ⟨rfl, hCall.last⟩
    · have hSpent := (h.spent (hCall.before retries hMore)).1
      omega
  · rintro ⟨rfl, hLast⟩
    exact ⟨by omega, h.interrupted, hLast⟩

/- Some call decides if the last one does. -/
theorem Repeats.exists_decidedBy_iff
    (h : Repeats maxRetries request 0 sends outcome retries)
    (p : SendResult → Prop) :
    (∃ call,
        DecidedBy maxRetries sends call ∧
          p (SendResult.ofCall sends call)) ↔
      (SendResult.ofCall sends retries).isInterruption =
          false ∧
        p (SendResult.ofCall sends retries) := by
  constructor
  · rintro ⟨call, hCall, hResult⟩
    rcases (h.decidedBy_iff call).mp hCall with ⟨rfl, hLast⟩
    exact ⟨hLast, hResult⟩
  · rintro ⟨hLast, hResult⟩
    exact
      ⟨retries, (h.decidedBy_iff retries).mpr ⟨rfl, hLast⟩,
        hResult⟩

/- All calls are interrupted if the last that is made is. -/
theorem Repeats.forall_interrupted_iff
    (h : Repeats maxRetries request 0 sends outcome retries) :
    (∀ call ≤ maxRetries,
        (SendResult.ofCall sends call).isInterruption = true) ↔
      (SendResult.ofCall sends retries).isInterruption =
        true := by
  have hBounded := h.bounded
  constructor
  · intro hAll
    exact hAll retries (by omega)
  · intro hLast call hCall
    have hSpent := (h.spent hLast).1
    rcases Nat.lt_or_eq_of_le hCall with hLess | rfl
    · exact h.interrupted call (by omega)
    · rwa [← hSpent, Nat.zero_add]

/- The call that decides is what sending comes to. -/
theorem Repeats.result_iff
    {result : Except Error Unit}
    {p : SendResult → Prop}
    (h : Repeats maxRetries request 0 sends outcome retries)
    (hVerdict :
      ∀ last : SendResult,
        last.verdict request.length = result ↔ p last)
    (hSpent :
      ∀ times,
        result ≠
          .error (.plain (.channel (.interrupted times)))) :
    outcome.result = result ↔
      ∃ call,
        DecidedBy maxRetries sends call ∧
          p (SendResult.ofCall sends call) := by
  rw [h.exists_decidedBy_iff]
  cases hLast :
      (SendResult.ofCall sends retries).isInterruption with
  | false => simp [h.decided hLast, hVerdict]
  | true =>
      rw [(h.spent hLast).2]
      exact iff_of_false (hSpent _).symm (by simp)

/- Without one it was interrupted once more than allowed. -/
theorem Repeats.result_eq_interrupted_iff
    (h : Repeats maxRetries request 0 sends outcome retries)
    (times : Nat) :
    outcome.result =
        .error (.plain (.channel (.interrupted times))) ↔
      times = maxRetries + 1 ∧
        ∀ call ≤ maxRetries,
          (SendResult.ofCall sends call).isInterruption =
            true := by
  rw [h.forall_interrupted_iff]
  cases hLast :
      (SendResult.ofCall sends retries).isInterruption with
  | false =>
      rw [h.decided hLast]
      exact iff_of_false
        (SendResult.verdict_ne_interrupted _ times) (by simp)
  | true =>
      rw [(h.spent hLast).2]
      simp [eq_comm]

/- Sending succeeds if the last call takes the request. -/
theorem Repeats.result_eq_ok_iff
    (h :
      Repeats maxRetries request before sends outcome
        retries) :
    outcome.result = .ok () ↔
      Offer.IsWhole
        ⟨request, SendResult.ofCall sends retries⟩ := by
  cases hLast :
      (SendResult.ofCall sends retries).isInterruption with
  | false =>
      rw [h.decided hLast]
      exact SendResult.verdict_eq_ok_iff
  | true =>
      rw [(h.spent hLast).2]
      refine iff_of_false nofun fun hWhole => ?_
      rw [hWhole.isInterruption_eq_false] at hLast
      cases hLast

/- Otherwise the channel is to blame. -/
theorem Repeats.exists_cause
    {error : Error}
    (h :
      Repeats maxRetries request before sends outcome
        retries)
    (hError : outcome.result = .error error) :
    ∃ cause,
      error = .plain (.channel cause) ∧
        ∀ declared actual,
          cause ≠ .badRequestLength declared actual := by
  cases hLast :
      (SendResult.ofCall sends retries).isInterruption with
  | false =>
      rw [h.decided hLast] at hError
      exact SendResult.exists_cause_of_verdict hError
  | true =>
      rw [(h.spent hLast).2] at hError
      cases hError
      exact ⟨_, rfl, nofun⟩

/- A request that went out as a whole did so at the end. -/
theorem Repeats.of_isWhole
    {offer : Offer}
    (h : Repeats maxRetries request 0 sends outcome retries)
    (hOffer : offer ∈ outcome.transcript.offers)
    (hWhole : offer.IsWhole) :
    outcome.result = .ok () ∧
      outcome.transcript.sent = [request] := by
  rw [h.offers] at hOffer
  rcases Offer.mem_firstOf_iff.mp hOffer with
    ⟨call, hCall, rfl⟩
  have hDecisive := hWhole.isInterruption_eq_false
  have hLast : call = retries := by
    by_contra hEarlier
    have hInterrupted := h.interrupted call (by omega)
    rw [hDecisive] at hInterrupted
    cases hInterrupted
  rw [hLast] at hWhole hDecisive
  have hNone :
      (Offer.firstOf request sends retries).filter
        Offer.isAccepted = [] := by
    rw [List.filter_eq_nil_iff]
    intro earlier hEarlier
    rcases Offer.mem_firstOf_iff.mp hEarlier with
      ⟨other, hOther, rfl⟩
    simp [Offer.isAccepted_of_isInterruption
      (h.interrupted other hOther)]
  constructor
  · exact h.result_eq_ok_iff.mpr hWhole
  · unfold Transcript.sent
    rw [h.offers, Offer.firstOf_succ, List.filter_append,
      hNone, List.filter_singleton, hWhole.isAccepted]
    rfl

------------------------------------------------------------
-- Sending a Request
------------------------------------------------------------

/-
  How sending a request of the right length has to go: the
  request is offered again just after interruptions, as often
  as allowed; the call that decides makes it a success, a short
  send or a failure; and without one it was interrupted.  A
  request that went out as a whole did so once.
-/
structure Sends
    (maxRetries : Nat)
    (request : Bytes)
    (channel : Channel)
    (outcome : Outcome Channel Unit) : Prop where
  repeated :
    ∃ retries ≤ maxRetries,
      outcome.transcript.offers =
          Offer.firstOf request channel.sends (retries + 1) ∧
        outcome.rest =
          { channel with
            sends := channel.sends.drop (retries + 1) } ∧
        (∀ call < retries,
          (SendResult.ofCall channel.sends
            call).isInterruption = true) ∧
        ((SendResult.ofCall channel.sends
            retries).isInterruption = true →
          retries = maxRetries)
  succeeded :
    outcome.result = .ok () ↔
      ∃ call,
        DecidedBy maxRetries channel.sends call ∧
          Offer.IsWhole
            ⟨request, SendResult.ofCall channel.sends call⟩
  short :
    ∀ count total,
      outcome.result =
          .error (.plain (.channel (.shortSend count total))) ↔
        total = request.length ∧
          count ≠ request.length ∧
          ∃ call,
            DecidedBy maxRetries channel.sends call ∧
              SendResult.ofCall channel.sends call =
                .sent count
  failed :
    ∀ call error,
      DecidedBy maxRetries channel.sends call →
        SendResult.ofCall channel.sends call =
            .failed error →
          outcome.result =
            .error
              (.plain
                (.channel (ChannelError.ofSystemError error)))
  interrupted :
    ∀ times,
      outcome.result =
          .error (.plain (.channel (.interrupted times))) ↔
        times = maxRetries + 1 ∧
          ∀ call ≤ maxRetries,
            (SendResult.ofCall channel.sends
              call).isInterruption = true
  once :
    (∃ offer ∈ outcome.transcript.offers, offer.IsWhole) →
      outcome.result = .ok () ∧
        outcome.transcript.sent = [request]

/- Offering a request again and again is sending it. -/
theorem sends_of_repeats
    {channel : Channel}
    (h :
      Repeats maxRetries request 0 channel.sends outcome
        retries)
    (events : List Event) :
    Sends maxRetries request channel
      ((outcome.mapRest
          fun sends => { channel with sends }).preceded
        { events }) := by
  refine ⟨?_, ?_, ?_, ?_, h.result_eq_interrupted_iff, ?_⟩
  · have hBounded := h.bounded
    refine ⟨retries, by omega, h.offers, ?_, h.interrupted, ?_⟩
    · rw [← h.rest]
      rfl
    · intro hLast
      have hSpent := (h.spent hLast).1
      omega
  · exact
      h.result_iff (fun _ => SendResult.verdict_eq_ok_iff)
        nofun
  · intro count total
    refine
      (h.result_iff
        (fun _ => SendResult.verdict_eq_shortSend_iff)
        (by simp)).trans ?_
    constructor
    · rintro ⟨call, hCall, hTotal, hCount, hResult⟩
      exact ⟨hTotal, hCount, call, hCall, hResult⟩
    · rintro ⟨hTotal, hCount, call, hCall, hResult⟩
      exact ⟨call, hCall, hTotal, hCount, hResult⟩
  · intro call error hCall hResult
    rcases (h.decidedBy_iff call).mp hCall with ⟨rfl, hLast⟩
    have hDecided := h.decided hLast
    rw [hResult] at hDecided
    exact hDecided
  · rintro ⟨offer, hOffer, hWhole⟩
    exact h.of_isWhole hOffer hWhole

/-
  A request that does not have the length that it declares, or
  declares less than a header, is refused before any call.
  Every other one is sent as it has to be.
-/
theorem send_repeated
    (config : Config)
    (request : Bytes)
    (channel : Channel) :
    let declared := Request.declaredLength request
    let outcome := send config request channel
    (declared < Header.size ∨ declared ≠ request.length →
        outcome.result =
            .error
              (.plain
                (.channel
                  (.badRequestLength declared
                    request.length))) ∧
          outcome.transcript = {} ∧
          outcome.rest = channel) ∧
      (Header.size ≤ declared →
        declared = request.length →
          Sends config.maxRetries request channel outcome) := by
  intro declared outcome
  constructor
  · intro hLength
    have hRefused :
        Request.validate request =
          .error
            (.badRequestLength declared request.length) :=
      if_pos hLength
    simp only [outcome, send, hRefused, and_self]
  · intro hSize hSame
    have hValid : Request.validate request = .ok () :=
      if_neg (by
        rintro (hShort | hOther)
        · exact absurd hShort (Nat.not_lt.mpr hSize)
        · exact hOther hSame)
    rcases exists_repeats config.maxRetries request 0
        channel.sends (Nat.zero_le _) with ⟨retries, h⟩
    simp only [outcome, send, hValid]
    exact sends_of_repeats h _

end Exchange

end GatewayRules
