import GatewayRules.Proofs.GatewayRun
import GatewayRules.Proofs.History
import Mathlib

/-
  Where the result of an operation comes from.  Everything
  that an operation returns was said by a message with its own
  number that it received itself, and messages with another
  number make no difference to it.  As the operations of a run
  have different numbers, none of them is answered by a reply
  to another one, however late that comes.

  Main declarations:
    * `Ending.kind?`
    * `RestsOn`
    * `Progress.run_filter_concerns`
    * `Gateway.restsOn_perform`
    * `Gateway.KeptApart`
    * `Gateway.performAll_keptApart`
-/

------------------------------------------------------------
-- Endings That Messages Call For
------------------------------------------------------------

namespace GatewayRules

/- What a message has to say for an exchange to end so. -/
def Ending.kind? : Ending → Option Response.Kind
  | .acknowledged => some (.error 0)
  | .finished => some .done
  | .failed (.kernel refusal) => some (.error refusal.code)
  | .failed _ => none

/- Only one kind of message calls for such an ending. -/
theorem Response.Kind.eq_of_ending?
    {said kind : Response.Kind}
    {ending : Ending}
    (hEnding : said.ending? = some ending)
    (hKind : ending.kind? = some kind) :
    said = kind := by
  cases said with
  | error code =>
      by_cases hCode : code = 0
      · simp only [Response.Kind.ending?, hCode, if_true]
          at hEnding
        cases hEnding
        cases hKind
        rw [hCode]
      · simp only [Response.Kind.ending?, hCode, if_false]
          at hEnding
        cases hEnding
        cases hKind
        rfl
  | done =>
      cases hEnding
      cases hKind
      rfl
  | entry entry => cases hEnding
  | other type => cases hEnding

/- Such an ending is called for by a message that says it. -/
theorem Occurrence.exists_message_of_ending?
    {own : UInt32}
    {maxRetries : Nat}
    {before : List Occurrence}
    {last : Occurrence}
    {ending : Ending}
    {kind : Response.Kind}
    (hEnding :
      last.ending? own maxRetries before = some ending)
    (hKind : ending.kind? = some kind) :
    ∃ message,
      last.message? = some message ∧ message.Says own kind := by
  cases last with
  | expiry =>
      cases hEnding
      cases hKind
  | fault error =>
      cases hEnding
      cases hKind
  | failure error =>
      simp only [ending?] at hEnding
      split at hEnding
      · split at hEnding
        · cases hEnding
          cases hKind
        · cases hEnding
      all_goals
        cases hEnding
        cases hKind
  | message message =>
      refine ⟨message, rfl, ?_⟩
      by_cases hOwn : message.header.sequence = own
      · refine ⟨hOwn, ?_⟩
        cases hMeaning : message.meaning with
        | error error =>
            simp only [ending?, hOwn, hMeaning, if_true]
              at hEnding
            cases hEnding
            cases hKind
        | ok said =>
            rw [ending?_of_own ⟨hOwn, hMeaning⟩] at hEnding
            rw [Response.Kind.eq_of_ending? hEnding hKind]
      · simp [ending?, hOwn] at hEnding

------------------------------------------------------------
-- Results and What They Rest On
------------------------------------------------------------

/- The entries that an error keeps. -/
def Error.entries : Error → List Entry
  | .plain _ => []
  | .partialDump entries _ => entries

/- The entries that a result holds, be it an error or not. -/
def delivered : Except Error (List Entry) → List Entry
  | .ok entries => entries
  | .error error => error.entries

/-
  Whether messages with a number say all that a result does:
  that there was a success, the refusal, and each entry, in
  the order in which they were received.
-/
structure RestsOn
    (own : UInt32)
    (messages : List Framed)
    (result : Except Error (List Entry)) : Prop where
  succeeded :
    ∀ entries, result = .ok entries →
      ∃ message ∈ messages,
        message.Says own (.error 0) ∨ message.Says own .done
  refused :
    ∀ error refusal, result = .error error →
      error.cause = .kernel refusal →
        ∃ message ∈ messages,
          message.Says own (.error refusal.code)
  listed :
    delivered result <+:
      messages.filterMap (Framed.entryOf? own)

/- Other failures without entries need no message. -/
theorem RestsOn.of_plain
    {own : UInt32}
    {cause : Cause}
    (hCause : ∀ refusal, cause ≠ .kernel refusal)
    (messages : List Framed) :
    RestsOn own messages (.error (.plain cause)) := by
  refine ⟨?_, ?_, List.nil_prefix⟩
  · intro entries hResult
    cases hResult
  · intro error refusal hResult hKernel
    cases hResult
    exact absurd hKernel (hCause refusal)

namespace Ending

/- Only an acknowledgement or an end of a dump is a success. -/
theorem kind?_of_result_ok
    {ending : Ending}
    {entries : List Entry}
    {reply : Reply}
    (h : ending.result entries = .ok reply) :
    ending.kind? = some (.error 0) ∨
      ending.kind? = some .done := by
  cases ending with
  | acknowledged => exact Or.inl rfl
  | finished => exact Or.inr rfl
  | failed cause =>
      simp only [result] at h
      split at h <;> cases h

/- A refusal in a result is the one that ended it. -/
theorem kind?_of_result_error
    {ending : Ending}
    {entries : List Entry}
    {error : Error}
    {refusal : KernelError}
    (h : ending.result entries = .error error)
    (hKernel : error.cause = .kernel refusal) :
    ending.kind? = some (.error refusal.code) := by
  cases ending with
  | acknowledged =>
      simp only [result] at h
      split at h <;> cases h
  | finished => cases h
  | failed cause =>
      have hCause : cause = .kernel refusal := by
        simp only [result] at h
        split at h
        · cases h
          exact hKernel
        · cases h
          exact hKernel
      rw [hCause]
      rfl

/- An operation delivers the entries, or none of them. -/
theorem delivered_result
    (ending : Ending)
    (entries : List Entry)
    (operation : GatewayOperation) :
    delivered
        ((ending.result entries).map operation.entries) <+:
      entries := by
  have hReply (reply : Reply) (hEntries :
      reply = .acknowledged ∨ reply = .entries entries) :
      operation.entries reply <+: entries := by
    rcases hEntries with hNone | hAll
    · rw [hNone]
      cases operation <;> exact List.nil_prefix
    · rw [hAll]
      cases operation with
      | list => exact List.prefix_rfl
      | _ => exact List.nil_prefix
  cases ending with
  | finished => exact hReply _ (Or.inr rfl)
  | acknowledged =>
      simp only [result]
      split
      · exact hReply _ (Or.inl rfl)
      · exact hReply _ (Or.inr rfl)
  | failed cause =>
      simp only [result]
      split
      · exact List.nil_prefix
      · exact List.prefix_rfl

/-
  A result rests on any messages that start with those up to
  the occurrence that called for its ending.
-/
theorem restsOn_result
    {own : UInt32}
    {maxRetries : Nat}
    {messages : List Framed}
    {before : List Occurrence}
    {last : Occurrence}
    {ending : Ending}
    (hMet :
      (before ++ [last]).filterMap Occurrence.message? <+:
        messages)
    (hEnding :
      last.ending? own maxRetries before = some ending)
    (operation : GatewayOperation) :
    RestsOn own messages
      ((ending.result
          (before.filterMap (Occurrence.entryOf? own))).map
        operation.entries) := by
  have hSaid (kind : Response.Kind)
      (hKind : ending.kind? = some kind) :
      ∃ message ∈ messages, message.Says own kind := by
    rcases Occurrence.exists_message_of_ending? hEnding hKind with
      ⟨message, hLast, hSays⟩
    refine ⟨message, hMet.subset ?_, hSays⟩
    simp [hLast]
  have hListed :
      before.filterMap (Occurrence.entryOf? own) <+:
        messages.filterMap (Framed.entryOf? own) := by
    rw [Occurrence.filterMap_entryOf?]
    rw [List.filterMap_append] at hMet
    have hBefore := (List.prefix_append _ _).trans hMet
    exact hBefore.filterMap _
  have hDelivered :=
    ending.delivered_result
      (before.filterMap (Occurrence.entryOf? own)) operation
  refine ⟨?_, ?_, hDelivered.trans hListed⟩
  · intro entries hResult
    cases hReply : ending.result
        (before.filterMap (Occurrence.entryOf? own)) with
    | error error =>
        rw [hReply] at hResult
        cases hResult
    | ok reply =>
        rcases kind?_of_result_ok hReply with hKind | hKind
        · rcases hSaid _ hKind with ⟨message, hMember, hSays⟩
          exact ⟨message, hMember, Or.inl hSays⟩
        · rcases hSaid _ hKind with ⟨message, hMember, hSays⟩
          exact ⟨message, hMember, Or.inr hSays⟩
  · intro error refusal hResult hKernel
    cases hReply : ending.result
        (before.filterMap (Occurrence.entryOf? own)) with
    | error cause =>
        rw [hReply] at hResult
        cases hResult
        exact hSaid _ (kind?_of_result_error hReply hKernel)
    | ok reply =>
        rw [hReply] at hResult
        cases hResult

end Ending

------------------------------------------------------------
-- Messages for Others
------------------------------------------------------------

/- Whether an exchange has to do with an occurrence. -/
def Occurrence.concerns
    (own : UInt32) : Occurrence → Bool
  | .message framed => framed.header.sequence = own
  | _ => true

/- Messages with another number can as well be left out. -/
theorem Progress.run_filter_concerns
    {own : UInt32}
    {maxRetries : Nat}
    (progress : Progress)
    (occurrences : List Occurrence) :
    progress.run own maxRetries
        (occurrences.filter (Occurrence.concerns own)) =
      progress.run own maxRetries occurrences := by
  induction occurrences generalizing progress with
  | nil => rfl
  | cons occurrence occurrences ih =>
      cases hConcerns : occurrence.concerns own with
      | true =>
          rw [List.filter_cons_of_pos hConcerns]
          simp only [run]
          cases progress.onOccurrence own maxRetries
              occurrence with
          | decided result => rfl
          | further next => exact ih next
      | false =>
          have hSkip : ¬ occurrence.concerns own = true := by
            rw [hConcerns]
            decide
          rw [List.filter_cons_of_neg hSkip, ih, run]
          cases occurrence with
          | message message =>
              have hOther : message.header.sequence ≠ own := by
                simpa [Occurrence.concerns] using hConcerns
              simp only [onOccurrence,
                onMessage_of_ne progress hOther]
          | fault error => cases hConcerns
          | failure error => cases hConcerns
          | expiry => cases hConcerns

/-
  Two channels that differ only in messages with other numbers
  give the same result.
-/
theorem Exchange.result_receive_of_filter_eq
    {config : Config}
    {own : UInt32}
    {first second : Channel}
    (h :
      (history config first.receives).filter
          (Occurrence.concerns own) =
        (history config second.receives).filter
          (Occurrence.concerns own)) :
    (receive config own first).result =
      (receive config own second).result := by
  have hFirst := run_history config own first
  have hSecond := run_history config own second
  rw [← Progress.run_filter_concerns] at hFirst hSecond
  rw [h, hSecond] at hFirst
  exact (Step.decided.inj hFirst).symm

------------------------------------------------------------
-- Operations Kept Apart
------------------------------------------------------------

namespace Gateway

/-
  Whether an operation keeps to its number: it offers nothing
  but messages with the number; its result rests on what such
  messages say that it took from the channel; and messages
  with other numbers, left out or put in, do not change it.
-/
structure KeptApart
    (own : UInt32)
    (before : Session)
    (operation : GatewayOperation) : Prop where
  offered :
    ∀ offer ∈ (perform before operation).transcript.offers,
      ∃ header,
        Header.layout.read? offer.message = some header ∧
          header.sequence = own
  supported :
    ∃ taken,
      taken ++
            (perform before operation).session.channel.receives =
          before.channel.receives ∧
        RestsOn own
          (taken.flatMap
            (ReceiveResult.messages before.config.capacity))
          (perform before operation).result
  unaffected :
    ∀ receives,
      (Exchange.history before.config receives).filter
          (Occurrence.concerns own) =
        (Exchange.history before.config
            before.channel.receives).filter
          (Occurrence.concerns own) →
      (perform
          { before with
            channel := { before.channel with receives } }
          operation).result =
        (perform before operation).result

/- The messages that an operation offers are its request. -/
theorem offered_perform
    {session : Session}
    {operation : GatewayOperation}
    {offer : Offer}
    (h : offer ∈
      (perform session operation).transcript.offers) :
    operation.request (session.numberOf 0) =
      .ok offer.message := by
  have hCourse := course_perform session operation
  generalize perform session operation = performed
    at hCourse h
  cases hCourse with
  | invalid violation hRequest => cases h
  | unsent request error hRequest hSent =>
      have hOffers :=
        (Exchange.send_spec session.config request
          session.channel).1
      rw [hRequest, hOffers offer h]
  | answered request hRequest hSent =>
      have hOffers :=
        (Exchange.send_spec session.config request
          session.channel).1
      have hSilent :=
        Exchange.offers_receive session.config
          (session.numberOf 0) (sending session request).rest
      have hSending :
          offer ∈ (sending session request).transcript.offers := by
        simpa [Transcript.append, receiving, hSilent] using h
      rw [hRequest, hOffers offer hSending]

/- An operation takes what its result rests on. -/
theorem restsOn_perform
    (session : Session)
    (operation : GatewayOperation) :
    ∃ taken,
      taken ++
            (perform session
              operation).session.channel.receives =
          session.channel.receives ∧
        RestsOn (session.numberOf 0)
          (taken.flatMap
            (ReceiveResult.messages session.config.capacity))
          (perform session operation).result := by
  have hCourse := course_perform session operation
  generalize perform session operation = performed at hCourse ⊢
  cases hCourse with
  | invalid violation hRequest =>
      refine ⟨[], rfl, RestsOn.of_plain ?_ _⟩
      intro refusal hKernel
      cases hKernel
  | unsent request error hRequest hSent =>
      have hReceives :=
        Exchange.receives_send session.config request
          session.channel
      have hFailure :=
        (Exchange.send_spec session.config request
          session.channel).2 error hSent
      rcases hFailure with ⟨cause, rfl⟩
      refine ⟨[], hReceives, RestsOn.of_plain ?_ _⟩
      intro refusal hKernel
      cases hKernel
  | answered request hRequest hSent =>
      rcases Exchange.exists_firstEnding session.config
          (session.numberOf 0) (sending session request).rest
        with
        ⟨used, before, last, ending, hUsed, hMet, hFirst,
          hResult⟩
      have hReceives :=
        Exchange.receives_send session.config request
          session.channel
      refine ⟨used, hUsed.trans hReceives, ?_⟩
      have hRests :=
        ending.restsOn_result hMet hFirst.decided operation
      unfold receiving
      rw [hResult]
      exact hRests

/- Sending does not depend on what there is to receive. -/
theorem sending_of_receives
    (session : Session)
    (receives : List ReceiveResult)
    (request : Bytes) :
    sending
        { session with
          channel := { session.channel with receives } }
        request =
      { sending session request with
        rest :=
          { (sending session request).rest with
            receives } } := by
  unfold sending Exchange.send
  cases Request.validate request <;> rfl

/- Every operation keeps to the number that it is given. -/
theorem keptApart_perform
    (session : Session)
    (operation : GatewayOperation) :
    KeptApart (session.numberOf 0) session operation := by
  refine ⟨?_, restsOn_perform session operation, ?_⟩
  · intro offer hOffer
    exact operation.exists_header (offered_perform hOffer)
  · intro receives hAgree
    have hReceiving (request : Bytes) :
        (receiving
            { session with
              channel := { session.channel with receives } }
            request).result =
          (receiving session request).result := by
      unfold receiving
      rw [sending_of_receives]
      apply Exchange.result_receive_of_filter_eq
      have hReceives :=
        Exchange.receives_send session.config request
          session.channel
      change _ = (Exchange.history session.config
        (Exchange.send session.config request
          session.channel).rest.receives).filter _
      rw [hReceives]
      exact hAgree
    rw [result_perform, result_perform]
    simp only [hReceiving, sending_of_receives]
    rfl

/-
  In a run of fewer operations than there are numbers, each
  operation keeps to a number that no other one has.
-/
theorem performAll_keptApart
    {session : Session}
    {operations : List GatewayOperation}
    {k : Nat}
    {operation : GatewayOperation}
    (hLength : operations.length < Session.period)
    (hOperation : operations[k]? = some operation) :
    (performAll session operations)[k]? =
        some
          (perform (after session (operations.take k))
            operation) ∧
      KeptApart (session.numberOf k)
        (after session (operations.take k)) operation ∧
      ∀ j, j < operations.length →
        session.numberOf j = session.numberOf k → j = k := by
  rcases List.getElem?_eq_some_iff.mp hOperation with
    ⟨hIndex, -⟩
  refine ⟨?_, ?_, ?_⟩
  · rw [getElem?_performAll, hOperation]
    rfl
  · have hNumber :=
      numberOf_after session (operations.take k) 0
    have hTaken : (operations.take k).length + 0 = k := by
      simp only [List.length_take]
      omega
    rw [hTaken] at hNumber
    rw [← hNumber]
    exact keptApart_perform _ operation
  · intro j hOther hSame
    exact
      Session.numberOf_injective
        (Nat.lt_trans hOther hLength)
        (Nat.lt_trans hIndex hLength) hSame

/-
  A session whose first operation times out, and whose second
  one finds the late reply to the first before its own.
-/
def lateReply : Session where
  channel :=
    { receives :=
        [.failed (.ofKind .timedOut),
          .datagram (Answer.error 1 (-17)),
          .datagram (Answer.error 2 0)] }

theorem performAll_keptApart_lateReply :
    (perform (after lateReply [.flush]) .flush).result =
        .ok [] ∧
      (performAll lateReply [.flush, .flush])[1]? =
        some (perform (after lateReply [.flush]) .flush) ∧
      KeptApart (lateReply.numberOf 1)
        (after lateReply [.flush]) .flush ∧
      ∀ j, j < 2 →
        lateReply.numberOf j = lateReply.numberOf 1 →
          j = 1 := by
  refine ⟨by cbv, ?_⟩
  have hLength :
      [GatewayOperation.flush, .flush].length <
        Session.period := by
    decide
  exact performAll_keptApart hLength rfl

end Gateway

end GatewayRules
