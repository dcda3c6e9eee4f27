import GatewayRules.Proofs.History

/-
  What is reported while an exchange waits for a reply.  Each
  datagram and each message that it meets is accounted for, in
  the order of their arrival, up to what ends the exchange: a
  datagram by a line with its bytes, a message for somebody
  else or about something else by a line of its kind, an entry
  by being returned, and a repeated call by a number.  That
  the table has changed is reported once.

  Main declarations:
    * `Event.Topic` and `Event.about`
    * `Occurrence.lines`
    * `Arrival`, `Arrival.log`, and `Exchange.allArrivals`
    * `Progress.observe` and `Progress.Recalls`
    * `Progress.onArrival_of_recalls`
    * `Progress.observe_reached`
    * `Exchange.observe_receive`
    * `Exchange.Accounts`
    * `Exchange.exists_logged`
    * `Exchange.receive_accounts`
-/

------------------------------------------------------------
-- Topics of a Log
------------------------------------------------------------

namespace GatewayRules

/- What a line of a log is about. -/
inductive Event.Topic where
  | request
  | datagram
  | retry
  | foreign
  | unrelated
  | change
  | attribute
deriving DecidableEq

namespace Event

def topic : Event → Topic
  | .sending .. => .request
  | .request _ => .request
  | .sendInterrupted _ => .request
  | .received _ => .datagram
  | .receiveInterrupted _ => .retry
  | .discarding .. => .foreign
  | .ignoring .. => .unrelated
  | .dumpInterrupted => .change
  | .unknownAttribute .. => .attribute
  | .extraChecksum => .attribute
  | .unexpectedDump _ => .request

/- The lines about a topic, in order. -/
def about
    (topic : Topic)
    (events : List Event) : List Event :=
  events.filter fun event => event.topic = topic

@[simp]
theorem about_nil (topic : Topic) : about topic [] = [] :=
  rfl

@[simp]
theorem about_append
    (topic : Topic)
    (first second : List Event) :
    about topic (first ++ second) =
      about topic first ++ about topic second :=
  List.filter_append first second

@[simp]
theorem about_cons
    (topic : Topic)
    (event : Event)
    (events : List Event) :
    about topic (event :: events) =
      (if event.topic = topic then [event] else [])
        ++ about topic events := by
  unfold about
  by_cases hTopic : event.topic = topic
  · simp [hTopic]
  · simp [hTopic]

/- Nothing is left out of a log that shows every level. -/
theorem atLeast_trace (events : List Event) :
    atLeast .trace events = events := by
  unfold atLeast
  rw [List.filter_eq_self]
  intro event hEvent
  cases event <;> rfl

end Event

/- What is reported of an attribute is about attributes. -/
theorem Draft.topic_reported
    {draft : Draft}
    {a : Attribute}
    {event : Event}
    (h : event ∈ draft.reported a) :
    event.topic = .attribute := by
  unfold reported at h
  split at h
  case h_1 =>
    rw [List.mem_singleton.mp h]
    rfl
  case h_4 => cases h
  -- Both kinds of checksums are left, with one answer.
  all_goals
    split at h
    · rw [List.mem_singleton.mp h]
      rfl
    · cases h

theorem Draft.topic_events
    {draft : Draft}
    {attributes : List Attribute}
    {event : Event}
    (h : event ∈ draft.events attributes) :
    event.topic = .attribute := by
  induction attributes generalizing draft with
  | nil => cases h
  | cons a attributes ih =>
      rw [Draft.events] at h
      cases hAbsorb : draft.absorb a with
      | error error =>
          rw [hAbsorb] at h
          cases h
      | ok next =>
          rw [hAbsorb] at h
          rcases List.mem_append.mp h with hFirst | hRest
          · exact topic_reported hFirst
          · exact ih hRest

/- Reading a message reports nothing but attributes. -/
theorem Response.topic_framedEvents
    {message : Framed}
    {event : Event}
    (h : event ∈ framedEvents message) :
    event.topic = .attribute := by
  unfold framedEvents at h
  by_cases hEntry :
      message.header.type = MessageType.newRoute ∧
        concernsGateway (message.bytes.drop Header.size)
  · simp only [hEntry, and_self, if_true] at h
    unfold Entry.events at h
    split at h
    · cases h
    · exact Draft.topic_events h
  · simp only [hEntry, if_false] at h
    cases h

/- So reading a message says nothing about other topics. -/
theorem Response.about_framedEvents
    (message : Framed)
    {topic : Event.Topic}
    (hTopic : topic ≠ .attribute) :
    Event.about topic (framedEvents message) = [] := by
  unfold Event.about
  rw [List.filter_eq_nil_iff]
  intro event hEvent hAbout
  rw [topic_framedEvents hEvent] at hAbout
  exact hTopic (of_decide_eq_true hAbout).symm

------------------------------------------------------------
-- Lines about Messages and Calls
------------------------------------------------------------

namespace Framed

/- The line about a message with another number. -/
def discarded?
    (expected : UInt32)
    (message : Framed) : Option Event :=
  if message.header.sequence = expected then
    none
  else
    some (.discarding message.header.type
      message.header.sequence expected)

/- The line about a message that has nothing to tell. -/
def ignored?
    (expected : UInt32)
    (message : Framed) : Option Event :=
  if message.header.sequence = expected then
    match message.meaning with
    | .ok (.other type) =>
        some (.ignoring type message.header.sequence)
    | _ => none
  else
    none

/-
  Whether a message of the exchange that can be read tells
  that the table has changed.
-/
def tellsOfChange
    (expected : UInt32)
    (message : Framed) : Bool :=
  message.header.sequence = expected ∧
    message.meaning.isOk ∧
    message.header.flags &&& MessageFlag.dumpInterrupted ≠ 0

/-
  All lines about a message, which depend on whether a change
  of the table was reported before.
-/
def lines
    (expected : UInt32)
    (told : Bool)
    (message : Framed) : List Event :=
  if message.header.sequence = expected then
    Response.framedEvents message
      ++ (if message.tellsOfChange expected && !told then
          [.dumpInterrupted]
        else
          [])
      ++ (message.ignored? expected).toList
  else
    (message.discarded? expected).toList

/- There is neither of these lines about an entry. -/
theorem unreported_of_entryOf?
    {expected : UInt32}
    {message : Framed}
    {entry : Entry}
    (h : message.entryOf? expected = some entry) :
    message.discarded? expected = none ∧
      message.ignored? expected = none := by
  unfold entryOf? at h
  unfold discarded? ignored?
  split at h
  case isFalse => cases h
  case isTrue hOwn =>
    rw [if_pos hOwn, if_pos hOwn]
    cases hMeaning : message.meaning with
    | error error =>
        rw [hMeaning] at h
        cases h
    | ok kind =>
        rw [hMeaning] at h
        cases kind with
        | entry entry => exact ⟨rfl, rfl⟩
        | _ => cases h

end Framed

namespace Occurrence

/- Whether a message was met that tells of a change. -/
def tellsOfChange (expected : UInt32) : Occurrence → Bool
  | .message framed => framed.tellsOfChange expected
  | _ => false

/-
  The lines about an occurrence, after those before it.  A
  call that failed is repeated if it does not end the
  exchange, and the line about it has the number of the
  repetition.
-/
def lines
    (expected : UInt32)
    (maxRetries : Nat)
    (before : List Occurrence) : Occurrence → List Event
  | .message framed =>
      framed.lines expected
        (before.any (tellsOfChange expected))
  | .failure error =>
      if ((failure error).ending? expected maxRetries
          before).isNone then
        [.receiveInterrupted
          (before.countP isInterruption + 1)]
      else
        []
  | .fault _ => []
  | .expiry => []

/- A call that failed is repeated only if it was interrupted. -/
theorem isInterruption_of_undecided
    {expected : UInt32}
    {maxRetries : Nat}
    {before : List Occurrence}
    {error : SystemError}
    (h :
      (failure error).ending? expected maxRetries before =
        none) :
    (failure error).isInterruption = true := by
  simp only [ending?] at h
  split at h
  case h_1 hKind => simp [isInterruption, hKind]
  all_goals cases h

end Occurrence

------------------------------------------------------------
-- Arrivals
------------------------------------------------------------

/-
  What a log can tell of: a datagram as a whole, or one of the
  occurrences that it or another call brings.
-/
inductive Arrival where
  | whole (bytes : Bytes)
  | single (occurrence : Occurrence)

namespace Arrival

def datagram? : Arrival → Option Bytes
  | .whole bytes => some bytes
  | .single _ => none

def occurrence? : Arrival → Option Occurrence
  | .whole _ => none
  | .single occurrence => some occurrence

/- The occurrences among what arrived. -/
def occurrences (arrivals : List Arrival) : List Occurrence :=
  arrivals.filterMap occurrence?

/- The messages among what arrived. -/
def messages (arrivals : List Arrival) : List Framed :=
  (occurrences arrivals).filterMap Occurrence.message?

/-
  The lines about everything that arrived, one after the
  other, after some occurrences.
-/
def log
    (expected : UInt32)
    (maxRetries : Nat) :
    List Occurrence → List Arrival → List Event
  | _, [] => []
  | before, .whole bytes :: rest =>
      .received bytes :: log expected maxRetries before rest
  | before, .single occurrence :: rest =>
      occurrence.lines expected maxRetries before
        ++ log expected maxRetries (before ++ [occurrence]) rest

end Arrival

/- What a call brings: a datagram before what is in it. -/
def ReceiveResult.arrivals
    (capacity : Nat)
    (result : ReceiveResult) : List Arrival :=
  match result with
  | .datagram bytes =>
      .whole (bytes.take capacity) ::
        (result.occurrences capacity).map .single
  | _ => (result.occurrences capacity).map .single

/- All that would arrive if nothing ended an exchange. -/
def Exchange.allArrivals
    (config : Config)
    (receives : List ReceiveResult) : List Arrival :=
  if config.timeoutMillis = 0 then
    [.single .expiry]
  else
    (receives ++ [silence]).flatMap
      (ReceiveResult.arrivals config.capacity)

theorem ReceiveResult.occurrences_arrivals
    (capacity : Nat)
    (result : ReceiveResult) :
    Arrival.occurrences (result.arrivals capacity) =
      result.occurrences capacity := by
  have hMap (occurrences : List Occurrence) :
      Arrival.occurrences (occurrences.map .single) =
        occurrences := by
    unfold Arrival.occurrences
    rw [List.filterMap_map]
    exact List.filterMap_some
  cases result with
  | datagram bytes => exact hMap _
  | failed error => exact hMap _
  | expired => exact hMap _

/- The history of a channel is about the same occurrences. -/
theorem Exchange.occurrences_allArrivals
    (config : Config)
    (receives : List ReceiveResult) :
    Arrival.occurrences (allArrivals config receives) =
      history config receives := by
  unfold allArrivals history
  by_cases hTime : config.timeoutMillis = 0
  · simp only [hTime, if_true]
    rfl
  · simp only [hTime, if_false]
    unfold Arrival.occurrences ReceiveResult.allOccurrences
    rw [List.filterMap_flatMap]
    exact congrArg (fun f => (receives ++ [silence]).flatMap f)
      (funext (ReceiveResult.occurrences_arrivals config.capacity))

------------------------------------------------------------
-- Observing an Exchange
------------------------------------------------------------

namespace Progress

/- Take in what arrived, and tell what is reported of it. -/
def onArrival
    (expected : UInt32)
    (maxRetries : Nat)
    (progress : Progress) : Arrival → Step × List Event
  | .whole bytes => (.further progress, [.received bytes])
  | .single (.message framed) =>
      progress.onMessage expected framed
  | .single occurrence =>
      match progress.onOccurrence expected maxRetries
        occurrence with
      | .decided result => (.decided result, [])
      | .further next =>
          (.further next,
            [.receiveInterrupted next.interruptions])

/- Take in what arrives until the exchange is decided. -/
def observe
    (expected : UInt32)
    (maxRetries : Nat) :
    Progress → List Arrival → Step × List Event
  | progress, [] => (.further progress, [])
  | progress, arrival :: rest =>
      match progress.onArrival expected maxRetries arrival with
      | (.decided result, events) => (.decided result, events)
      | (.further next, events) =>
          let step := observe expected maxRetries next rest
          (step.1, events ++ step.2)

variable {expected : UInt32} {maxRetries : Nat}

theorem observe_append
    (progress : Progress)
    (first second : List Arrival) :
    progress.observe expected maxRetries (first ++ second) =
      match progress.observe expected maxRetries first with
      | (.decided result, events) => (.decided result, events)
      | (.further next, events) =>
          let step := next.observe expected maxRetries second
          (step.1, events ++ step.2) := by
  induction first generalizing progress with
  | nil => rfl
  | cons arrival first ih =>
      simp only [List.cons_append, observe]
      rcases progress.onArrival expected maxRetries arrival with
        ⟨result | next, events⟩
      · rfl
      · simp only [ih next]
        rcases next.observe expected maxRetries first with
          ⟨result | last, others⟩
        · rfl
        · simp only [List.append_assoc]

/- The messages of a datagram are observed one by one. -/
theorem observe_messages
    (progress : Progress)
    (messages : List Framed)
    (fault : Option DecodeError) :
    progress.observe expected maxRetries
        ((messages.map Occurrence.message
          ++ (fault.map Occurrence.fault).toList).map
            Arrival.single) =
      progress.onMessages expected fault messages := by
  induction messages generalizing progress with
  | nil => cases fault <;> rfl
  | cons message messages ih =>
      simp only [List.map_cons, List.cons_append, observe,
        onMessages, onArrival]
      rcases progress.onMessage expected message with
        ⟨result | next, events⟩
      · rfl
      · exact congrArg
          (fun step : Step × List Event =>
            (step.1, events ++ step.2))
          (ih next)

/- A datagram is observed before the messages in it. -/
theorem observe_datagram
    (progress : Progress)
    (capacity : Nat)
    (bytes : Bytes) :
    progress.observe expected maxRetries
        ((ReceiveResult.datagram bytes).arrivals capacity) =
      progress.onDatagram expected (bytes.take capacity) := by
  simp only [ReceiveResult.arrivals, observe, onArrival,
    ReceiveResult.occurrences, observe_messages]
  rfl

end Progress

/- Receiving observes what arrives. -/
theorem Exchange.observe_collect
    (config : Config)
    (expected : UInt32)
    (progress : Progress)
    (receives : List ReceiveResult) :
    let outcome := collect config expected progress receives
    progress.observe expected config.maxRetries
        ((receives ++ [silence]).flatMap
          (ReceiveResult.arrivals config.capacity)) =
      (.decided outcome.result, outcome.transcript.events) := by
  induction receives generalizing progress with
  | nil => rfl
  | cons first rest ih =>
      rw [List.cons_append, List.flatMap_cons,
        Progress.observe_append]
      cases first with
      | expired => rfl
      | datagram bytes =>
          rw [Progress.observe_datagram, collect]
          rcases progress.onDatagram expected
              (bytes.take config.capacity) with
            ⟨result | next, events⟩
          · rfl
          · simp only [ih next]
            rfl
      | failed error =>
          rw [collect]
          simp only [ReceiveResult.arrivals,
            ReceiveResult.occurrences, List.map_cons,
            List.map_nil, Progress.observe, Progress.onArrival,
            Progress.onOccurrence]
          cases error.kind? with
          | none => rfl
          | some kind =>
              cases kind with
              | interrupted =>
                  by_cases hLimit :
                      config.maxRetries <
                        progress.interruptions + 1
                  · simp only [hLimit, if_true]
                  · simp only [hLimit, if_false, ih]
                    rfl
              | _ => rfl

/- Waiting for a reply observes all that arrives. -/
theorem Exchange.observe_receive
    (config : Config)
    (expected : UInt32)
    (channel : Channel) :
    let outcome := receive config expected channel
    Progress.observe expected config.maxRetries {}
        (allArrivals config channel.receives) =
      (.decided outcome.result, outcome.transcript.events) := by
  unfold receive allArrivals
  by_cases hTime : config.timeoutMillis = 0
  · simp only [hTime, if_true]
    rfl
  · simp only [hTime, if_false]
    exact observe_collect config expected {} channel.receives

------------------------------------------------------------
-- What Is Reported
------------------------------------------------------------

/- A response has the number and the flags of its message. -/
theorem Response.fields_of_ofFramed
    {message : Framed}
    {response : Response}
    (h : ofFramed message = .ok response) :
    response.sequence = message.header.sequence ∧
      response.flags = message.header.flags := by
  unfold ofFramed at h
  cases hKind : decodeBody message.header.type
      (message.bytes.drop Header.size) with
  | error error =>
      rw [hKind] at h
      cases h
  | ok kind =>
      rw [hKind] at h
      cases h
      exact ⟨rfl, rfl⟩

namespace Progress

/- What a message says does not touch what was reported. -/
theorem reportedChange_of_onKind
    {progress next : Progress}
    {kind : Response.Kind}
    (h : progress.onKind kind = .further next) :
    next.reportedChange = progress.reportedChange := by
  cases kind with
  | error code =>
      by_cases hCode : code = 0
      · simp [onKind, hCode] at h
      · simp [onKind, hCode] at h
  | entry entry =>
      cases h
      rfl
  | done => cases h
  | other type =>
      cases h
      rfl

/-
  Whether taking in a message reports what there is to report
  of it, and keeps track of whether a change was reported.
-/
structure Reports
    (expected : UInt32)
    (progress : Progress)
    (message : Framed)
    (step : Step × List Event) : Prop where
  lines :
    step.2 = message.lines expected progress.reportedChange
  change :
    ∀ next,
      step.1 = .further next →
        next.reportedChange =
          (progress.reportedChange ||
            message.tellsOfChange expected)

variable {message : Framed}

theorem reports_of_ne
    (progress : Progress)
    (hOther : message.header.sequence ≠ expected) :
    progress.Reports expected message
      (progress.onMessage expected message) := by
  have hTells : message.tellsOfChange expected = false := by
    simp [Framed.tellsOfChange, hOther]
  have hStep :
      progress.onMessage expected message =
        (.further progress,
          [.discarding message.header.type
            message.header.sequence expected]) := by
    simp [onMessage, hOther]
  rw [hStep]
  refine ⟨?_, ?_⟩
  · simp [Framed.lines, Framed.discarded?, hOther]
  · intro next hNext
    cases hNext
    rw [hTells, Bool.or_false]

/- A message that cannot be read ends the exchange. -/
theorem reports_of_error
    {error : DecodeError}
    (progress : Progress)
    (hOwn : message.header.sequence = expected)
    (hResponse : Response.ofFramed message = .error error)
    (hMeaning : message.meaning = .error error) :
    progress.Reports expected message
      (progress.onMessage expected message) := by
  have hTells : message.tellsOfChange expected = false := by
    simp [Framed.tellsOfChange, hMeaning, Except.isOk,
      Except.toBool]
  have hIgnored : message.ignored? expected = none := by
    simp [Framed.ignored?, hMeaning]
  have hStep :
      progress.onMessage expected message =
        (.decided (progress.fail (.decode error)),
          Response.framedEvents message) := by
    simp [onMessage, hOwn, hResponse]
  rw [hStep]
  refine ⟨?_, ?_⟩
  · simp [Framed.lines, hOwn, hTells, hIgnored]
  · intro next hNext
    cases hNext

theorem reports_of_ok
    {response : Response}
    (progress : Progress)
    (hOwn : message.header.sequence = expected)
    (hResponse : Response.ofFramed message = .ok response)
    (hMeaning : message.meaning = .ok response.kind) :
    progress.Reports expected message
      (progress.onMessage expected message) := by
  rcases Response.fields_of_ofFramed hResponse with
    ⟨hSequence, hFlags⟩
  have hTells :
      message.tellsOfChange expected =
        decide (response.flags &&&
          MessageFlag.dumpInterrupted ≠ 0) := by
    simp [Framed.tellsOfChange, hOwn, hMeaning, hFlags,
      Except.isOk, Except.toBool]
  have hIgnored :
      (message.ignored? expected).toList =
        reportedOfKind response.sequence response.kind := by
    rw [Framed.ignored?, if_pos hOwn, hMeaning, hSequence]
    cases response.kind <;> rfl
  have hStep :
      progress.onMessage expected message =
        let step := progress.onResponse response
        (step.1,
          Response.framedEvents message ++ step.2) := by
    simp [onMessage, hOwn, hResponse]
  rw [hStep]
  refine ⟨?_, ?_⟩
  · unfold Framed.lines onResponse
    rw [if_pos hOwn, hTells, hIgnored]
    cases progress.reportedChange <;> simp
  · intro next hNext
    rw [reportedChange_of_onKind hNext, hTells]
    cases progress.reportedChange <;> simp

theorem reports_onMessage
    (progress : Progress)
    (hCut : (Occurrence.message message).IsCut) :
    progress.Reports expected message
      (progress.onMessage expected message) := by
  rcases hCut with ⟨bytes, hSplit⟩
  have hMeaning := Framed.meaning_of_split hSplit
  by_cases hOwn : message.header.sequence = expected
  · cases hResponse : Response.ofFramed message with
    | error error =>
        rw [hResponse] at hMeaning
        exact reports_of_error progress hOwn hResponse hMeaning
    | ok response =>
        rw [hResponse] at hMeaning
        exact reports_of_ok progress hOwn hResponse hMeaning
  · exact reports_of_ne progress hOwn

------------------------------------------------------------
-- A Step and a Run
------------------------------------------------------------

/-
  Whether a progress shows what was met, and whether a change
  was reported of it.
-/
structure Recalls
    (expected : UInt32)
    (maxRetries : Nat)
    (before : List Occurrence)
    (progress : Progress) : Prop where
  reflects : progress.Reflects expected maxRetries before
  reportedChange :
    progress.reportedChange =
      before.any (Occurrence.tellsOfChange expected)

theorem recalls_start :
    Recalls expected maxRetries [] {} :=
  ⟨reflects_start, rfl⟩

/- Of an occurrence, just its lines are reported. -/
theorem onArrival_of_recalls
    {before : List Occurrence}
    {progress : Progress}
    {occurrence : Occurrence}
    (h : progress.Recalls expected maxRetries before)
    (hCut : occurrence.IsCut) :
    progress.onArrival expected maxRetries
        (.single occurrence) =
      (progress.onOccurrence expected maxRetries occurrence,
        occurrence.lines expected maxRetries before) := by
  cases occurrence with
  | message message =>
      have hReports :
          progress.Reports expected message
            (progress.onMessage expected message) :=
        reports_onMessage progress hCut
      have hLines := hReports.lines
      rw [h.reportedChange] at hLines
      exact Prod.ext rfl hLines
  | fault error => rfl
  | expiry => rfl
  | failure error =>
      have hEffect :=
        effect_onOccurrence h.reflects hCut
      simp only [onArrival, Occurrence.lines]
      generalize progress.onOccurrence expected maxRetries
        (.failure error) = step at hEffect ⊢
      cases hEffect with
      | decided ending hDecided =>
          rw [hDecided]
          rfl
      | further next hNone hNext =>
          have hCall :=
            Occurrence.isInterruption_of_undecided hNone
          have hCount := hNext.interruptions
          rw [List.countP_append, List.countP_singleton,
            if_pos hCall] at hCount
          rw [hNone, ← hCount]
          rfl

/- What was reported is known after an occurrence, too. -/
theorem Recalls.after
    {before : List Occurrence}
    {progress next : Progress}
    {occurrence : Occurrence}
    (h : progress.Recalls expected maxRetries before)
    (hCut : occurrence.IsCut)
    (hNext :
      progress.onOccurrence expected maxRetries occurrence =
        .further next) :
    next.Recalls expected maxRetries
      (before ++ [occurrence]) := by
  have hEffect := effect_onOccurrence h.reflects hCut
  rw [hNext] at hEffect
  cases hEffect with
  | further _ hNone hReflects =>
      refine ⟨hReflects, ?_⟩
      rw [List.any_append, ← h.reportedChange]
      cases occurrence with
      | message message =>
          have hReports :
              progress.Reports expected message
                (progress.onMessage expected message) :=
            reports_onMessage progress hCut
          rw [hReports.change next hNext]
          simp [Occurrence.tellsOfChange]
      | fault error => cases hNext
      | expiry => cases hNext
      | failure error =>
          simp only [onOccurrence] at hNext
          split at hNext
          case h_1 =>
            split at hNext
            · cases hNext
            · cases hNext
              exact (Bool.or_false _).symm
          all_goals cases hNext

end Progress

/-
  Whether none of some occurrences calls for an ending, after
  others and those of them that come before it.
-/
def Occurrence.Undecided
    (expected : UInt32)
    (maxRetries : Nat)
    (before occurrences : List Occurrence) : Prop :=
  ∀ earlier occurrence,
    earlier ++ [occurrence] <+: occurrences →
      occurrence.ending? expected maxRetries
        (before ++ earlier) = none

namespace Occurrence.Undecided

variable {expected : UInt32} {maxRetries : Nat}
variable {first : Occurrence} {before others : List Occurrence}

theorem head
    (h : Undecided expected maxRetries before (first :: others)) :
    first.ending? expected maxRetries before = none := by
  rw [← List.append_nil before]
  exact h [] first
    (List.cons_prefix_cons.mpr ⟨rfl, List.nil_prefix⟩)

theorem tail
    (h : Undecided expected maxRetries before (first :: others)) :
    Undecided expected maxRetries (before ++ [first]) others := by
  intro earlier occurrence hPrefix
  rw [List.append_assoc]
  exact h (first :: earlier) occurrence
    (List.cons_prefix_cons.mpr ⟨rfl, hPrefix⟩)

end Occurrence.Undecided

namespace Progress

variable {expected : UInt32} {maxRetries : Nat}

/-
  Of what arrived up to the first occurrence that calls for an
  ending, just the lines of each are reported.
-/
theorem observe_reached
    {before : List Occurrence}
    {progress : Progress}
    {met : List Arrival}
    {last : Occurrence}
    {ending : Ending}
    (rest : List Arrival)
    (h : progress.Recalls expected maxRetries before)
    (hCut : ∀ occurrence ∈ Arrival.occurrences met,
      occurrence.IsCut)
    (hLast : last.IsCut)
    (hUndecided :
      Occurrence.Undecided expected maxRetries before
        (Arrival.occurrences met))
    (hDecided :
      last.ending? expected maxRetries
        (before ++ Arrival.occurrences met) = some ending) :
    (progress.observe expected maxRetries
        (met ++ .single last :: rest)).2 =
      Arrival.log expected maxRetries before
        (met ++ [.single last]) := by
  -- What was met moves to `before`, one arrival at a time.
  induction met generalizing before progress with
  | nil =>
      simp only [List.nil_append, observe,
        onArrival_of_recalls h hLast]
      have hEffect := effect_onOccurrence h.reflects hLast
      generalize progress.onOccurrence expected maxRetries
        last = step at hEffect ⊢
      cases hEffect with
      | decided ending hDecided =>
          exact (List.append_nil _).symm
      | further next hNone hNext =>
          rw [Arrival.occurrences, List.filterMap_nil,
            List.append_nil, hNone] at hDecided
          cases hDecided
  | cons arrival met ih =>
      cases arrival with
      | whole bytes =>
          exact congrArg (List.cons _)
            (ih h hCut hUndecided hDecided)
      | single occurrence =>
          have hFirst : occurrence.IsCut :=
            hCut occurrence List.mem_cons_self
          have hNone := hUndecided.head
          have hEffect := effect_onOccurrence h.reflects hFirst
          cases hStep : progress.onOccurrence expected
              maxRetries occurrence with
          | decided result =>
              rw [hStep] at hEffect
              cases hEffect with
              | decided ending hOther =>
                  rw [hNone] at hOther
                  cases hOther
          | further next =>
              have hRest :=
                ih (h.after hFirst hStep)
                  (fun other hOther =>
                    hCut other (List.mem_cons_of_mem _ hOther))
                  hUndecided.tail
                  (by
                    rw [List.append_assoc]
                    exact hDecided)
              simp only [List.cons_append, observe,
                onArrival_of_recalls h hFirst, hStep]
              exact congrArg _ hRest

end Progress

------------------------------------------------------------
-- Lines about Each Topic
------------------------------------------------------------

namespace Framed

variable {expected : UInt32} {message : Framed}

/- A message with another number tells nothing else. -/
theorem tellsOfChange_of_ne
    (h : message.header.sequence ≠ expected) :
    message.tellsOfChange expected = false := by
  simp [tellsOfChange, h]

theorem about_discarded?
    (topic : Event.Topic) :
    Event.about topic (message.discarded? expected).toList =
      if topic = .foreign then
        (message.discarded? expected).toList
      else
        [] := by
  unfold discarded?
  by_cases hOwn : message.header.sequence = expected
  · simp [hOwn]
  · cases topic <;> simp [hOwn, Event.topic]

theorem about_ignored?
    (topic : Event.Topic) :
    Event.about topic (message.ignored? expected).toList =
      if topic = .unrelated then
        (message.ignored? expected).toList
      else
        [] := by
  unfold ignored?
  by_cases hOwn : message.header.sequence = expected
  · rw [if_pos hOwn]
    split
    · cases topic <;> simp [Event.topic]
    · simp
  · simp [hOwn]

/-
  What the lines about a message say about topics other than
  its attributes.
-/
theorem about_lines
    {topic : Event.Topic}
    (told : Bool)
    (hTopic : topic ≠ .attribute) :
    Event.about topic (message.lines expected told) =
      match topic with
      | .foreign => (message.discarded? expected).toList
      | .unrelated => (message.ignored? expected).toList
      | .change =>
          if message.tellsOfChange expected && !told then
            [.dumpInterrupted]
          else
            []
      | _ => [] := by
  unfold lines
  by_cases hOwn : message.header.sequence = expected
  · have hDiscarded : message.discarded? expected = none :=
      if_pos hOwn
    rw [if_pos hOwn, Event.about_append, Event.about_append,
      Response.about_framedEvents message hTopic,
      about_ignored?, hDiscarded]
    split <;> cases topic <;> simp [Event.topic]
  · have hIgnored : message.ignored? expected = none :=
      if_neg hOwn
    rw [if_neg hOwn, about_discarded?, hIgnored,
      tellsOfChange_of_ne hOwn]
    cases topic <;> simp

end Framed

namespace Occurrence

variable {expected : UInt32} {maxRetries : Nat}

/- Apart from repeated calls, the lines are about messages. -/
theorem about_lines
    {topic : Event.Topic}
    (before : List Occurrence)
    (occurrence : Occurrence)
    (hRetry : topic ≠ .retry) :
    Event.about topic
        (occurrence.lines expected maxRetries before) =
      match occurrence.message? with
      | some framed =>
          Event.about topic
            (framed.lines expected
              (before.any (tellsOfChange expected)))
      | none => [] := by
  cases occurrence with
  | message framed => rfl
  | fault error => rfl
  | expiry => rfl
  | failure error =>
      simp only [lines, message?]
      split
      · cases topic <;> simp [Event.topic] at hRetry ⊢
      · rfl

/- A call that was interrupted is numbered if it is repeated. -/
theorem about_retry_lines
    (before : List Occurrence)
    (occurrence : Occurrence) :
    Event.about .retry
        (occurrence.lines expected maxRetries before) =
      if occurrence.isInterruption &&
          (occurrence.ending? expected maxRetries
            before).isNone then
        [.receiveInterrupted
          (before.countP isInterruption + 1)]
      else
        [] := by
  cases occurrence with
  | message framed =>
      exact Framed.about_lines _ (by decide)
  | fault error => rfl
  | expiry => rfl
  | failure error =>
      cases hEnding : (failure error).ending? expected maxRetries
          before with
      | none =>
          rw [isInterruption_of_undecided hEnding, lines,
            hEnding]
          rfl
      | some ending =>
          rw [lines, hEnding, Option.isNone_some, Bool.and_false]
          rfl

end Occurrence

namespace Arrival

variable {expected : UInt32} {maxRetries : Nat}

/-
  If each thing that arrives has at most one line about a
  topic, then the log has these lines in the same order.
-/
theorem about_log
    {topic : Event.Topic}
    {line? : Arrival → Option Event}
    (hWhole :
      ∀ bytes,
        Event.about topic [.received bytes] =
          (line? (.whole bytes)).toList)
    (hSingle :
      ∀ before occurrence,
        Event.about topic
            (Occurrence.lines expected maxRetries before
              occurrence) =
          (line? (.single occurrence)).toList)
    (before : List Occurrence)
    (arrivals : List Arrival) :
    Event.about topic
        (log expected maxRetries before arrivals) =
      arrivals.filterMap line? := by
  induction arrivals generalizing before with
  | nil => rfl
  | cons arrival arrivals ih =>
      rw [List.filterMap_cons]
      cases arrival with
      | whole bytes =>
          rw [log, ← List.singleton_append, Event.about_append,
            hWhole, ih]
          cases line? (.whole bytes) <;> rfl
      | single occurrence =>
          rw [log, Event.about_append, hSingle, ih]
          cases line? (.single occurrence) <;> rfl

theorem about_datagram_log
    (before : List Occurrence)
    (arrivals : List Arrival) :
    Event.about .datagram
        (log expected maxRetries before arrivals) =
      (arrivals.filterMap datagram?).map .received := by
  rw [List.map_filterMap]
  apply about_log
  · intro bytes
    rfl
  · intro before occurrence
    rw [Occurrence.about_lines before occurrence (by decide)]
    cases occurrence with
    | message framed => exact Framed.about_lines _ (by decide)
    | _ => rfl

/-
  Lines that stand for a message, whatever came before it, are
  those of the messages that arrived.
-/
theorem about_messages_log
    {topic : Event.Topic}
    {line? : Framed → Option Event}
    (hDatagram : topic ≠ .datagram)
    (hRetry : topic ≠ .retry)
    (hLines :
      ∀ told message,
        Event.about topic (Framed.lines expected told message) =
          (line? message).toList)
    (before : List Occurrence)
    (arrivals : List Arrival) :
    Event.about topic
        (log expected maxRetries before arrivals) =
      (messages arrivals).filterMap line? := by
  unfold messages occurrences
  rw [List.filterMap_filterMap, List.filterMap_filterMap]
  apply about_log
  · intro bytes
    have hTopic : Event.topic (.received bytes) ≠ topic :=
      hDatagram.symm
    rw [Event.about_cons, if_neg hTopic, Event.about_nil]
    rfl
  · intro before occurrence
    rw [Occurrence.about_lines before occurrence hRetry]
    cases occurrence with
    | message framed => exact hLines _ framed
    | _ => rfl

theorem log_append
    (before : List Occurrence)
    (first second : List Arrival) :
    log expected maxRetries before (first ++ second) =
      log expected maxRetries before first
        ++ log expected maxRetries
          (before ++ occurrences first) second := by
  induction first generalizing before with
  | nil =>
      rw [occurrences, List.filterMap_nil, List.append_nil]
      rfl
  | cons arrival first ih =>
      cases arrival with
      | whole bytes => exact congrArg (List.cons _) (ih before)
      | single occurrence =>
          have hRest := ih (before ++ [occurrence])
          rw [List.append_assoc] at hRest
          rw [List.cons_append, log, log, hRest,
            List.append_assoc]
          rfl

/- Repeated calls are numbered from the first one on. -/
theorem about_retry_log
    {before : List Occurrence}
    {arrivals : List Arrival}
    (hUndecided :
      Occurrence.Undecided expected maxRetries before
        (occurrences arrivals)) :
    Event.about .retry
        (log expected maxRetries before arrivals) =
      (List.range'
        (before.countP Occurrence.isInterruption + 1)
        ((occurrences arrivals).countP
          Occurrence.isInterruption)).map
        .receiveInterrupted := by
  induction arrivals generalizing before with
  | nil => rfl
  | cons arrival arrivals ih =>
      cases arrival with
      | whole bytes => exact ih hUndecided
      | single occurrence =>
          have hCons :
              occurrences (.single occurrence :: arrivals) =
                occurrence :: occurrences arrivals :=
            rfl
          rw [hCons] at hUndecided ⊢
          rw [log, Event.about_append,
            Occurrence.about_retry_lines, hUndecided.head,
            ih hUndecided.tail, List.countP_append,
            List.countP_singleton]
          cases hCall : occurrence.isInterruption with
          | true =>
              rw [List.countP_cons_of_pos hCall,
                List.range'_succ]
              rfl
          | false =>
              rw [List.countP_cons_of_neg (by simp [hCall])]
              rfl

/- Only messages tell of a change. -/
theorem any_tellsOfChange
    (arrivals : List Arrival) :
    (occurrences arrivals).any
        (Occurrence.tellsOfChange expected) =
      (messages arrivals).any
        (Framed.tellsOfChange expected) := by
  unfold messages
  rw [List.any_filterMap]
  congr
  funext occurrence
  cases occurrence <;> rfl

/- Where an occurrence is met, it has arrived. -/
theorem exists_reached
    {arrivals : List Arrival}
    {before : List Occurrence}
    {last : Occurrence}
    (h : before ++ [last] <+: occurrences arrivals) :
    ∃ met rest,
      arrivals = met ++ .single last :: rest ∧
        occurrences met = before := by
  rcases h with ⟨others, hOthers⟩
  rw [List.append_assoc, eq_comm] at hOthers
  rcases List.filterMap_eq_append_iff.mp hOthers with
    ⟨front, back, rfl, hFront, hBack⟩
  rcases List.filterMap_eq_cons_iff.mp hBack with
    ⟨skipped, arrival, rest, rfl, hSkipped, hArrival, -⟩
  cases arrival with
  | whole bytes => cases hArrival
  | single occurrence =>
      cases hArrival
      refine ⟨front ++ skipped, rest, ?_, ?_⟩
      · rw [List.append_assoc]
      · rw [occurrences, List.filterMap_append, hFront,
          List.filterMap_eq_nil_iff.mpr hSkipped,
          List.append_nil]

/- A change is reported unless one was reported before. -/
theorem about_change_log
    (before : List Occurrence)
    (arrivals : List Arrival) :
    Event.about .change
        (log expected maxRetries before arrivals) =
      if (occurrences arrivals).any
            (Occurrence.tellsOfChange expected) &&
          !before.any (Occurrence.tellsOfChange expected) then
        [.dumpInterrupted]
      else
        [] := by
  induction arrivals generalizing before with
  | nil => rfl
  | cons arrival arrivals ih =>
      cases arrival with
      | whole bytes => exact ih before
      | single occurrence =>
          have hCons :
              occurrences (.single occurrence :: arrivals) =
                occurrence :: occurrences arrivals :=
            rfl
          have hLines :
              Event.about .change
                  (occurrence.lines expected maxRetries
                    before) =
                if occurrence.tellsOfChange expected &&
                    !before.any
                      (Occurrence.tellsOfChange expected) then
                  [.dumpInterrupted]
                else
                  [] := by
            rw [Occurrence.about_lines before occurrence
              (by decide)]
            cases occurrence with
            | message framed =>
                exact Framed.about_lines _ (by decide)
            | _ => rfl
          rw [hCons, log, Event.about_append, hLines, ih]
          simp only [List.any_append, List.any_cons,
            List.any_nil, Bool.or_false]
          rcases (occurrence.tellsOfChange
              expected).eq_false_or_eq_true with
            hTells | hTells
          · simp only [hTells, Bool.or_true, Bool.true_or,
              Bool.true_and, Bool.not_true, Bool.and_false,
              Bool.false_eq_true, if_false, List.append_nil]
          · simp only [hTells, Bool.or_false, Bool.false_or,
              Bool.false_and, Bool.false_eq_true, if_false,
              List.nil_append]

end Arrival

------------------------------------------------------------
-- Accounts of Exchanges
------------------------------------------------------------

/-
  Whether a log accounts for what an exchange met up to its
  last occurrence.  It has the lines about each thing in the
  order of arrival, and of these there is
    * one for each datagram;
    * one for each message with another number;
    * one for each message of the exchange without a concern;
    * none of these for a message with an entry;
    * one with a number for each call that was repeated; and
    * one about a change if a readable message of the exchange
      tells of one.
-/
structure Exchange.Accounts
    (expected : UInt32)
    (maxRetries : Nat)
    (met : List Arrival)
    (last : Occurrence)
    (events : List Event) : Prop where
  inOrder :
    events =
      Arrival.log expected maxRetries []
        (met ++ [.single last])
  datagrams :
    Event.about .datagram events =
      (met.filterMap Arrival.datagram?).map .received
  foreign :
    Event.about .foreign events =
      (Arrival.messages (met ++ [.single last])).filterMap
        (Framed.discarded? expected)
  unrelated :
    Event.about .unrelated events =
      (Arrival.messages (met ++ [.single last])).filterMap
        (Framed.ignored? expected)
  entries :
    ∀ message ∈ Arrival.messages (met ++ [.single last]),
      message.entryOf? expected ≠ none →
        message.discarded? expected = none ∧
          message.ignored? expected = none
  retries :
    Event.about .retry events =
      (List.range' 1
        ((Arrival.occurrences met).countP
          Occurrence.isInterruption)).map
        .receiveInterrupted
  change :
    Event.about .change events =
      if (Arrival.messages (met ++ [.single last])).any
          (Framed.tellsOfChange expected) then
        [.dumpInterrupted]
      else
        []

namespace Exchange

variable {expected : UInt32} {maxRetries : Nat}

/- The lines about what was met account for it. -/
theorem accounts_log
    {met : List Arrival}
    {last : Occurrence}
    {ending : Ending}
    (hUndecided :
      Occurrence.Undecided expected maxRetries []
        (Arrival.occurrences met))
    (hDecided :
      last.ending? expected maxRetries
        (Arrival.occurrences met) = some ending) :
    Accounts expected maxRetries met last
      (Arrival.log expected maxRetries []
        (met ++ [.single last])) where
  inOrder := rfl
  datagrams := by
    rw [Arrival.about_datagram_log, List.filterMap_append]
    exact congrArg _ (List.append_nil _)
  foreign :=
    Arrival.about_messages_log (by decide) (by decide)
      (fun told message =>
        Framed.about_lines told (by decide)) [] _
  unrelated :=
    Arrival.about_messages_log (by decide) (by decide)
      (fun told message =>
        Framed.about_lines told (by decide)) [] _
  entries := by
    intro message hMessage hEntry
    rcases Option.ne_none_iff_exists'.mp hEntry with
      ⟨entry, hEntry⟩
    exact Framed.unreported_of_entryOf? hEntry
  retries := by
    have hLast :
        Event.about .retry
            (Occurrence.lines expected maxRetries
              (Arrival.occurrences met) last) = [] := by
      rw [Occurrence.about_retry_lines, hDecided,
        Option.isNone_some, Bool.and_false]
      rfl
    rw [Arrival.log_append, Event.about_append,
      Arrival.about_retry_log hUndecided, List.nil_append,
      Arrival.log, Arrival.log, List.append_nil, hLast,
      List.append_nil]
    rfl
  change := by
    rw [Arrival.about_change_log, Arrival.any_tellsOfChange,
      List.any_nil, Bool.not_false, Bool.and_true]

/-
  An exchange meets all that arrives up to the first occurrence
  that calls for an ending, reports the lines about it, and
  returns each entry among it once.
-/
theorem exists_logged
    (config : Config)
    (expected : UInt32)
    (channel : Channel) :
    let outcome := receive config expected channel
    ∃ met last ending,
      met ++ [.single last] <+:
          allArrivals config channel.receives ∧
        FirstEnding expected config.maxRetries
          (history config channel.receives)
          (Arrival.occurrences met) last ending ∧
        outcome.result =
          ending.result
            ((Arrival.messages met).filterMap
              (Framed.entryOf? expected)) ∧
        outcome.transcript.events =
          Arrival.log expected config.maxRetries []
            (met ++ [.single last]) := by
  intro outcome
  rcases exists_firstEnding config expected channel with
    ⟨-, before, last, ending, -, -, hFirst, hResult⟩
  have hReached := hFirst.reached
  have hArrivals :=
    occurrences_allArrivals config channel.receives
  rw [← hArrivals] at hReached
  rcases Arrival.exists_reached hReached with
    ⟨met, rest, hMet, rfl⟩
  have hCut :
      ∀ occurrence ∈ Arrival.occurrences met ++ [last],
        occurrence.IsCut := by
    intro occurrence hOccurrence
    exact isCut_of_mem_history
      (hFirst.reached.subset hOccurrence)
  refine ⟨met, last, ending, ⟨rest, ?_⟩, hFirst, ?_, ?_⟩
  · rw [hMet, List.append_assoc]
    rfl
  · rw [Arrival.messages, ← Occurrence.filterMap_entryOf?]
    exact hResult
  · rw [← Progress.observe_reached rest Progress.recalls_start
      (fun occurrence hOccurrence =>
        hCut occurrence (List.mem_append_left _ hOccurrence))
      (hCut last (by simp)) hFirst.undecided hFirst.decided,
      ← hMet, observe_receive]

/-
  Whatever a channel does, the log of an exchange accounts for
  all that arrives up to the first occurrence that calls for
  an ending, and the result holds each entry among it once.
-/
theorem receive_accounts
    (config : Config)
    (expected : UInt32)
    (channel : Channel) :
    let outcome := receive config expected channel
    ∃ met last ending,
      met ++ [.single last] <+:
          allArrivals config channel.receives ∧
        FirstEnding expected config.maxRetries
          (history config channel.receives)
          (Arrival.occurrences met) last ending ∧
        outcome.result =
          ending.result
            ((Arrival.messages met).filterMap
              (Framed.entryOf? expected)) ∧
        Accounts expected config.maxRetries met last
          (Event.atLeast .trace outcome.transcript.events) := by
  intro outcome
  rcases exists_logged config expected channel with
    ⟨met, last, ending, hMet, hFirst, hResult, hEvents⟩
  refine ⟨met, last, ending, hMet, hFirst, hResult, ?_⟩
  rw [Event.atLeast_trace, hEvents]
  exact accounts_log hFirst.undecided hFirst.decided

end Exchange

end GatewayRules
