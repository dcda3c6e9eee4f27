import GatewayRules.Exchange.Receive
import GatewayRules.Proofs.WholeMessage

/-
  What an exchange meets while it waits for a reply, and the
  first thing that ends it.  The history of a channel lists
  the messages of its datagrams, the faults in their framing,
  and the calls that fail, in the order of their arrival.  An
  exchange ends with the first occurrence that calls for an
  ending, and with the entries that arrived before it.

  Main declarations:
    * `Occurrence` and `Exchange.history`
    * `Ending` and `Ending.result`
    * `Occurrence.ending?` and `Occurrence.entryOf?`
    * `FirstEnding`
    * `Progress.run` and `Progress.Reflects`
    * `Progress.firstEnding_of_run`
    * `Exchange.run_of_collect`
    * `Exchange.run_history`
    * `Exchange.exists_firstEnding`
    * `Exchange.receive_ends_first`
-/

------------------------------------------------------------
-- Occurrences
------------------------------------------------------------

namespace GatewayRules

/-
  What an exchange can meet: a message, a fault in the framing
  of a datagram, a call that failed, or the end of the time to
  wait.
-/
inductive Occurrence where
  | message (message : Framed)
  | fault (error : DecodeError)
  | failure (error : SystemError)
  | expiry

/- What a datagram or a failed call brings, in order. -/
def ReceiveResult.occurrences
    (capacity : Nat) : ReceiveResult → List Occurrence
  | .datagram bytes =>
      let framing := Framing.ofDatagram (bytes.take capacity)
      framing.messages.map Occurrence.message
        ++ (framing.fault.map Occurrence.fault).toList
  | .failed error => [.failure error]
  | .expired => [.expiry]

/- What the results of calls bring, one after the other. -/
def ReceiveResult.allOccurrences
    (capacity : Nat)
    (results : List ReceiveResult) : List Occurrence :=
  results.flatMap (ReceiveResult.occurrences capacity)

theorem ReceiveResult.allOccurrences_append
    (capacity : Nat)
    (first second : List ReceiveResult) :
    allOccurrences capacity (first ++ second) =
      allOccurrences capacity first
        ++ allOccurrences capacity second :=
  List.flatMap_append

/- What a channel brings that has nothing more to deliver. -/
def Exchange.silence : ReceiveResult :=
  .failed (.ofKind .wouldBlock)

/-
  All that an exchange would meet if nothing ended it.  When
  the results of a channel are used up, it has nothing more to
  deliver; without any time to wait, it is not asked.
-/
def Exchange.history
    (config : Config)
    (receives : List ReceiveResult) : List Occurrence :=
  if config.timeoutMillis = 0 then
    [.expiry]
  else
    ReceiveResult.allOccurrences config.capacity
      (receives ++ [silence])

------------------------------------------------------------
-- Endings
------------------------------------------------------------

/- How an exchange ends, apart from what arrived before. -/
inductive Ending where
  | acknowledged
  | finished
  | failed (cause : Cause)

namespace Ending

/-
  The result of an exchange that ends after some entries.  An
  acknowledgement after entries ends their dump; a failure
  after entries keeps them.
-/
def result
    (ending : Ending)
    (entries : List Entry) : Except Error Reply :=
  match ending with
  | .acknowledged =>
      if entries = [] then
        .ok .acknowledged
      else
        .ok (.entries entries)
  | .finished => .ok (.entries entries)
  | .failed cause =>
      if entries = [] then
        .error (.plain cause)
      else
        .error (.partialDump entries cause)

end Ending

/- The meaning of a message, or why it has none. -/
def Framed.meaning
    (message : Framed) : Except DecodeError Response.Kind :=
  (Response.decode message.bytes).map fun decoded =>
    decoded.1.kind

/- Whether a message has a number and a meaning. -/
def Framed.Says
    (own : UInt32)
    (kind : Response.Kind)
    (message : Framed) : Prop :=
  message.header.sequence = own ∧ message.meaning = .ok kind

/- The entry of a dump that a message of the exchange holds. -/
def Framed.entryOf?
    (expected : UInt32)
    (message : Framed) : Option Entry :=
  if message.header.sequence = expected then
    match message.meaning with
    | .ok (.entry entry) => some entry
    | _ => none
  else
    none

/- The ending that a message of the exchange calls for. -/
def Response.Kind.ending? : Response.Kind → Option Ending
  | .error code =>
      if code = 0 then
        some .acknowledged
      else
        some (.failed (.kernel ⟨code⟩))
  | .done => some .finished
  | .entry _ => none
  | .other _ => none

namespace Occurrence

/- Whether a call was interrupted. -/
def isInterruption : Occurrence → Bool
  | .failure error => error.kind? = some .interrupted
  | _ => false

/- The entry that an occurrence holds, if it is a message. -/
def entryOf?
    (expected : UInt32) : Occurrence → Option Entry
  | .message framed => framed.entryOf? expected
  | _ => none

/-
  The ending that an occurrence calls for, if any, after what
  came before it.  A message counts only if it has the
  expected number; an interrupted call counts only if the
  calls were interrupted as often as they may be repeated.
-/
def ending?
    (expected : UInt32)
    (maxRetries : Nat)
    (before : List Occurrence) :
    Occurrence → Option Ending
  | .message framed =>
      if framed.header.sequence = expected then
        match framed.meaning with
        | .error error => some (.failed (.decode error))
        | .ok kind => kind.ending?
      else
        none
  | .fault error => some (.failed (.decode error))
  | .expiry => some (.failed (.channel .timedOut))
  | .failure error =>
      match error.kind? with
      | some .interrupted =>
          if before.countP isInterruption = maxRetries then
            some <| .failed <| .channel <|
              .interrupted (maxRetries + 1)
          else
            none
      | some .wouldBlock => some (.failed (.channel .timedOut))
      | some .timedOut => some (.failed (.channel .timedOut))
      | some .permissionDenied =>
          some (.failed (.channel (.permissionDenied error)))
      | _ => some (.failed (.channel (.system error)))

/- A message of the exchange calls for what it says. -/
theorem ending?_of_own
    {expected : UInt32}
    {maxRetries : Nat}
    {before : List Occurrence}
    {framed : Framed}
    {kind : Response.Kind}
    (h : framed.Says expected kind) :
    (message framed).ending? expected maxRetries before =
      kind.ending? := by
  simp [ending?, h.1, h.2]

end Occurrence

/-
  Whether an occurrence is the first in a history that calls
  for an ending.
-/
structure FirstEnding
    (expected : UInt32)
    (maxRetries : Nat)
    (history before : List Occurrence)
    (last : Occurrence)
    (ending : Ending) : Prop where
  reached : before ++ [last] <+: history
  undecided :
    ∀ earlier occurrence,
      earlier ++ [occurrence] <+: before →
        occurrence.ending? expected maxRetries earlier = none
  decided :
    last.ending? expected maxRetries before = some ending

------------------------------------------------------------
-- Running an Exchange
------------------------------------------------------------

namespace Progress

/- Take in an occurrence. -/
def onOccurrence
    (expected : UInt32)
    (maxRetries : Nat)
    (progress : Progress) : Occurrence → Step
  | .message framed => (progress.onMessage expected framed).1
  | .fault error => .decided (progress.fail (.decode error))
  | .expiry => .decided (progress.fail (.channel .timedOut))
  | .failure error =>
      match error.kind? with
      | some .interrupted =>
          let interruptions := progress.interruptions + 1
          if maxRetries < interruptions then
            .decided
              (progress.fail
                (.channel (.interrupted interruptions)))
          else
            .further { progress with interruptions }
      | some .wouldBlock =>
          .decided (progress.fail (.channel .timedOut))
      | some .timedOut =>
          .decided (progress.fail (.channel .timedOut))
      | _ =>
          .decided
            (progress.fail
              (.channel (ChannelError.ofSystemError error)))

/- Take in occurrences until the exchange is decided. -/
def run
    (expected : UInt32)
    (maxRetries : Nat) :
    Progress → List Occurrence → Step
  | progress, [] => .further progress
  | progress, occurrence :: rest =>
      match progress.onOccurrence expected maxRetries
        occurrence with
      | .decided result => .decided result
      | .further next => run expected maxRetries next rest

variable {expected : UInt32} {maxRetries : Nat}

theorem run_append
    (progress : Progress)
    (first second : List Occurrence) :
    progress.run expected maxRetries (first ++ second) =
      match progress.run expected maxRetries first with
      | .decided result => .decided result
      | .further next =>
          next.run expected maxRetries second := by
  induction first generalizing progress with
  | nil => rfl
  | cons occurrence first ih =>
      simp only [List.cons_append, run]
      cases progress.onOccurrence expected maxRetries
          occurrence with
      | decided result => rfl
      | further next => exact ih next

/- A decision is not changed by what comes after it. -/
theorem run_of_prefix
    {progress : Progress}
    {first all : List Occurrence}
    {result : Except Error Reply}
    (hPrefix : first <+: all)
    (h : progress.run expected maxRetries first =
      .decided result) :
    progress.run expected maxRetries all = .decided result := by
  rcases hPrefix with ⟨rest, rfl⟩
  rw [run_append, h]

/- The messages of a datagram are taken in one by one. -/
theorem run_messages
    (progress : Progress)
    (messages : List Framed)
    (fault : Option DecodeError) :
    progress.run expected maxRetries
        (messages.map Occurrence.message
          ++ (fault.map Occurrence.fault).toList) =
      (progress.onMessages expected fault messages).1 := by
  induction messages generalizing progress with
  | nil => cases fault <;> rfl
  | cons message messages ih =>
      simp only [List.map_cons, List.cons_append, run,
        onMessages, onOccurrence]
      cases hStep : progress.onMessage expected message with
      | mk step events =>
          cases step with
          | decided result => rfl
          | further next => exact ih next

/- A datagram is taken in message by message. -/
theorem run_datagram
    (progress : Progress)
    (capacity : Nat)
    (bytes : Bytes) :
    progress.run expected maxRetries
        ((ReceiveResult.datagram bytes).occurrences capacity) =
      (progress.onDatagram expected (bytes.take capacity)).1 :=
  run_messages _ _ _

end Progress

namespace Exchange

/-
  What the first call brings decides the exchange, or leads to
  the progress from which the others are received.
-/
theorem collect_cons
    (config : Config)
    (expected : UInt32)
    (progress : Progress)
    (first : ReceiveResult)
    (rest : List ReceiveResult) :
    (progress.run expected config.maxRetries
          (first.occurrences config.capacity) =
        .decided
          (collect config expected progress
            (first :: rest)).result ∧
      (collect config expected progress
        (first :: rest)).rest = rest) ∨
      ∃ next transcript,
        progress.run expected config.maxRetries
            (first.occurrences config.capacity) =
          .further next ∧
        collect config expected progress (first :: rest) =
          (collect config expected next rest).preceded
            transcript := by
  cases first with
  | expired => exact Or.inl ⟨rfl, rfl⟩
  | datagram bytes =>
      rw [Progress.run_datagram, collect]
      cases progress.onDatagram expected
          (bytes.take config.capacity) with
      | mk step events =>
          cases step with
          | decided result => exact Or.inl ⟨rfl, rfl⟩
          | further next => exact Or.inr ⟨next, _, rfl, rfl⟩
  | failed error =>
      rw [collect]
      simp only [ReceiveResult.occurrences, Progress.run,
        Progress.onOccurrence]
      cases error.kind? with
      | none => exact Or.inl ⟨rfl, rfl⟩
      | some kind =>
          cases kind with
          | interrupted =>
              by_cases hLimit :
                  config.maxRetries < progress.interruptions + 1
              · left
                simp [hLimit]
              · simp only [hLimit, if_false]
                exact Or.inr ⟨_, _, rfl, rfl⟩
          | _ => exact Or.inl ⟨rfl, rfl⟩

/-
  Receiving is running over what the calls bring.  It uses the
  first results of the channel and leaves the others; if it
  leaves none, it may meet the silence after them, too.
-/
theorem run_of_collect
    (config : Config)
    (expected : UInt32)
    (progress : Progress)
    (receives : List ReceiveResult) :
    ∃ used met,
      used ++ (collect config expected progress
          receives).rest = receives ∧
        (met = used ∨
          met = receives ++ [silence] ∧ used = receives) ∧
        progress.run expected config.maxRetries
            (ReceiveResult.allOccurrences config.capacity
              met) =
          .decided
            (collect config expected progress
              receives).result := by
  induction receives generalizing progress with
  | nil =>
      -- Only here the silence after the results is met.
      exact ⟨[], [silence], rfl, Or.inr ⟨rfl, rfl⟩, rfl⟩
  | cons first rest ih =>
      rcases collect_cons config expected progress first rest
        with
        ⟨hRun, hLeft⟩ | ⟨next, transcript, hRun, hCollect⟩
      · refine ⟨[first], [first], ?_, Or.inl rfl, ?_⟩
        · rw [hLeft]
          rfl
        · simpa [ReceiveResult.allOccurrences] using hRun
      · rcases ih next with ⟨used, met, hUsed, hMet, hRest⟩
        rw [hCollect]
        refine ⟨first :: used, first :: met, ?_, ?_, ?_⟩
        · exact congrArg (List.cons first) hUsed
        · rcases hMet with hSame | ⟨hAll, hEvery⟩
          · exact Or.inl (congrArg (List.cons first) hSame)
          · refine Or.inr ⟨?_, ?_⟩
            · exact congrArg (List.cons first) hAll
            · exact congrArg (List.cons first) hEvery
        · change
            progress.run expected config.maxRetries
              (first.occurrences config.capacity
                ++ ReceiveResult.allOccurrences
                  config.capacity met) = _
          rw [Progress.run_append, hRun]
          exact hRest

end Exchange

------------------------------------------------------------
-- Messages That Can Occur
------------------------------------------------------------

/- Every message of a datagram was cut off some bytes. -/
theorem Framing.exists_split_of_mem
    {datagram : Bytes}
    {message : Framed}
    (h : message ∈ (ofDatagram datagram).messages) :
    ∃ bytes, Framed.split bytes = .ok message := by
  fun_induction ofDatagram datagram with
  | case1 => simp at h
  | case2 => simp at h
  | case3 datagram hNonempty first hSplit rest ih =>
      rcases List.mem_cons.mp h with hFirst | hRest
      · exact ⟨datagram, by rw [hSplit, hFirst]⟩
      · exact ih hRest

namespace Framed

/- The kind of a message that was cut off some bytes. -/
theorem meaning_of_split
    {bytes : Bytes}
    {message : Framed}
    (h : split bytes = .ok message) :
    message.meaning =
      (Response.ofFramed message).map Response.kind := by
  unfold meaning
  rw [decode_bytes h]
  cases Response.ofFramed message <;> rfl

end Framed

namespace Occurrence

/- Whether a message was cut off some bytes, if it is one. -/
def IsCut : Occurrence → Prop
  | .message framed =>
      ∃ bytes, Framed.split bytes = .ok framed
  | _ => True

end Occurrence

theorem ReceiveResult.isCut_of_mem_occurrences
    {capacity : Nat}
    {result : ReceiveResult}
    {occurrence : Occurrence}
    (h : occurrence ∈ result.occurrences capacity) :
    occurrence.IsCut := by
  cases occurrence with
  | message framed =>
      cases result with
      | datagram bytes =>
          have hMember :
              framed ∈ (Framing.ofDatagram
                (bytes.take capacity)).messages := by
            simpa [occurrences] using h
          exact Framing.exists_split_of_mem hMember
      | failed error => simp [occurrences] at h
      | expired => simp [occurrences] at h
  | _ => trivial

------------------------------------------------------------
-- The First Ending
------------------------------------------------------------

namespace Progress

variable {expected : UInt32} {maxRetries : Nat}

/- A failure keeps the entries that arrived. -/
theorem fail_eq_result
    (progress : Progress)
    (cause : Cause) :
    progress.fail cause =
      (Ending.failed cause).result progress.entries := by
  unfold fail Error.after Ending.result
  cases progress.entries <;> rfl

/- A success with entries delivers them. -/
theorem succeed_eq_result
    (progress : Progress) :
    .ok progress.succeed =
      Ending.acknowledged.result progress.entries := by
  unfold succeed Ending.result
  cases progress.entries <;> rfl

/-
  Whether a progress shows what an exchange has met: the
  entries of the dump, and the calls that were interrupted,
  which are not more than may be repeated.
-/
structure Reflects
    (expected : UInt32)
    (maxRetries : Nat)
    (before : List Occurrence)
    (progress : Progress) : Prop where
  entries :
    progress.entries =
      before.filterMap (Occurrence.entryOf? expected)
  interruptions :
    progress.interruptions =
      before.countP Occurrence.isInterruption
  limited : progress.interruptions ≤ maxRetries

theorem reflects_start :
    Reflects expected maxRetries [] {} :=
  ⟨rfl, rfl, Nat.zero_le _⟩

/-
  What an occurrence does to an exchange: it leads to a
  progress that shows it, too, or to the ending that it calls
  for.
-/
inductive Effect
    (expected : UInt32)
    (maxRetries : Nat)
    (before : List Occurrence)
    (progress : Progress)
    (occurrence : Occurrence) : Step → Prop where
  | further
      (next : Progress)
      (hUndecided :
        occurrence.ending? expected maxRetries before = none)
      (hNext :
        next.Reflects expected maxRetries
          (before ++ [occurrence])) :
      Effect expected maxRetries before progress occurrence
        (.further next)
  | decided
      (ending : Ending)
      (hDecided :
        occurrence.ending? expected maxRetries before =
          some ending) :
      Effect expected maxRetries before progress occurrence
        (.decided (ending.result progress.entries))

/- A message with another number leaves no trace. -/
theorem onMessage_of_ne
    {message : Framed}
    (progress : Progress)
    (h : message.header.sequence ≠ expected) :
    (progress.onMessage expected message).1 =
      .further progress := by
  unfold onMessage
  simp [h]

/- A message of the exchange without a meaning ends it. -/
theorem onMessage_of_meaning_error
    {message : Framed}
    {error : DecodeError}
    (progress : Progress)
    (hCut : (Occurrence.message message).IsCut)
    (hOwn : message.header.sequence = expected)
    (hMeaning : message.meaning = .error error) :
    (progress.onMessage expected message).1 =
      .decided (progress.fail (.decode error)) := by
  rcases hCut with ⟨bytes, hSplit⟩
  rw [Framed.meaning_of_split hSplit] at hMeaning
  unfold onMessage
  cases hResponse : Response.ofFramed message with
  | error fault =>
      rw [hResponse] at hMeaning
      cases hMeaning
      simp [hOwn]
  | ok response =>
      rw [hResponse] at hMeaning
      cases hMeaning

/- A message of the exchange has the effect of its meaning. -/
theorem onMessage_of_own
    {message : Framed}
    {kind : Response.Kind}
    (progress : Progress)
    (hCut : (Occurrence.message message).IsCut)
    (hSays : message.Says expected kind) :
    ∃ reportedChange,
      (progress.onMessage expected message).1 =
        onKind { progress with reportedChange } kind := by
  rcases hCut with ⟨bytes, hSplit⟩
  rcases hSays with ⟨hOwn, hMeaning⟩
  rw [Framed.meaning_of_split hSplit] at hMeaning
  unfold onMessage
  cases hResponse : Response.ofFramed message with
  | error fault =>
      rw [hResponse] at hMeaning
      cases hMeaning
  | ok response =>
      rw [hResponse] at hMeaning
      cases hMeaning
      simp only [hOwn, ne_eq, not_true_eq_false, if_false]
      exact ⟨_, rfl⟩

/- What is neither an entry nor an interruption shows nothing. -/
theorem Reflects.append_silent
    {before : List Occurrence}
    {progress next : Progress}
    {occurrence : Occurrence}
    (h : progress.Reflects expected maxRetries before)
    (hEntry : occurrence.entryOf? expected = none)
    (hCall : occurrence.isInterruption = false)
    (hEntries : next.entries = progress.entries)
    (hInterruptions :
      next.interruptions = progress.interruptions) :
    next.Reflects expected maxRetries
      (before ++ [occurrence]) := by
  refine ⟨?_, ?_, ?_⟩
  · rw [hEntries, h.entries, List.filterMap_append]
    simp [hEntry]
  · rw [hInterruptions, h.interruptions, List.countP_append]
    simp [hCall]
  · rw [hInterruptions]
    exact h.limited

/- A message of the exchange has the effect of what it says. -/
theorem effect_onKind
    {before : List Occurrence}
    {progress : Progress}
    {message : Framed}
    {kind : Response.Kind}
    (h : progress.Reflects expected maxRetries before)
    (hSays : message.Says expected kind)
    (reportedChange : Bool) :
    Effect expected maxRetries before progress
      (.message message)
      (onKind { progress with reportedChange } kind) := by
  have hEnding :
      (Occurrence.message message).ending? expected maxRetries
        before = kind.ending? :=
    Occurrence.ending?_of_own hSays
  cases kind with
  | error code =>
      by_cases hCode : code = 0
      · simp only [onKind, hCode, if_true]
        rw [succeed_eq_result]
        apply Effect.decided
        simp [hEnding, Response.Kind.ending?, hCode]
      · simp only [onKind, hCode, if_false]
        rw [fail_eq_result]
        apply Effect.decided
        simp [hEnding, Response.Kind.ending?, hCode]
  | done => exact Effect.decided Ending.finished hEnding
  | entry entry =>
      refine Effect.further _ hEnding ⟨?_, ?_, h.limited⟩
      · rw [List.filterMap_append, ← h.entries]
        simp [Occurrence.entryOf?, Framed.entryOf?, hSays.1,
          hSays.2]
      · rw [List.countP_append, ← h.interruptions]
        simp [Occurrence.isInterruption]
  | other type =>
      have hEntry :
          (Occurrence.message message).entryOf? expected =
            none := by
        simp [Occurrence.entryOf?, Framed.entryOf?, hSays.1,
          hSays.2]
      exact Effect.further _ hEnding
        (h.append_silent hEntry rfl rfl rfl)

theorem effect_message
    {before : List Occurrence}
    {progress : Progress}
    {message : Framed}
    (h : progress.Reflects expected maxRetries before)
    (hCut : (Occurrence.message message).IsCut) :
    Effect expected maxRetries before progress
      (.message message)
      (progress.onMessage expected message).1 := by
  by_cases hOwn : message.header.sequence = expected
  · cases hMeaning : message.meaning with
    | error error =>
        rw [onMessage_of_meaning_error progress hCut hOwn
          hMeaning, fail_eq_result]
        apply Effect.decided
        simp [Occurrence.ending?, hOwn, hMeaning]
    | ok kind =>
        rcases onMessage_of_own progress hCut
            ⟨hOwn, hMeaning⟩ with ⟨reportedChange, hStep⟩
        rw [hStep]
        exact effect_onKind h ⟨hOwn, hMeaning⟩ reportedChange
  · rw [onMessage_of_ne progress hOwn]
    apply Effect.further
    · simp [Occurrence.ending?, hOwn]
    · have hEntry :
          (Occurrence.message message).entryOf? expected =
            none := by
        simp [Occurrence.entryOf?, Framed.entryOf?, hOwn]
      exact h.append_silent hEntry rfl rfl rfl

theorem effect_failure
    {before : List Occurrence}
    {progress : Progress}
    (error : SystemError)
    (h : progress.Reflects expected maxRetries before) :
    Effect expected maxRetries before progress
      (.failure error)
      (progress.onOccurrence expected maxRetries
        (.failure error)) := by
  simp only [onOccurrence]
  cases hKind : error.kind? with
  | none =>
      simp only [fail_eq_result]
      apply Effect.decided
      simp [Occurrence.ending?, hKind,
        ChannelError.ofSystemError]
  | some kind =>
      cases kind with
      | interrupted =>
          have hLimit := h.limited
          by_cases hLast :
              before.countP Occurrence.isInterruption =
                maxRetries
          · have hMore :
                maxRetries < progress.interruptions + 1 := by
              rw [h.interruptions]
              omega
            simp only [hMore, if_true, fail_eq_result]
            apply Effect.decided
            simp [Occurrence.ending?, hKind, hLast,
              h.interruptions]
          · have hLess :
                ¬ maxRetries < progress.interruptions + 1 := by
              rw [h.interruptions] at hLimit ⊢
              omega
            simp only [hLess, if_false]
            apply Effect.further
            · simp [Occurrence.ending?, hKind, hLast]
            · refine ⟨?_, ?_, Nat.not_lt.mp hLess⟩
              · rw [List.filterMap_append, ← h.entries]
                simp [Occurrence.entryOf?]
              · rw [List.countP_append, ← h.interruptions]
                simp [Occurrence.isInterruption, hKind]
      | _ =>
          simp only [fail_eq_result]
          apply Effect.decided
          simp [Occurrence.ending?, hKind,
            ChannelError.ofSystemError]

/- Every occurrence has the effect that it calls for. -/
theorem effect_onOccurrence
    {before : List Occurrence}
    {progress : Progress}
    {occurrence : Occurrence}
    (h : progress.Reflects expected maxRetries before)
    (hCut : occurrence.IsCut) :
    Effect expected maxRetries before progress occurrence
      (progress.onOccurrence expected maxRetries
        occurrence) := by
  cases occurrence with
  | message message => exact effect_message h hCut
  | failure error => exact effect_failure error h
  | fault error =>
      simp only [onOccurrence, fail_eq_result]
      exact .decided _ rfl
  | expiry =>
      simp only [onOccurrence, fail_eq_result]
      exact .decided _ rfl

/-
  A run that is decided is decided by the first occurrence
  that calls for an ending, with the entries before it.
-/
theorem firstEnding_of_run
    {before history : List Occurrence}
    {progress : Progress}
    {result : Except Error Reply}
    (h : progress.Reflects expected maxRetries before)
    (hUndecided :
      ∀ earlier occurrence,
        earlier ++ [occurrence] <+: before →
          occurrence.ending? expected maxRetries earlier = none)
    (hCut : ∀ occurrence ∈ history, occurrence.IsCut)
    (hRun :
      progress.run expected maxRetries history =
        .decided result) :
    ∃ all last ending,
      FirstEnding expected maxRetries (before ++ history) all
          last ending ∧
        result =
          ending.result
            (all.filterMap (Occurrence.entryOf? expected)) := by
  -- What was met moves from the history to `before`, and the
  -- progress keeps showing it.
  induction history generalizing before progress with
  | nil => cases hRun
  | cons occurrence history ih =>
      have hEffect :=
        effect_onOccurrence h
          (hCut occurrence List.mem_cons_self)
      rw [run] at hRun
      generalize progress.onOccurrence expected maxRetries
        occurrence = step at hRun hEffect
      cases hEffect with
      | decided ending hDecided =>
          cases hRun
          refine ⟨before, occurrence, ending,
            ⟨⟨history, ?_⟩, hUndecided, hDecided⟩, ?_⟩
          · exact List.append_cons before occurrence history |>.symm
          · rw [h.entries]
      | further next hNone hNext =>
          have hLonger :
              ∀ earlier other,
                earlier ++ [other] <+:
                    before ++ [occurrence] →
                  other.ending? expected maxRetries earlier =
                    none := by
            intro earlier other hPrefix
            rcases List.prefix_concat_iff.mp hPrefix with
              hWhole | hEarlier
            · rcases List.append_inj' hWhole rfl with
                ⟨hBefore, hLast⟩
              rw [hBefore, List.singleton_inj.mp hLast]
              exact hNone
            · exact hUndecided earlier other hEarlier
          have hRest :=
            ih hNext hLonger
              (fun other hOther =>
                hCut other (List.mem_cons_of_mem _ hOther))
              hRun
          rw [List.append_cons]
          exact hRest

end Progress

------------------------------------------------------------
-- Receiving a Reply
------------------------------------------------------------

/- The messages of a datagram, if a call delivered one. -/
def ReceiveResult.messages
    (capacity : Nat) : ReceiveResult → List Framed
  | .datagram bytes =>
      (Framing.ofDatagram (bytes.take capacity)).messages
  | .failed _ => []
  | .expired => []

/- The message that was met, if it was one. -/
def Occurrence.message? : Occurrence → Option Framed
  | .message framed => some framed
  | _ => none

/- The entries of occurrences are those of their messages. -/
theorem Occurrence.filterMap_entryOf?
    (own : UInt32)
    (occurrences : List Occurrence) :
    occurrences.filterMap (entryOf? own) =
      (occurrences.filterMap message?).filterMap
        (Framed.entryOf? own) := by
  rw [List.filterMap_filterMap]
  congr 1
  funext occurrence
  cases occurrence <;> rfl

namespace ReceiveResult

theorem filterMap_message?_occurrences
    (capacity : Nat)
    (result : ReceiveResult) :
    (result.occurrences capacity).filterMap
        Occurrence.message? =
      result.messages capacity := by
  cases result with
  | failed error => rfl
  | expired => rfl
  | datagram bytes =>
      simp only [occurrences, messages, List.filterMap_append,
        List.filterMap_map]
      cases (Framing.ofDatagram (bytes.take capacity)).fault <;>
        simp [Function.comp_def, Occurrence.message?]

theorem filterMap_message?_allOccurrences
    (capacity : Nat)
    (results : List ReceiveResult) :
    (allOccurrences capacity results).filterMap
        Occurrence.message? =
      results.flatMap (messages capacity) := by
  unfold allOccurrences
  rw [List.filterMap_flatMap]
  simp only [filterMap_message?_occurrences]

end ReceiveResult

namespace Exchange

/-
  What a channel has in store decides an exchange, through the
  first of what there is to meet.  The messages among it are
  those of the datagrams that receiving takes.
-/
theorem exists_met
    (config : Config)
    (expected : UInt32)
    (channel : Channel) :
    ∃ used met,
      used ++ (receive config expected
          channel).rest.receives = channel.receives ∧
        met <+: history config channel.receives ∧
        met.filterMap Occurrence.message? =
          used.flatMap
            (ReceiveResult.messages config.capacity) ∧
        Progress.run expected config.maxRetries {} met =
          .decided (receive config expected
            channel).result := by
  unfold receive history
  by_cases hTime : config.timeoutMillis = 0
  · simp only [hTime, if_true]
    exact ⟨[], [.expiry], rfl, List.prefix_rfl, rfl, rfl⟩
  · simp only [hTime, if_false]
    rcases run_of_collect config expected {} channel.receives
      with ⟨used, met, hUsed, hMet, hRun⟩
    refine ⟨used,
      ReceiveResult.allOccurrences config.capacity met, hUsed,
      ?_, ?_, hRun⟩
    · rcases hMet with hSame | ⟨hAll, -⟩
      · rw [hSame, ← hUsed, List.append_assoc,
          ReceiveResult.allOccurrences_append]
        exact List.prefix_append _ _
      · subst hAll
        exact List.prefix_rfl
    · rw [ReceiveResult.filterMap_message?_allOccurrences]
      rcases hMet with hSame | ⟨hAll, hEvery⟩
      · rw [hSame]
      · rw [hAll, hEvery, List.flatMap_append]
        exact List.append_nil _

/- The result is that of a run over the whole history. -/
theorem run_history
    (config : Config)
    (expected : UInt32)
    (channel : Channel) :
    Progress.run expected config.maxRetries {}
        (history config channel.receives) =
      .decided (receive config expected channel).result := by
  rcases exists_met config expected channel with
    ⟨used, met, -, hPrefix, -, hRun⟩
  exact Progress.run_of_prefix hPrefix hRun

theorem isCut_of_mem_history
    {config : Config}
    {receives : List ReceiveResult}
    {occurrence : Occurrence}
    (h : occurrence ∈ history config receives) :
    occurrence.IsCut := by
  unfold history at h
  by_cases hTime : config.timeoutMillis = 0
  · rw [if_pos hTime] at h
    rw [List.mem_singleton.mp h]
    trivial
  · rw [if_neg hTime] at h
    rcases List.mem_flatMap.mp h with ⟨result, -, hResult⟩
    exact ReceiveResult.isCut_of_mem_occurrences hResult

/-
  Receiving takes the first results of the channel.  It ends
  with an occurrence up to which all messages are from the
  datagrams that it took.
-/
theorem exists_firstEnding
    (config : Config)
    (expected : UInt32)
    (channel : Channel) :
    ∃ used before last ending,
      used ++ (receive config expected
          channel).rest.receives = channel.receives ∧
        (before ++ [last]).filterMap Occurrence.message? <+:
          used.flatMap
            (ReceiveResult.messages config.capacity) ∧
        FirstEnding expected config.maxRetries
          (history config channel.receives) before last
            ending ∧
        (receive config expected channel).result =
          ending.result
            (before.filterMap (Occurrence.entryOf? expected)) := by
  rcases exists_met config expected channel with
    ⟨used, met, hUsed, hPrefix, hMessages, hRun⟩
  have hCut : ∀ occurrence ∈ met, occurrence.IsCut := by
    intro occurrence hOccurrence
    exact isCut_of_mem_history (hPrefix.subset hOccurrence)
  have hStart :
      ∀ earlier occurrence,
        earlier ++ [occurrence] <+: ([] : List Occurrence) →
          occurrence.ending? expected config.maxRetries
            earlier = none := by
    intro earlier occurrence hEmpty
    simp at hEmpty
  rcases Progress.firstEnding_of_run
      Progress.reflects_start hStart hCut hRun with
    ⟨before, last, ending, hFirst, hResult⟩
  refine ⟨used, before, last, ending, hUsed, ?_,
    ⟨hFirst.reached.trans hPrefix, hFirst.undecided,
      hFirst.decided⟩,
    hResult⟩
  rw [← hMessages]
  exact hFirst.reached.filterMap _

/-
  Receiving ends with the first occurrence in the history of
  the channel that calls for an ending.  There is one, whatever
  the channel does, and the result holds exactly the entries
  that arrived before it.
-/
theorem receive_ends_first
    (config : Config)
    (expected : UInt32)
    (channel : Channel) :
    ∃ before last ending,
      FirstEnding expected config.maxRetries
          (history config channel.receives) before last ending ∧
        (receive config expected channel).result =
          ending.result
            (before.filterMap (Occurrence.entryOf? expected)) := by
  rcases exists_firstEnding config expected channel with
    ⟨used, before, last, ending, -, -, hFirst, hResult⟩
  exact ⟨before, last, ending, hFirst, hResult⟩

end Exchange

end GatewayRules
