import GatewayRules.Proofs.DumpDelivery
import Mathlib

/-
  Interrupted calls.  An exchange repeats a call that was
  interrupted, up to a number of times, and keeps what had
  arrived before.  As long as it may repeat them, interrupted
  calls make no difference to its result, wherever they come.
  The first one too many ends it.

  Main declarations:
    * `ReceiveResult.isDecisive`
    * `Exchange.interruptionsMet`
    * `Progress.run_calm` and `Progress.exists_settles`
    * `Exchange.collect_append`
    * `Exchange.GivesUp`
    * `ReceiveResult.Interrupted`
    * `Exchange.receive_despiteInterruptions`
-/

------------------------------------------------------------
-- Occurrences That End an Exchange Anyway
------------------------------------------------------------

namespace GatewayRules

/- No message blames a call. -/
theorem Response.Kind.ending?_ne_channel
    (kind : Response.Kind)
    (cause : ChannelError) :
    kind.ending? ≠ some (.failed (.channel cause)) := by
  cases kind with
  | error code =>
      by_cases hCode : code = 0
      · simp [ending?, hCode]
      · simp [ending?, hCode]
  | _ => simp [ending?]

namespace Occurrence

/-
  Whether an occurrence ends an exchange, however often calls
  were or may be interrupted.
-/
def isDecisive
    (own : UInt32)
    (occurrence : Occurrence) : Bool :=
  !occurrence.isInterruption &&
    (occurrence.ending? own 0 []).isSome

variable {own : UInt32} {occurrence : Occurrence}

/- Interruptions matter to nothing but interruptions. -/
theorem ending?_of_isInterruption_eq_false
    (hCall : occurrence.isInterruption = false)
    (maxRetries : Nat)
    (before : List Occurrence) :
    occurrence.ending? own maxRetries before =
      occurrence.ending? own 0 [] := by
  cases occurrence with
  | message framed => rfl
  | fault error => rfl
  | expiry => rfl
  | failure error =>
      simp only [isInterruption, decide_eq_false_iff_not]
        at hCall
      simp only [ending?]
      split
      · contradiction
      all_goals rfl

theorem ending?_ne_interrupted
    (hCall : occurrence.isInterruption = false)
    (maxRetries times : Nat)
    (before : List Occurrence) :
    occurrence.ending? own maxRetries before ≠
      some (.failed (.channel (.interrupted times))) := by
  cases occurrence with
  | fault error => simp [ending?]
  | expiry => simp [ending?]
  | failure error =>
      simp only [isInterruption, decide_eq_false_iff_not]
        at hCall
      simp only [ending?]
      split
      · contradiction
      all_goals simp
  | message message =>
      simp only [ending?]
      cases message.meaning with
      | error error => simp
      | ok kind => simp [kind.ending?_ne_channel]

/- What is not decisive ends nothing while calls are repeated. -/
theorem ending?_of_calm
    {maxRetries : Nat}
    {before : List Occurrence}
    (hCalm : occurrence.isDecisive own = false)
    (hBudget :
      occurrence.isInterruption = true →
        before.countP isInterruption < maxRetries) :
    occurrence.ending? own maxRetries before = none := by
  cases hCall : occurrence.isInterruption with
  | false =>
      rw [ending?_of_isInterruption_eq_false hCall]
      simpa [isDecisive, hCall] using hCalm
  | true =>
      have hLess := hBudget hCall
      cases occurrence with
      | failure error =>
          simp only [isInterruption, decide_eq_true_eq]
            at hCall
          simp only [ending?, hCall]
          exact if_neg (Nat.ne_of_lt hLess)
      | message framed => cases hCall
      | fault error => cases hCall
      | expiry => cases hCall

end Occurrence

------------------------------------------------------------
-- Running Over Occurrences
------------------------------------------------------------

namespace Progress

variable {own : UInt32} {maxRetries : Nat}

/- What calls for an ending ends the exchange. -/
theorem onOccurrence_of_ending
    {before : List Occurrence}
    {progress : Progress}
    {occurrence : Occurrence}
    {ending : Ending}
    (h : progress.Reflects own maxRetries before)
    (hCut : occurrence.IsCut)
    (hEnding :
      occurrence.ending? own maxRetries before =
        some ending) :
    progress.onOccurrence own maxRetries occurrence =
      .decided (ending.result progress.entries) := by
  have hEffect := effect_onOccurrence h hCut
  generalize progress.onOccurrence own maxRetries occurrence =
    step at hEffect ⊢
  cases hEffect with
  | further next hUndecided =>
      rw [hEnding] at hUndecided
      cases hUndecided
  | decided other hDecided =>
      rw [hEnding] at hDecided
      cases hDecided
      rfl

/- With anything else it goes on. -/
theorem onOccurrence_of_none
    {before : List Occurrence}
    {progress : Progress}
    {occurrence : Occurrence}
    (h : progress.Reflects own maxRetries before)
    (hCut : occurrence.IsCut)
    (hNone :
      occurrence.ending? own maxRetries before = none) :
    ∃ next,
      progress.onOccurrence own maxRetries occurrence =
          .further next ∧
        next.Reflects own maxRetries
          (before ++ [occurrence]) := by
  have hEffect := effect_onOccurrence h hCut
  generalize progress.onOccurrence own maxRetries occurrence =
    step at hEffect ⊢
  cases hEffect with
  | further next hUndecided hNext => exact ⟨next, rfl, hNext⟩
  | decided other hDecided =>
      rw [hNone] at hDecided
      cases hDecided

/-
  An exchange goes on over occurrences that are not decisive,
  while its interrupted calls may be repeated.
-/
theorem run_calm
    {before occurrences : List Occurrence}
    {progress : Progress}
    (h : progress.Reflects own maxRetries before)
    (hCut : ∀ occurrence ∈ occurrences, occurrence.IsCut)
    (hCalm :
      ∀ occurrence ∈ occurrences,
        occurrence.isDecisive own = false)
    (hBudget :
      (before ++ occurrences).countP
        Occurrence.isInterruption ≤ maxRetries) :
    ∃ next,
      progress.run own maxRetries occurrences =
          .further next ∧
        next.Reflects own maxRetries
          (before ++ occurrences) := by
  -- Each occurrence moves to those that the progress shows.
  induction occurrences generalizing before progress with
  | nil =>
      rw [List.append_nil]
      exact ⟨progress, rfl, h⟩
  | cons occurrence occurrences ih =>
      rcases List.forall_mem_cons.mp hCut with
        ⟨hFirstCut, hRestCut⟩
      rcases List.forall_mem_cons.mp hCalm with
        ⟨hFirstCalm, hRestCalm⟩
      have hNone :
          occurrence.ending? own maxRetries before = none := by
        apply Occurrence.ending?_of_calm hFirstCalm
        intro hCall
        rw [List.countP_append, List.countP_cons_of_pos hCall]
          at hBudget
        omega
      rcases onOccurrence_of_none h hFirstCut hNone with
        ⟨next, hStep, hNext⟩
      rw [List.append_cons] at hBudget ⊢
      rw [run, hStep]
      exact ih hNext hRestCut hRestCalm hBudget

/-
  Whether occurrences end every exchange that meets them in
  the same way, with the same entries behind its own.
-/
def Settles
    (own : UInt32)
    (maxRetries : Nat)
    (occurrences : List Occurrence)
    (ending : Ending)
    (entries : List Entry) : Prop :=
  ∀ before (progress : Progress),
    progress.Reflects own maxRetries before →
      progress.run own maxRetries occurrences =
        .decided (ending.result (progress.entries ++ entries))

theorem settles_of_ending
    {occurrence : Occurrence}
    {ending : Ending}
    (hCut : occurrence.IsCut)
    (hCall : occurrence.isInterruption = false)
    (hEnding : occurrence.ending? own 0 [] = some ending)
    (rest : List Occurrence) :
    Settles own maxRetries (occurrence :: rest) ending [] := by
  intro before progress h
  rw [← Occurrence.ending?_of_isInterruption_eq_false hCall
    maxRetries before] at hEnding
  rw [run, onOccurrence_of_ending h hCut hEnding,
    List.append_nil]

/- What ends nothing can only add an entry. -/
theorem Settles.cons
    {occurrence : Occurrence}
    {rest : List Occurrence}
    {ending : Ending}
    {entries : List Entry}
    (hRest : Settles own maxRetries rest ending entries)
    (hCut : occurrence.IsCut)
    (hCall : occurrence.isInterruption = false)
    (hNone : occurrence.ending? own 0 [] = none) :
    Settles own maxRetries (occurrence :: rest) ending
      ((occurrence.entryOf? own).toList ++ entries) := by
  intro before progress h
  rw [← Occurrence.ending?_of_isInterruption_eq_false hCall
    maxRetries before] at hNone
  rcases onOccurrence_of_none h hCut hNone with
    ⟨next, hStep, hNext⟩
  have hEntries :
      next.entries =
        progress.entries
          ++ (occurrence.entryOf? own).toList := by
    rw [hNext.entries, h.entries, List.filterMap_append]
    cases hEntry : occurrence.entryOf? own <;> simp [hEntry]
  rw [run, hStep, ← List.append_assoc, ← hEntries]
  exact hRest _ next hNext

/- A decisive occurrence among others settles an exchange. -/
theorem exists_settles
    {occurrences : List Occurrence}
    (hCut : ∀ occurrence ∈ occurrences, occurrence.IsCut)
    (hCalls :
      ∀ occurrence ∈ occurrences,
        occurrence.isInterruption = false)
    (hDecisive :
      ∃ occurrence ∈ occurrences,
        occurrence.isDecisive own = true) :
    ∃ ending entries,
      Settles own maxRetries occurrences ending entries ∧
        ∀ times,
          ending ≠
            .failed (.channel (.interrupted times)) := by
  induction occurrences with
  | nil =>
      rcases hDecisive with ⟨occurrence, hMember, -⟩
      cases hMember
  | cons occurrence occurrences ih =>
      rcases List.forall_mem_cons.mp hCut with
        ⟨hFirstCut, hRestCut⟩
      rcases List.forall_mem_cons.mp hCalls with
        ⟨hFirstCall, hRestCalls⟩
      cases hEnding : occurrence.ending? own 0 [] with
      | some ending =>
          refine ⟨ending, [],
            settles_of_ending hFirstCut hFirstCall hEnding _,
            ?_⟩
          rintro times rfl
          exact Occurrence.ending?_ne_interrupted hFirstCall 0
            times [] hEnding
      | none =>
          have hLater :
              ∃ other ∈ occurrences,
                other.isDecisive own = true := by
            rcases hDecisive with ⟨other, hMember, hOther⟩
            rcases List.mem_cons.mp hMember with rfl | hRest
            · simp [Occurrence.isDecisive, hEnding] at hOther
            · exact ⟨other, hRest, hOther⟩
          rcases ih hRestCut hRestCalls hLater with
            ⟨ending, entries, hRest, hOther⟩
          exact ⟨ending, _,
            hRest.cons hFirstCut hFirstCall hEnding, hOther⟩

end Progress

------------------------------------------------------------
-- Results of Calls
------------------------------------------------------------

namespace ReceiveResult

/- Whether a call was interrupted. -/
def isInterruption : ReceiveResult → Bool
  | .failed error => error.kind? = some .interrupted
  | _ => false

/- Whether anything that a call brings is decisive. -/
def isDecisive
    (own : UInt32)
    (capacity : Nat)
    (result : ReceiveResult) : Bool :=
  (result.occurrences capacity).any (Occurrence.isDecisive own)

/- The entries of the dump that a call brings. -/
def entries
    (own : UInt32)
    (capacity : Nat)
    (result : ReceiveResult) : List Entry :=
  (result.occurrences capacity).filterMap
    (Occurrence.entryOf? own)

variable {own : UInt32} {capacity : Nat}

theorem isInterruption_of_mem_occurrences
    {result : ReceiveResult}
    {occurrence : Occurrence}
    (h : occurrence ∈ result.occurrences capacity) :
    occurrence.isInterruption = result.isInterruption := by
  cases result with
  | failed error =>
      rw [List.mem_singleton.mp h]
      rfl
  | expired =>
      rw [List.mem_singleton.mp h]
      rfl
  | datagram bytes =>
      rcases List.mem_append.mp h with hMessage | hFault
      · rcases List.mem_map.mp hMessage with ⟨message, -, rfl⟩
        rfl
      · rcases Option.map_eq_some_iff.mp
            (Option.mem_toList.mp hFault) with ⟨fault, -, rfl⟩
        rfl

theorem countP_occurrences
    (result : ReceiveResult) :
    (result.occurrences capacity).countP
        Occurrence.isInterruption =
      [result].countP isInterruption := by
  cases result with
  | failed error => rfl
  | expired => rfl
  | datagram bytes =>
      rw [List.countP_eq_zero.mpr]
      · rfl
      · intro occurrence hMember
        rw [isInterruption_of_mem_occurrences hMember]
        exact Bool.false_ne_true

theorem countP_allOccurrences
    (results : List ReceiveResult) :
    (allOccurrences capacity results).countP
        Occurrence.isInterruption =
      results.countP isInterruption := by
  induction results with
  | nil => rfl
  | cons result results ih =>
      rw [← List.singleton_append, allOccurrences_append,
        List.countP_append, List.countP_append, ih]
      congr 1
      rw [← countP_occurrences]
      exact congrArg _ (List.append_nil _)

theorem filterMap_allOccurrences
    (results : List ReceiveResult) :
    (allOccurrences capacity results).filterMap
        (Occurrence.entryOf? own) =
      results.flatMap (entries own capacity) := by
  unfold allOccurrences
  rw [List.filterMap_flatMap]
  rfl

theorem exists_error_of_isInterruption
    {result : ReceiveResult}
    (h : result.isInterruption = true) :
    ∃ error,
      result = .failed error ∧
        error.kind? = some .interrupted := by
  cases result with
  | datagram bytes => cases h
  | expired => cases h
  | failed error => exact ⟨error, rfl, of_decide_eq_true h⟩

/- An interrupted call decides nothing and brings nothing. -/
theorem of_isInterruption
    {result : ReceiveResult}
    (hCall : result.isInterruption = true) :
    result.isDecisive own capacity = false ∧
      result.entries own capacity = [] := by
  cases result with
  | datagram bytes => cases hCall
  | expired => cases hCall
  | failed error =>
      simp only [isInterruption, decide_eq_true_eq] at hCall
      simp [isDecisive, entries, occurrences,
        Occurrence.isDecisive, Occurrence.isInterruption,
        Occurrence.entryOf?, hCall]

theorem isInterruption_of_isDecisive
    {result : ReceiveResult}
    (h : result.isDecisive own capacity = true) :
    result.isInterruption = false := by
  cases hCall : result.isInterruption with
  | false => rfl
  | true =>
      rw [(of_isInterruption hCall).1] at h
      cases h

/- Any other call that decides nothing delivers a datagram. -/
theorem exists_datagram_of_calm
    {result : ReceiveResult}
    (hCalm : result.isDecisive own capacity = false)
    (hCall : result.isInterruption = false) :
    ∃ bytes, result = .datagram bytes := by
  cases result with
  | datagram bytes => exact ⟨bytes, rfl⟩
  | expired => cases hCalm
  | failed error =>
      simp only [isInterruption, decide_eq_false_iff_not]
        at hCall
      simp only [isDecisive, occurrences, List.any_cons,
        List.any_nil, Bool.or_false, Occurrence.isDecisive,
        Occurrence.isInterruption, hCall, decide_false,
        Bool.not_false, Bool.true_and, Occurrence.ending?]
        at hCalm
      split at hCalm
      · contradiction
      all_goals cases hCalm

/- The results of calls before the first that is decisive. -/
def undecided
    (own : UInt32)
    (capacity : Nat)
    (results : List ReceiveResult) : List ReceiveResult :=
  results.takeWhile fun result =>
    !result.isDecisive own capacity

/- The results of calls from the first that is decisive on. -/
def decided
    (own : UInt32)
    (capacity : Nat)
    (results : List ReceiveResult) : List ReceiveResult :=
  results.dropWhile fun result =>
    !result.isDecisive own capacity

theorem undecided_append_decided
    (own : UInt32)
    (capacity : Nat)
    (results : List ReceiveResult) :
    undecided own capacity results
        ++ decided own capacity results =
      results :=
  List.takeWhile_append_dropWhile

theorem isDecisive_of_mem_undecided
    {results : List ReceiveResult}
    {result : ReceiveResult}
    (h : result ∈ undecided own capacity results) :
    result.isDecisive own capacity = false := by
  simpa using List.mem_takeWhile_imp h

theorem isDecisive_of_mem_head?_decided
    {results : List ReceiveResult}
    {result : ReceiveResult}
    (h : result ∈ (decided own capacity results).head?) :
    result.isDecisive own capacity = true := by
  have hFound :
      results.find? (isDecisive own capacity) =
        some result := by
    rw [List.find?_eq_head?_dropWhile_not]
    exact h
  exact List.find?_some hFound

end ReceiveResult

/- Where a count goes beyond a number. -/
theorem exists_parts_of_lt_countP
    {α : Type}
    {p : α → Bool}
    {items : List α}
    {n : Nat}
    (h : n < items.countP p) :
    ∃ before item after,
      items = before ++ item :: after ∧
        p item = true ∧
        before.countP p = n := by
  induction items generalizing n with
  | nil => cases h
  | cons item items ih =>
      cases hItem : p item with
      | false =>
          rw [List.countP_cons_of_neg (by simp [hItem])] at h
          rcases ih h with
            ⟨before, other, after, rfl, hOther, hCount⟩
          refine ⟨item :: before, other, after, rfl, hOther, ?_⟩
          rw [List.countP_cons_of_neg (by simp [hItem])]
          exact hCount
      | true =>
          cases n with
          | zero => exact ⟨[], item, items, rfl, hItem, rfl⟩
          | succ n =>
              rw [List.countP_cons_of_pos hItem] at h
              rcases ih (Nat.lt_of_succ_lt_succ h) with
                ⟨before, other, after, rfl, hOther, hCount⟩
              refine
                ⟨item :: before, other, after, rfl, hOther, ?_⟩
              rw [List.countP_cons_of_pos hItem, hCount]

/- What happened before adds up. -/
theorem Outcome.preceded_preceded
    {σ α : Type}
    (outcome : Outcome σ α)
    (first second : Transcript) :
    (outcome.preceded second).preceded first =
      outcome.preceded (first.append second) := by
  simp [preceded, Transcript.append, Nat.add_assoc]

------------------------------------------------------------
-- Receiving
------------------------------------------------------------

namespace Exchange

variable {config : Config} {own : UInt32}

/- A call that decides nothing leads on to the next one. -/
theorem collect_calm
    {before : List Occurrence}
    {progress : Progress}
    {result : ReceiveResult}
    (h : progress.Reflects own config.maxRetries before)
    (hCalm : result.isDecisive own config.capacity = false)
    (hBudget :
      progress.interruptions
          + [result].countP ReceiveResult.isInterruption ≤
        config.maxRetries)
    (rest : List ReceiveResult) :
    ∃ next events,
      next.Reflects own config.maxRetries
          (before ++ result.occurrences config.capacity) ∧
        collect config own progress (result :: rest) =
          (collect config own next rest).preceded
            { receiveCalls := 1, events } := by
  rcases Progress.run_calm h
      (fun _ => ReceiveResult.isCut_of_mem_occurrences)
      (by simpa [ReceiveResult.isDecisive] using hCalm)
      (by
        rw [List.countP_append,
          ReceiveResult.countP_occurrences,
          ← h.interruptions]
        exact hBudget) with
    ⟨next, hRun, hNext⟩
  refine ⟨next, ?_⟩
  cases result with
  | expired => cases hCalm
  | datagram bytes =>
      rw [Progress.run_datagram] at hRun
      rw [collect]
      cases hStep : progress.onDatagram own
          (bytes.take config.capacity) with
      | mk step events =>
          rw [hStep] at hRun
          cases hRun
          exact ⟨events, hNext, rfl⟩
  | failed error =>
      cases hCall : (ReceiveResult.failed error).isInterruption
        with
      | false =>
          rcases ReceiveResult.exists_datagram_of_calm hCalm
              hCall with ⟨bytes, hDatagram⟩
          cases hDatagram
      | true =>
          rw [List.countP_cons_of_pos hCall] at hBudget
          simp only [ReceiveResult.isInterruption,
            decide_eq_true_eq] at hCall
          have hLess :
              ¬ config.maxRetries <
                progress.interruptions + 1 := by
            simpa using hBudget
          simp only [ReceiveResult.occurrences, Progress.run,
            Progress.onOccurrence, hCall, hLess, if_false]
            at hRun
          cases hRun
          simp only [collect, hCall, hLess, if_false]
          exact ⟨_, hNext, rfl⟩

/-
  Calls that decide nothing are followed by those to come, with
  all that they brought, while they may be repeated.
-/
theorem collect_append
    {before : List Occurrence}
    {progress : Progress}
    {results : List ReceiveResult}
    (h : progress.Reflects own config.maxRetries before)
    (hCalm :
      ∀ result ∈ results,
        result.isDecisive own config.capacity = false)
    (hBudget :
      progress.interruptions
          + results.countP ReceiveResult.isInterruption ≤
        config.maxRetries)
    (rest : List ReceiveResult) :
    ∃ next events,
      next.Reflects own config.maxRetries
          (before
            ++ ReceiveResult.allOccurrences config.capacity
              results) ∧
        collect config own progress (results ++ rest) =
          (collect config own next rest).preceded
            { receiveCalls := results.length, events } := by
  induction results generalizing before progress with
  | nil =>
      refine ⟨progress, [], ?_, ?_⟩
      · simpa [ReceiveResult.allOccurrences] using h
      · simp [Outcome.preceded, Transcript.append]
  | cons result results ih =>
      rcases List.forall_mem_cons.mp hCalm with
        ⟨hFirst, hRest⟩
      rw [← List.singleton_append, List.countP_append]
        at hBudget
      rcases collect_calm h hFirst (by omega)
          (results ++ rest) with
        ⟨next, events, hNext, hCollect⟩
      have hSpent :
          next.interruptions =
            progress.interruptions
              + [result].countP
                ReceiveResult.isInterruption := by
        rw [hNext.interruptions, List.countP_append,
          ← h.interruptions, ReceiveResult.countP_occurrences]
      rcases ih hNext hRest (by omega) with
        ⟨last, others, hLast, hOthers⟩
      refine ⟨last, events ++ others, ?_, ?_⟩
      · simpa [ReceiveResult.allOccurrences] using hLast
      · rw [List.cons_append, hCollect, hOthers,
          Outcome.preceded_preceded]
        simp [Transcript.append, Nat.add_comm]

/-
  Over results that begin with a decisive one, or with none at
  all, every exchange ends in the same way.  This is never the
  failure after too many interruptions.
-/
theorem exists_ending_collect
    (config : Config)
    (own : UInt32)
    (results : List ReceiveResult)
    (hDecisive :
      ∀ result ∈ results.head?,
        result.isDecisive own config.capacity = true) :
    ∃ ending entries,
      (∀ times,
        ending ≠ Ending.failed (.channel (.interrupted times))) ∧
        ∀ before progress others,
          Progress.Reflects own config.maxRetries before
              progress →
            others.head? = results.head? →
              (collect config own progress others).result =
                ending.result
                  (progress.entries ++ entries) := by
  cases results with
  | nil =>
      refine ⟨.failed (.channel .timedOut), [], by simp, ?_⟩
      intro before progress others h hHead
      rw [List.head?_eq_none_iff.mp hHead, List.append_nil]
      exact progress.fail_eq_result _
  | cons result results =>
      have hCalls :
          ∀ occurrence ∈ result.occurrences config.capacity,
            occurrence.isInterruption = false := by
        intro occurrence hMember
        rw [ReceiveResult.isInterruption_of_mem_occurrences
          hMember]
        exact ReceiveResult.isInterruption_of_isDecisive
          (hDecisive result rfl)
      rcases Progress.exists_settles
          (fun _ => ReceiveResult.isCut_of_mem_occurrences)
          hCalls
          (List.any_eq_true.mp (hDecisive result rfl)) with
        ⟨ending, entries, hSettles, hOther⟩
      refine ⟨ending, entries, hOther, ?_⟩
      intro before progress others h hHead
      rcases List.head?_eq_some_iff.mp hHead with
        ⟨rest, rfl⟩
      have hRun := hSettles before progress h
      rcases collect_cons config own progress result rest with
        ⟨hDecided, -⟩ | ⟨next, transcript, hFurther, -⟩
      · rw [hRun] at hDecided
        exact (Step.decided.inj hDecided).symm
      · rw [hRun] at hFurther
        cases hFurther

/-
  While interrupted calls may be repeated, an exchange ends with
  what the first decisive result calls for, and with what came
  before.
-/
theorem exists_result_collect
    (config : Config)
    (own : UInt32)
    (results : List ReceiveResult) :
    ∃ ending entries,
      (∀ times,
        ending ≠ Ending.failed (.channel (.interrupted times))) ∧
        ∀ others,
          (ReceiveResult.decided own config.capacity
                others).head? =
              (ReceiveResult.decided own config.capacity
                results).head? →
            (ReceiveResult.undecided own config.capacity
                others).countP ReceiveResult.isInterruption ≤
                config.maxRetries →
              (collect config own {} others).result =
                ending.result
                  ((ReceiveResult.undecided own config.capacity
                        others).flatMap
                      (ReceiveResult.entries own
                        config.capacity)
                    ++ entries) := by
  rcases exists_ending_collect config own
      (ReceiveResult.decided own config.capacity results)
      (fun _ => ReceiveResult.isDecisive_of_mem_head?_decided)
    with ⟨ending, entries, hOther, hEnds⟩
  refine ⟨ending, entries, hOther, ?_⟩
  intro others hHead hBudget
  rcases collect_append Progress.reflects_start
      (fun _ => ReceiveResult.isDecisive_of_mem_undecided)
      (by simpa using hBudget)
      (ReceiveResult.decided own config.capacity others) with
    ⟨next, events, hNext, hCollect⟩
  rw [ReceiveResult.undecided_append_decided] at hCollect
  rw [hCollect]
  change
    (collect config own next
      (ReceiveResult.decided own config.capacity
        others)).result = _
  rw [hEnds _ next _ hNext hHead, hNext.entries,
    List.nil_append, ReceiveResult.filterMap_allOccurrences]

------------------------------------------------------------
-- One Interruption Too Many
------------------------------------------------------------

/-
  The interrupted calls of an exchange before anything else
  ends it.  Without any time to wait there are no calls.
-/
def interruptionsMet
    (config : Config)
    (own : UInt32)
    (receives : List ReceiveResult) : Nat :=
  if config.timeoutMillis = 0 then
    0
  else
    (ReceiveResult.undecided own config.capacity
      receives).countP ReceiveResult.isInterruption

/-
  Whether an exchange ends with an interrupted call, just when
  calls were interrupted as often before as may be repeated,
  and keeps the entries that came before it.
-/
structure GivesUp
    (config : Config)
    (own : UInt32)
    (channel : Channel)
    (before : List ReceiveResult)
    (error : SystemError)
    (after : List ReceiveResult) : Prop where
  met : channel.receives = before ++ .failed error :: after
  interrupted : error.kind? = some .interrupted
  repeated :
    before.countP ReceiveResult.isInterruption =
      config.maxRetries
  undecided :
    ∀ result ∈ before,
      result.isDecisive own config.capacity = false
  result :
    (receive config own channel).result =
      (Ending.failed
        (.channel (.interrupted (config.maxRetries + 1)))).result
        (before.flatMap
          (ReceiveResult.entries own config.capacity))
  rest :
    (receive config own channel).rest =
      { channel with receives := after }
  calls :
    (receive config own channel).transcript.receiveCalls =
      before.length + 1

/- When no call may be repeated, an interrupted one is the last. -/
theorem collect_spent
    {progress : Progress}
    {error : SystemError}
    (hSpent : progress.interruptions = config.maxRetries)
    (hKind : error.kind? = some .interrupted)
    (after : List ReceiveResult) :
    collect config own progress (.failed error :: after) =
      { result :=
          (Ending.failed
            (.channel
              (.interrupted (config.maxRetries + 1)))).result
            progress.entries,
        rest := after,
        transcript := { receiveCalls := 1 } } := by
  simp [collect, hKind, hSpent, Progress.fail_eq_result]

/- An interruption too many ends an exchange. -/
theorem exists_givesUp
    {channel : Channel}
    (hMet :
      config.maxRetries <
        interruptionsMet config own channel.receives) :
    ∃ before error after,
      GivesUp config own channel before error after := by
  have hTime : config.timeoutMillis ≠ 0 := by
    intro hNone
    rw [interruptionsMet, if_pos hNone] at hMet
    cases hMet
  rw [interruptionsMet, if_neg hTime] at hMet
  rcases exists_parts_of_lt_countP hMet with
    ⟨before, last, between, hParts, hLast, hCount⟩
  rcases ReceiveResult.exists_error_of_isInterruption hLast with
    ⟨error, rfl, hKind⟩
  have hCalm :
      ∀ result ∈ before,
        result.isDecisive own config.capacity = false := by
    intro result hResult
    have hMember :
        result ∈
          ReceiveResult.undecided own config.capacity
            channel.receives := by
      rw [hParts]
      exact List.mem_append_left _ hResult
    exact ReceiveResult.isDecisive_of_mem_undecided hMember
  have hWhole :=
    ReceiveResult.undecided_append_decided own
      config.capacity channel.receives
  rw [hParts, List.append_assoc, List.cons_append] at hWhole
  generalize between ++ ReceiveResult.decided own
    config.capacity channel.receives = after at hWhole
  rcases collect_append Progress.reflects_start hCalm
      (by simpa using Nat.le_of_eq hCount)
      (.failed error :: after) with
    ⟨next, events, hNext, hCollect⟩
  have hSpent : next.interruptions = config.maxRetries := by
    rw [hNext.interruptions, List.nil_append,
      ReceiveResult.countP_allOccurrences, hCount]
  rw [hWhole, collect_spent hSpent hKind, hNext.entries,
    List.nil_append, ReceiveResult.filterMap_allOccurrences]
    at hCollect
  have hReceive :
      receive config own channel =
        (collect config own {} channel.receives).mapRest
          fun receives => { channel with receives } :=
    if_neg hTime
  rw [hCollect] at hReceive
  refine ⟨before, error, after, hWhole.symm, hKind, hCount,
    hCalm, ?_, ?_, ?_⟩
  all_goals
    rw [hReceive]
    rfl

end Exchange

------------------------------------------------------------
-- Interruptions That Make No Difference
------------------------------------------------------------

namespace ReceiveResult

/-
  Whether interrupted calls were put among others, in front of
  them, between them, or behind them.
-/
inductive Interrupted :
    List ReceiveResult → List ReceiveResult → Prop where
  | nil : Interrupted [] []
  | same
      (result : ReceiveResult)
      {first second : List ReceiveResult}
      (h : Interrupted first second) :
      Interrupted (result :: first) (result :: second)
  | inserted
      {result : ReceiveResult}
      {first second : List ReceiveResult}
      (hCall : result.isInterruption = true)
      (h : Interrupted first second) :
      Interrupted first (result :: second)

variable {own : UInt32} {capacity : Nat}
variable {first second : List ReceiveResult}

theorem Interrupted.countP_le
    (h : Interrupted first second) :
    first.countP isInterruption ≤
      second.countP isInterruption := by
  induction h with
  | nil => rfl
  | same result h ih =>
      rw [List.countP_cons, List.countP_cons]
      exact Nat.add_le_add_right ih _
  | inserted hCall h ih =>
      rw [List.countP_cons]
      exact Nat.le_add_right_of_le ih

/- No entries are lost or added. -/
theorem Interrupted.flatMap_entries
    (h : Interrupted first second) :
    second.flatMap (entries own capacity) =
      first.flatMap (entries own capacity) := by
  induction h with
  | nil => rfl
  | same result h ih =>
      rw [List.flatMap_cons, List.flatMap_cons, ih]
  | inserted hCall h ih =>
      rw [List.flatMap_cons, ih, (of_isInterruption hCall).2,
        List.nil_append]

/- The same result stays the first that is decisive. -/
theorem Interrupted.parts
    (own : UInt32)
    (capacity : Nat)
    (h : Interrupted first second) :
    Interrupted (undecided own capacity first)
        (undecided own capacity second) ∧
      (decided own capacity second).head? =
        (decided own capacity first).head? := by
  unfold undecided decided
  induction h with
  | nil => exact ⟨.nil, rfl⟩
  | same result h ih =>
      cases hDecisive : result.isDecisive own capacity with
      | true => simpa [hDecisive] using Interrupted.nil
      | false =>
          simp only [List.takeWhile_cons, List.dropWhile_cons,
            hDecisive, Bool.not_false, if_true]
          exact ⟨.same result ih.1, ih.2⟩
  | inserted hCall h ih =>
      have hCalm :
          ReceiveResult.isDecisive own capacity _ = false :=
        (of_isInterruption hCall).1
      simp only [List.takeWhile_cons, List.dropWhile_cons,
        hCalm, Bool.not_false, if_true]
      exact ⟨.inserted hCall ih.1, ih.2⟩

end ReceiveResult

namespace Exchange

/-
  Wherever interrupted calls are put among those of an exchange,
  its result stays the same while no more of them are met than
  may be repeated.  If more are met, the exchange ends with the
  first one too many, and keeps the entries before it.
-/
theorem receive_despiteInterruptions
    (config : Config)
    (own : UInt32)
    {first second : Channel}
    (h :
      ReceiveResult.Interrupted first.receives
        second.receives) :
    let met := interruptionsMet config own second.receives
    (met ≤ config.maxRetries →
        (receive config own second).result =
          (receive config own first).result) ∧
      (config.maxRetries < met →
        ∃ before error after,
          GivesUp config own second before error after) := by
  refine ⟨?_, exists_givesUp⟩
  intro hMet
  unfold receive
  by_cases hTime : config.timeoutMillis = 0
  · simp only [hTime, if_true]
  · rw [interruptionsMet, if_neg hTime] at hMet
    simp only [hTime, if_false]
    rcases h.parts own config.capacity with
      ⟨hUndecided, hHead⟩
    rcases exists_result_collect config own first.receives
      with ⟨ending, entries, -, hEnds⟩
    have hFirst :=
      hEnds first.receives rfl
        (Nat.le_trans hUndecided.countP_le hMet)
    have hSecond := hEnds second.receives hHead hMet
    rw [hUndecided.flatMap_entries] at hSecond
    exact hSecond.trans hFirst.symm

/- A dump around a message for another exchange. -/
def steady : Channel where
  receives :=
    [.datagram (Answer.entry Gateway.plainEntry 2),
      .datagram (Answer.error 9 0),
      .datagram (Answer.done 2)]

/- The same with an interruption before it and one within. -/
def disturbed : Channel where
  receives :=
    [.failed (.ofKind .interrupted),
      .datagram (Answer.entry Gateway.plainEntry 2),
      .datagram (Answer.error 9 0),
      .failed (.numbered 4),
      .datagram (Answer.done 2)]

theorem receive_despiteInterruptions_disturbed :
    ReceiveResult.Interrupted steady.receives
        disturbed.receives ∧
      interruptionsMet {} 2 disturbed.receives = 2 ∧
      (receive { maxRetries := 2 } 2 disturbed).result =
        .ok (.entries [Gateway.plainEntry]) ∧
      ∃ before error after,
        GivesUp { maxRetries := 1 } 2 disturbed before error
          after := by
  have hInterrupted :
      ReceiveResult.Interrupted steady.receives
        disturbed.receives :=
    .inserted rfl
      (.same _ (.same _ (.inserted rfl (.same _ .nil))))
  have hMet :
      interruptionsMet {} 2 disturbed.receives = 2 := by
    cbv
  have hSteady :
      (receive { maxRetries := 2 } 2 steady).result =
        .ok (.entries [Gateway.plainEntry]) := by
    cbv
  refine ⟨hInterrupted, hMet, ?_, ?_⟩
  · rw [← hSteady]
    exact
      (receive_despiteInterruptions { maxRetries := 2 } 2
        hInterrupted).1 (Nat.le_of_eq hMet)
  · exact
      (receive_despiteInterruptions { maxRetries := 1 } 2
        hInterrupted).2
        (Nat.lt_of_lt_of_eq Nat.one_lt_two hMet.symm)

end Exchange

end GatewayRules
