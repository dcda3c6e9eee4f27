import GatewayRules.Proofs.InterruptedCalls
import Mathlib

/-
  How often an exchange was interrupted.  An exchange that
  fails after too many interruptions says that they came in a
  row.  It counts all that it met, also those with datagrams
  between them, so that they need not have come in a row.

  Main declarations:
    * `le_countP_of_forall_mem_rtake`
    * `forall_mem_rtake_iff`
    * `Exchange.lt_interruptionsMet_of_interrupted`
    * `Exchange.gaveUp_inARow_iff`
    * `Exchange.gaveUp_notInARow`
-/

------------------------------------------------------------
-- The Last Items
------------------------------------------------------------

namespace GatewayRules

/- One more item in front is not among the last ones. -/
theorem rtake_cons_of_le
    {α : Type}
    {items : List α}
    {n : Nat}
    (item : α)
    (h : n ≤ items.length) :
    (item :: items).rtake n = items.rtake n := by
  unfold List.rtake
  rw [List.length_cons, Nat.succ_sub h, List.drop_succ_cons]

/- The last items count with the others. -/
theorem le_countP_of_forall_mem_rtake
    {α : Type}
    {p : α → Bool}
    {items : List α}
    {n : Nat}
    (hLength : n ≤ items.length)
    (h : ∀ item ∈ items.rtake n, p item = true) :
    n ≤ items.countP p := by
  have hCount := List.countP_eq_length.mpr h
  have hLast : (items.rtake n).Sublist items :=
    List.drop_sublist _ items
  have hMost := hLast.countP_le (p := p)
  rw [hCount, List.rtake, List.length_drop] at hMost
  omega

/-
  The last of some items, as many as have a property, all have
  it just if no other one comes after the first that has it.
-/
theorem forall_mem_rtake_iff
    {α : Type}
    (p : α → Bool)
    (items : List α) :
    (∀ item ∈ items.rtake (items.countP p), p item = true) ↔
      ∀ item ∈ items.dropWhile (fun item => !p item),
        p item = true := by
  induction items with
  | nil => simp
  | cons item items ih =>
      have hMost := items.countP_le_length (p := p)
      cases hItem : p item with
      | false =>
          rw [List.countP_cons_of_neg (by simp [hItem]),
            rtake_cons_of_le item hMost,
            List.dropWhile_cons_of_pos (by simp [hItem])]
          exact ih
      | true =>
          rw [List.countP_cons_of_pos hItem,
            List.dropWhile_cons_of_neg (by simp [hItem])]
          constructor
          · intro hLast
            rw [List.forall_mem_cons]
            refine ⟨hItem, List.countP_eq_length.mp ?_⟩
            -- If one had not, the last ones would be too many.
            by_contra hOther
            have hLess : items.countP p + 1 ≤ items.length :=
              Nat.lt_of_le_of_ne hMost hOther
            rw [rtake_cons_of_le item hLess] at hLast
            exact Nat.not_succ_le_self _
              (le_countP_of_forall_mem_rtake hLess hLast)
          · intro hAll other hOther
            exact hAll other (List.mem_of_mem_drop hOther)

------------------------------------------------------------
-- Failures
------------------------------------------------------------

/- A failure has the cause of its ending. -/
theorem Ending.eq_failed_of_result
    {ending : Ending}
    {entries : List Entry}
    {error : Error}
    (h : ending.result entries = .error error) :
    ending = .failed error.cause := by
  cases ending with
  | finished => cases h
  | acknowledged =>
      simp only [result] at h
      split at h <;> cases h
  | failed cause =>
      simp only [result] at h
      split at h
      all_goals
        cases h
        rfl

namespace Exchange

/- Only too many interruptions make an exchange fail so. -/
theorem lt_interruptionsMet_of_interrupted
    {config : Config}
    {own : UInt32}
    {channel : Channel}
    {error : Error}
    {times : Nat}
    (hResult : (receive config own channel).result = .error error)
    (hCause : error.cause = .channel (.interrupted times)) :
    config.maxRetries <
      interruptionsMet config own channel.receives := by
  by_contra hFew
  unfold receive at hResult
  by_cases hTime : config.timeoutMillis = 0
  · simp only [hTime, if_true] at hResult
    cases hResult
    cases hCause
  · rw [interruptionsMet, if_neg hTime] at hFew
    rw [if_neg hTime] at hResult
    rcases exists_result_collect config own channel.receives
      with ⟨ending, entries, hOther, hEnds⟩
    have hEnding :=
      Ending.eq_failed_of_result
        ((hEnds channel.receives rfl
          (Nat.not_lt.mp hFew)).symm.trans hResult)
    rw [hCause] at hEnding
    exact hOther times hEnding

/-
  The failure after too many interruptions counts all of those
  of the exchange.  The calls that it speaks of were the last
  ones in a row just if no datagram was delivered after the
  first interruption.
-/
theorem gaveUp_inARow_iff
    {config : Config}
    {own : UInt32}
    {channel : Channel}
    {error : Error}
    {times : Nat}
    (hResult : (receive config own channel).result = .error error)
    (hCause : error.cause = .channel (.interrupted times)) :
    ∃ before last after,
      GivesUp config own channel before last after ∧
        let calls := before ++ [.failed last]
        times = calls.countP ReceiveResult.isInterruption ∧
          (∀ call ∈ calls,
            call.isInterruption = true ∨
              ∃ bytes, call = .datagram bytes) ∧
          ((∀ call ∈ calls.rtake times,
              call.isInterruption = true) ↔
            ∀ call ∈
                calls.dropWhile fun call => !call.isInterruption,
              call.isInterruption = true) := by
  rcases exists_givesUp
      (lt_interruptionsMet_of_interrupted hResult hCause) with
    ⟨before, last, after, h⟩
  refine ⟨before, last, after, h, ?_⟩
  intro calls
  have hLast :
      (ReceiveResult.failed last).isInterruption = true :=
    decide_eq_true h.interrupted
  have hCount :
      calls.countP ReceiveResult.isInterruption =
        config.maxRetries + 1 := by
    rw [List.countP_append, h.repeated,
      List.countP_singleton, if_pos hLast]
  have hTimes : times = config.maxRetries + 1 := by
    have hEnding :=
      Ending.eq_failed_of_result
        (h.result.symm.trans hResult)
    rw [hCause] at hEnding
    cases hEnding
    rfl
  rw [← hCount] at hTimes
  refine ⟨hTimes, ?_, ?_⟩
  · intro call hCall
    rcases List.mem_append.mp hCall with hBefore | hEnd
    · cases hKind : call.isInterruption with
      | true => exact Or.inl rfl
      | false =>
          exact Or.inr
            (ReceiveResult.exists_datagram_of_calm
              (h.undecided call hBefore) hKind)
    · rw [List.mem_singleton.mp hEnd]
      exact Or.inl hLast
  · rw [hTimes]
    exact forall_mem_rtake_iff _ _

/- Two interruptions, with a message for others between them. -/
def scattered : Channel where
  receives :=
    [.failed (.ofKind .interrupted),
      .datagram (Answer.error 9 0),
      .failed (.ofKind .interrupted),
      .datagram (Answer.error 1 0)]

theorem gaveUp_inARow_iff_scattered :
    (receive { maxRetries := 1 } 1 scattered).result =
        .error (.plain (.channel (.interrupted 2))) ∧
      ∃ before last after,
        GivesUp { maxRetries := 1 } 1 scattered before last
            after ∧
          2 =
            (before ++ [ReceiveResult.failed last]).countP
              ReceiveResult.isInterruption := by
  have hResult :
      (receive { maxRetries := 1 } 1 scattered).result =
        .error (.plain (.channel (.interrupted 2))) := by
    cbv
  rcases gaveUp_inARow_iff hResult rfl with
    ⟨before, last, after, hGivesUp, hTimes, -, -⟩
  exact ⟨hResult, before, last, after, hGivesUp, hTimes⟩

/-
  Not every such failure follows interruptions in a row: here
  the last two of the three calls delivered a datagram and were
  interrupted.
-/
theorem gaveUp_notInARow :
    ¬ ∀ config own channel error times,
        (receive config own channel).result = .error error →
          error.cause = .channel (.interrupted times) →
            let calls :=
              channel.receives.take
                (receive config own
                  channel).transcript.receiveCalls
            ∀ call ∈ calls.rtake times,
              call.isInterruption = true := by
  intro hRow
  have hResult :
      (receive { maxRetries := 1 } 1 scattered).result =
        .error (.plain (.channel (.interrupted 2))) := by
    cbv
  have hCalls :
      (receive { maxRetries := 1 } 1
        scattered).transcript.receiveCalls = 3 := by
    cbv
  have hDelivered :=
    hRow { maxRetries := 1 } 1 scattered _ 2 hResult rfl
      (.datagram (Answer.error 9 0))
  rw [hCalls] at hDelivered
  have hMember :
      ReceiveResult.datagram (Answer.error 9 0) ∈
        (scattered.receives.take 3).rtake 2 :=
    List.mem_cons_self
  cases hDelivered hMember

end Exchange

end GatewayRules
