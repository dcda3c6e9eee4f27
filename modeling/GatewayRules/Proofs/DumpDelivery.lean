import GatewayRules.Proofs.GatewayRun
import GatewayRules.Proofs.History
import Mathlib

/-
  The delivery of a dump.  The messages of a dump reach the
  exchange that asked for it whatever messages to others come
  between them and however they are put into datagrams.  What
  is listed are then the entries, in order, or the refusal
  that ended the dump together with them.

  Main declarations:
    * `Interleaved`
    * `Terminator`
    * `Exchange.arrivals`
    * `Exchange.run_arrivals`
    * `Gateway.DumpArrives`
    * `Gateway.list_delivers`
-/

------------------------------------------------------------
-- Messages in Between
------------------------------------------------------------

namespace GatewayRules

/- The third list holds the first two in any order. -/
inductive Interleaved {α : Type} :
    List α → List α → List α → Prop where
  | nil : Interleaved [] [] []
  | left
      {x : α}
      {first second all : List α}
      (h : Interleaved first second all) :
      Interleaved (x :: first) second (x :: all)
  | right
      {x : α}
      {first second all : List α}
      (h : Interleaved first second all) :
      Interleaved first (x :: second) (x :: all)

theorem Interleaved.mem_or_mem
    {α : Type}
    {first second all : List α}
    (h : Interleaved first second all)
    {x : α}
    (hMember : x ∈ all) :
    x ∈ first ∨ x ∈ second := by
  induction h with
  | nil => exact Or.inl hMember
  | left h ih =>
      rcases List.mem_cons.mp hMember with rfl | hRest
      · exact Or.inl List.mem_cons_self
      · rcases ih hRest with hFirst | hSecond
        · exact Or.inl (List.mem_cons_of_mem _ hFirst)
        · exact Or.inr hSecond
  | right h ih =>
      rcases List.mem_cons.mp hMember with rfl | hRest
      · exact Or.inr List.mem_cons_self
      · rcases ih hRest with hFirst | hSecond
        · exact Or.inl hFirst
        · exact Or.inr (List.mem_cons_of_mem _ hSecond)

/- A whole message for another exchange. -/
def Framed.Foreign
    (own : UInt32)
    (bytes : Bytes) : Prop :=
  ∃ message : Framed,
    message.Fills bytes ∧ message.header.sequence ≠ own

------------------------------------------------------------
-- The Messages of a Dump
------------------------------------------------------------

namespace Answer

/- The builder of a message with a fixed body. -/
def plainBuilder
    (type flags : UInt16)
    (sequence : UInt32)
    (body : Bytes) : Builder :=
  { type, flags, sequence, body }

/- A message with a fixed body on the boundary is whole. -/
theorem fills_plain
    (type flags : UInt16)
    (sequence : UInt32)
    {body : Bytes}
    (hAligned : 4 ∣ body.length)
    (hShort : Header.size + body.length < UInt32.size) :
    (plainBuilder type flags sequence body).framed.Fills
      (plain type flags sequence body) := by
  have hPlain :
      plain type flags sequence body =
        (plainBuilder type flags sequence body).finish := by
    have hBody : Bytes.padded ([] ++ body) = body :=
      Bytes.padded_of_dvd hAligned
    simp only [plain, plainBuilder, Builder.start,
      Builder.setSequence, Builder.append, hBody]
  rw [hPlain]
  exact Builder.fills_finish hAligned hShort

/- What a message with a fixed body says. -/
theorem exists_whole_plain
    {type : UInt16}
    {body : Bytes}
    {kind : Response.Kind}
    (flags : UInt16)
    (sequence : UInt32)
    (hAligned : 4 ∣ body.length)
    (hShort : Header.size + body.length < UInt32.size)
    (hKind : Response.decodeBody type body = .ok kind) :
    ∃ message : Framed,
      message.Fills (plain type flags sequence body) ∧
        message.Says sequence kind := by
  let builder := plainBuilder type flags sequence body
  have hFills :=
    fills_plain type flags sequence hAligned hShort
  have hBody :
      Response.decodeBody builder.type builder.body =
        .ok kind :=
    hKind
  refine ⟨builder.framed, hFills, rfl, ?_⟩
  rw [Framed.meaning_of_split hFills.split,
    Response.ofFramed_framed hBody]
  rfl

/- The message of an entry in normal form says the entry. -/
theorem exists_whole_entry
    {entry : Entry}
    (sequence : UInt32)
    (hNormal : entry.normalize = entry) :
    ∃ message : Framed,
      message.Fills (Answer.entry entry sequence) ∧
        message.Says sequence (.entry entry) := by
  have hFills := fills_entry entry sequence
  refine ⟨_, hFills, rfl, ?_⟩
  rw [Framed.meaning_of_split hFills.split, ofFramed_entry,
    hNormal]
  rfl

end Answer

/- How the gateway ends a dump. -/
inductive Terminator where
  | done
  | abort (code : Int32)
  | error (code : Int32)
deriving DecidableEq

namespace Terminator

def message
    (sequence : UInt32) : Terminator → Bytes
  | .done => Answer.done sequence
  | .abort code => Answer.abort sequence code
  | .error code => Answer.error sequence code

/- The refusal that a dump ends with, if it does. -/
def refusal? : Terminator → Option KernelError
  | .done => none
  | .abort code => if code < 0 then some ⟨code⟩ else none
  | .error code => if code = 0 then none else some ⟨code⟩

/- What a list of the entries before the end comes to. -/
def outcome
    (terminator : Terminator)
    (entries : List Entry) : Except Error (List Entry) :=
  match terminator.refusal? with
  | none => .ok entries
  | some refusal =>
      if entries = [] then
        .error (.plain (.kernel refusal))
      else
        .error (.partialDump entries (.kernel refusal))

/- What the message at the end of a dump says. -/
def kind : Terminator → Response.Kind
  | .done => .done
  | .abort code => if code < 0 then .error code else .done
  | .error code => .error code

theorem exists_whole
    (terminator : Terminator)
    (sequence : UInt32) :
    ∃ message : Framed,
      message.Fills (terminator.message sequence) ∧
        message.Says sequence terminator.kind := by
  have hAbort (code : Int32) :
      Response.decodeBody MessageType.done
          (Layout.i32.write code) =
        .ok (if code < 0 then .error code else .done) := by
    have hRead :
        Layout.i32.read? (Layout.i32.write code) =
          some code :=
      Layout.i32.read?_write code
    unfold Response.decodeBody
    rw [if_neg (by decide), if_pos rfl, hRead]
    by_cases hCode : code < 0
    · simp only [hCode, if_true]
    · simp only [hCode, if_false]
  cases terminator with
  | done =>
      exact Answer.exists_whole_plain _ sequence (by simp)
        (by simp [Header.size, UInt32.size]) (hAbort 0)
  | abort code =>
      exact Answer.exists_whole_plain _ sequence (by simp)
        (by simp [Header.size, UInt32.size]) (hAbort code)
  | error code =>
      apply Answer.exists_whole_plain 0 sequence
      · simp [Header.size]
      · simp [Header.size, UInt32.size]
      · unfold Response.decodeBody
        rw [if_pos rfl, Layout.read?_write_append]
        rfl

/- The message at the end decides the exchange of a list. -/
theorem decided_onKind
    (terminator : Terminator)
    (progress : Progress) :
    ∃ result,
      progress.onKind terminator.kind = .decided result ∧
        result.map GatewayOperation.list.entries =
          terminator.outcome progress.entries := by
  have hDone :
      ∃ result,
        progress.onKind .done = .decided result ∧
          result.map GatewayOperation.list.entries =
            .ok progress.entries :=
    ⟨_, rfl, rfl⟩
  have hRefused (code : Int32) (hCode : code ≠ 0) :
      ∃ result,
        progress.onKind (.error code) = .decided result ∧
          result.map GatewayOperation.list.entries =
            if progress.entries = [] then
              .error (.plain (.kernel ⟨code⟩))
            else
              .error (.partialDump progress.entries
                (.kernel ⟨code⟩)) := by
    refine ⟨progress.fail (.kernel ⟨code⟩), ?_, ?_⟩
    · simp only [Progress.onKind, hCode, if_false]
    · unfold Progress.fail Error.after
      cases progress.entries <;> rfl
  cases terminator with
  | done => exact hDone
  | abort code =>
      by_cases hCode : code < 0
      · have hNonzero : code ≠ 0 := by
          rintro rfl
          exact absurd hCode (by decide)
        simp only [kind, outcome, refusal?, hCode, if_true]
        exact hRefused code hNonzero
      · simp only [kind, outcome, refusal?, hCode, if_false]
        exact hDone
  | error code =>
      by_cases hCode : code = 0
      · simp only [kind, outcome, refusal?, hCode, if_true]
        refine ⟨.ok progress.succeed, rfl, ?_⟩
        unfold Progress.succeed
        cases progress.entries <;> rfl
      · simp only [kind, outcome, refusal?, hCode, if_false]
        exact hRefused code hCode

end Terminator

------------------------------------------------------------
-- The Arrival of a Dump
------------------------------------------------------------

namespace Exchange

/- What whole messages bring when they arrive. -/
def arrivals (stream : List Bytes) : List Occurrence :=
  stream.flatMap fun bytes =>
    (Framing.ofDatagram bytes).messages.map Occurrence.message

/- It makes no difference how they are put into datagrams. -/
theorem allOccurrences_datagrams
    {capacity : Nat}
    {groups : List (List Bytes)}
    (hWhole :
      ∀ bytes ∈ groups.flatten,
        ∃ message : Framed, message.Fills bytes)
    (hFits :
      ∀ group ∈ groups, group.flatten.length ≤ capacity) :
    ReceiveResult.allOccurrences capacity
        (groups.map fun group => .datagram group.flatten) =
      arrivals groups.flatten := by
  induction groups with
  | nil => rfl
  | cons group groups ih =>
      have hRest :=
        ih
          (fun bytes hBytes =>
            hWhole bytes (List.mem_append_right _ hBytes))
          (fun other hOther =>
            hFits other (List.mem_cons_of_mem _ hOther))
      have hGroup :=
        Framing.ofDatagram_flatten fun bytes hBytes =>
          hWhole bytes (List.mem_append_left _ hBytes)
      have hTake :
          group.flatten.take capacity = group.flatten :=
        List.take_of_length_le (hFits group List.mem_cons_self)
      have hFirst :
          (ReceiveResult.datagram
              group.flatten).occurrences capacity =
            arrivals group := by
        simp only [ReceiveResult.occurrences, hTake, hGroup]
        simp [arrivals, List.map_flatMap]
      change
        (ReceiveResult.datagram
              group.flatten).occurrences capacity
            ++ ReceiveResult.allOccurrences capacity
              (groups.map fun group =>
                .datagram group.flatten) = _
      rw [hFirst, hRest, List.flatten_cons]
      unfold arrivals
      rw [List.flatMap_append]

/- One whole message at the front of a stream is one step. -/
theorem run_arrivals_cons
    {own : UInt32}
    {maxRetries : Nat}
    {message : Framed}
    {bytes : Bytes}
    (hFills : message.Fills bytes)
    (rest : List Bytes)
    (progress : Progress) :
    progress.run own maxRetries (arrivals (bytes :: rest)) =
      match (progress.onMessage own message).1 with
      | .decided result => .decided result
      | .further next =>
          next.run own maxRetries (arrivals rest) := by
  have hArrivals :
      arrivals (bytes :: rest) =
        .message message :: arrivals rest := by
    simp [arrivals, Framing.ofDatagram_of_fills hFills]
  rw [hArrivals]
  rfl

/-
  A dump decides the exchange that asked for it, with what
  arrived before it and its own entries.
-/
theorem run_arrivals
    {own : UInt32}
    {maxRetries : Nat}
    {entries : List Entry}
    {terminator : Terminator}
    {dump others stream : List Bytes}
    (hDump :
      dump =
        entries.map (Answer.entry · own)
          ++ [terminator.message own])
    (hNormal : ∀ entry ∈ entries, entry.normalize = entry)
    (hForeign : ∀ bytes ∈ others, Framed.Foreign own bytes)
    (hStream : Interleaved dump others stream)
    (progress : Progress) :
    ∃ result,
      progress.run own maxRetries (arrivals stream) =
          .decided result ∧
        result.map GatewayOperation.list.entries =
          terminator.outcome (progress.entries ++ entries) := by
  -- The entries that were taken in move to the progress, so
  -- that the outcome stays the same from step to step.
  induction hStream generalizing entries progress with
  | nil => simp at hDump
  | @right bytes dump others stream h ih =>
      rcases hForeign bytes List.mem_cons_self with
        ⟨message, hFills, hOther⟩
      rw [run_arrivals_cons hFills,
        Progress.onMessage_of_ne progress hOther]
      exact ih hDump hNormal
        (fun other hRest =>
          hForeign other (List.mem_cons_of_mem _ hRest))
        progress
  | @left bytes dump others stream h ih =>
      cases entries with
      | nil =>
          have hLast : bytes = terminator.message own :=
            (List.cons.inj hDump).1
          rcases terminator.exists_whole own with
            ⟨message, hFills, hSays⟩
          rw [← hLast] at hFills
          rcases Progress.onMessage_of_own progress
              ⟨bytes, hFills.split⟩ hSays with
            ⟨reportedChange, hMessage⟩
          rcases terminator.decided_onKind
              { progress with reportedChange } with
            ⟨result, hDecided, hResult⟩
          rw [run_arrivals_cons hFills, hMessage, hDecided]
          rw [List.append_nil]
          exact ⟨result, rfl, hResult⟩
      | cons entry entries =>
          have hFirst : bytes = Answer.entry entry own :=
            (List.cons.inj hDump).1
          have hRest := (List.cons.inj hDump).2
          have hEntry := hNormal entry List.mem_cons_self
          rcases Answer.exists_whole_entry own hEntry with
            ⟨message, hFills, hSays⟩
          rw [← hFirst] at hFills
          rcases Progress.onMessage_of_own progress
              ⟨bytes, hFills.split⟩ hSays with
            ⟨reportedChange, hMessage⟩
          rw [run_arrivals_cons hFills, hMessage,
            List.append_cons]
          exact ih hRest
            (fun other hOther =>
              hNormal other (List.mem_cons_of_mem _ hOther))
            hForeign
            { progress with
              reportedChange,
              entries := progress.entries ++ [entry] }

end Exchange

------------------------------------------------------------
-- Listing
------------------------------------------------------------

namespace Gateway

/-
  Whether a whole dump reaches the next operation of a session
  in time, if that is a list: its request is sent in full, and
  the datagrams that come first hold the messages of the dump,
  with messages for others in between, and fit the buffer.
-/
structure DumpArrives
    (session : Session)
    (entries : List Entry)
    (terminator : Terminator) : Prop where
  waits : session.config.timeoutMillis ≠ 0
  sent :
    (sending session
      (Request.dump (session.numberOf 0))).result = .ok ()
  delivered :
    ∃ (others : List Bytes) (groups : List (List Bytes))
        (rest : List ReceiveResult),
      (∀ bytes ∈ others,
        Framed.Foreign (session.numberOf 0) bytes) ∧
      Interleaved
        (entries.map (Answer.entry · (session.numberOf 0))
          ++ [terminator.message (session.numberOf 0)])
        others groups.flatten ∧
      (∀ group ∈ groups,
        group.flatten.length ≤ session.config.capacity) ∧
      session.channel.receives =
        (groups.map fun group => .datagram group.flatten)
          ++ rest

/- The result of a list that a dump reaches. -/
theorem result_list
    {session : Session}
    {entries : List Entry}
    {terminator : Terminator}
    (hNormal : ∀ entry ∈ entries, entry.normalize = entry)
    (hArrives : DumpArrives session entries terminator) :
    (perform session .list).result =
      terminator.outcome entries := by
  let own := session.numberOf 0
  rcases hArrives.delivered with
    ⟨others, groups, rest, hForeign, hStream, hFits,
      hReceives⟩
  have hWhole :
      ∀ bytes ∈ groups.flatten,
        ∃ message : Framed, message.Fills bytes := by
    intro bytes hBytes
    rcases hStream.mem_or_mem hBytes with hDump | hOther
    · rcases List.mem_append.mp hDump with hEntry | hLast
      · rcases List.mem_map.mp hEntry with ⟨entry, -, rfl⟩
        exact ⟨_, Answer.fills_entry entry own⟩
      · rw [List.mem_singleton.mp hLast]
        rcases terminator.exists_whole own with
          ⟨message, hFills, -⟩
        exact ⟨message, hFills⟩
    · rcases hForeign bytes hOther with ⟨message, hFills, -⟩
      exact ⟨message, hFills⟩
  rcases Exchange.run_arrivals rfl hNormal hForeign hStream {}
    with ⟨result, hRun, hResult⟩
  have hHistory :
      Exchange.arrivals groups.flatten <+:
        Exchange.history session.config
          session.channel.receives := by
    unfold Exchange.history
    rw [if_neg hArrives.waits, hReceives,
      ← Exchange.allOccurrences_datagrams hWhole hFits,
      List.append_assoc, ReceiveResult.allOccurrences_append]
    exact List.prefix_append _ _
  have hReceived :
      (receiving session (Request.dump own)).result =
        result := by
    have hSame :
        (sending session
            (Request.dump own)).rest.receives =
          session.channel.receives :=
      Exchange.receives_send _ _ _
    have hWholeRun :=
      Exchange.run_history session.config own
        (sending session (Request.dump own)).rest
    rw [hSame, Progress.run_of_prefix hHistory hRun]
      at hWholeRun
    exact (Step.decided.inj hWholeRun).symm
  have hRequest :
      GatewayOperation.list.request (session.numberOf 0) =
        .ok (Request.dump own) :=
    rfl
  have hSent :
      (sending session (Request.dump own)).result = .ok () :=
    hArrives.sent
  rw [result_perform, hRequest]
  simp only [hSent, hReceived]
  exact hResult

/-
  In any run, a list that a whole dump reaches gives just the
  entries of the dump, in order, or the refusal at its end
  with the entries before it.
-/
theorem list_delivers
    {session : Session}
    {earlier : List GatewayOperation}
    {entries : List Entry}
    {terminator : Terminator}
    (hNormal : ∀ entry ∈ entries, entry.normalize = entry)
    (hArrives :
      DumpArrives (after session earlier) entries terminator)
    (later : List GatewayOperation) :
    (performAll session
          (earlier ++ .list :: later))[earlier.length]?.map
        Performed.result =
      some (terminator.outcome entries) := by
  have hOperation :
      (earlier ++ GatewayOperation.list ::
        later)[earlier.length]? = some .list := by
    simp
  have hEarlier :
      (earlier ++ GatewayOperation.list :: later).take
          earlier.length =
        earlier :=
    List.take_left
  rw [getElem?_performAll, hOperation, hEarlier]
  exact congrArg some (result_list hNormal hArrives)

def plainEntry : Entry where
  rule := Rule.plain ⟨1, by decide⟩ ⟨2, by decide⟩

/-
  A session whose second operation finds the reply to the
  first once more, one entry, and a refusal.
-/
def mixedTraffic : Session where
  channel :=
    { receives :=
        [.datagram (Answer.error 1 0),
          .datagram
            (Answer.error 1 0 ++ Answer.entry plainEntry 2),
          .datagram (Answer.abort 2 (-16))] }

theorem dumpArrives_mixedTraffic :
    DumpArrives (after mixedTraffic [.flush]) [plainEntry]
      (.abort (-16)) := by
  have hNumber :
      (after mixedTraffic [.flush]).numberOf 0 = 2 := by
    cbv
  have hConfig :
      (after mixedTraffic [.flush]).config = {} := by
    cbv
  refine ⟨?_, ?_, ?_⟩
  · rw [hConfig]
    decide
  · rw [hNumber]
    cbv
  · rw [hNumber, hConfig]
    refine ⟨[Answer.error 1 0],
      [[Answer.error 1 0, Answer.entry plainEntry 2],
        [Answer.abort 2 (-16)]],
      [], ?_, .right (.left (.left .nil)), by decide, by cbv⟩
    intro bytes hBytes
    rcases Terminator.exists_whole (.error 0) 1 with
      ⟨message, hFills, hSequence, -⟩
    rw [List.mem_singleton.mp hBytes]
    refine ⟨message, hFills, ?_⟩
    rw [hSequence]
    decide

theorem list_delivers_mixedTraffic :
    (∀ entry ∈ [plainEntry], entry.normalize = entry) ∧
      DumpArrives (after mixedTraffic [.flush]) [plainEntry]
        (.abort (-16)) ∧
      (performAll mixedTraffic [.flush, .list])[1]?.map
          Performed.result =
        some (.error
          (.partialDump [plainEntry] (.kernel ⟨-16⟩))) := by
  have hNormal :
      ∀ entry ∈ [plainEntry], entry.normalize = entry := by
    decide
  exact ⟨hNormal, dumpArrives_mixedTraffic,
    list_delivers hNormal dumpArrives_mixedTraffic []⟩

end Gateway

end GatewayRules
