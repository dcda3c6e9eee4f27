import GatewayRules.Proofs.ExchangeLog

/-
  What a log shows of an exchange.  The lines about a topic are
  known by how they begin.  A log that shows their level has
  all of them, in the order of arrival, and any other has none.

  Main declarations:
    * `Log.lines` and `Log.headedBy`
    * `Log.heading?` and `Log.startsWith_line_iff`
    * `Log.headedBy_lines`
    * `Exchange.Shows`
    * `Exchange.receive_shows`
-/

------------------------------------------------------------
-- How Lines Begin
------------------------------------------------------------

namespace GatewayRules

namespace Log

/- The lines of a log that shows a level. -/
def lines
    (level : Level)
    (events : List Event) : List String :=
  (Event.atLeast level events).map Event.line

def startsWith (heading line : String) : Bool :=
  heading.toList.isPrefixOf line.toList

/- The lines that begin in some way, in order. -/
def headedBy
    (heading : String)
    (lines : List String) : List String :=
  lines.filter (startsWith heading)

/- How all lines about a topic begin, and their level. -/
def heading? : Event.Topic → Option (Level × String)
  | .datagram => some (.trace, "TRACE Received ")
  | .retry =>
      some (.warn, "WARN Netlink receive interrupted; retry ")
  | .foreign =>
      some (.debug, "DEBUG Discarding netlink message type ")
  | .unrelated =>
      some (.debug, "DEBUG Ignoring netlink message type ")
  | .change =>
      some (.warn, "WARN Rule dump was interrupted by a change; ")
  | .request => none
  | .attribute => none

/- What the line of an event has in front of its details. -/
def opening : Event → String
  | .sending .. => "DEBUG Sending netlink request type "
  | .request _ => "TRACE Request: "
  | .sendInterrupted _ =>
      "WARN Netlink send interrupted; retry "
  | .received _ => "TRACE Received "
  | .receiveInterrupted _ =>
      "WARN Netlink receive interrupted; retry "
  | .discarding .. => "DEBUG Discarding netlink message type "
  | .ignoring .. => "DEBUG Ignoring netlink message type "
  | .dumpInterrupted =>
      "WARN Rule dump was interrupted by a change; "
  | .unknownAttribute .. =>
      "TRACE Skipping unknown gateway attribute "
  | .extraChecksum => "WARN Rule has more than one checksum"
  | .unexpectedDump _ => "DEBUG Unexpected dump of "

theorem exists_details (event : Event) :
    ∃ details, event.line = opening event ++ details := by
  cases event
  -- This line is the same each time, and is split by hand.
  case extraChecksum => exact ⟨"; keeping the first", rfl⟩
  all_goals
    unfold Event.line Event.level Event.text
    dsimp only
    simp only [String.append_assoc]
    exact ⟨_, rfl⟩

variable {topic : Event.Topic}
variable {own : Level}
variable {heading : String}

theorem heading_eq_opening
    {event : Event}
    (hHeading : heading? topic = some (own, heading))
    (hTopic : event.topic = topic) :
    heading = opening event ∧ event.level = own := by
  cases event <;> cases hTopic <;> cases hHeading <;>
    exact ⟨rfl, rfl⟩

/- No line about another topic has the same in front. -/
theorem topic_eq_of_prefix
    {event : Event}
    (hHeading : heading? topic = some (own, heading))
    (hPrefix :
      heading.toList <+: (opening event).toList ∨
        (opening event).toList <+: heading.toList) :
    event.topic = topic := by
  cases topic <;> cases hHeading <;> cases event
  -- Two openings are the same or differ where both have words.
  all_goals
    first
    | rfl
    | dsimp only [opening] at hPrefix
      rw [String.toList_ofList, String.toList_ofList] at hPrefix
      exact absurd hPrefix (by decide)

/- A line shows its topic by how it begins. -/
theorem startsWith_line_iff
    (hHeading : heading? topic = some (own, heading))
    (event : Event) :
    startsWith heading event.line ↔ event.topic = topic := by
  rcases exists_details event with ⟨details, hLine⟩
  unfold startsWith
  rw [hLine, String.toList_append, List.isPrefixOf_iff_prefix]
  constructor
  · intro hPrefix
    apply topic_eq_of_prefix hHeading
    exact
      List.prefix_or_prefix_of_prefix hPrefix
        (List.prefix_append _ _)
  · intro hTopic
    rw [(heading_eq_opening hHeading hTopic).1]
    exact List.prefix_append _ _

/- A log shows all lines about a topic or none. -/
theorem headedBy_lines
    (topic : Event.Topic)
    (hHeading : heading? topic = some (own, heading))
    (level : Level)
    (events : List Event) :
    headedBy heading (lines level events) =
      if own.rank ≤ level.rank then
        (Event.about topic events).map Event.line
      else
        [] := by
  have hSame (event : Event) :
      (startsWith heading event.line &&
          decide (event.level.rank ≤ level.rank)) =
        (decide (event.topic = topic) &&
          decide (own.rank ≤ level.rank)) := by
    by_cases hTopic : event.topic = topic
    · have hLevel := (heading_eq_opening hHeading hTopic).2
      rw [(startsWith_line_iff hHeading event).mpr hTopic,
        hLevel, decide_eq_true hTopic]
    · have hOther : startsWith heading event.line = false := by
        rwa [← Bool.not_eq_true, startsWith_line_iff hHeading]
      rw [hOther, decide_eq_false hTopic, Bool.false_and,
        Bool.false_and]
  unfold headedBy lines Event.atLeast Event.about
  rw [List.filter_map, List.filter_filter]
  simp only [Function.comp_apply, hSame]
  by_cases hShown : own.rank ≤ level.rank
  · simp only [hShown, decide_true, Bool.and_true, if_true]
  · simp [hShown]

end Log

------------------------------------------------------------
-- Logs of Exchanges
------------------------------------------------------------

/-
  Whether the lines of a log show what an exchange met up to
  its last occurrence: at the level of each topic, all that
  there is to say about it, in the order of arrival.
-/
structure Exchange.Shows
    (level : Level)
    (expected : UInt32)
    (maxRetries : Nat)
    (met : List Arrival)
    (last : Occurrence)
    (lines : List String) : Prop where
  inOrder :
    lines =
      Log.lines level
        (Arrival.log expected maxRetries []
          (met ++ [.single last]))
  datagrams :
    Log.headedBy "TRACE Received " lines =
      if level = .trace then
        (met.filterMap Arrival.datagram?).map fun bytes =>
          Event.line (.received bytes)
      else
        []
  foreign :
    Log.headedBy "DEBUG Discarding netlink message type "
        lines =
      if level = .warn then
        []
      else
        ((Arrival.messages (met ++ [.single last])).filterMap
          (Framed.discarded? expected)).map Event.line
  unrelated :
    Log.headedBy "DEBUG Ignoring netlink message type "
        lines =
      if level = .warn then
        []
      else
        ((Arrival.messages (met ++ [.single last])).filterMap
          (Framed.ignored? expected)).map Event.line
  retries :
    Log.headedBy "WARN Netlink receive interrupted; retry "
        lines =
      (List.range' 1
        ((Arrival.occurrences met).countP
          Occurrence.isInterruption)).map fun retry =>
        "WARN Netlink receive interrupted; retry "
          ++ Number.decimal retry
  change :
    Log.headedBy "WARN Rule dump was interrupted by a change; "
        lines =
      if (Arrival.messages (met ++ [.single last])).any
          (Framed.tellsOfChange expected) then
        ["WARN Rule dump was interrupted by a change; "
          ++ "it may be inconsistent"]
      else
        []

namespace Exchange

/- A log shows what its events account for. -/
theorem Accounts.shows
    {expected : UInt32}
    {maxRetries : Nat}
    {met : List Arrival}
    {last : Occurrence}
    {events : List Event}
    (h : Accounts expected maxRetries met last events)
    (level : Level) :
    Shows level expected maxRetries met last
      (Log.lines level events) where
  inOrder := congrArg (Log.lines level) h.inOrder
  datagrams := by
    rw [Log.headedBy_lines .datagram rfl, h.datagrams,
      List.map_map]
    cases level <;> rfl
  foreign := by
    rw [Log.headedBy_lines .foreign rfl, h.foreign]
    cases level <;> rfl
  unrelated := by
    rw [Log.headedBy_lines .unrelated rfl, h.unrelated]
    cases level <;> rfl
  retries := by
    have hShown : Level.warn.rank ≤ level.rank :=
      Nat.zero_le _
    rw [Log.headedBy_lines .retry rfl, h.retries,
      List.map_map, if_pos hShown]
    rfl
  change := by
    have hShown : Level.warn.rank ≤ level.rank :=
      Nat.zero_le _
    rw [Log.headedBy_lines .change rfl, h.change,
      if_pos hShown, apply_ite (List.map Event.line)]
    rfl

/-
  Whatever a channel does, a log at any level shows what the
  exchange met up to the first occurrence that calls for an
  ending.
-/
theorem receive_shows
    (config : Config)
    (expected : UInt32)
    (channel : Channel)
    (level : Level) :
    let outcome := receive config expected channel
    ∃ met last ending,
      met ++ [.single last] <+:
          allArrivals config channel.receives ∧
        FirstEnding expected config.maxRetries
          (history config channel.receives)
          (Arrival.occurrences met) last ending ∧
        outcome.result =
          ending.result
            ((Arrival.messages met).filterMap
              (Framed.entryOf? expected)) ∧
        Shows level expected config.maxRetries met last
          (Log.lines level outcome.transcript.events) := by
  intro outcome
  rcases exists_logged config expected channel with
    ⟨met, last, ending, hMet, hFirst, hResult, hEvents⟩
  refine ⟨met, last, ending, hMet, hFirst, hResult, ?_⟩
  rw [hEvents]
  exact
    (accounts_log hFirst.undecided hFirst.decided).shows level

end Exchange

end GatewayRules
