import GatewayRules.Proofs.CutDump
import GatewayRules.Proofs.DescribedOptions
import GatewayRules.Proofs.PrintedLines
import GatewayRules.Proofs.PrintedRule
import Mathlib

/-
  What the program does to the gateway.  Options with something
  wrong keep a command from the channel.  Any other command for
  the gateway is one exchange, with one request, and what comes
  of the exchange decides the exit status.  A list is printed
  only after all of it has arrived.

  Main declarations:
    * `Command.Asks` and `Command.asks_of_ofArguments`
    * `Exchange.exists_firstEnding_of_request`
    * `CommandOutcome.ActsOnce`
    * `CommandOutcome.Lists`
    * `CommandOutcome.ofArguments_actsOnce`
    * `CommandOutcome.add_overlooksProfile`
-/

------------------------------------------------------------
-- What Arguments Ask For
------------------------------------------------------------

namespace GatewayRules

namespace Scan

/- Help and the version end everything where they are found. -/
theorem halts_of_find?
    {p : CommandOption → Bool}
    {option : CommandOption}
    (hFind :
      [CommandOption.help, CommandOption.version].find? p =
        some option) :
    option.takesValue = false ∧
      ∃ halt, flag option = .error halt := by
  have hMember := List.mem_of_find?_eq_some hFind
  simp only [List.mem_cons, List.not_mem_nil, or_false]
    at hMember
  rcases hMember with rfl | rfl
  · exact ⟨rfl, .help, rfl⟩
  · exact ⟨rfl, .version, rfl⟩

/- Nothing else is found before the name of a command. -/
theorem exists_halt_of_longForm
    (text : List Char) :
    ∃ halt,
      longForm [.help, .version] text = .error halt := by
  unfold longForm
  cases Split.atFirst? '=' text with
  | none =>
      cases hFind :
          [CommandOption.help, .version].find?
            (·.long.toList = text) with
      | none => exact ⟨.usage, by simp only [hFind]⟩
      | some option =>
          rcases halts_of_find? hFind with
            ⟨hTakes, halt, hFlag⟩
          refine ⟨halt, ?_⟩
          simp only [hFind, hTakes, hFlag]
          rfl
  | some parts =>
      cases hFind :
          [CommandOption.help, .version].find?
            (·.long.toList = parts.1) with
      | none => exact ⟨.usage, by simp only [hFind]⟩
      | some option =>
          rcases halts_of_find? hFind with ⟨hTakes, -⟩
          refine ⟨.usage, ?_⟩
          simp only [hFind, hTakes]
          rfl

theorem exists_halt_of_shortForms
    (char : Char)
    (text : List Char) :
    ∃ halt,
      shortForms [.help, .version] (char :: text) =
        .error halt := by
  unfold shortForms
  cases hFind :
      [CommandOption.help, .version].find?
        (·.short = char) with
  | none => exact ⟨.usage, rfl⟩
  | some option =>
      rcases halts_of_find? hFind with ⟨hTakes, halt, hFlag⟩
      refine ⟨halt, ?_⟩
      simp only [hTakes, hFlag]
      rfl

/-
  The name of a command is the first argument.  There can be
  two hyphens in front of it, but then it is not taken for a
  name.
-/
theorem arguments_eq_of_ofArguments
    {arguments : List (List Char)}
    {scan : Scan}
    (h : ofArguments [.help, .version] arguments = .ok scan) :
    arguments =
      if scan.escaped then
        ['-', '-'] :: scan.words
      else
        scan.words := by
  unfold ofArguments at h
  cases arguments with
  | nil =>
      cases h
      rfl
  | cons argument rest =>
      unfold Scan.scan at h
      split at h
      · cases h
        rfl
      · rename_i text _
        rcases exists_halt_of_longForm text with ⟨halt, hHalt⟩
        rw [hHalt] at h
        cases h
      · rename_i char text _ _
        rcases exists_halt_of_shortForms char text with
          ⟨halt, hHalt⟩
        rw [hHalt] at h
        cases h
      · rename_i hPending
        cases hPending
      · cases h
        rfl

end Scan

namespace Command

/-
  What arguments ask for, command by command: the name is the
  first argument, and the options of a rule are what the other
  ones give.  Only without a name is there nothing to do.
-/
inductive Asks : List String → Command → Prop where
  | add
      (words : List String)
      (given : List Given)
      (options : RuleOptions)
      (mode : AddMode)
      (hGiven :
        optionsOf CommandOption.ofAdd
          (words.map String.toList) = .ok given)
      (hOptions : RuleOptions.ofGiven? given = some options)
      (hMode :
        mode = .replace ↔
          Given.isGiven given .replace = true) :
      Asks ("add" :: words) (.add options mode)
  | delete
      (words : List String)
      (given : List Given)
      (options : RuleOptions)
      (hGiven :
        optionsOf CommandOption.ofRule
          (words.map String.toList) = .ok given)
      (hOptions : RuleOptions.ofGiven? given = some options) :
      Asks ("del" :: words) (.delete options)
  | list (words : List String) : Asks ("list" :: words) .list
  | flush (words : List String) : Asks ("flush" :: words) .flush
  | interfaces (words : List String) :
      Asks ("ifaces" :: words) .interfaces
  | nothing
      (words : List String)
      (hWords : words = [] ∨ words = ["--"]) :
      Asks words .nothing

theorem ofGiven?_of_ruleOptionsOf
    {given : List Given}
    {options : RuleOptions}
    (h : ruleOptionsOf given = .ok options) :
    RuleOptions.ofGiven? given = some options := by
  unfold ruleOptionsOf at h
  split at h
  · cases h
    assumption
  · cases h

/- The command of a name is the one that is asked for by it. -/
theorem asks_of_ofName
    {name : String}
    {words : List String}
    {command : Command}
    (h :
      ofName name (words.map String.toList) = .ok command) :
    Asks (name :: words) command := by
  unfold ofName at h
  split at h
  · rcases bind_eq_ok_iff.mp h with ⟨given, hGiven, hRest⟩
    rcases bind_eq_ok_iff.mp hRest with
      ⟨options, hOptions, hCommand⟩
    cases hCommand
    refine
      .add words given options _ hGiven
        (ofGiven?_of_ruleOptionsOf hOptions) ?_
    cases Given.isGiven given .replace <;> decide
  · rcases bind_eq_ok_iff.mp h with ⟨given, hGiven, hRest⟩
    rcases bind_eq_ok_iff.mp hRest with
      ⟨options, hOptions, hCommand⟩
    cases hCommand
    exact
      .delete words given options hGiven
        (ofGiven?_of_ruleOptionsOf hOptions)
  · rcases bind_eq_ok_iff.mp h with ⟨given, -, hCommand⟩
    cases hCommand
    exact .list words
  · rcases bind_eq_ok_iff.mp h with ⟨given, -, hCommand⟩
    cases hCommand
    exact .flush words
  · rcases bind_eq_ok_iff.mp h with ⟨given, -, hCommand⟩
    cases hCommand
    exact .interfaces words
  · split at h
    · cases h
    · split at h
      · cases h
      · cases h
    · cases h
  · cases h

/- Every command is asked for by the arguments it stems from. -/
theorem asks_of_ofArguments
    {arguments : List String}
    {command : Command}
    (h : ofArguments arguments = .ok command) :
    Asks arguments command := by
  unfold ofArguments at h
  rcases bind_eq_ok_iff.mp h with ⟨scan, hScan, hRest⟩
  have hArguments := Scan.arguments_eq_of_ofArguments hScan
  split at hRest
  · rename_i hWords
    cases hRest
    rw [hWords] at hArguments
    refine .nothing arguments ?_
    cases hEscaped : scan.escaped with
    | true =>
        rw [hEscaped] at hArguments
        rcases List.map_eq_singleton_iff.mp hArguments with
          ⟨word, rfl, hWord⟩
        have hText : word.toList = "--".toList := hWord
        rw [String.toList_inj.mp hText]
        exact Or.inr rfl
    | false =>
        rw [hEscaped] at hArguments
        exact Or.inl (List.map_eq_nil_iff.mp hArguments)
  · rename_i word rest hWords
    rw [hWords] at hArguments
    cases hEscaped : scan.escaped with
    | true =>
        rw [hEscaped] at hRest
        cases hRest
    | false =>
        rw [hEscaped] at hRest hArguments
        rcases List.map_eq_cons_iff.mp hArguments with
          ⟨name, words, rfl, rfl, rfl⟩
        rw [String.ofList_toList] at hRest
        exact asks_of_ofName hRest

end Command

------------------------------------------------------------
-- One Exchange
------------------------------------------------------------

/-
  The entries of a reply are those that arrived with the number
  of the request, in the order of their arrival, before the
  exchange ended.
-/
theorem Exchange.exists_firstEnding_of_request
    {operation : GatewayOperation}
    {channel : Channel}
    {request : Bytes}
    {reply : Reply}
    (hRequest : operation.request 1 = .ok request)
    (hReply :
      (Exchange.request {} request channel).result =
        .ok reply) :
    ∃ before last ending,
      FirstEnding 1 3 (history {} channel.receives) before last
          ending ∧
        GatewayOperation.list.entries reply =
          before.filterMap (Occurrence.entryOf? 1) := by
  have hFirst :
      operation.request
          (Session.numberOf { channel } 0) = .ok request :=
    hRequest
  cases hSent :
      (Gateway.sending { channel } request).result with
  | error error =>
      have hExchange :
          Exchange.request {} request channel = _ :=
        Gateway.request_of_unsent hSent
      rw [hExchange] at hReply
      cases hReply
  | ok =>
      have hExchange :
          Exchange.request {} request channel = _ :=
        Gateway.request_of_sent hFirst hSent
      rw [hExchange] at hReply
      rcases exists_firstEnding {} 1
          (Gateway.sending { channel } request).rest with
        ⟨-, before, last, ending, -, -, hEnds, hResult⟩
      have hReceives :
          (Gateway.sending { channel } request).rest.receives =
            channel.receives :=
        receives_send {} request channel
      have hDelivered :
          ending.result
              (before.filterMap (Occurrence.entryOf? 1)) =
            .ok reply :=
        hResult.symm.trans hReply
      rw [hReceives] at hEnds
      exact
        ⟨before, last, ending, hEnds,
          Ending.entries_of_result_ok hDelivered⟩

namespace CommandOutcome

/-
  Whether a run offers nothing but a request, and that only
  until the channel takes it; and whether it succeeds if the
  exchange does, and otherwise ends with status one.
-/
structure ActsOnce
    (channel : Channel)
    (request : Bytes)
    (outcome : CommandOutcome) : Prop where
  offered :
    ∃ earlier last,
      outcome.transcript.offers = earlier ++ [last] ∧
        ∀ offer ∈ earlier, ¬ offer.IsWhole
  same :
    ∀ offer ∈ outcome.transcript.offers,
      offer.message = request
  succeeds :
    outcome.exitStatus = 0 ↔
      ∃ reply,
        (Exchange.request {} request channel).result = .ok reply
  fails :
    outcome.exitStatus ≠ 0 → outcome.exitStatus = 1

end CommandOutcome

namespace Command

variable {directory : Interface.Directory}
variable {channel : Channel}
variable {operation : GatewayOperation}
variable {request : Bytes}

/- The first operation of a session is one exchange. -/
theorem result_first
    (channel : Channel)
    (hRequest : operation.request 1 = .ok request) :
    (Gateway.perform { channel } operation).result =
      (Exchange.request {} request channel).result.map
        operation.entries := by
  have hFirst :
      operation.request
          (Session.numberOf { channel } 0) = .ok request :=
    hRequest
  rw [Gateway.perform_of_request hFirst rfl]

/- What is printed once the exchange has succeeded. -/
theorem perform_of_reply
    {reply : Reply}
    (hRequest : operation.request 1 = .ok request)
    (hReply :
      (Exchange.request {} request channel).result =
        .ok reply) :
    (perform directory channel operation).exitStatus = 0 ∧
      (perform directory channel operation).output =
        (CommandOutcome.ofLines
          ((operation.entries reply).map
            (entryLine directory))).output := by
  have hResult := result_first channel hRequest
  rw [hReply] at hResult
  unfold perform
  simp only [hResult]
  exact ⟨rfl, rfl⟩

/- Nothing is printed of an exchange that has failed. -/
theorem perform_of_failure
    {error : Error}
    (hRequest : operation.request 1 = .ok request)
    (hError :
      (Exchange.request {} request channel).result =
        .error error) :
    (perform directory channel operation).exitStatus = 1 ∧
      (perform directory channel operation).output = "" := by
  have hResult := result_first channel hRequest
  rw [hError] at hResult
  unfold perform
  simp only [hResult]
  exact ⟨rfl, rfl⟩

/- Carrying out an operation is one exchange. -/
theorem actsOnce_perform
    (hRequest : operation.request 1 = .ok request) :
    (perform directory channel operation).ActsOnce channel
      request := by
  have hValid :
      ∀ rule, operation.rule? = some rule →
        rule.validate = .ok () := by
    intro rule hRule
    cases hValidate : rule.validate with
    | ok => rfl
    | error violation =>
        exact
          absurd hValidate
            (Gateway.valid_of_request hRequest hRule)
  rcases (Gateway.conduct_perform { channel }
      operation).requested hValid with
    ⟨message, earlier, last, hMessage, -, hSame, hAttempt⟩
  cases hRequest.symm.trans hMessage
  -- The status is decided by the exchange with this message.
  refine ⟨⟨earlier, last, hAttempt.offers, hAttempt.notTaken⟩,
    hSame, ?_, ?_⟩
  · cases hResult :
        (Exchange.request {} request channel).result with
    | ok reply =>
        exact
          iff_of_true (perform_of_reply hRequest hResult).1
            ⟨reply, rfl⟩
    | error error =>
        rw [(perform_of_failure hRequest hResult).1]
        refine iff_of_false (by decide) ?_
        rintro ⟨reply, hReply⟩
        cases hReply
  · intro hStatus
    cases hResult :
        (Exchange.request {} request channel).result with
    | ok reply =>
        exact
          absurd (perform_of_reply hRequest hResult).1 hStatus
    | error error =>
        exact (perform_of_failure hRequest hResult).1

end Command

namespace CommandOutcome

/-
  What a run that lists the rules prints: if the exchange
  succeeds, a line for each entry of the reply, in the order
  in which they arrived, and otherwise nothing, however many
  of them did.
-/
structure Lists
    (directory : Interface.Directory)
    (channel : Channel)
    (outcome : CommandOutcome) : Prop where
  printed :
    ∀ reply,
      (Exchange.request {} (Request.dump 1) channel).result =
          .ok reply →
        outcome.exitStatus = 0 ∧
          ∃ before last ending,
            FirstEnding 1 3
                (Exchange.history {} channel.receives) before
                last ending ∧
              GatewayOperation.list.entries reply =
                before.filterMap (Occurrence.entryOf? 1) ∧
              outcome.output.toList.splitOn '\n' =
                ((GatewayOperation.list.entries reply).map
                    fun entry =>
                      (Command.entryLine directory
                        entry).toList)
                  ++ [[]]
  silent :
    ∀ error,
      (Exchange.request {} (Request.dump 1) channel).result =
          .error error →
        outcome.exitStatus = 1 ∧ outcome.output = ""

/- Rules are listed when all of them have arrived. -/
theorem lists_perform
    {directory : Interface.Directory}
    (channel : Channel)
    (hNames : directory.HasLines) :
    (Command.perform directory channel .list).Lists directory
      channel := by
  have hRequest :
      GatewayOperation.list.request 1 =
        .ok (Request.dump 1) :=
    rfl
  refine ⟨?_, ?_⟩
  · intro reply hReply
    rcases Exchange.exists_firstEnding_of_request hRequest
        hReply with ⟨before, last, ending, hFirst, hEntries⟩
    have hPrinted :
        (Command.perform directory channel
            .list).exitStatus = 0 ∧
          (Command.perform directory channel .list).output = _ :=
      Command.perform_of_reply hRequest hReply
    refine
      ⟨hPrinted.1, before, last, ending, hFirst, hEntries, ?_⟩
    rw [hPrinted.2, splitOn_output, List.map_map]
    · rfl
    · intro line hLine
      rcases List.mem_map.mp hLine with ⟨entry, -, rfl⟩
      exact Command.isLine_entryLine hNames entry
  · intro error hError
    exact Command.perform_of_failure hRequest hError

/-
  What a run has to do that was asked to change one rule: leave
  the channel alone if there is something wrong with the
  options, and otherwise act once, with the request for the
  rule that they describe.
-/
structure Changes
    (directory : Interface.Directory)
    (channel : Channel)
    (options : RuleOptions)
    (make : Rule → Except Violation Bytes)
    (outcome : CommandOutcome) : Prop where
  refused :
    options.Faulty directory →
      outcome.exitStatus = 1 ∧ outcome.transcript = {}
  carriedOut :
    ¬ options.Faulty directory →
      ∃ rule request,
        options.Describes directory rule ∧
          make rule = .ok request ∧
          outcome.ActsOnce channel request

/- A rule is described before anything is done about it. -/
theorem changes_run
    {directory : Interface.Directory}
    {channel : Channel}
    {options : RuleOptions}
    {command : Command}
    {operation : Rule → GatewayOperation}
    {make : Rule → Except Violation Bytes}
    (hRun :
      command.run directory channel =
        match options.rule directory with
        | .error complaint => ofComplaint complaint
        | .ok rule =>
            Command.perform directory channel (operation rule))
    (hMake : ∀ rule, (operation rule).request 1 = make rule)
    (hRule : ∀ rule, (operation rule).rule? = some rule) :
    (command.run directory channel).Changes directory channel
      options make := by
  rw [hRun]
  constructor
  · intro hFaulty
    rcases RuleOptions.exists_complaint_iff.mpr hFaulty with
      ⟨complaint, hComplaint⟩
    rw [hComplaint]
    exact ⟨rfl, rfl⟩
  · intro hSound
    rcases RuleOptions.exists_describes hSound with
      ⟨rule, hDescribes⟩
    have hRead := RuleOptions.rule_eq_ok_iff.mpr hDescribes
    rw [hRead]
    cases hRequest : (operation rule).request 1 with
    | error violation =>
        rcases GatewayOperation.request_eq_error_iff.mp
            hRequest with ⟨other, hOther, hInvalid⟩
        cases (hRule rule).symm.trans hOther
        rw [hDescribes.valid] at hInvalid
        cases hInvalid
    | ok request =>
        exact
          ⟨rule, request, hDescribes,
            (hMake rule).symm.trans hRequest,
            Command.actsOnce_perform hRequest⟩

/-
  The program acts on the gateway once or not at all.  A rule
  is added or deleted by one exchange with the request for what
  the options describe, and by none if there is something wrong
  with one of them; and what is listed is printed as a whole or
  not at all.
-/
theorem ofArguments_actsOnce
    {directory : Interface.Directory}
    {arguments : List String}
    {command : Command}
    (channel : Channel)
    (hNames : directory.HasLines)
    (hCommand : Command.ofArguments arguments = .ok command) :
    let outcome := ofArguments directory channel arguments
    Command.Asks arguments command ∧
      (∀ options mode, command = .add options mode →
        outcome.Changes directory channel options
          (Request.add · 1 mode)) ∧
      (∀ options, command = .delete options →
        outcome.Changes directory channel options
          (Request.delete · 1)) ∧
      (command = .list →
        outcome.ActsOnce channel (Request.dump 1) ∧
          outcome.Lists directory channel) ∧
      (command = .flush →
        outcome.ActsOnce channel (Request.flush 1)) ∧
      (command = .interfaces ∨ command = .nothing →
        outcome.transcript = {}) := by
  intro outcome
  have hOutcome :
      outcome = command.run directory channel := by
    unfold outcome ofArguments
    rw [hCommand]
  rw [hOutcome]
  refine
    ⟨Command.asks_of_ofArguments hCommand, ?_, ?_, ?_, ?_, ?_⟩
  · rintro options mode rfl
    exact
      changes_run rfl (fun _ => rfl)
        (fun _ : Rule => rfl)
  · rintro options rfl
    exact
      changes_run rfl (fun _ => rfl)
        (fun _ : Rule => rfl)
  · rintro rfl
    exact
      ⟨Command.actsOnce_perform rfl,
        lists_perform channel hNames⟩
  · rintro rfl
    exact Command.actsOnce_perform rfl
  · rintro (rfl | rfl)
    · simp only [Command.run]
      cases directory.all <;> rfl
    · rfl

/- The names of a system with one interface stay on a line. -/
theorem hasLines_loopback :
    loopback.HasLines := by
  intro index name hName
  have hText : Utf8.decode [0x6C, 0x6F] = ['l', 'o'] := by
    cbv
  have hLo : '\n' ∉ Utf8.decode [0x6C, 0x6F] := by
    rw [hText]
    decide
  unfold loopback Interface.Directory.ofList at hName
  simp only at hName
  split at hName
  · rename_i entry hFound
    have hEntry := List.mem_of_find?_eq_some hFound
    rw [List.mem_singleton] at hEntry
    rw [hEntry] at hName
    cases hName
    exact hLo
  · cases hName

/- A channel that delivers an entry, and then nothing more. -/
def brokenDump : Channel where
  receives := [.datagram (Answer.entry Gateway.plainEntry 1)]

/- A channel that acknowledges the first request. -/
def acknowledging : Channel where
  receives := [.datagram (Answer.error 1 0)]

/- Options for a rule back to where the frames come from. -/
def roundTrip : List String :=
  ["add", "-s", "lo", "-d", "lo"]

/- Options with a destination that there is not. -/
def lostTrip : List String :=
  ["add", "-s", "lo", "-d", "eth0"]

/-
  A list of which only the beginning arrives is not printed, a
  rule is added by one request that is acknowledged, and one
  without a destination by none.
-/
theorem ofArguments_actsOnce_loopback :
    loopback.HasLines ∧
      (Command.ofArguments ["list"] = .ok .list ∧
        (Exchange.request {} (Request.dump 1)
            brokenDump).result =
          .error
            (.partialDump [Gateway.plainEntry]
              (.channel .timedOut)) ∧
        (ofArguments loopback brokenDump
            ["list"]).exitStatus = 1 ∧
        (ofArguments loopback brokenDump ["list"]).output =
          "") ∧
      (∃ options rule request,
        Command.ofArguments roundTrip =
            .ok (.add options .exclusive) ∧
          options.Describes loopback rule ∧
          Request.add rule 1 .exclusive = .ok request ∧
          (ofArguments loopback acknowledging
              roundTrip).ActsOnce acknowledging request ∧
          (ofArguments loopback acknowledging
              roundTrip).exitStatus = 0) ∧
      ∃ options,
        Command.ofArguments lostTrip =
            .ok (.add options .exclusive) ∧
          options.Faulty loopback ∧
          (ofArguments loopback acknowledging
              lostTrip).exitStatus = 1 ∧
          (ofArguments loopback acknowledging
              lostTrip).transcript = {} := by
  have hListed :
      Command.ofArguments ["list"] = .ok .list := by
    cbv
  have hBroken :
      (Exchange.request {} (Request.dump 1) brokenDump).result =
        .error
          (.partialDump [Gateway.plainEntry]
            (.channel .timedOut)) := by
    cbv
  have hAdded :
      ∃ options,
        Command.ofArguments roundTrip =
            .ok (.add options .exclusive) ∧
          ∃ rule, options.rule loopback = .ok rule :=
    ⟨_, by cbv, _, by cbv⟩
  have hLost :
      ∃ options,
        Command.ofArguments lostTrip =
            .ok (.add options .exclusive) ∧
          ∃ complaint,
            options.rule loopback = .error complaint :=
    ⟨_, by cbv, _, by cbv⟩
  refine
    ⟨hasLines_loopback, ⟨hListed, hBroken, ?_⟩, ?_, ?_⟩
  · have hConduct :=
      ofArguments_actsOnce brokenDump hasLines_loopback hListed
    exact (hConduct.2.2.2.1 rfl).2.silent _ hBroken
  · rcases hAdded with ⟨options, hCommand, rule, hRule⟩
    have hConduct :=
      ofArguments_actsOnce acknowledging hasLines_loopback
        hCommand
    have hDescribes := RuleOptions.rule_eq_ok_iff.mp hRule
    have hSound : ¬ options.Faulty loopback :=
      fun hFaulty => hFaulty.not_describes rule hDescribes
    rcases (hConduct.2.1 options .exclusive rfl).carriedOut
        hSound with ⟨other, request, hOther, hRequest, hOnce⟩
    exact
      ⟨options, other, request, hCommand, hOther, hRequest,
        hOnce, by cbv⟩
  · rcases hLost with ⟨options, hCommand, hComplaint⟩
    have hConduct :=
      ofArguments_actsOnce acknowledging hasLines_loopback
        hCommand
    have hFaulty :=
      RuleOptions.exists_complaint_iff.mp hComplaint
    exact
      ⟨options, hCommand, hFaulty,
        (hConduct.2.1 options .exclusive rfl).refused hFaulty⟩

/- Options with a profile beside a checksum that has none. -/
def idleProfile : List String :=
  ["add", "-s", "lo", "-d", "lo", "-m",
    "SET:D:0.8.0011223344556677", "-x", "0:6:7:0", "-p", "bad"]

/-
  A text that is not that of a profile is overlooked beside a
  checksum that has no profile, and the rule is added.
-/
theorem add_overlooksProfile :
    ∃ options,
      Command.ofArguments idleProfile =
          .ok (.add options .exclusive) ∧
        options.profile = some ['b', 'a', 'd'] ∧
        (∀ c, Descriptor.withProfile c ['b', 'a', 'd'] =
          .error (.invalid .crc8Profile ['b', 'a', 'd'])) ∧
        (ofArguments loopback acknowledging
            idleProfile).exitStatus = 0 ∧
        (ofArguments loopback acknowledging
            idleProfile).requests.length = 1 := by
  refine ⟨_, by cbv, by cbv, fun c => by cbv, by cbv, by cbv⟩

end CommandOutcome

end GatewayRules
