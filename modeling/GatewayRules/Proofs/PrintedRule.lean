import GatewayRules.Proofs.DescribedRule
import GatewayRules.Proofs.FreshRequest
import Mathlib

/-
  A rule is added by the words of its text.  The program takes
  them for the options of the rule, and the request that it
  sends is the one for this rule.  It refuses the words if the
  checksum of the rule begins with a negative offset, which
  looks like an option.

  Main declarations:
    * `Command.ofName_add_given`
    * `Command.ofName_add_negative`
    * `Gateway.exists_request_add`
    * `CommandOutcome.add_namedWords`
    * `CommandOutcome.add_refusesNegative`
-/

------------------------------------------------------------
-- The Command That Is Given
------------------------------------------------------------

namespace GatewayRules

namespace Command

/- The name of a command is the first argument. -/
theorem ofArguments_add
    (words : List (List Char)) :
    ofArguments ("add" :: words.map String.ofList) =
      ofName "add" words := by
  have hWords :
      (words.map String.ofList).map String.toList = words := by
    simp [Function.comp_def]
  have hScan :
      Scan.ofArguments [.help, .version]
          ("add".toList :: words) =
        .ok { given := [], words := "add".toList :: words } := by
    rfl
  unfold ofArguments
  rw [List.map_cons, hWords, hScan]
  rfl

/- The command to add what options describe. -/
def addOf (given : List Given) : Except Halt Command := do
  let options ← ruleOptionsOf given
  let mode :=
    if Given.isGiven given .replace then
      AddMode.replace
    else
      AddMode.exclusive
  return .add options mode

theorem ofName_add
    (words : List (List Char)) :
    ofName "add" words =
      optionsOf CommandOption.ofAdd words >>= addOf :=
  rfl

theorem ofName_add_of_options
    {words : List (List Char)}
    {given : List Given}
    (hOptions :
      optionsOf CommandOption.ofAdd words = .ok given) :
    ofName "add" words = addOf given := by
  rw [ofName_add, hOptions]
  rfl

/- Options that fit are those of the command to add a rule. -/
theorem ofName_add_given
    {rule : Rule}
    {source destination : List Char}
    (hKnown : rule.flags.isKnown = true)
    (hFits :
      ∀ g ∈ rule.given source destination,
        g.Fits CommandOption.ofAdd) :
    ofName "add"
        ((rule.given source destination).flatMap Given.words) =
      .ok (.add (rule.describing source destination) .exclusive) := by
  have hOptions :
      optionsOf CommandOption.ofAdd
          ((rule.given source destination).flatMap
            Given.words) =
        .ok (rule.given source destination) := by
    unfold optionsOf Scan.ofArguments
    rw [Scan.scan_words hFits]
    rfl
  have hReplace :
      Given.isGiven (rule.given source destination) .replace =
        false := by
    rw [Rule.isGiven_given rfl, RuleFlags.isGiven_given]
    simp [RuleFlags.choices]
  have hRule :
      ruleOptionsOf (rule.given source destination) =
        .ok (rule.describing source destination) := by
    unfold ruleOptionsOf
    rw [Rule.ofGiven?_given hKnown hFits]
  rw [ofName_add_of_options hOptions, addOf, hRule, hReplace]
  rfl

end Command

------------------------------------------------------------
-- Negative Offsets
------------------------------------------------------------

/- A negative number is a sign and a decimal digit. -/
theorem Number.exists_of_neg
    {n : Int}
    (hNegative : n < 0) :
    ∃ char text,
      (signedDecimal n).toList = '-' :: char :: text ∧
        char.isDigit = true := by
  cases n with
  | ofNat n =>
      exact absurd hNegative
        (Int.not_lt.mpr (Int.natCast_nonneg n))
  | negSucc n =>
      have hText :
          (signedDecimal (.negSucc n)).toList =
            '-' :: (decimal (n + 1)).toList := by
        rw [signedDecimal, String.toList_append]
        rfl
      have hDigits :
          ∀ char ∈ (decimal (n + 1)).toList,
            char.isDigit = true := by
        intro char hChar
        rw [decimal, String.toList_ofList] at hChar
        exact Nat.isDigit_of_mem_toDigits (by decide)
          (by decide) hChar
      have hNonempty : (decimal (n + 1)).toList ≠ [] :=
        ne_nil_of_digits? (digits?_decimal (n + 1))
      cases hDecimal : (decimal (n + 1)).toList with
      | nil => exact absurd hDecimal hNonempty
      | cons char text =>
          rw [hDecimal] at hText hDigits
          exact
            ⟨char, text, hText, hDigits char List.mem_cons_self⟩

namespace CommandOption

/- No option has a decimal digit for its short form. -/
theorem find?_short_of_isDigit
    (options : List CommandOption)
    {char : Char}
    (hDigit : char.isDigit = true) :
    options.find? (·.short = char) = none := by
  apply List.find?_eq_none.mpr
  intro option _ hSame
  have hShort : option.short = char := of_decide_eq_true hSame
  rw [← hShort] at hDigit
  cases option <;> revert hDigit <;> decide

end CommandOption

namespace Rule

variable {rule : Rule}
variable {source destination : List Char}

/- The first value of a checksum begins with its offsets. -/
theorem exists_words_checksum
    {c : Checksum}
    (source destination : List Char)
    (hChecksum : rule.checksum = some c) :
    ∃ option back rest,
      option ∈ CommandOption.ofAdd ∧
        option.takesValue = true ∧
        (rule.given source destination).flatMap Given.words =
          (rule.givenBefore source destination).flatMap
              Given.words
            ++ option.word :: (c.offsets.text.toList ++ back)
              :: rest := by
  cases c with
  | xor c =>
      have hXor : rule.xor? = some c := by
        rw [xor?, hChecksum]
      have hCrc8 : rule.crc8? = none := by
        rw [crc8?, hChecksum]
      refine
        ⟨.xor, Hex.byte .upper c.init,
          rule.givenBehind.flatMap Given.words, by decide, rfl,
          ?_⟩
      rw [given, hXor, hCrc8]
      simp only [List.flatMap_append, List.append_assoc]
      rfl
  | crc8 c =>
      have hXor : rule.xor? = none := by
        rw [xor?, hChecksum]
      have hCrc8 : rule.crc8? = some c := by
        rw [crc8?, hChecksum]
      refine
        ⟨.crc8,
          Hex.byte .upper c.init
            ++ ':' :: (Hex.byte .upper c.final
              ++ ':' :: Hex.bytes .upper c.table.bytes),
          (Given.each .profile c.profileValue?.toList).flatMap
              Given.words
            ++ rule.givenBehind.flatMap Given.words,
          by decide, rfl, ?_⟩
      rw [given, hXor, hCrc8]
      simp only [List.flatMap_append, List.append_assoc]
      rfl

end Rule

/-
  The words of a rule whose checksum begins with a negative
  offset are not those of a command: the offset is taken for
  an option.
-/
theorem Command.ofName_add_negative
    {rule : Rule}
    {source destination : List Char}
    {c : Checksum}
    (hSource : source.head? ≠ some '-')
    (hDestination : destination.head? ≠ some '-')
    (hChecksum : rule.checksum = some c)
    (hNegative : c.offsets.first.toInt < 0) :
    ofName "add"
        ((rule.given source destination).flatMap Given.words) =
      .error .usage := by
  rcases Rule.exists_words_checksum source destination
      hChecksum with
    ⟨option, back, rest, hListed, hTakes, hWords⟩
  rcases Number.exists_of_neg hNegative with
    ⟨char, digits, hText, hDigit⟩
  have hChar : char ≠ '-' := by
    rintro rfl
    cases hDigit
  have hScan :
      Scan.ofArguments CommandOption.ofAdd
          ((rule.given source destination).flatMap
            Given.words) =
        .error .usage := by
    rw [hWords, c.offsets.toList_text, hText]
    exact
      Scan.scan_hyphenated
        (Rule.fits_givenBefore hSource hDestination) hListed
        hTakes hChar
        (CommandOption.find?_short_of_isDigit _ hDigit) rest
  rw [ofName_add, optionsOf, hScan]
  rfl

------------------------------------------------------------
-- Requests on a Channel That Takes Them
------------------------------------------------------------

/- A channel without further results takes a request at once. -/
theorem Exchange.sent_send
    {own : UInt32}
    {request : Bytes}
    {config : Config}
    {channel : Channel}
    (hComplete : Request.IsComplete own request)
    (hSends : channel.sends = []) :
    (send config request channel).result = .ok () ∧
      (send config request channel).transcript.sent =
        [request] := by
  unfold send
  rw [hComplete.validate, hSends]
  exact ⟨rfl, rfl⟩

/- What an operation sends over such a channel. -/
theorem Gateway.sent_perform
    {session : Session}
    {operation : GatewayOperation}
    {request : Bytes}
    (hRequest :
      operation.request (session.numberOf 0) = .ok request)
    (hSends : session.channel.sends = []) :
    (perform session operation).transcript.sent =
      [request] := by
  have hSend :
      (sending session request).result = .ok () ∧
        (sending session request).transcript.sent =
          [request] :=
    Exchange.sent_send
      (GatewayOperation.isComplete_request hRequest) hSends
  have hCourse := course_perform session operation
  generalize perform session operation = performed at hCourse ⊢
  cases hCourse with
  | invalid violation hInvalid =>
      rw [hRequest] at hInvalid
      cases hInvalid
  | unsent other error hOther hUnsent =>
      cases hRequest.symm.trans hOther
      cases hSend.1.symm.trans hUnsent
  | answered other hOther hSent =>
      cases hRequest.symm.trans hOther
      have hSilent :
          (receiving session request).transcript.sent = [] := by
        unfold Transcript.sent receiving
        rw [Exchange.offers_receive]
        rfl
      rw [Transcript.sent_append, Transcript.sent_append,
        hSilent, List.append_nil]
      exact (List.append_nil _).trans hSend.2

/-
  Adding a valid rule offers nothing but the one request for
  it, which has the first number of a session.
-/
theorem Gateway.exists_request_add
    {rule : Rule}
    (hValid : rule.validate = .ok ())
    (mode : AddMode)
    (channel : Channel) :
    ∃ request,
      Request.add rule 1 mode = .ok request ∧
        (∀ offer ∈
            (perform { channel }
              (.add rule mode)).transcript.offers,
          offer.message = request) ∧
        (channel.sends = [] →
          (perform { channel } (.add rule mode)).transcript.sent =
            [request]) := by
  have hRules :
      ∀ other,
        (GatewayOperation.add rule mode).rule? = some other →
          other.validate = .ok () := by
    intro other hOther
    cases hOther
    exact hValid
  rcases (conduct_perform { channel } (.add rule mode)).requested
      hRules with
    ⟨request, earlier, last, hRequest, -, hOffers, -⟩
  exact
    ⟨request, hRequest, hOffers, sent_perform hRequest⟩

------------------------------------------------------------
-- Rules by Their Words
------------------------------------------------------------

/-
  Whether no value of a rule looks like an option.  Only one
  that begins with an offset can.
-/
def Rule.NoHyphen (rule : Rule) : Prop :=
  ∀ c, rule.checksum = some c → 0 ≤ c.offsets.first.toInt

namespace Command

variable {rule : Rule}
variable {source destination : List Char}

/- The words of a rule follow the name of the command. -/
theorem ofArguments_namedWords
    (hRule : rule.IsDescribable) :
    ofArguments
        ("add"
          :: (rule.namedWords source destination).map
            String.ofList) =
      ofName "add"
        ((rule.given source destination).flatMap
          Given.words) := by
  rw [ofArguments_add,
    rule.namedWords_eq source destination
      fun m hModification operation f hGet =>
        (hRule.functions m hModification operation f
          hGet).template]

/- Without a hyphen, the words are the options of the rule. -/
theorem ofArguments_of_noHyphen
    (hRule : rule.IsDescribable)
    (hSource : source.head? ≠ some '-')
    (hDestination : destination.head? ≠ some '-')
    (hPlain : rule.NoHyphen) :
    ofArguments
        ("add"
          :: (rule.namedWords source destination).map
            String.ofList) =
      .ok (.add (rule.describing source destination) .exclusive) := by
  rw [ofArguments_namedWords hRule]
  exact ofName_add_given hRule.flags
    (Rule.fits_given hSource hDestination hPlain)

/- With one, they are not the words of a command. -/
theorem ofArguments_of_hyphen
    (hRule : rule.IsDescribable)
    (hSource : source.head? ≠ some '-')
    (hDestination : destination.head? ≠ some '-')
    (hNegative : ¬ rule.NoHyphen) :
    ofArguments
        ("add"
          :: (rule.namedWords source destination).map
            String.ofList) =
      .error .usage := by
  obtain ⟨c, hChecksum, hFirst⟩ :
      ∃ c, rule.checksum = some c ∧
        c.offsets.first.toInt < 0 := by
    simpa [Rule.NoHyphen] using hNegative
  rw [ofArguments_namedWords hRule]
  exact ofName_add_negative hSource hDestination hChecksum
    hFirst

end Command

namespace CommandOutcome

/- A run of the program whose arguments ask to add a rule. -/
theorem ofArguments_of_described
    {arguments : List String}
    {directory : Interface.Directory}
    {options : RuleOptions}
    {mode : AddMode}
    {rule : Rule}
    (channel : Channel)
    (hCommand :
      Command.ofArguments arguments = .ok (.add options mode))
    (hRule : options.rule directory = .ok rule) :
    ofArguments directory channel arguments =
      Command.perform directory channel (.add rule mode) := by
  unfold ofArguments
  rw [hCommand]
  simp only [Command.run, hRule]

theorem ofArguments_of_complaint
    {arguments : List String}
    {directory : Interface.Directory}
    {options : RuleOptions}
    {mode : AddMode}
    {complaint : Complaint}
    (channel : Channel)
    (hCommand :
      Command.ofArguments arguments = .ok (.add options mode))
    (hComplaint : options.rule directory = .error complaint) :
    ofArguments directory channel arguments =
      ofComplaint complaint := by
  unfold ofArguments
  rw [hCommand]
  simp only [Command.run, hComplaint]

theorem ofArguments_of_halt
    {arguments : List String}
    {halt : Halt}
    (directory : Interface.Directory)
    (channel : Channel)
    (hHalt : Command.ofArguments arguments = .error halt) :
    ofArguments directory channel arguments = ofHalt halt := by
  unfold ofArguments
  rw [hHalt]

/-
  What becomes of the words of a rule, behind the name of the
  command and with the names of its interfaces.  If none looks
  like an option, and the functions suit the frames, they are
  the options of this rule, and no request but the one for it
  is sent.  A hyphen makes them no command at all, and a
  function that does not suit the frames is complained about.
  Nothing is sent then.
-/
theorem add_namedWords
    {rule : Rule}
    {directory : Interface.Directory}
    {source destination : List Char}
    (hRule : rule.IsDescribable)
    (hSource : source.head? ≠ some '-')
    (hDestination : destination.head? ≠ some '-')
    (hSourceIndex :
      RuleOptions.interface directory source =
        .ok rule.source)
    (hDestinationIndex :
      RuleOptions.interface directory destination =
        .ok rule.destination)
    (channel : Channel) :
    let arguments :=
      "add"
        :: (rule.namedWords source destination).map
          String.ofList
    let outcome := ofArguments directory channel arguments
    (rule.NoHyphen → rule.Suits →
      ∃ options request,
        Command.ofArguments arguments =
            .ok (.add options .exclusive) ∧
          options.rule directory = .ok rule ∧
          Request.add rule 1 .exclusive = .ok request ∧
          (∀ offer ∈ outcome.transcript.offers,
            offer.message = request) ∧
          (channel.sends = [] →
            outcome.requests = [request])) ∧
    (¬ rule.NoHyphen →
      Command.ofArguments arguments = .error .usage ∧
        outcome.exitStatus = 2 ∧
        outcome.transcript = {}) ∧
    (rule.NoHyphen → ¬ rule.Suits →
      outcome.exitStatus = 1 ∧ outcome.transcript = {}) := by
  intro arguments outcome
  refine ⟨?_, ?_, ?_⟩
  · intro hPlain hSuits
    have hCommand :=
      Command.ofArguments_of_noHyphen hRule hSource
        hDestination hPlain
    have hDescribed :=
      Rule.rule_describing_of_suits hRule hSourceIndex
        hDestinationIndex hSuits
    have hOutcome :
        outcome =
          Command.perform directory channel
            (.add rule .exclusive) :=
      ofArguments_of_described channel hCommand hDescribed
    rcases Gateway.exists_request_add hRule.valid .exclusive
        channel with ⟨request, hRequest, hOffers, hSent⟩
    refine
      ⟨_, request, hCommand, hDescribed, hRequest, ?_, ?_⟩
    · rw [hOutcome]
      exact hOffers
    · intro hSends
      rw [hOutcome]
      exact hSent hSends
  · intro hNegative
    have hUsage :=
      Command.ofArguments_of_hyphen hRule hSource
        hDestination hNegative
    have hOutcome : outcome = ofHalt .usage :=
      ofArguments_of_halt directory channel hUsage
    rw [hOutcome]
    exact ⟨hUsage, rfl, rfl⟩
  · intro hPlain hOther
    have hCommand :=
      Command.ofArguments_of_noHyphen hRule hSource
        hDestination hPlain
    rcases Rule.exists_complaint_of_not_suits hRule
        hSourceIndex hDestinationIndex hOther with
      ⟨complaint, hComplaint⟩
    have hOutcome : outcome = ofComplaint complaint :=
      ofArguments_of_complaint channel hCommand hComplaint
    rw [hOutcome]
    exact ⟨rfl, rfl⟩

theorem ownIndex_ne_zero :
    (1 : UInt32) ≠ 0 :=
  UInt32.zero_ne_one.symm

/- The number that systems give to their own interface. -/
def ownIndex : Interface.Index where
  value := 1
  value_ne_zero := ownIndex_ne_zero

/- The only interface of a system. -/
def loopback : Interface.Directory :=
  .ofList
    [(⟨[0x6C, 0x6F], by decide, by decide, by decide⟩,
      ownIndex)]

/- A rule that overwrites the data, with their checksum. -/
def overwriting (first : Int8) : Rule where
  source := ownIndex
  destination := ownIndex
  modification :=
    some
      { onSet :=
          some
            ⟨Targets.data,
              .classic
                { id := 0x123,
                  length := 8,
                  dlc := 0,
                  data :=
                    Block.zeroFilled 8
                      [1, 2, 3, 4, 5, 6, 7, 8] }⟩ }
  checksum := some (.xor ⟨⟨first, -2, -1⟩, 0⟩)

theorem kind_overwriting
    (first : Int8) :
    (overwriting first).kind = .classic := by
  have hFlags :
      (Flags.empty : RuleFlags).contains RuleFlags.fd =
        false := by
    decide
  exact congrArg FrameKind.ofIsFd hFlags

theorem isDescribable_overwriting
    {first : Int8}
    (hValid : (overwriting first).validate = .ok ()) :
    (overwriting first).IsDescribable where
  valid := hValid
  functions := by
    intro m hModification operation f hGet
    rw [kind_overwriting]
    cases hModification
    cases operation <;> cases hGet
    exact ⟨rfl, by decide, by decide⟩
  uncoded := by
    intro m hModification operation f hGet
    cases hModification
    cases operation <;> cases hGet
    rfl
  flags := by
    have hKnown : (Flags.empty : RuleFlags).isKnown = true := by
      decide
    exact hKnown
  named := by
    intro c hChecksum
    cases hChecksum
  unspecified := by
    intro c hChecksum
    cases hChecksum

theorem suits_overwriting
    (first : Int8) :
    (overwriting first).Suits := by
  intro m hModification operation f hGet
  rw [kind_overwriting]
  cases hModification
  cases operation <;> cases hGet
  exact ⟨rfl, by decide, by decide⟩

theorem add_namedWords_overwriting :
    (overwriting 0).IsDescribable ∧
      ∃ request,
        Request.add (overwriting 0) 1 .exclusive =
            .ok request ∧
          (ofArguments loopback {}
              ["add", "-s", "lo", "-d", "lo", "-m",
                "SET:D:123.8.0102030405060708", "-x",
                "0:-2:-1:00"]).requests =
            [request] := by
  have hRule : (overwriting 0).IsDescribable :=
    isDescribable_overwriting (by decide)
  have hWords :
      ((overwriting 0).namedWords "lo".toList
          "lo".toList).map String.ofList =
        ["-s", "lo", "-d", "lo", "-m",
          "SET:D:123.8.0102030405060708", "-x",
          "0:-2:-1:00"] := by
    cbv
  have hIndex :
      RuleOptions.interface loopback "lo".toList =
        .ok ownIndex := by
    cbv
  have hPlain : (overwriting 0).NoHyphen := by
    intro c hChecksum
    cases hChecksum
    decide
  rcases (add_namedWords hRule (by decide) (by decide) hIndex
      hIndex {}).1 hPlain (suits_overwriting 0) with
    ⟨options, request, -, -, hRequest, -, hSent⟩
  rw [hWords] at hSent
  exact ⟨hRule, request, hRequest, hSent rfl⟩

/-
  The words of a rule whose checksum begins with a negative
  offset are refused, though the rule is valid, suits its
  frames, and can be described.
-/
theorem add_refusesNegative :
    (overwriting (-8)).IsDescribable ∧
      (overwriting (-8)).Suits ∧
      RuleOptions.interface loopback "lo".toList =
        .ok (overwriting (-8)).source ∧
      ((overwriting (-8)).namedWords "lo".toList
          "lo".toList).map String.ofList =
        ["-s", "lo", "-d", "lo", "-m",
          "SET:D:123.8.0102030405060708", "-x",
          "-8:-2:-1:00"] ∧
      ¬ ∃ request,
        Request.add (overwriting (-8)) 1 .exclusive =
            .ok request ∧
          (ofArguments loopback {}
              ["add", "-s", "lo", "-d", "lo", "-m",
                "SET:D:123.8.0102030405060708", "-x",
                "-8:-2:-1:00"]).requests =
            [request] := by
  have hWords :
      ((overwriting (-8)).namedWords "lo".toList
          "lo".toList).map String.ofList =
        ["-s", "lo", "-d", "lo", "-m",
          "SET:D:123.8.0102030405060708", "-x",
          "-8:-2:-1:00"] := by
    cbv
  have hIndex :
      RuleOptions.interface loopback "lo".toList =
        .ok (overwriting (-8)).source := by
    cbv
  have hNothing :
      (ofArguments loopback {}
          ["add", "-s", "lo", "-d", "lo", "-m",
            "SET:D:123.8.0102030405060708", "-x",
            "-8:-2:-1:00"]).requests =
        [] := by
    cbv
  refine
    ⟨isDescribable_overwriting (by decide),
      suits_overwriting (-8), hIndex, hWords, ?_⟩
  rintro ⟨request, -, hSent⟩
  rw [hNothing] at hSent
  cases hSent

end CommandOutcome

end GatewayRules
