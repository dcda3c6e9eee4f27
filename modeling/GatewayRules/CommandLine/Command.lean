import GatewayRules.CommandLine.Descriptor
import GatewayRules.CommandLine.Options
import GatewayRules.Gateway

/-
  Commands: what the arguments of the program ask for, and
  what carrying it out does and prints.

  Key definitions include:
    * `RuleOptions`
    * `RuleOptions.ofGiven?`
    * `RuleOptions.rule`
    * `Command`
    * `Command.ofArguments`
    * `CommandOutcome`
    * `Command.run`
    * `CommandOutcome.ofArguments`
-/

namespace GatewayRules

------------------------------------------------------------
-- Rules from Options
------------------------------------------------------------

/- The options that describe a rule. -/
structure RuleOptions where
  source : List Char
  destination : List Char
  flags : RuleFlags
  filter : Option (List Char)
  modifications : List (List Char)
  xor : Option (List Char)
  crc8 : Option (List Char)
  profile : Option (List Char)
  hops : Option UInt8
  uid : Option (List Char)
deriving DecidableEq

namespace RuleOptions

/- The flag that an option sets. -/
def flagOf
    (given : List Given)
    (option : CommandOption)
    (flag : RuleFlags) : RuleFlags :=
  if Given.isGiven given option then flag else Flags.empty

/-
  Collect the options of a rule.  Both interfaces are needed,
  there can be only one checksum, and a profile comes with a
  table-driven checksum unless there is the other one, beside
  which it has no effect.
-/
def ofGiven? (given : List Given) : Option RuleOptions :=
  let value := Given.value? given
  if !Given.areConsistent given then
    none
  else if (value .xor).isSome && (value .crc8).isSome then
    none
  else if (value .profile).isSome && (value .crc8).isNone
      && (value .xor).isNone then
    none
  else
    match value .source, value .destination with
    | some source, some destination =>
        some
          { source, destination,
            flags :=
              (((flagOf given .echo RuleFlags.echo).union
                (flagOf given .timestamp
                  RuleFlags.sourceTimestamp)).union
                (flagOf given .sendBack RuleFlags.sendBack)).union
                (flagOf given .fd RuleFlags.fd),
            filter := value .filter,
            modifications :=
              Given.values given .modify
                ++ Given.values given .fdModify,
            xor := value .xor,
            crc8 := value .crc8,
            profile := value .profile,
            hops := (value .hops).bind CommandOption.hopsOf?,
            uid := value .uid }
    | _, _ => none

/- The index of an interface that is given by name. -/
def interface
    (directory : Interface.Directory)
    (text : List Char) : Except Complaint Interface.Index := do
  let name ← Descriptor.checked (Interface.Name.ofText text)
  (directory.index name).mapError Complaint.ofLookup

/- The kind of frames that the options ask for. -/
def kind (options : RuleOptions) : FrameKind :=
  FrameKind.ofIsFd (options.flags.contains RuleFlags.fd)

/- The setting that an option stands for, if it is given. -/
def setting
    {α : Type}
    (option : Option α)
    (make : α → Except Complaint Rule.Setting) :
    Except Complaint (List Rule.Setting) :=
  match option with
  | none => .ok []
  | some value => do return [← make value]

/- The modification that the options describe, if any does. -/
def modificationTexts
    (options : RuleOptions) : Option (List (List Char)) :=
  match options.modifications with
  | [] => none
  | texts => some texts

/-
  The rule that the options describe.  They are read in a
  fixed order, and the first that is wrong is complained about.
-/
def rule
    (directory : Interface.Directory)
    (options : RuleOptions) : Except Complaint Rule := do
  let source ← interface directory options.source
  let destination ← interface directory options.destination
  let filter ← setting options.filter fun text => do
    return .filter (← Descriptor.filter text)
  let modification ← setting options.modificationTexts
    fun texts => do
      return .modification
        (← Descriptor.modification options.kind texts)
  let xor ← setting options.xor fun text => do
    return .checksum <| .xor
      (← Descriptor.xorChecksum options.kind text)
  let crc8 ← setting options.crc8 fun text => do
    return .checksum <| .crc8
      (← Descriptor.crc8Checksum options.kind options.profile text)
  let hops ← setting options.hops fun hops =>
    return .hopLimit hops
  let uid ← setting options.uid fun text => do
    return .uid (← Descriptor.word text)
  Descriptor.checked <| Rule.build source destination
    (.flags options.flags ::
      filter ++ modification ++ xor ++ crc8 ++ hops ++ uid)

end RuleOptions

------------------------------------------------------------
-- Commands
------------------------------------------------------------

/- What the program can be asked to do. -/
inductive Command where
  | add (options : RuleOptions) (mode : AddMode)
  | delete (options : RuleOptions)
  | list
  | flush
  | interfaces
  | nothing
deriving DecidableEq

namespace Command

/- The names of the commands that take further arguments. -/
def names : List String :=
  ["add", "del", "list", "flush", "ifaces", "help"]

/-
  The options of a command that takes the given ones and no
  other arguments.  Help and the version are not among them.
-/
def optionsOf
    (options : List CommandOption)
    (arguments : List (List Char)) : Except Halt (List Given) := do
  let scan ← Scan.ofArguments options arguments
  if scan.words = [] then
    return scan.given
  else
    throw .usage

/- The rule options among the arguments of a command. -/
def ruleOptionsOf
    (given : List Given) : Except Halt RuleOptions :=
  match RuleOptions.ofGiven? given with
  | some options => .ok options
  | none => .error .usage

/- The command with a given name and further arguments. -/
def ofName
    (name : String)
    (arguments : List (List Char)) : Except Halt Command :=
  match name with
  | "add" => do
      let given ← optionsOf (.replace :: CommandOption.ofRule)
        arguments
      let options ← ruleOptionsOf given
      let mode :=
        if Given.isGiven given .replace then
          AddMode.replace
        else
          AddMode.exclusive
      return .add options mode
  | "del" => do
      let given ← optionsOf CommandOption.ofRule arguments
      return .delete (← ruleOptionsOf given)
  | "list" => do
      let _ ← optionsOf [] arguments
      return .list
  | "flush" => do
      let _ ← optionsOf [] arguments
      return .flush
  | "ifaces" => do
      let _ ← optionsOf [] arguments
      return .interfaces
  | "help" =>
      match arguments with
      | [] => .error .help
      | [topic] =>
          if names.any (·.toList = topic) then
            .error .help
          else
            .error .usage
      | _ => .error .usage
  | _ => .error .usage

/-
  The command that arguments ask for.  The program has no
  options of its own but those for help and the version.
-/
def ofArguments
    (arguments : List String) : Except Halt Command := do
  let scan ← Scan.ofArguments [.help, .version]
    (arguments.map String.toList)
  match scan.words with
  | [] => return .nothing
  | word :: rest =>
      if scan.escaped then
        throw .usage
      else
        ofName (String.ofList word) rest

end Command

------------------------------------------------------------
-- Carrying Out Commands
------------------------------------------------------------

/-
  What a run of the program shows to the outside: the exit
  status, what it prints, and what it does to the channel.
-/
structure CommandOutcome where
  exitStatus : Nat
  output : String := ""
  errorOutput : String := ""
  transcript : Transcript := {}
deriving DecidableEq

namespace CommandOutcome

/- The requests that were sent. -/
def requests (outcome : CommandOutcome) : List Bytes :=
  outcome.transcript.sent

/- A run that ends with a complaint. -/
def ofComplaint (complaint : Complaint) : CommandOutcome where
  exitStatus := 1
  errorOutput := complaint.message ++ "\n"

/- What was printed, each piece on a line. -/
def ofLines (lines : List String) : CommandOutcome where
  exitStatus := 0
  output := String.join (lines.map (· ++ "\n"))

end CommandOutcome

namespace Command

/- An entry of a list, with the names of its interfaces. -/
def entryLine
    (directory : Interface.Directory)
    (entry : Entry) : String :=
  directory.display entry.rule.source ++ " -> "
    ++ directory.display entry.rule.destination ++ ": "
    ++ entry.text

/- An interface, with its index in at least four columns. -/
def interfaceLine
    (interface : Interface.Name × Interface.Index) : String :=
  let index := interface.2.text
  String.ofList (List.replicate (4 - index.length) ' ')
    ++ index ++ ": " ++ String.ofList interface.1.text

/- Carry out an operation on the gateway and print the entries. -/
def perform
    (directory : Interface.Directory)
    (channel : Channel)
    (operation : GatewayOperation) : CommandOutcome :=
  let performed := Gateway.perform { channel } operation
  let outcome : CommandOutcome :=
    match performed.result with
    | .error error => .ofComplaint (.failed error)
    | .ok entries => .ofLines (entries.map (entryLine directory))
  { outcome with transcript := performed.transcript }

/-
  Carry out a command.  A rule that is not described correctly
  is complained about before anything is sent.
-/
def run
    (directory : Interface.Directory)
    (channel : Channel) : Command → CommandOutcome
  | .add options mode =>
      match options.rule directory with
      | .error complaint => .ofComplaint complaint
      | .ok rule => perform directory channel (.add rule mode)
  | .delete options =>
      match options.rule directory with
      | .error complaint => .ofComplaint complaint
      | .ok rule => perform directory channel (.delete rule)
  | .list => perform directory channel .list
  | .flush => perform directory channel .flush
  | .interfaces =>
      match directory.all with
      | .error error => .ofComplaint (.ofLookup error)
      | .ok entries => .ofLines (entries.map interfaceLine)
  | .nothing => .ofComplaint .noSubcommand

end Command

namespace CommandOutcome

/- How the program is to be used. -/
def usage : String :=
  "Usage: cgwctl <add|del|list|flush|ifaces> [OPTIONS]\n"

/- A run that ends before there is a command. -/
def ofHalt : Halt → CommandOutcome
  | .usage => { exitStatus := 2, errorOutput := usage }
  | .help => { exitStatus := 0, output := usage }
  | .version => { exitStatus := 0, output := "cgwctl 0.1.0\n" }

/- A run of the program with given arguments. -/
def ofArguments
    (directory : Interface.Directory)
    (channel : Channel)
    (arguments : List String) : CommandOutcome :=
  match Command.ofArguments arguments with
  | .error halt => ofHalt halt
  | .ok command => command.run directory channel

end CommandOutcome

end GatewayRules
