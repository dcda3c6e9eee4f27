import GatewayRules.Text.Number
import GatewayRules.Text.Split

/-
  The options of a command, and how a list of arguments is
  taken apart into them.  An option has a long and a short
  form; short forms can be run together, and a value follows
  its option either directly, after an equals sign, or as the
  next argument, which then must not look like an option.

  Key definitions include:
    * `CommandOption`
    * `Given`
    * `Halt`
    * `Scan`
    * `Scan.ofArguments`
    * `Given.areConsistent`
-/

namespace GatewayRules

------------------------------------------------------------
-- The Options
------------------------------------------------------------

inductive CommandOption where
  | source
  | destination
  | echo
  | timestamp
  | sendBack
  | fd
  | filter
  | modify
  | fdModify
  | xor
  | crc8
  | profile
  | hops
  | uid
  | replace
  | help
  | version
deriving DecidableEq

namespace CommandOption

def long : CommandOption → String
  | .source => "src"
  | .destination => "dst"
  | .echo => "echo"
  | .timestamp => "tstamp"
  | .sendBack => "iif-tx"
  | .fd => "fd"
  | .filter => "filter"
  | .modify => "modify"
  | .fdModify => "fdmodify"
  | .xor => "xor"
  | .crc8 => "crc8"
  | .profile => "profile"
  | .hops => "hops"
  | .uid => "uid"
  | .replace => "replace"
  | .help => "help"
  | .version => "version"

def short : CommandOption → Char
  | .source => 's'
  | .destination => 'd'
  | .echo => 'e'
  | .timestamp => 't'
  | .sendBack => 'i'
  | .fd => 'X'
  | .filter => 'f'
  | .modify => 'm'
  | .fdModify => 'M'
  | .xor => 'x'
  | .crc8 => 'c'
  | .profile => 'p'
  | .hops => 'l'
  | .uid => 'u'
  | .replace => 'r'
  | .help => '?'
  | .version => 'V'

def takesValue : CommandOption → Bool
  | .source | .destination | .filter | .modify | .fdModify
  | .xor | .crc8 | .profile | .hops | .uid => true
  | _ => false

/-
  Whether an option may be given more than once: one that has
  no value only says the same again.
-/
def isRepeatable (option : CommandOption) : Bool :=
  match option with
  | .modify | .fdModify => true
  | _ => !option.takesValue

/- The options that describe a rule. -/
def ofRule : List CommandOption :=
  [.source, .destination, .echo, .timestamp, .sendBack, .fd,
    .filter, .modify, .fdModify, .xor, .crc8, .profile, .hops,
    .uid]

/- The hop limit that a text stands for. -/
def hopsOf? (text : List Char) : Option UInt8 :=
  (Number.signed? 0 255 text).map fun n => UInt8.ofNat n.toNat

/- Whether an option can have a value at all. -/
def accepts
    (option : CommandOption)
    (value : List Char) : Bool :=
  match option with
  | .hops => (hopsOf? value).isSome
  | _ => true

end CommandOption

------------------------------------------------------------
-- Taking Arguments Apart
------------------------------------------------------------

/- An option as it was given. -/
structure Given where
  option : CommandOption
  value : Option (List Char) := none
deriving DecidableEq

/- Why the arguments are not looked at any further. -/
inductive Halt where
  | usage
  | help
  | version
deriving DecidableEq

/-
  What arguments consist of: the options up to the first word
  that belongs to none of them, and the arguments from there
  on.  A word after two hyphens is never the name of anything.
-/
structure Scan where
  given : List Given
  words : List (List Char)
  escaped : Bool := false
deriving DecidableEq

namespace Scan

/- The same with another option in front. -/
def cons
    (given : Given)
    (scan : Scan) : Scan :=
  { scan with given := given :: scan.given }

/- The same with other options in front. -/
def prepend
    (given : List Given)
    (scan : Scan) : Scan :=
  { scan with given := given ++ scan.given }

/- Give an option that has no value. -/
def flag (option : CommandOption) : Except Halt Given :=
  match option with
  | .help => .error .help
  | .version => .error .version
  | _ => .ok { option }

/- Give an option its value. -/
def valued
    (option : CommandOption)
    (value : List Char) : Except Halt Given :=
  if option.accepts value then
    .ok { option, value := some value }
  else
    .error .usage

/-
  Options that were given by one argument, and the one whose
  value is to be the next argument, if there is one.
-/
abbrev Opened :=
  List Given × Option CommandOption

/- An option in its long form, without the hyphens. -/
def longForm
    (options : List CommandOption)
    (text : List Char) : Except Halt Opened :=
  let (name, value) :=
    match Split.atFirst? '=' text with
    | some (name, value) => (name, some value)
    | none => (text, none)
  match options.find? (·.long.toList = name), value with
  | none, _ => .error .usage
  | some option, some value =>
      if option.takesValue then do
        return ([← valued option value], none)
      else
        .error .usage
  | some option, none =>
      if option.takesValue then
        .ok ([], some option)
      else do
        return ([← flag option], none)

/- Options in their short forms, without the hyphen. -/
def shortForms
    (options : List CommandOption) :
    List Char → Except Halt Opened
  | [] => .ok ([], none)
  | char :: rest =>
      match options.find? (·.short = char) with
      | none => .error .usage
      | some option =>
          if option.takesValue then
            match rest with
            | [] => .ok ([], some option)
            | '=' :: value => do
                return ([← valued option value], none)
            | value => do
                return ([← valued option value], none)
          else do
            let given ← flag option
            let (others, pending) ← shortForms options rest
            return (given :: others, pending)

/- An option that was given without the value it should have. -/
def unfinished (pending : Option CommandOption) : List Given :=
  (pending.map fun option => { option }).toList

/-
  Take arguments apart, while the value of an option may be
  pending.
-/
def scan
    (options : List CommandOption) :
    (pending : Option CommandOption) →
      List (List Char) → Except Halt Scan
  | pending, [] =>
      .ok { given := unfinished pending, words := [] }
  | pending, argument :: rest =>
      match argument, pending with
      | ['-', '-'], _ =>
          .ok
            { given := unfinished pending,
              words := rest,
              escaped := true }
      | '-' :: '-' :: text, _ => do
          let (given, next) ← longForm options text
          let others ← scan options next rest
          return others.prepend (unfinished pending ++ given)
      | '-' :: char :: text, _ => do
          let (given, next) ← shortForms options (char :: text)
          let others ← scan options next rest
          return others.prepend (unfinished pending ++ given)
      | value, some option => do
          let given ← valued option value
          let others ← scan options none rest
          return others.cons given
      | _, none =>
          .ok { given := [], words := argument :: rest }

/- Take arguments apart into the given options. -/
def ofArguments
    (options : List CommandOption)
    (arguments : List (List Char)) : Except Halt Scan :=
  scan options none arguments

end Scan

------------------------------------------------------------
-- Given Options
------------------------------------------------------------

namespace Given

/- Whether an option was given. -/
def isGiven
    (given : List Given)
    (option : CommandOption) : Bool :=
  given.any (·.option = option)

/- The values that were given for an option, in order. -/
def values
    (given : List Given)
    (option : CommandOption) : List (List Char) :=
  given.filterMap fun g =>
    if g.option = option then g.value else none

/- The value that was given for an option, if there is one. -/
def value?
    (given : List Given)
    (option : CommandOption) : Option (List Char) :=
  (values given option).head?

/-
  Whether options can stand beside each other: an option is
  given once unless it can be repeated, and at least one value
  is given for those that take any.
-/
def areConsistent (given : List Given) : Bool :=
  given.all fun g =>
    (g.option.isRepeatable ||
      given.countP (·.option = g.option) == 1) &&
    (!g.option.takesValue || !(values given g.option).isEmpty)

end Given

end GatewayRules
