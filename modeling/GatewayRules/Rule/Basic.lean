import GatewayRules.Interface.Basic
import GatewayRules.Rule.Checksum
import GatewayRules.Rule.Modification

/-
  Routing rules, and the entries under which the gateway
  reports the rules that it holds.

  Key definitions include:
    * `Filter`
    * `RuleFlags`
    * `Rule`
    * `Rule.plain`
    * `Rule.validate`
    * `Rule.Setting`
    * `Rule.build`
    * `Rule.text`
    * `Counters`
    * `Entry`
    * `Entry.text`
-/

namespace GatewayRules

------------------------------------------------------------
-- Filters
------------------------------------------------------------

/-
  A frame passes a filter if its identifier agrees with the
  one of the filter on the bits of the mask.
-/
structure Filter where
  id : UInt32
  mask : UInt32
deriving DecidableEq

namespace Filter

/- Identifier and mask in hexadecimal. -/
def text (filter : Filter) : String :=
  String.ofList
    (Hex.paddedNumber .upper 3 filter.id.toNat ++ [':']
      ++ Hex.number .upper filter.mask.toNat)

def layout : Layout Filter :=
  (Layout.u32.pair Layout.u32).view
    (fun f => (f.id, f.mask))
    (fun (id, mask) => ⟨id, mask⟩)
    (fun _ => rfl)

end Filter

------------------------------------------------------------
-- Rules
------------------------------------------------------------

@[reducible]
def RuleFlags.vocabulary : Vocabulary where
  title := "RuleFlags"
  width := 16
  names := ["ECHO", "SRC_TSTAMP", "IIF_TX_OK", "CAN_FD"]

/- How the gateway treats the frames of a rule. -/
abbrev RuleFlags :=
  Flags RuleFlags.vocabulary

namespace RuleFlags

def echo : RuleFlags := ⟨1⟩

def sourceTimestamp : RuleFlags := ⟨2⟩

def sendBack : RuleFlags := ⟨4⟩

def fd : RuleFlags := ⟨8⟩

/- Each known flag with the option that sets it. -/
def options : List (RuleFlags × String) :=
  [(echo, "-e"), (sourceTimestamp, "-t"), (sendBack, "-i"),
    (fd, "-X")]

def layout : Layout RuleFlags :=
  Layout.u16.view
    (fun flags => UInt16.ofBitVec flags.bits)
    (fun word => ⟨word.toBitVec⟩)
    (fun _ => rfl)

end RuleFlags

/-
  Frames that arrive at the source interface and pass the
  filter are modified, summed, and sent on the destination
  interface.
-/
structure Rule where
  source : Interface.Index
  destination : Interface.Index
  filter : Option Filter := none
  modification : Option Modification := none
  checksum : Option Checksum := none
  flags : RuleFlags := Flags.empty
  hopLimit : Option UInt8 := none
  uid : Option UInt32 := none
deriving DecidableEq

namespace Rule

/- A rule that only routes. -/
def plain (source destination : Interface.Index) : Rule :=
  { source, destination }

/- The kind of frames that a rule routes. -/
def kind (rule : Rule) : FrameKind :=
  FrameKind.ofIsFd (rule.flags.contains RuleFlags.fd)

------------------------------------------------------------
-- Validation
------------------------------------------------------------

def validateModification
    (rule : Rule) : Except Violation Unit :=
  match rule.modification with
  | none => .ok ()
  | some m =>
      match m.kind? with
      | none => .error .emptyModification
      | some kind =>
          if kind = rule.kind then
            .ok ()
          else
            .error .frameKindMismatch

def validateChecksum
    (rule : Rule) : Except Violation Unit :=
  match rule.checksum with
  | none => .ok ()
  | some c =>
      if rule.modification.isNone then
        .error .checksumWithoutModification
      else
        c.validate rule.kind.maxLength

def validateHopLimit
    (rule : Rule) : Except Violation Unit :=
  if rule.hopLimit = some 0 then
    .error .zeroHopLimit
  else
    .ok ()

/- Check a rule against the constraints of the gateway. -/
def validate (rule : Rule) : Except Violation Unit := do
  rule.validateModification
  rule.validateChecksum
  rule.validateHopLimit

------------------------------------------------------------
-- Building
------------------------------------------------------------

/- One property of a rule. -/
inductive Setting where
  | filter (filter : Filter)
  | modification (modification : Modification)
  | checksum (checksum : Checksum)
  | flags (flags : RuleFlags)
  | hopLimit (hops : UInt8)
  | uid (uid : UInt32)

/- Give a property of a rule in the place of any other. -/
def apply
    (rule : Rule) : Setting → Rule
  | .filter filter => { rule with filter := some filter }
  | .modification m => { rule with modification := some m }
  | .checksum c => { rule with checksum := some c }
  | .flags flags => { rule with flags }
  | .hopLimit hops => { rule with hopLimit := some hops }
  | .uid uid => { rule with uid := some uid }

/- The valid rule with the given properties. -/
def build
    (source destination : Interface.Index)
    (settings : List Setting) : Except Violation Rule := do
  let rule := settings.foldl apply (plain source destination)
  rule.validate
  return rule

------------------------------------------------------------
-- Text
------------------------------------------------------------

/- The options that describe a rule, in their usual order. -/
def options (rule : Rule) : List String :=
  ["-s " ++ rule.source.text, "-d " ++ rule.destination.text]
    ++ (RuleFlags.options.filterMap fun option =>
      if rule.flags.contains option.1 then
        some option.2
      else
        none)
    ++ (rule.filter.map fun f => "-f " ++ f.text).toList
    ++ (rule.modification.map Modification.text).toList
    ++ (rule.checksum.map Checksum.text).toList
    ++ (rule.hopLimit.map fun hops =>
      "-l " ++ Number.decimal hops.toNat).toList
    ++ (rule.uid.map fun uid =>
      "-u " ++ String.ofList (Hex.number .upper uid.toNat)).toList

def text (rule : Rule) : String :=
  String.intercalate " " rule.options

end Rule

------------------------------------------------------------
-- Entries
------------------------------------------------------------

/- How many frames of a rule met each fate. -/
structure Counters where
  handled : UInt32 := 0
  dropped : UInt32 := 0
  deleted : UInt32 := 0
deriving DecidableEq

/- A rule that the gateway holds, with its counters. -/
structure Entry where
  rule : Rule
  counters : Counters := {}
deriving DecidableEq

/- The rule as options, and the counters. -/
def Entry.text (entry : Entry) : String :=
  entry.rule.text
    ++ " # " ++ Number.decimal entry.counters.handled.toNat
    ++ " handled " ++ Number.decimal entry.counters.dropped.toNat
    ++ " dropped " ++ Number.decimal entry.counters.deleted.toNat
    ++ " deleted"

end GatewayRules
