import GatewayRules.Frame.Basic

/-
  Frame modifications.  Each operation has at most one
  function: a template frame, and the parts of the frame to
  which the template is applied.

  Key definitions include:
    * `Targets`
    * `Function`
    * `Modification`
    * `Modification.get`
    * `Modification.put`
    * `Modification.add`
    * `Modification.addAll`
    * `Modification.ofTemplate`
    * `Modification.functions`
    * `Modification.kind?`
    * `Modification.text`
-/

namespace GatewayRules

------------------------------------------------------------
-- Targets
------------------------------------------------------------

@[reducible]
def Targets.vocabulary : Vocabulary where
  title := "ModTargets"
  width := 8
  names := ["ID", "LEN", "DATA", "FLAGS"]

/- The parts of a frame that a function applies to. -/
abbrev Targets :=
  Flags Targets.vocabulary

namespace Targets

def id : Targets := ⟨1⟩

def length : Targets := ⟨2⟩

def data : Targets := ⟨4⟩

/- The FD flags, which a classic frame does not have. -/
def fdFlags : Targets := ⟨8⟩

/- Each known part with the letter that stands for it. -/
def letters : List (Targets × Char) :=
  [(id, 'I'), (length, 'L'), (data, 'D'), (fdFlags, 'F')]

/- The letters of the known parts. -/
def text (targets : Targets) : List Char :=
  letters.filterMap fun entry =>
    if targets.contains entry.1 then some entry.2 else none

end Targets

------------------------------------------------------------
-- Functions and Modifications
------------------------------------------------------------

/- A template and the parts of a frame that it applies to. -/
structure Function where
  targets : Targets
  template : Frame
deriving DecidableEq

/- At most one function for each operation. -/
structure Modification where
  onAnd : Option Function := none
  onOr : Option Function := none
  onXor : Option Function := none
  onSet : Option Function := none
deriving DecidableEq

namespace Modification

def empty : Modification :=
  {}

/- The function of an operation, if it has one. -/
def get
    (m : Modification) : Operation → Option Function
  | .and => m.onAnd
  | .or => m.onOr
  | .xor => m.onXor
  | .set => m.onSet

/- Give an operation a function in the place of any other. -/
def put
    (m : Modification)
    (operation : Operation)
    (f : Function) : Modification :=
  match operation with
  | .and => { m with onAnd := some f }
  | .or => { m with onOr := some f }
  | .xor => { m with onXor := some f }
  | .set => { m with onSet := some f }

@[simp]
theorem get_put
    (m : Modification)
    (operation other : Operation)
    (f : Function) :
    (m.put operation f).get other =
      if other = operation then some f else m.get other := by
  cases operation <;> cases other <;> rfl

/- The functions in the order of their operations. -/
def functions
    (m : Modification) : List (Operation × Function) :=
  Operation.all.filterMap fun operation =>
    (m.get operation).map fun f => (operation, f)

def isEmpty (m : Modification) : Bool :=
  m.functions.isEmpty

/- The frame kind of the first function. -/
def kind? (m : Modification) : Option FrameKind :=
  m.functions.head?.map fun entry => entry.2.template.kind

------------------------------------------------------------
-- Construction
------------------------------------------------------------

/-
  Add a function.  It needs a target, can reach the FD flags
  only through an FD template, must be the only one of its
  operation, and has to be of the same kind as the others;
  this is the order in which the conditions are checked.
-/
def add
    (m : Modification)
    (operation : Operation)
    (f : Function) : Except Violation Modification :=
  if f.targets.isEmpty then
    .error .emptyModification
  else if f.targets.contains Targets.fdFlags ∧
      f.template.kind = .classic then
    .error .flagsOnClassicFrame
  else if (m.get operation).isSome then
    .error (.duplicateOperation operation)
  else if m.kind?.any (· ≠ f.template.kind) then
    .error .mixedFrameKinds
  else
    .ok (m.put operation f)

/- Add functions one after the other. -/
def addAll
    (m : Modification)
    (entries : List (Operation × Function)) :
    Except Violation Modification :=
  entries.foldlM (fun m entry => m.add entry.1 entry.2) m

/- All targets that the groups name for an operation. -/
def groupTargets
    (groups : List (Targets × Operation))
    (operation : Operation) : Targets :=
  (groups.filter fun group => group.2 = operation).foldl
    (fun targets group => targets.union group.1) Flags.empty

/-
  One template for all operations: each operation that is
  named gets the targets of all its groups.
-/
def ofTemplate
    (template : Frame)
    (groups : List (Targets × Operation)) :
    Except Violation Modification :=
  let named := Operation.all.filter fun operation =>
    groups.any fun group => group.2 = operation
  empty.addAll <| named.map fun operation =>
    (operation, ⟨groupTargets groups operation, template⟩)

------------------------------------------------------------
-- Text
------------------------------------------------------------

/- Operation, targets, and template, set apart by colons. -/
def functionText
    (operation : Operation)
    (f : Function) : String :=
  operation.name ++ ":" ++ String.ofList f.targets.text ++ ":"
    ++ f.template.text

/-
  The functions as options.  The kind of the first one decides
  the letter of all.
-/
def text (m : Modification) : String :=
  let letter := if m.kind? = some .fd then "-M " else "-m "
  String.intercalate " " <| m.functions.map fun entry =>
    letter ++ functionText entry.1 entry.2

end Modification

end GatewayRules
