import GatewayRules.Interface.Basic
import GatewayRules.SystemError

/-
  The directory of interfaces: what the system answers when
  asked for the index of a name or the name of an index.

  Key definitions include:
    * `Interface.LookupError`
    * `Interface.Directory`
    * `Interface.Directory.ofList`
-/

namespace GatewayRules

namespace Interface

/- Why a question about an interface has no answer. -/
inductive LookupError where
  | notFound (what : List Char)
  | system (error : SystemError)
deriving DecidableEq

def LookupError.message : LookupError → String
  | .notFound what =>
      "interface not found: " ++ String.ofList what
  | .system error => "interface lookup failed: " ++ error.message

/- The answers of the system. -/
structure Directory where
  index : Name → Except LookupError Index
  name : Index → Except LookupError Name
  all : Except LookupError (List (Name × Index))

namespace Directory

/- The directory of a list of interfaces. -/
def ofList
    (entries : List (Name × Index)) : Directory where
  index name :=
    match entries.find? (·.1 = name) with
    | some entry => .ok entry.2
    | none => .error (.notFound name.text)
  name index :=
    match entries.find? (·.2 = index) with
    | some entry => .ok entry.1
    | none => .error (.notFound index.text.toList)
  all := .ok entries

/-
  How an interface is shown: by its name, or by its index when
  it has none any more.
-/
def display
    (directory : Directory)
    (index : Index) : String :=
  match directory.name index with
  | .ok name => String.ofList name.text
  | .error _ => "#" ++ index.text

end Directory

end Interface

end GatewayRules
