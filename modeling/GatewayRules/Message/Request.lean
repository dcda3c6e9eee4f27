import GatewayRules.Message.Response

/-
  Complete messages: the requests to the gateway, and the
  messages with which the gateway answers.

  Key definitions include:
    * `AddMode`
    * `Request.add`
    * `Request.delete`
    * `Request.flush`
    * `Request.dump`
    * `Answer.error`
    * `Answer.done`
    * `Answer.abort`
    * `Answer.entry`
-/

namespace GatewayRules

/- What is to happen when the rule that is added exists. -/
inductive AddMode where
  | exclusive
  | replace
deriving DecidableEq

def AddMode.flag : AddMode → UInt16
  | .exclusive => MessageFlag.exclusive
  | .replace => MessageFlag.replace

------------------------------------------------------------
-- Requests
------------------------------------------------------------

namespace Request

/- A message that describes a rule. -/
def about
    (type flags : UInt16)
    (sequence : UInt32)
    (ruleFlags : RuleFlags)
    (attributes : List (AttributeKind × Bytes)) : Bytes :=
  let start := (Builder.start type flags).setSequence sequence
  let headed :=
    start.appendGatewayHeader (GatewayHeader.ofFlags ruleFlags)
  (headed.appendAttributes attributes).finish

/- Ask for a rule to be added.  Only a valid rule is. -/
def add
    (rule : Rule)
    (sequence : UInt32)
    (mode : AddMode) : Except Violation Bytes := do
  rule.validate
  return about MessageType.newRoute
    (MessageFlag.request ||| MessageFlag.acknowledge
      ||| MessageFlag.create ||| mode.flag)
    sequence rule.flags rule.attributes

/- Ask for the rule that agrees in every field to be deleted. -/
def delete
    (rule : Rule)
    (sequence : UInt32) : Except Violation Bytes := do
  rule.validate
  return about MessageType.deleteRoute
    (MessageFlag.request ||| MessageFlag.acknowledge)
    sequence rule.flags rule.attributes

/-
  Ask for all rules to be deleted, which is what deleting a
  rule without interfaces means.
-/
def flush (sequence : UInt32) : Bytes :=
  about MessageType.deleteRoute
    (MessageFlag.request ||| MessageFlag.acknowledge)
    sequence Flags.empty []

/- Ask for all rules. -/
def dump (sequence : UInt32) : Bytes :=
  let start := Builder.start MessageType.getRoute
    (MessageFlag.request ||| MessageFlag.dump)
  let headed := (start.setSequence sequence).appendGatewayHeader
    ⟨GatewayHeader.canFamily, 0, Flags.empty⟩
  headed.finish

end Request

------------------------------------------------------------
-- Answers
------------------------------------------------------------

namespace Answer

/- A message with a fixed body. -/
def plain
    (type flags : UInt16)
    (sequence : UInt32)
    (body : Bytes) : Bytes :=
  let start := (Builder.start type flags).setSequence sequence
  (start.append body).finish

/-
  The outcome of a request: a code, zero for success, and the
  header of the request.
-/
def error
    (sequence : UInt32)
    (code : Int32) : Bytes :=
  plain MessageType.error 0 sequence
    (Layout.i32.write code
      ++ Header.layout.write
        { length := UInt32.ofNat Header.size,
          type := 0,
          flags := 0,
          sequence,
          sender := 0 })

/- The end of a dump that was given up with a code. -/
def abort
    (sequence : UInt32)
    (code : Int32) : Bytes :=
  plain MessageType.done MessageFlag.multipart sequence
    (Layout.i32.write code)

/- The end of a dump. -/
def done (sequence : UInt32) : Bytes :=
  abort sequence 0

/- One entry of a dump. -/
def entry
    (entry : Entry)
    (sequence : UInt32) : Bytes :=
  Request.about MessageType.newRoute MessageFlag.multipart
    sequence entry.rule.flags entry.attributes

end Answer

end GatewayRules
