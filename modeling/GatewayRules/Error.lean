import GatewayRules.Interface.Directory
import GatewayRules.Message.DecodeError
import GatewayRules.Rule.Basic

/-
  Everything that can go wrong between a user and the gateway.

  Key definitions include:
    * `ChannelError`
    * `KernelError`
    * `KernelError.isRetryable`
    * `Cause`
    * `Error`
    * `Error.after`
    * `Error.kernelError?`
-/

namespace GatewayRules

------------------------------------------------------------
-- The Channel
------------------------------------------------------------

/- Why a request or its reply did not get through. -/
inductive ChannelError where
  | permissionDenied (error : SystemError)
  | system (error : SystemError)
  | shortSend (sent total : Nat)
  | interrupted (times : Nat)
  | timedOut
  | badRequestLength (declared actual : Nat)
deriving DecidableEq

namespace ChannelError

/- A lack of permission is told apart from other errors. -/
def ofSystemError (error : SystemError) : ChannelError :=
  if error.kind? = some .permissionDenied then
    .permissionDenied error
  else
    .system error

def message : ChannelError → String
  | .permissionDenied error =>
      "permission denied: " ++ error.message
  | .system error => error.message
  | .shortSend sent total =>
      "short netlink send: " ++ Number.decimal sent
        ++ " of " ++ Number.decimal total ++ " bytes"
  | .interrupted times =>
      "interrupted " ++ Number.decimal times
        ++ " times in a row"
  | .timedOut => "timed out waiting for a response"
  | .badRequestLength declared actual =>
      "request declares " ++ Number.decimal declared
        ++ " bytes but buffer holds " ++ Number.decimal actual

end ChannelError

------------------------------------------------------------
-- The Kernel
------------------------------------------------------------

/- A request that was refused, with the code of the refusal. -/
structure KernelError where
  code : Int32
deriving DecidableEq

namespace KernelError

/-
  The error number, of which the code is the negative.  Both
  have 32 bits, and the least code is its own negative.
-/
def errno (error : KernelError) : Int :=
  (-error.code).toInt

/-
  Whether the same request may succeed later: try again, busy,
  no buffer space, network down, interrupted.
-/
def isRetryable (error : KernelError) : Bool :=
  [11, 16, 105, 100, 4].contains error.errno

def toSystemError (error : KernelError) : SystemError :=
  .numbered error.errno

def message (error : KernelError) : String :=
  "kernel error " ++ Number.signedDecimal error.code.toInt
    ++ ": " ++ error.toSystemError.message

end KernelError

------------------------------------------------------------
-- Errors
------------------------------------------------------------

/- The part of the way on which something went wrong. -/
inductive Cause where
  | rule (violation : Violation)
  | lookup (error : Interface.LookupError)
  | channel (error : ChannelError)
  | decode (error : DecodeError)
  | kernel (error : KernelError)
deriving DecidableEq

def Cause.message : Cause → String
  | .rule violation => violation.message
  | .lookup error => error.message
  | .channel error => error.message
  | .decode error => error.message
  | .kernel error => error.message

/-
  An error, with the entries of a dump that had arrived before
  it if there were any.
-/
inductive Error where
  | plain (cause : Cause)
  | partialDump (entries : List Entry) (cause : Cause)
deriving DecidableEq

namespace Error

/- The error of a dump of which some entries had arrived. -/
def after
    (entries : List Entry)
    (cause : Cause) : Error :=
  match entries with
  | [] => .plain cause
  | _ :: _ => .partialDump entries cause

def cause : Error → Cause
  | .plain cause => cause
  | .partialDump _ cause => cause

/- The refusal that caused an error, if that is what did. -/
def kernelError? (error : Error) : Option KernelError :=
  match error.cause with
  | .kernel refusal => some refusal
  | _ => none

def message : Error → String
  | .plain cause => cause.message
  | .partialDump entries cause =>
      "rule dump failed after " ++ Number.decimal entries.length
        ++ " entries: " ++ cause.message

end Error

end GatewayRules
