import GatewayRules.Text.Hex

/-
  Numbers as users write them: an optional sign, then digits
  in some base, with a value that fits a given range.  There
  are no blanks, separators, or base markers, and any number
  of leading zeros.

  Key definitions include:
    * `Number.digits?`
    * `Number.unsigned?`
    * `Number.signed?`
    * `Number.decimal`
-/

namespace GatewayRules

namespace Number

/-
  Extend the number `value` by digits in a base of at most
  sixteen.
-/
def extend?
    (base : Nat) : (value : Nat) → List Char → Option Nat
  | value, [] => some value
  | value, char :: rest =>
      match Hex.digitValue? char.toNat with
      | some digit =>
          if digit < base then
            extend? base (value * base + digit) rest
          else
            none
      | none => none

/- The number written by one or more digits. -/
def digits?
    (base : Nat)
    (text : List Char) : Option Nat :=
  match text with
  | [] => none
  | _ :: _ => extend? base 0 text

/- A number below `bound`; a plus sign may precede it. -/
def unsigned?
    (base bound : Nat)
    (text : List Char) : Option Nat :=
  let digits :=
    match text with
    | '+' :: rest => rest
    | _ => text
  match digits? base digits with
  | some n => if n < bound then some n else none
  | none => none

/-
  A decimal number from `low` to `high`; a plus or minus sign
  may precede it.
-/
def signed?
    (low high : Int)
    (text : List Char) : Option Int :=
  let value? : Option Int :=
    match text with
    | '+' :: rest => (digits? 10 rest).map Int.ofNat
    | '-' :: rest =>
        (digits? 10 rest).map fun n => - (Int.ofNat n)
    | _ => (digits? 10 text).map Int.ofNat
  match value? with
  | some n => if low ≤ n ∧ n ≤ high then some n else none
  | none => none

/- A natural number in decimal. -/
def decimal (n : Nat) : String :=
  String.ofList (Nat.toDigits 10 n)

/- An integer in decimal. -/
def signedDecimal : Int → String
  | .ofNat n => decimal n
  | .negSucc n => "-" ++ decimal (n + 1)

end Number

end GatewayRules
