import GatewayRules.Bytes.Basic

/-
  Text as UTF-8 bytes.  Every text has an encoding; reading
  never fails, because each stretch of bytes that belongs to
  no character is read as one replacement character.

  Key definitions include:
    * `Utf8.encode`
    * `Utf8.decode`
-/

namespace GatewayRules

namespace Utf8

/- The UTF-8 bytes of a text. -/
def encode (text : List Char) : Bytes :=
  text.flatMap String.utf8EncodeChar

------------------------------------------------------------
-- Reading
------------------------------------------------------------

/-
  What the first byte of a character announces: the number of
  bytes that continue it, the range of the first of those, and
  the bits that the first byte itself contributes.
-/
structure Lead where
  continuations : Nat
  low : UInt8
  high : UInt8
  bits : Nat

/-
  The ranges exclude overlong forms, surrogates, and numbers
  above the last code point.
-/
def lead? (byte : UInt8) : Option Lead :=
  if byte ≤ 0x7F then
    some ⟨0, 0x80, 0xBF, byte.toNat⟩
  else if 0xC2 ≤ byte ∧ byte ≤ 0xDF then
    some ⟨1, 0x80, 0xBF, byte.toNat - 0xC0⟩
  else if byte = 0xE0 then
    some ⟨2, 0xA0, 0xBF, 0⟩
  else if byte = 0xED then
    some ⟨2, 0x80, 0x9F, 0xD⟩
  else if 0xE1 ≤ byte ∧ byte ≤ 0xEF then
    some ⟨2, 0x80, 0xBF, byte.toNat - 0xE0⟩
  else if byte = 0xF0 then
    some ⟨3, 0x90, 0xBF, 0⟩
  else if byte = 0xF4 then
    some ⟨3, 0x80, 0x8F, 4⟩
  else if 0xF1 ≤ byte ∧ byte ≤ 0xF3 then
    some ⟨3, 0x80, 0xBF, byte.toNat - 0xF0⟩
  else
    none

/-
  The longest run of at most `count` continuation bytes whose
  first one lies between `low` and `high`.
-/
def continuation : (count : Nat) → (low high : UInt8) → Bytes → Bytes
  | 0, _, _, _ => []
  | _ + 1, _, _, [] => []
  | count + 1, low, high, byte :: rest =>
      if low ≤ byte ∧ byte ≤ high then
        byte :: continuation count 0x80 0xBF rest
      else
        []

/- Each continuation byte contributes its six low bits. -/
def codePoint
    (bits : Nat)
    (tail : Bytes) : Nat :=
  tail.foldl (fun n byte => n * 64 + byte.toNat % 64) bits

/- The character that stands for unreadable bytes. -/
def replacement : Char :=
  '\uFFFD'

/-
  Read bytes as text.  A character that breaks off is replaced
  as a whole, up to the first byte that cannot continue it.
-/
def decode : Bytes → List Char
  | [] => []
  | byte :: rest =>
      match lead? byte with
      | none => replacement :: decode rest
      | some lead =>
          let tail :=
            continuation lead.continuations lead.low lead.high rest
          let char :=
            if tail.length = lead.continuations then
              Char.ofNat (codePoint lead.bits tail)
            else
              replacement
          char :: decode (rest.drop tail.length)
termination_by bytes => bytes.length
decreasing_by
  all_goals simp only [List.length_cons, List.length_drop]
  all_goals omega

end Utf8

end GatewayRules
