import GatewayRules.Text.Hex
import GatewayRules.Text.Unprintable

/-
  Text in quotation marks, with escapes for the characters
  that would not show, or would be taken for the end.

  Key definitions include:
    * `Quoted.escape`
    * `Quoted.encode`
-/

namespace GatewayRules

namespace Quoted

/- How a character is written between two given marks. -/
def escape
    (mark : Char)
    (char : Char) : List Char :=
  if char = '\x00' then ['\\', '0']
  else if char = '\t' then ['\\', 't']
  else if char = '\r' then ['\\', 'r']
  else if char = '\n' then ['\\', 'n']
  else if char = '\\' ∨ char = mark then ['\\', char]
  else if Unprintable.isUnprintable char then
    ['\\', 'u', '\x7b']
      ++ Hex.number .lower char.toNat ++ ['\x7d']
  else
    [char]

/- A text between two marks. -/
def encode
    (mark : Char)
    (text : List Char) : List Char :=
  mark :: text.flatMap (escape mark) ++ [mark]

end Quoted

end GatewayRules
