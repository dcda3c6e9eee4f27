/-
  Cutting a text at a separator.

  Key definitions include:
    * `Split.atFirst?`
    * `Split.atAll`
-/

namespace GatewayRules

namespace Split

/-
  The parts before and after the first separator, if there is
  one.
-/
def atFirst?
    (separator : Char) :
    List Char → Option (List Char × List Char)
  | [] => none
  | char :: rest =>
      if char = separator then
        some ([], rest)
      else
        (atFirst? separator rest).map fun parts =>
          (char :: parts.1, parts.2)

/-
  The parts between all separators, one more than there are
  separators.
-/
def atAll
    (separator : Char) :
    List Char → List (List Char)
  | [] => [[]]
  | char :: rest =>
      if char = separator then
        [] :: atAll separator rest
      else
        match atAll separator rest with
        | [] => [[char]]
        | first :: parts => (char :: first) :: parts

end Split

end GatewayRules
