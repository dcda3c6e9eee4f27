import GatewayRules.Proofs.NumberText
import GatewayRules.Text.Split
import Mathlib

/-
  The parts of a text.  Parts that do not contain a separator
  are found again in the text that it sets apart, and words
  are found again in the text that blanks set apart.

  Main declarations:
    * `Split.atFirst?_eq_some_iff`
    * `Split.atAll_append_cons` and `Split.atAll_of_not_mem`
    * `Split.words`
    * `Split.words_intercalate`
    * `Split.NoBlank` and `Split.words_of_noBlank`
    * `Hex.noBlank_of_isDigit` and `Number.atAll_digits`
-/

------------------------------------------------------------
-- Separators
------------------------------------------------------------

namespace GatewayRules

namespace Split

variable {separator : Char}
variable {front text : List Char}

theorem atFirst?_append_cons
    (hFront : separator ∉ front)
    (back : List Char) :
    atFirst? separator (front ++ separator :: back) =
      some (front, back) := by
  induction front with
  | nil => simp [atFirst?]
  | cons char front ih =>
      rw [List.mem_cons, not_or] at hFront
      have hOther : char ≠ separator := fun h => hFront.1 h.symm
      rw [List.cons_append, atFirst?, if_neg hOther,
        ih hFront.2]
      rfl

/- A text is cut where no part in front has a separator. -/
theorem atFirst?_eq_some_iff
    {back : List Char} :
    atFirst? separator text = some (front, back) ↔
      separator ∉ front ∧ text = front ++ separator :: back := by
  constructor
  · intro h
    induction text generalizing front with
    | nil => cases h
    | cons char rest ih =>
        unfold atFirst? at h
        split at h
        case isTrue hSeparator =>
          cases h
          exact ⟨List.not_mem_nil, by rw [hSeparator]; rfl⟩
        case isFalse hOther =>
          rcases Option.map_eq_some_iff.mp h with
            ⟨⟨start, tail⟩, hRest, hParts⟩
          cases hParts
          rcases ih hRest with ⟨hStart, rfl⟩
          exact
            ⟨List.not_mem_cons_of_ne_of_not_mem
              (Ne.symm hOther) hStart, rfl⟩
  · rintro ⟨hFront, rfl⟩
    exact atFirst?_append_cons hFront back

/- A text is cut at all separators as a list at all members. -/
theorem atAll_eq_splitOn
    (separator : Char)
    (text : List Char) :
    atAll separator text = text.splitOn separator := by
  induction text with
  | nil => rfl
  | cons char rest ih =>
      rw [atAll, List.splitOn_cons_eq_if_modifyHead, ih]
      by_cases hSame : char = separator
      · simp [hSame]
      · have hOther : (char == separator) = false :=
          beq_eq_false_iff_ne.mpr hSame
        rw [if_neg hSame, hOther]
        cases hParts : rest.splitOn separator with
        | nil => exact absurd hParts (List.splitOn_ne_nil _ _)
        | cons first parts => rfl

/- The parts of a text make it up again. -/
theorem intercalate_atAll
    (separator : Char)
    (text : List Char) :
    [separator].intercalate (atAll separator text) = text := by
  rw [atAll_eq_splitOn]
  exact List.intercalate_splitOn separator

theorem atAll_of_not_mem
    (h : separator ∉ text) :
    atAll separator text = [text] := by
  rw [atAll_eq_splitOn]
  exact List.splitOn_eq_singleton h

theorem atAll_append_cons
    (hFront : separator ∉ front)
    (back : List Char) :
    atAll separator (front ++ separator :: back) =
      front :: atAll separator back := by
  have hNone :
      ∀ char ∈ front, (char == separator) = false := by
    intro char hChar
    exact beq_eq_false_iff_ne.mpr
      (ne_of_mem_of_not_mem hChar hFront)
  rw [atAll_eq_splitOn, atAll_eq_splitOn,
    List.splitOn_eq_splitOnP, List.splitOn_eq_splitOnP]
  exact List.splitOnP_append_cons_of_forall_mem hNone
    separator (beq_self_eq_true separator) back

------------------------------------------------------------
-- Words
------------------------------------------------------------

/- The words of a text, which blanks set apart. -/
def words (text : List Char) : List (List Char) :=
  (text.splitOnP Char.isWhitespace).filter
    fun word => !word.isEmpty

theorem words_append_cons
    (front back : List Char) :
    words (front ++ ' ' :: back) = words front ++ words back := by
  have hBlank : Char.isWhitespace ' ' = true := rfl
  unfold words
  rw [List.splitOnP_append_cons front back hBlank,
    List.filter_append]

/- A text of texts has the words of each of them. -/
theorem words_intercalate
    (texts : List String) :
    words (String.intercalate " " texts).toList =
      texts.flatMap fun text => words text.toList := by
  have hBlank : " ".toList = [' '] := rfl
  rw [String.toList_intercalate, hBlank]
  induction texts with
  | nil => rfl
  | cons text texts ih =>
      cases texts with
      | nil =>
          simp only [List.map_cons, List.map_nil,
            List.intercalate_singleton, List.flatMap_cons,
            List.flatMap_nil, List.append_nil]
      | cons next texts =>
          rw [List.map_cons] at ih
          rw [List.map_cons, List.map_cons,
            List.intercalate_cons_cons, List.append_assoc,
            List.singleton_append, words_append_cons, ih]
          rfl

/- Whether nothing in a text sets words apart. -/
def NoBlank (text : List Char) : Prop :=
  ∀ char ∈ text, char.isWhitespace = false

instance (text : List Char) : Decidable (NoBlank text) :=
  decidable_of_iff
    (text.all (fun char => !char.isWhitespace) = true)
    (by simp [NoBlank])

theorem NoBlank.append
    {back : List Char}
    (hFront : NoBlank front)
    (hBack : NoBlank back) :
    NoBlank (front ++ back) :=
  List.forall_mem_append.mpr ⟨hFront, hBack⟩

theorem NoBlank.cons
    {char : Char}
    (hChar : char.isWhitespace = false)
    (hText : NoBlank text) :
    NoBlank (char :: text) :=
  List.forall_mem_cons.mpr ⟨hChar, hText⟩

/- A text without blanks is a single word, or empty. -/
theorem words_of_noBlank
    (hBlank : NoBlank text)
    (hNonempty : text ≠ []) :
    words text = [text] := by
  unfold words
  rw [List.splitOnP_eq_singleton hBlank]
  simp [hNonempty]

end Split

------------------------------------------------------------
-- Digits Among Other Characters
------------------------------------------------------------

namespace Hex

variable {text : List Char}

/- Digits do not contain what is no digit. -/
theorem not_mem_of_isDigit
    {separator : Char}
    (hDigits : ∀ char ∈ text, IsDigit char)
    (hSeparator : ¬ IsDigit separator) :
    separator ∉ text :=
  fun h => hSeparator (hDigits separator h)

/- Digits do not set words apart. -/
theorem noBlank_of_isDigit
    (hDigits : ∀ char ∈ text, IsDigit char) :
    Split.NoBlank text := by
  intro char hChar
  have hDigit := hDigits char hChar
  apply Bool.eq_false_iff.mpr
  intro hBlank
  have hCases :
      char = ' ' ∨ char = '\t' ∨ char = '\r' ∨ char = '\n' := by
    simpa [Char.isWhitespace, or_assoc] using hBlank
  rcases hCases with rfl | rfl | rfl | rfl
  all_goals exact absurd hDigit (by decide)

theorem noBlank_byte
    (letters : Letters)
    (b : UInt8) :
    Split.NoBlank (byte letters b) :=
  noBlank_of_isDigit fun _ => isDigit_of_mem_byte

theorem noBlank_bytes
    (letters : Letters)
    (bs : Bytes) :
    Split.NoBlank (bytes letters bs) :=
  noBlank_of_isDigit fun _ => isDigit_of_mem_bytes

/- The bytes behind the last separator are a single part. -/
theorem atAll_bytes
    {separator : Char}
    (letters : Letters)
    (hSeparator : ¬ IsDigit separator)
    (bs : Bytes) :
    Split.atAll separator (bytes letters bs) =
      [bytes letters bs] :=
  Split.atAll_of_not_mem
    (not_mem_of_isDigit (fun _ => isDigit_of_mem_bytes)
      hSeparator)

end Hex

namespace Number

variable {base n : Nat}
variable {digits : List Char}

theorem not_mem_of_digits?
    {separator : Char}
    (hDigits : digits? base digits = some n)
    (hSeparator : ¬ Hex.IsDigit separator) :
    separator ∉ digits :=
  Hex.not_mem_of_isDigit (isDigit_of_digits? hDigits)
    hSeparator

theorem noBlank_of_digits?
    (hDigits : digits? base digits = some n) :
    Split.NoBlank digits :=
  Hex.noBlank_of_isDigit (isDigit_of_digits? hDigits)

/- A number in front of a separator is a part of its own. -/
theorem atAll_digits
    {separator : Char}
    (hDigits : digits? base digits = some n)
    (hSeparator : ¬ Hex.IsDigit separator)
    (back : List Char) :
    Split.atAll separator (digits ++ separator :: back) =
      digits :: Split.atAll separator back :=
  Split.atAll_append_cons
    (not_mem_of_digits? hDigits hSeparator) back

end Number

end GatewayRules
