import GatewayRules.Proofs.RuleWords
import Mathlib

/-
  What is printed line by line.  Neither the text of a rule nor
  that of an entry leaves its line, and texts that stay on one
  line each are found again between the line breaks.

  Main declarations:
    * `IsLine`
    * `Rule.isLine_text` and `Entry.isLine_text`
    * `Interface.Directory.HasLines`
    * `Command.isLine_entryLine`
    * `CommandOutcome.splitOn_output`
-/

------------------------------------------------------------
-- Single Lines
------------------------------------------------------------

namespace GatewayRules

/- Whether a text stays on one line. -/
def IsLine (text : String) : Prop :=
  '\n' ∉ text.toList

instance (text : String) : Decidable (IsLine text) :=
  inferInstanceAs (Decidable ('\n' ∉ text.toList))

namespace IsLine

theorem append
    {front back : String}
    (hFront : IsLine front)
    (hBack : IsLine back) :
    IsLine (front ++ back) := by
  unfold IsLine
  rw [String.toList_append, List.mem_append, not_or]
  exact ⟨hFront, hBack⟩

/- What does not set words apart does not set lines apart. -/
theorem of_noBlank
    {text : String}
    (h : Split.NoBlank text.toList) :
    IsLine text := by
  intro hBreak
  cases h '\n' hBreak

theorem ofList
    {text : List Char}
    (h : Split.NoBlank text) :
    IsLine (String.ofList text) := by
  apply of_noBlank
  rwa [String.toList_ofList]

theorem decimal (n : Nat) :
    IsLine (Number.decimal n) :=
  of_noBlank
    (Number.noBlank_of_digits? (Number.digits?_decimal n))

/- A text of texts stays on the line on which they are. -/
theorem intercalate
    {texts : List String}
    (hTexts : ∀ text ∈ texts, IsLine text) :
    IsLine (String.intercalate " " texts) := by
  have hBlank : " ".toList = [' '] := rfl
  unfold IsLine
  rw [String.toList_intercalate, hBlank]
  induction texts with
  | nil => exact List.not_mem_nil
  | cons text texts ih =>
      rw [List.forall_mem_cons] at hTexts
      have hRest := ih hTexts.2
      cases texts with
      | nil =>
          rw [List.map_cons, List.map_nil,
            List.intercalate_singleton]
          exact hTexts.1
      | cons next texts =>
          rw [List.map_cons] at hRest
          rw [List.map_cons, List.map_cons,
            List.intercalate_cons_cons, List.mem_append,
            List.mem_append, not_or, not_or]
          exact ⟨⟨hTexts.1, by decide⟩, hRest⟩

/- The text for an option, if there is one. -/
theorem of_mem_map
    {α : Type}
    {write : α → String}
    (hWrite : ∀ a, IsLine (write a))
    (value : Option α) :
    ∀ text ∈ (value.map write).toList, IsLine text := by
  intro text hText
  rcases Option.map_eq_some_iff.mp
      (Option.mem_toList.mp hText) with ⟨a, -, rfl⟩
  exact hWrite a

end IsLine

------------------------------------------------------------
-- Rules and Entries
------------------------------------------------------------

/- The text of a modification is one function after the other. -/
theorem Modification.isLine_text (m : Modification) :
    IsLine m.text := by
  apply IsLine.intercalate
  intro text hText
  rcases List.mem_map.mp hText with ⟨entry, -, rfl⟩
  have hFunction :
      IsLine (functionText entry.1 entry.2) :=
    .of_noBlank (noBlank_functionText entry.1 entry.2)
  split
  · exact IsLine.append (by decide) hFunction
  · exact IsLine.append (by decide) hFunction

theorem Offsets.isLine_text (offsets : Offsets) :
    IsLine offsets.text :=
  .of_noBlank offsets.noBlank_text

theorem XorChecksum.isLine_text (c : XorChecksum) :
    IsLine c.text := by
  have hInit : IsLine (String.ofList (Hex.byte .upper c.init)) :=
    .ofList (Hex.noBlank_byte .upper c.init)
  have hOffsets : IsLine ("-x " ++ c.offsets.text) :=
    .append (by decide) c.offsets.isLine_text
  exact hOffsets.append hInit

theorem Crc8Checksum.isLine_text (c : Crc8Checksum) :
    IsLine c.text := by
  have hByte (b : UInt8) :
      IsLine (String.ofList (Hex.byte .upper b) ++ ":") :=
    .append (.ofList (Hex.noBlank_byte .upper b)) (by decide)
  have hBytes (bs : Bytes) :
      IsLine (String.ofList (Hex.bytes .upper bs)) :=
    .ofList (Hex.noBlank_bytes .upper bs)
  have hOffsets : IsLine ("-c " ++ c.offsets.text) :=
    .append (by decide) c.offsets.isLine_text
  have hProfile :
      IsLine
        (if c.profile = .unspecified then
          ""
        else
          " -p " ++ Number.decimal c.profile.number.toNat
            ++ ":"
            ++ String.ofList
              (Hex.bytes .upper c.profileData.bytes)) := by
    split
    · decide
    · have hNumber :
          IsLine
            (" -p "
              ++ Number.decimal c.profile.number.toNat) :=
        .append (by decide) (.decimal _)
      exact (hNumber.append (by decide)).append (hBytes _)
  have hText :
      IsLine
        ("-c " ++ c.offsets.text
          ++ (String.ofList (Hex.byte .upper c.init) ++ ":")
          ++ (String.ofList (Hex.byte .upper c.final) ++ ":")
          ++ String.ofList (Hex.bytes .upper c.table.bytes)) :=
    ((hOffsets.append (hByte _)).append (hByte _)).append
      (hBytes _)
  unfold text
  simpa [String.append_assoc] using hText.append hProfile

theorem Checksum.isLine_text (c : Checksum) :
    IsLine c.text := by
  cases c with
  | xor c => exact c.isLine_text
  | crc8 c => exact c.isLine_text

theorem Rule.isLine_text (rule : Rule) :
    IsLine rule.text := by
  have hNumber (letter : String) (hLetter : IsLine letter)
      (n : Nat) :
      IsLine (letter ++ Number.decimal n) :=
    hLetter.append (.decimal n)
  have hFlags :
      ∀ option ∈ RuleFlags.options, IsLine option.2 := by
    decide
  have hFilter (f : Filter) : IsLine ("-f " ++ f.text) :=
    .append (by decide) (.of_noBlank f.noBlank_text)
  have hUid (uid : UInt32) :
      IsLine
        ("-u "
          ++ String.ofList (Hex.number .upper uid.toNat)) :=
    .append (by decide)
      (.ofList
        (Number.noBlank_of_digits?
          (Number.digits?_number .upper uid.toNat)))
  apply IsLine.intercalate
  unfold options
  simp only [List.forall_mem_append]
  refine ⟨⟨⟨⟨⟨⟨?_, ?_⟩, ?_⟩, ?_⟩, ?_⟩, ?_⟩, ?_⟩
  · simp only [List.forall_mem_cons]
    exact
      ⟨hNumber "-s " (by decide) _,
        hNumber "-d " (by decide) _, nofun⟩
  · intro text hText
    rcases List.mem_filterMap.mp hText with
      ⟨option, hOption, hSet⟩
    split at hSet
    · cases hSet
      exact hFlags option hOption
    · cases hSet
  · exact IsLine.of_mem_map hFilter _
  · exact IsLine.of_mem_map Modification.isLine_text _
  · exact IsLine.of_mem_map Checksum.isLine_text _
  · exact
      IsLine.of_mem_map
        (fun hops : UInt8 =>
          hNumber "-l " (by decide) hops.toNat) _
  · exact IsLine.of_mem_map hUid _

/- The text of an entry, with its counters. -/
theorem Entry.isLine_text (entry : Entry) :
    IsLine entry.text := by
  have hCount
      (front back : String)
      (hFront : IsLine front)
      (hBack : IsLine back)
      (count : UInt32) :
      IsLine
        (front ++ Number.decimal count.toNat ++ back) :=
    (hFront.append (.decimal count.toNat)).append hBack
  have hHandled :
      IsLine
        (entry.rule.text ++ " # "
          ++ Number.decimal entry.counters.handled.toNat
          ++ " handled ") :=
    hCount _ _ (entry.rule.isLine_text.append (by decide))
      (by decide) _
  have hDropped := hCount _ " dropped " hHandled (by decide)
    entry.counters.dropped
  exact hCount _ " deleted" hDropped (by decide)
    entry.counters.deleted

------------------------------------------------------------
-- Printed Lines
------------------------------------------------------------

/- Whether no name of an interface leaves its line. -/
def Interface.Directory.HasLines
    (directory : Directory) : Prop :=
  ∀ index name,
    directory.name index = .ok name → '\n' ∉ name.text

theorem Interface.Directory.isLine_display
    {directory : Directory}
    (hNames : directory.HasLines)
    (index : Index) :
    IsLine (directory.display index) := by
  unfold display
  cases hName : directory.name index with
  | error error =>
      exact IsLine.append (by decide) (.decimal _)
  | ok name =>
      unfold IsLine
      rw [String.toList_ofList]
      exact hNames index name hName

/- An entry of a list is printed on one line. -/
theorem Command.isLine_entryLine
    {directory : Interface.Directory}
    (hNames : directory.HasLines)
    (entry : Entry) :
    IsLine (entryLine directory entry) := by
  have hSource := directory.isLine_display hNames entry.rule.source
  have hDestination :=
    directory.isLine_display hNames entry.rule.destination
  unfold entryLine
  exact ((((hSource.append (by decide)).append
    hDestination).append (by decide)).append entry.isLine_text)

/-
  What is printed consists of the texts, if they stay on one
  line each, and of nothing behind the last line break.
-/
theorem CommandOutcome.splitOn_output
    {lines : List String}
    (hLines : ∀ line ∈ lines, IsLine line) :
    (ofLines lines).output.toList.splitOn '\n' =
      lines.map String.toList ++ [[]] := by
  have hBreak : "\n".toList = ['\n'] := rfl
  unfold ofLines
  rw [← Split.atAll_eq_splitOn]
  induction lines with
  | nil => rfl
  | cons line lines ih =>
      rw [List.forall_mem_cons] at hLines
      rw [List.map_cons, String.join_cons,
        String.toList_append, String.toList_append, hBreak,
        List.append_assoc, List.singleton_append,
        Split.atAll_append_cons hLines.1, ih hLines.2]
      rfl

end GatewayRules
