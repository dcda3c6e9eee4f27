import GatewayRules.CommandLine.Options
import GatewayRules.Proofs.TextParts
import Mathlib

/-
  Arguments that are options in their short forms, each with
  its value as the next argument, are taken apart into just
  these options.  A value that looks like an option ends this
  with a complaint.

  Main declarations:
    * `CommandOption.word` and `Given.words`
    * `CommandOption.find?_short`
    * `Given.Fits`
    * `Scan.scan_words`
    * `Scan.scan_hyphenated`
-/

------------------------------------------------------------
-- Options as Arguments
------------------------------------------------------------

namespace GatewayRules

namespace CommandOption

/- The argument that is an option in its short form. -/
def word (option : CommandOption) : List Char :=
  ['-', option.short]

theorem short_injective :
    Function.Injective short := by
  intro a b h
  cases a <;> cases b <;> first | rfl | cases h

theorem short_ne_hyphen
    (option : CommandOption) :
    option.short ≠ '-' := by
  cases option <;> decide

theorem words_word
    (option : CommandOption) :
    Split.words option.word = [option.word] := by
  apply Split.words_of_noBlank
  · cases option <;> decide
  · exact List.cons_ne_nil _ _

/- An option and its value are two words. -/
theorem words_valued
    {value : List Char}
    (option : CommandOption)
    (hBlank : Split.NoBlank value)
    (hNonempty : value ≠ []) :
    Split.words (option.word ++ ' ' :: value) =
      [option.word, value] := by
  rw [Split.words_append_cons, words_word,
    Split.words_of_noBlank hBlank hNonempty]
  rfl

/- An option is found by its short form. -/
theorem find?_short
    {options : List CommandOption}
    {option : CommandOption}
    (h : option ∈ options) :
    options.find? (·.short = option.short) = some option := by
  cases hFound :
      options.find? (·.short = option.short) with
  | none =>
      have hNone := List.find?_eq_none.mp hFound option h
      simp at hNone
  | some found =>
      have hSame := List.find?_some hFound
      rw [short_injective (of_decide_eq_true hSame)]

end CommandOption

namespace Given

/- An option as one argument, and its value as the next. -/
def words (given : Given) : List (List Char) :=
  given.option.word :: given.value.toList

/-
  Whether an option is among those that are looked for, and
  has the value that it should have.  Help and the version do
  not count: they end everything.
-/
structure Fits
    (options : List CommandOption)
    (given : Given) : Prop where
  listed : given.option ∈ options
  not_help : given.option ≠ .help
  not_version : given.option ≠ .version
  valued :
    given.option.takesValue = true →
      ∃ value,
        given.value = some value ∧
          value.head? ≠ some '-' ∧
          given.option.accepts value = true
  plain : given.option.takesValue = false → given.value = none

end Given

------------------------------------------------------------
-- Taking Options Apart
------------------------------------------------------------

namespace Scan

variable {options : List CommandOption}

/- An argument in a short form opens what the form opens. -/
theorem scan_shortForms
    {char : Char}
    {text : List Char}
    {given : List Given}
    {next : Option CommandOption}
    (pending : Option CommandOption)
    (hChar : char ≠ '-')
    (hForms :
      shortForms options (char :: text) = .ok (given, next))
    (rest : List (List Char)) :
    scan options pending (('-' :: char :: text) :: rest) =
      (scan options next rest).map
        (·.prepend (unfinished pending ++ given)) := by
  rw [scan]
  · rw [hForms]
    change
      (scan options next rest >>= fun others =>
        .ok (others.prepend (unfinished pending ++ given))) = _
    cases scan options next rest <;> rfl
  · intro h
    exact absurd h hChar
  · intro h
    exact absurd h hChar

/- An argument that is no option ends everything. -/
theorem scan_unknown
    {char : Char}
    {text : List Char}
    (pending : Option CommandOption)
    (hChar : char ≠ '-')
    (hUnknown : options.find? (·.short = char) = none)
    (rest : List (List Char)) :
    scan options pending (('-' :: char :: text) :: rest) =
      .error .usage := by
  rw [scan]
  · rw [shortForms, hUnknown]
    rfl
  · intro h
    exact absurd h hChar
  · intro h
    exact absurd h hChar

/- A value is taken by the option that waits for it. -/
theorem scan_value
    {option : CommandOption}
    {value : List Char}
    (hHyphen : value.head? ≠ some '-')
    (hAccepts : option.accepts value = true)
    (rest : List (List Char)) :
    scan options (some option) (value :: rest) =
      (scan options none rest).map
        (·.cons { option, value := some value }) := by
  rw [scan]
  · simp only [valued, hAccepts, if_true]
    cases scan options none rest <;> rfl
  · rintro rfl
    exact hHyphen rfl
  · rintro text rfl
    exact hHyphen rfl
  · rintro char text rfl
    exact hHyphen rfl

/- An option that fits is taken apart from what follows it. -/
theorem scan_given
    {given : Given}
    (hFits : given.Fits options)
    (rest : List (List Char)) :
    scan options none (given.words ++ rest) =
      (scan options none rest).map (·.cons given) := by
  have hFind := CommandOption.find?_short hFits.listed
  have hHyphen := given.option.short_ne_hyphen
  cases hTakes : given.option.takesValue with
  | true =>
      rcases hFits.valued hTakes with
        ⟨value, hValue, hPlain, hAccepts⟩
      have hForms :
          shortForms options [given.option.short] =
            .ok ([], some given.option) := by
        rw [shortForms, hFind]
        simp only [hTakes, if_true]
      have hGiven :
          { option := given.option, value := some value } =
            given := by
        rw [← hValue]
      rw [Given.words, hValue]
      change
        scan options none
            (['-', given.option.short] :: value :: rest) = _
      rw [scan_shortForms none hHyphen hForms,
        scan_value hPlain hAccepts, hGiven]
      cases scan options none rest <;> rfl
  | false =>
      have hFlag : flag given.option = .ok given := by
        have hGiven : { option := given.option } = given := by
          rw [← hFits.plain hTakes]
        unfold flag
        split
        · exact absurd ‹_› hFits.not_help
        · exact absurd ‹_› hFits.not_version
        · rw [hGiven]
      have hForms :
          shortForms options [given.option.short] =
            .ok ([given], none) := by
        rw [shortForms, hFind]
        simp only [hTakes, hFlag]
        rfl
      rw [Given.words, hFits.plain hTakes]
      exact scan_shortForms none hHyphen hForms rest

/- Options that fit are taken apart from what follows them. -/
theorem scan_append
    {given : List Given}
    (hFits : ∀ g ∈ given, g.Fits options)
    (rest : List (List Char)) :
    scan options none (given.flatMap Given.words ++ rest) =
      (scan options none rest).map (·.prepend given) := by
  induction given with
  | nil =>
      rw [List.flatMap_nil, List.nil_append]
      cases scan options none rest <;> rfl
  | cons first given ih =>
      rw [List.forall_mem_cons] at hFits
      rw [List.flatMap_cons, List.append_assoc,
        scan_given hFits.1, ih hFits.2]
      cases scan options none rest <;> rfl

/- Options that fit are taken apart into themselves. -/
theorem scan_words
    {given : List Given}
    (hFits : ∀ g ∈ given, g.Fits options) :
    scan options none (given.flatMap Given.words) =
      .ok { given, words := [] } := by
  have hScan := scan_append hFits []
  rw [List.append_nil] at hScan
  rw [hScan, scan]
  simp [Except.map, prepend, unfinished]

/-
  A value that begins with a hyphen and something that is no
  option is not taken for a value.
-/
theorem scan_hyphenated
    {given : List Given}
    {option : CommandOption}
    {char : Char}
    {text : List Char}
    (hFits : ∀ g ∈ given, g.Fits options)
    (hListed : option ∈ options)
    (hTakes : option.takesValue = true)
    (hChar : char ≠ '-')
    (hUnknown : options.find? (·.short = char) = none)
    (rest : List (List Char)) :
    scan options none
        (given.flatMap Given.words
          ++ option.word :: ('-' :: char :: text) :: rest) =
      .error .usage := by
  have hForms :
      shortForms options [option.short] =
        .ok ([], some option) := by
    rw [shortForms, CommandOption.find?_short hListed]
    simp only [hTakes, if_true]
  rw [scan_append hFits, CommandOption.word,
    scan_shortForms none option.short_ne_hyphen hForms,
    scan_unknown (some option) hChar hUnknown]
  rfl

end Scan

------------------------------------------------------------
-- Values of Options
------------------------------------------------------------

namespace Given

variable {given : List Given}
variable {options : List CommandOption}

/- The same option with each of some values. -/
def each
    (option : CommandOption)
    (values : List (List Char)) : List Given :=
  values.map fun value => { option, value := some value }

@[simp]
theorem values_append
    (front back : List Given)
    (option : CommandOption) :
    values (front ++ back) option =
      values front option ++ values back option := by
  simp [values]

@[simp]
theorem values_each
    (option other : CommandOption)
    (texts : List (List Char)) :
    values (each option texts) other =
      if option = other then texts else [] := by
  unfold values each
  by_cases hSame : option = other
  · simp [hSame, List.filterMap_map]
  · simp [hSame, List.filterMap_map]

@[simp]
theorem isGiven_append
    (front back : List Given)
    (option : CommandOption) :
    isGiven (front ++ back) option =
      (isGiven front option || isGiven back option) := by
  simp [isGiven]

theorem isGiven_each_of_ne
    {option other : CommandOption}
    (hOther : option ≠ other)
    (texts : List (List Char)) :
    isGiven (each option texts) other = false := by
  simp [isGiven, each, hOther]

@[simp]
theorem countP_each
    (option other : CommandOption)
    (texts : List (List Char)) :
    (each option texts).countP (·.option = other) =
      if option = other then texts.length else 0 := by
  unfold each
  rw [List.countP_map]
  by_cases hSame : option = other
  · simp [hSame, Function.comp_def]
  · simp [hSame, Function.comp_def]

/- The words of an option with each of some values. -/
theorem words_each
    (option : CommandOption)
    (texts : List (List Char)) :
    (each option texts).flatMap words =
      texts.flatMap fun text => [option.word, text] := by
  rw [each, List.flatMap_map]
  rfl

/- An option fits with values that do not look like options. -/
theorem fits_each
    {option : CommandOption}
    {texts : List (List Char)}
    (hListed : option ∈ options)
    (hTakes : option.takesValue = true)
    (hTexts :
      ∀ text ∈ texts,
        text.head? ≠ some '-' ∧ option.accepts text = true) :
    ∀ g ∈ each option texts, g.Fits options := by
  intro g hMember
  rcases List.mem_map.mp hMember with ⟨text, hText, rfl⟩
  refine ⟨hListed, ?_, ?_, ?_, ?_⟩
  · rintro rfl
    cases hTakes
  · rintro rfl
    cases hTakes
  · intro _
    exact ⟨text, rfl, hTexts text hText⟩
  · intro hPlain
    rw [hTakes] at hPlain
    cases hPlain

/-
  Options that fit can stand beside each other if none is
  repeated that must not be.
-/
theorem areConsistent_of_fits
    (hFits : ∀ g ∈ given, g.Fits options)
    (hOnce :
      ∀ option : CommandOption,
        option.isRepeatable = false →
          given.countP (·.option = option) ≤ 1) :
    areConsistent given = true := by
  unfold areConsistent
  rw [List.all_eq_true]
  intro g hMember
  have hCount :
      0 < given.countP (·.option = g.option) :=
    List.countP_pos_iff.mpr ⟨g, hMember, by simp⟩
  have hRepeated :
      (g.option.isRepeatable ||
        given.countP (·.option = g.option) == 1) = true := by
    cases hRepeatable : g.option.isRepeatable with
    | true => rfl
    | false =>
        have hSingle := hOnce g.option hRepeatable
        have hOne :
            given.countP (·.option = g.option) = 1 := by
          omega
        simp [hOne]
  have hValued :
      (!g.option.takesValue ||
        !(values given g.option).isEmpty) = true := by
    cases hTakes : g.option.takesValue with
    | false => rfl
    | true =>
        rcases (hFits g hMember).valued hTakes with
          ⟨value, hValue, -⟩
        have hIn : value ∈ values given g.option :=
          List.mem_filterMap.mpr
            ⟨g, hMember, by simp [hValue]⟩
        cases hValues : values given g.option with
        | nil =>
            rw [hValues] at hIn
            cases hIn
        | cons first rest => rfl
  rw [hRepeated, hValued]
  rfl

end Given

end GatewayRules
