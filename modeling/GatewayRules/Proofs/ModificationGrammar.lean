import GatewayRules.Proofs.NumberGrammar
import GatewayRules.Proofs.UnitedTargets
import Mathlib

/-
  The texts that describe a function of a modification: the
  name of an operation, the letters of targets, and a template
  frame, set apart by colons.  A text adds a function to those
  that are there exactly if it is one of these, for an
  operation without a function, and with a template of the
  kind of the others.

  Main declarations:
    * `Descriptor.IsCaseOf` and `Descriptor.Names`
    * `Descriptor.IsTargets`
    * `Descriptor.IsTemplate` and `Descriptor.frame_eq_ok_iff`
    * `Descriptor.IsFunction`
    * `Descriptor.addModification_eq_ok_iff`
-/

------------------------------------------------------------
-- Letters of Either Case
------------------------------------------------------------

namespace GatewayRules

namespace Descriptor

variable {text : List Char}

/- Whether a character is a letter, or it in lower case. -/
def IsCaseOf (letter char : Char) : Prop :=
  char = letter ∨ char = letter.toLower

theorem toUpper_eq_iff
    {letter char : Char}
    (hUpper : letter.isUpper = true) :
    char.toUpper = letter ↔ IsCaseOf letter char := by
  simp only [Char.isUpper, decide_eq_true_eq] at hUpper
  unfold IsCaseOf Char.toUpper Char.toLower
  rw [dif_pos hUpper]
  simp only [Char.ext_iff]
  grind

/- Whether a text is a word in letters of either case. -/
def IsWord (word text : List Char) : Prop :=
  List.Forall₂ IsCaseOf word text

theorem map_toUpper_eq_iff
    {word : List Char}
    (hUpper : ∀ letter ∈ word, letter.isUpper = true) :
    text.map Char.toUpper = word ↔ IsWord word text := by
  unfold IsWord
  induction word generalizing text with
  | nil => simp
  | cons letter word ih =>
      rw [List.forall_mem_cons] at hUpper
      cases text with
      | nil => simp
      | cons char text =>
          rw [List.map_cons, List.cons.injEq,
            List.forall₂_cons, toUpper_eq_iff hUpper.1,
            ih hUpper.2]

theorem isUpper_of_mem_name
    (op : Operation) :
    ∀ letter ∈ op.name.toList, letter.isUpper = true := by
  apply List.all_eq_true.mp
  cases op <;> rfl

theorem operation_eq_ok_iff
    {op : Operation} :
    operation text = .ok op ↔ IsWord op.name.toList text := by
  rw [← map_toUpper_eq_iff (isUpper_of_mem_name op)]
  unfold operation
  rw [expect_eq_ok_iff]
  constructor
  · intro h
    have hName := List.find?_some h
    exact (of_decide_eq_true hName).symm
  · intro hName
    rw [hName]
    cases op <;> rfl

------------------------------------------------------------
-- Targets
------------------------------------------------------------

/- Whether a character is the letter of a target. -/
def Names
    (char : Char)
    (member : Targets) : Prop :=
  ∃ letter,
    (member, letter) ∈ Targets.letters ∧ IsCaseOf letter char

theorem target_eq_ok_iff
    {char : Char}
    {member : Targets} :
    target char = .ok member ↔ Names char member := by
  have hUpper :
      ∀ entry ∈ Targets.letters, entry.2.isUpper = true := by
    decide
  have hFound :
      ∀ entry ∈ Targets.letters,
        Targets.letters.find? (fun other =>
          other.2 = entry.2) = some entry := by
    decide
  unfold target
  rw [expect_eq_ok_iff, Option.map_eq_some_iff]
  constructor
  · rintro ⟨⟨_, letter⟩, hEntry, rfl⟩
    have hLetters := List.mem_of_find?_eq_some hEntry
    have hFirst := List.find?_some hEntry
    have hLetter : letter = char.toUpper :=
      of_decide_eq_true hFirst
    refine ⟨letter, hLetters, ?_⟩
    exact (toUpper_eq_iff (hUpper _ hLetters)).mp hLetter.symm
  · rintro ⟨letter, hLetters, hCase⟩
    refine ⟨(member, letter), ?_, rfl⟩
    rw [(toUpper_eq_iff (hUpper _ hLetters)).mpr hCase]
    exact hFound _ hLetters

/- A letter names no more than one target. -/
theorem Names.unique
    {char : Char}
    {member other : Targets}
    (h : Names char member)
    (hOther : Names char other) :
    member = other := by
  have hTarget := target_eq_ok_iff.mpr h
  rw [target_eq_ok_iff.mpr hOther] at hTarget
  exact (Except.ok.inj hTarget).symm

/- Targets are united letter by letter. -/
theorem foldlM_target_eq_ok_iff
    {start t : Targets} :
    text.foldlM
          (fun targets char =>
            return targets.union (← target char))
          start =
        .ok t ↔
      (∀ char ∈ text, ∃ member, Names char member) ∧
        t.IsUnion fun member =>
          member = start ∨ ∃ char ∈ text, Names char member := by
  induction text generalizing start with
  | nil =>
      have hStart :
          start.IsUnion fun member =>
            member = start ∨ ∃ char ∈ [], Names char member := by
        intro i
        simp
      constructor
      · intro h
        cases h
        exact ⟨nofun, hStart⟩
      · rintro ⟨-, hUnion⟩
        rw [hStart.unique hUnion]
        rfl
  | cons char text ih =>
      simp only [List.foldlM_cons, bind_assoc, pure_bind,
        bind_eq_ok_iff, target_eq_ok_iff, ih,
        List.forall_mem_cons]
      -- The first letter is united with what was there before.
      have hUnion (member : Targets)
          (hMember : Names char member) :
          (t.IsUnion fun other =>
              other = start.union member ∨
                ∃ char ∈ text, Names char other) ↔
            t.IsUnion fun other =>
              other = start ∨
                ∃ letter ∈ char :: text, Names letter other := by
        have hOnly (other : Targets) :
            Names char other ↔ other = member := by
          constructor
          · exact fun hOther => hOther.unique hMember
          · rintro rfl
            exact hMember
        refine forall_congr' fun i => iff_congr Iff.rfl ?_
        simp only [List.exists_mem_cons_iff, hOnly,
          or_and_right, exists_or, exists_eq_left,
          Flags.union, BitVec.getLsbD_or, Bool.or_eq_true,
          or_assoc]
      constructor
      · rintro ⟨member, hMember, hNamed, hAll⟩
        exact
          ⟨⟨⟨member, hMember⟩, hNamed⟩,
            (hUnion member hMember).mp hAll⟩
      · rintro ⟨⟨⟨member, hMember⟩, hNamed⟩, hAll⟩
        exact
          ⟨member, hMember, hNamed,
            (hUnion member hMember).mpr hAll⟩

/- The targets that are named by the letters of a text. -/
theorem targets_eq_ok_iff
    {t : Targets} :
    targets text = .ok t ↔
      (∀ char ∈ text, ∃ member, Names char member) ∧
        t.IsUnion fun member =>
          ∃ char ∈ text, Names char member := by
  unfold targets
  rw [foldlM_target_eq_ok_iff]
  refine and_congr_right fun _ => ?_
  refine forall_congr' fun i => iff_congr Iff.rfl ?_
  simp [or_and_right, exists_or, Flags.empty]

/-
  Whether a text names targets for frames of a kind, with one
  or more letters.  Only FD frames have flags.
-/
structure IsTargets
    (kind : FrameKind)
    (text : List Char)
    (t : Targets) : Prop where
  nonempty : text ≠ []
  named : ∀ char ∈ text, ∃ member, Names char member
  flagged :
    ∀ char ∈ text, Names char Targets.fdFlags → kind = .fd
  union :
    t.IsUnion fun member => ∃ char ∈ text, Names char member

theorem Names.isEmpty_eq_false
    {char : Char}
    {member : Targets}
    (h : Names char member) :
    member.isEmpty = false := by
  have hAll :
      ∀ entry ∈ Targets.letters, entry.1.isEmpty = false := by
    decide
  rcases h with ⟨letter, hLetters, -⟩
  exact hAll _ hLetters

/- The flags of FD frames have a letter of their own. -/
theorem Names.contains_fdFlags_iff
    {char : Char}
    {member : Targets}
    (h : Names char member) :
    member.contains Targets.fdFlags = true ↔
      member = Targets.fdFlags := by
  have hAll :
      ∀ entry ∈ Targets.letters,
        entry.1.contains Targets.fdFlags = true ↔
          entry.1 = Targets.fdFlags := by
    decide
  rcases h with ⟨letter, hLetters, -⟩
  exact hAll _ hLetters

/-
  A text names the targets of a function exactly if it is read
  as these, and nothing is wrong with the function.
-/
theorem isTargets_iff
    {text : List Char}
    {f : Function} :
    IsTargets f.template.kind text f.targets ↔
      targets text = .ok f.targets ∧ f.violation? = none := by
  rw [targets_eq_ok_iff, Function.violation?_eq_none_iff]
  constructor
  · intro h
    refine ⟨⟨h.named, h.union⟩, rfl, ?_, ?_⟩
    · rcases List.exists_mem_of_ne_nil _ h.nonempty with
        ⟨char, hChar⟩
      rcases h.named char hChar with ⟨member, hMember⟩
      exact h.union.isEmpty_eq_false_iff.mpr
        ⟨member, ⟨char, hChar, hMember⟩,
          hMember.isEmpty_eq_false⟩
    · intro hContains
      rcases (Targets.contains_fdFlags_iff h.union).mp
          hContains with
        ⟨member, ⟨char, hChar, hMember⟩, hReached⟩
      rw [hMember.contains_fdFlags_iff.mp hReached] at hMember
      exact h.flagged char hChar hMember
  · rintro ⟨⟨hNamed, hUnion⟩, hSuits⟩
    refine ⟨?_, hNamed, ?_, hUnion⟩
    · rintro rfl
      rcases hUnion.isEmpty_eq_false_iff.mp hSuits.targeted with
        ⟨member, ⟨char, hChar, -⟩, -⟩
      cases hChar
    · intro char hChar hFlags
      apply hSuits.flagged
      apply (Targets.contains_fdFlags_iff hUnion).mpr
      exact
        ⟨Targets.fdFlags, ⟨char, hChar, hFlags⟩,
          hFlags.contains_fdFlags_iff.mpr rfl⟩

------------------------------------------------------------
-- Templates
------------------------------------------------------------

/-
  Whether a text is that of a template: identifier, length, and
  data, set apart by points, and the flags of an FD frame after
  the identifier.  Neither the length nor the number of data
  bytes exceeds what a frame holds, but they are independent.
-/
inductive IsTemplate : FrameKind → List Char → Frame → Prop where
  | classic
      {idText lengthText dataText : List Char}
      {id : UInt32}
      {length : UInt8}
      {data : Bytes}
      (hId : Number.Spells 16 idText id.toNat)
      (hLength : Number.Spells 16 lengthText length.toNat)
      (hData : Hex.Spells dataText data)
      (hShort : length.toNat ≤ 8)
      (hFits : data.length ≤ 8) :
      IsTemplate .classic
        (idText ++ '.' :: (lengthText ++ '.' :: dataText))
        (.classic
          { id, length, dlc := 0,
            data := Block.zeroFilled 8 data })
  | fd
      {idText flagsText lengthText dataText : List Char}
      {id : UInt32}
      {flags length : UInt8}
      {data : Bytes}
      (hId : Number.Spells 16 idText id.toNat)
      (hFlags : Number.Spells 16 flagsText flags.toNat)
      (hLength : Number.Spells 16 lengthText length.toNat)
      (hData : Hex.Spells dataText data)
      (hShort : length.toNat ≤ 64)
      (hFits : data.length ≤ 64) :
      IsTemplate .fd
        (idText ++ '.' ::
          (flagsText ++ '.' :: (lengthText ++ '.' :: dataText)))
        (.fd
          { id, length, flags := ⟨flags.toBitVec⟩,
            data := Block.zeroFilled 64 data })

variable {kind : FrameKind}
variable {f : Frame}

theorem IsTemplate.kind_eq
    (h : IsTemplate kind text f) :
    f.kind = kind := by
  cases h <;> rfl

/- No point stands in a number, nor among the digits of data. -/
theorem point_not_mem
    {n : Nat}
    (h : Number.Spells 16 text n) :
    '.' ∉ text :=
  h.not_mem (by decide) (by decide)

theorem point_not_mem_data
    {data : Bytes}
    (h : Hex.Spells text data) :
    '.' ∉ text :=
  Hex.not_mem_of_isDigit h.isDigit (by decide)

theorem isTemplate_of_frame
    (h : frame kind text = .ok f) :
    IsTemplate kind text f := by
  have hText := Split.intercalate_atAll '.' text
  unfold frame at h
  split at h
  · rename_i idText lengthText dataText hParts
    simp only [hParts, List.intercalate_cons_cons,
      List.intercalate_singleton, List.append_assoc,
      List.singleton_append] at hText
    simp only [bind_eq_ok_iff, checked_eq_ok_iff,
      word_eq_ok_iff, data_eq_ok_iff, byte_eq_ok_iff] at h
    rcases h with
      ⟨id, hId, data, hData, made, hMade, length, hLength,
        hFrame⟩
    rcases ite_eq_ok_iff.mp hMade with ⟨hFits, rfl⟩
    rcases ite_eq_ok_iff.mp hFrame with ⟨hShort, rfl⟩
    rw [← hText]
    exact .classic hId hLength hData hShort hFits
  · rename_i idText flagsText lengthText dataText hParts
    simp only [hParts, List.intercalate_cons_cons,
      List.intercalate_singleton, List.append_assoc,
      List.singleton_append] at hText
    simp only [bind_eq_ok_iff, checked_eq_ok_iff,
      word_eq_ok_iff, data_eq_ok_iff, byte_eq_ok_iff] at h
    rcases h with
      ⟨flags, hFlags, id, hId, data, hData, made, hMade,
        length, hLength, hFrame⟩
    rcases ite_eq_ok_iff.mp hMade with ⟨hFits, rfl⟩
    rcases ite_eq_ok_iff.mp hFrame with ⟨hShort, rfl⟩
    rw [← hText]
    exact .fd hId hFlags hLength hData hShort hFits
  · cases h

theorem IsTemplate.frame_eq_ok
    (h : IsTemplate kind text f) :
    frame kind text = .ok f := by
  cases h with
  | classic hId hLength hData hShort hFits =>
      simp only [frame,
        Split.atAll_append_cons (point_not_mem hId),
        Split.atAll_append_cons (point_not_mem hLength),
        Split.atAll_of_not_mem (point_not_mem_data hData),
        bind_eq_ok_iff, checked_eq_ok_iff, word_eq_ok_iff,
        data_eq_ok_iff, byte_eq_ok_iff]
      exact
        ⟨_, hId, _, hData, _, if_pos hFits, _, hLength,
          if_pos hShort⟩
  | fd hId hFlags hLength hData hShort hFits =>
      simp only [frame,
        Split.atAll_append_cons (point_not_mem hId),
        Split.atAll_append_cons (point_not_mem hFlags),
        Split.atAll_append_cons (point_not_mem hLength),
        Split.atAll_of_not_mem (point_not_mem_data hData),
        bind_eq_ok_iff, checked_eq_ok_iff, word_eq_ok_iff,
        data_eq_ok_iff, byte_eq_ok_iff]
      exact
        ⟨_, hFlags, _, hId, _, hData, _, if_pos hFits, _,
          hLength, if_pos hShort⟩

/- What is read as a template is the text of one. -/
theorem frame_eq_ok_iff :
    frame kind text = .ok f ↔ IsTemplate kind text f :=
  ⟨isTemplate_of_frame, IsTemplate.frame_eq_ok⟩

------------------------------------------------------------
-- Functions
------------------------------------------------------------

/-
  Whether a text is that of a function: the name of the
  operation, the letters of the targets, and the template, set
  apart by colons.
-/
inductive IsFunction
    (kind : FrameKind) :
    List Char → Operation → Function → Prop where
  | mk
      {name letters template : List Char}
      {op : Operation}
      {t : Targets}
      {f : Frame}
      (hName : IsWord op.name.toList name)
      (hTargets : IsTargets kind letters t)
      (hTemplate : IsTemplate kind template f) :
      IsFunction kind
        (name ++ ':' :: (letters ++ ':' :: template)) op ⟨t, f⟩

theorem IsFunction.kind_eq
    {op : Operation}
    {f : Function}
    (h : IsFunction kind text op f) :
    f.template.kind = kind := by
  cases h with
  | mk _ _ hTemplate => exact hTemplate.kind_eq

/- No colon stands in the name of an operation. -/
theorem colon_not_mem_name
    {op : Operation}
    (h : IsWord op.name.toList text) :
    ':' ∉ text := by
  intro hColon
  have hName :=
    (map_toUpper_eq_iff (isUpper_of_mem_name op)).mpr h
  have hLetter : ':'.toUpper ∈ op.name.toList := by
    rw [← hName]
    exact List.mem_map_of_mem hColon
  exact absurd (isUpper_of_mem_name op _ hLetter) (by decide)

theorem colon_not_mem_letters
    (hNamed : ∀ char ∈ text, ∃ member, Names char member) :
    ':' ∉ text := by
  have hNone :
      ∀ entry ∈ Targets.letters, ¬ IsCaseOf entry.2 ':' := by
    unfold IsCaseOf
    decide
  intro hColon
  rcases hNamed ':' hColon with
    ⟨member, letter, hLetters, hCase⟩
  exact hNone _ hLetters hCase

/-
  A text is that of a function exactly if it is read as this
  function, and nothing is wrong with the function.
-/
theorem isFunction_iff
    {op : Operation}
    {f : Function} :
    IsFunction kind text op f ↔
      function kind text = .ok (op, f) ∧
        f.violation? = none := by
  unfold function
  simp only [bind_eq_ok_iff, expect_eq_ok_iff,
    Split.atFirst?_eq_some_iff, operation_eq_ok_iff,
    frame_eq_ok_iff, Prod.exists]
  constructor
  · intro h
    cases h with
    | @mk name letters template _ t f hName hTargets hTemplate =>
        obtain rfl := hTemplate.kind_eq
        rcases (isTargets_iff (f := ⟨t, f⟩)).mp hTargets with
          ⟨hRead, hValid⟩
        have hLetters : ':' ∉ letters :=
          colon_not_mem_letters hTargets.named
        exact
          ⟨⟨name, _, ⟨colon_not_mem_name hName, rfl⟩, letters,
              template, ⟨hLetters, rfl⟩, op, hName, t, hRead,
              f, hTemplate, rfl⟩,
            hValid⟩
  · rintro ⟨⟨name, rest, ⟨-, rfl⟩, letters, template, ⟨-, rfl⟩,
      other, hName, t, hRead, frame, hTemplate, hSame⟩, hValid⟩
    cases hSame
    obtain rfl := hTemplate.kind_eq
    exact .mk hName (isTargets_iff.mpr ⟨hRead, hValid⟩) hTemplate

------------------------------------------------------------
-- Adding a Described Function
------------------------------------------------------------

variable {m next : Modification}

/-
  A text adds a function to a modification exactly if it is
  that of a function for frames of the kind, the operation has
  none yet, and the others are for frames of this kind, too.
-/
theorem addModification_eq_ok_iff
    (hMade :
      ∃ entries, Modification.empty.addAll entries = .ok m)
    (kind : FrameKind)
    (text : List Char) :
    addModification kind m text = .ok next ↔
      ∃ op f,
        IsFunction kind text op f ∧
          m.get op = none ∧
          (∀ other g, m.get other = some g →
            g.template.kind = kind) ∧
          next = m.put op f := by
  rcases hMade with ⟨entries, hAdd⟩
  have hOthers := Modification.comprises_of_addAll hAdd
  rw [addModification_eq]
  simp only [bind_eq_ok_iff, checked_eq_ok_iff,
    hOthers.add_eq_ok_iff, Prod.exists]
  refine exists_congr fun op => exists_congr fun f => ?_
  rw [isFunction_iff, and_assoc]
  refine and_congr_right fun hRead =>
    and_congr_right fun hValid => ?_
  have hFunction := isFunction_iff.mpr ⟨hRead, hValid⟩
  rw [hFunction.kind_eq]

/- A function in letters of either case, with leading zeros. -/
def written : List Char :=
  "sEt:fLiL:+000000000123.07.+40.aBcD".toList

def writtenFunction : Function where
  targets := ⟨11⟩
  template :=
    .fd
      { id := 0x123,
        length := 64,
        flags := ⟨7⟩,
        data := Block.zeroFilled 64 [0xAB, 0xCD] }

/- It is added to an FD modification, but not for classic frames. -/
theorem addModification_written :
    ∃ m,
      (∃ entries, Modification.empty.addAll entries = .ok m) ∧
        IsFunction .fd written .set writtenFunction ∧
        addModification .fd m written =
          .ok (m.put .set writtenFunction) ∧
        ∀ next, addModification .classic m written ≠ .ok next := by
  have hMade :
      ∃ entries,
        Modification.empty.addAll entries =
          .ok { onXor := some Request.fdFunction } :=
    ⟨[(.xor, Request.fdFunction)], rfl⟩
  have hFunction :
      IsFunction .fd written .set writtenFunction :=
    isFunction_iff.mpr ⟨by rfl, by rfl⟩
  refine ⟨_, hMade, hFunction, ?_, ?_⟩
  · apply (addModification_eq_ok_iff hMade .fd written).mpr
    refine ⟨.set, writtenFunction, hFunction, rfl, ?_, rfl⟩
    intro other g hGet
    cases other <;> cases hGet
    rfl
  · intro next hAdd
    rcases (addModification_eq_ok_iff hMade .classic
        written).mp hAdd with
      ⟨op, f, -, -, hOthers, -⟩
    cases hOthers .xor Request.fdFunction rfl

end Descriptor

end GatewayRules
