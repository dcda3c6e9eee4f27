import GatewayRules.Proofs.NormalEntry
import GatewayRules.Proofs.TemplateText
import Mathlib

/-
  The parts of a rule are described by their own texts.  What
  is read from the text of a template, a modification, or a
  checksum is what it was, apart from what the text does not
  say: the raw length code of a template, whether a profile
  was given by its name, and the parameters of a profile that
  is not specified.

  Main declarations:
    * `Offsets.atAll_text_append`
    * `XorChecksum.words_text` and `Crc8Checksum.words_text`
    * `Crc8Checksum.asWritten`
    * `Descriptor.xorChecksum_value`
    * `Descriptor.crc8Checksum_value`
    * `Descriptor.text_is_read_back`
-/

------------------------------------------------------------
-- Offsets
------------------------------------------------------------

namespace GatewayRules

/- An offset is set apart by blanks or colons as a whole. -/
theorem Number.noBlank_signedDecimal
    (n : Int) :
    Split.NoBlank (signedDecimal n).toList := by
  intro char hChar
  rcases of_mem_signedDecimal hChar with rfl | hDigit
  · rfl
  · have hDigits : ∀ c ∈ [char], Hex.IsDigit c := by
      simpa using hDigit
    exact Hex.noBlank_of_isDigit hDigits char
      List.mem_cons_self

theorem Number.colon_not_mem_signedDecimal
    (n : Int) :
    ':' ∉ (signedDecimal n).toList := by
  intro hChar
  rcases of_mem_signedDecimal hChar with hMinus | hDigit
  · cases hMinus
  · exact absurd hDigit (by decide)

namespace Offsets

theorem toList_text
    (offsets : Offsets) :
    offsets.text.toList =
      (Number.signedDecimal offsets.first.toInt).toList
        ++ ':' ::
          ((Number.signedDecimal offsets.last.toInt).toList
            ++ ':' ::
              ((Number.signedDecimal
                  offsets.result.toInt).toList
                ++ [':'])) := by
  simp [text]

theorem noBlank_text
    (offsets : Offsets) :
    Split.NoBlank offsets.text.toList := by
  rw [toList_text]
  exact (Number.noBlank_signedDecimal _).append
    (.cons rfl ((Number.noBlank_signedDecimal _).append
      (.cons rfl ((Number.noBlank_signedDecimal _).append
        (by decide)))))

/- The text of offsets is three parts in front of others. -/
theorem atAll_text_append
    (offsets : Offsets)
    (back : List Char) :
    Split.atAll ':' (offsets.text.toList ++ back) =
      (Number.signedDecimal offsets.first.toInt).toList
        :: (Number.signedDecimal offsets.last.toInt).toList
        :: (Number.signedDecimal offsets.result.toInt).toList
        :: Split.atAll ':' back := by
  have hPart (n : Int) (rest : List Char) :
      Split.atAll ':'
          ((Number.signedDecimal n).toList ++ ':' :: rest) =
        (Number.signedDecimal n).toList
          :: Split.atAll ':' rest :=
    Split.atAll_append_cons
      (Number.colon_not_mem_signedDecimal n) rest
  rw [toList_text]
  simp only [List.append_assoc, List.cons_append,
    List.nil_append, hPart]

end Offsets

/- Offsets are read from their parts. -/
theorem Descriptor.offsets_text
    (offsets : Offsets) :
    Descriptor.offsets
        (Number.signedDecimal offsets.first.toInt).toList
        (Number.signedDecimal offsets.last.toInt).toList
        (Number.signedDecimal offsets.result.toInt).toList =
      .ok offsets := by
  unfold Descriptor.offsets
  rw [offset_signedDecimal, offset_signedDecimal,
    offset_signedDecimal]
  rfl

------------------------------------------------------------
-- Checksums
------------------------------------------------------------

namespace XorChecksum

/- What the text of a checksum says behind the option. -/
def value (c : XorChecksum) : List Char :=
  c.offsets.text.toList ++ Hex.byte .upper c.init

theorem noBlank_value
    (c : XorChecksum) :
    Split.NoBlank c.value :=
  c.offsets.noBlank_text.append
    (Hex.noBlank_byte .upper c.init)

theorem words_text
    (c : XorChecksum) :
    Split.words c.text.toList =
      [CommandOption.xor.word, c.value] := by
  have hText :
      c.text.toList =
        CommandOption.xor.word ++ ' ' :: c.value := by
    simp [text, value, CommandOption.word,
      CommandOption.short]
  have hNonempty : c.value ≠ [] :=
    List.append_ne_nil_of_right_ne_nil _ (by simp [Hex.byte])
  rw [hText]
  exact CommandOption.xor.words_valued c.noBlank_value
    hNonempty

end XorChecksum

namespace Crc8Checksum

/-
  What the text of a checksum says behind the option, without
  the profile.
-/
def value (c : Crc8Checksum) : List Char :=
  c.offsets.text.toList
    ++ (Hex.byte .upper c.init
      ++ ':' :: (Hex.byte .upper c.final
        ++ ':' :: Hex.bytes .upper c.table.bytes))

/- What the text says of the profile, if it is specified. -/
def profileValue? (c : Crc8Checksum) : Option (List Char) :=
  if c.profile = .unspecified then
    none
  else
    some
      ((Number.decimal c.profile.number.toNat).toList
        ++ ':' :: Hex.bytes .upper c.profileData.bytes)

/-
  What a text says of a checksum: the profile by its number,
  and the parameters only if the profile is specified.
-/
def asWritten (c : Crc8Checksum) : Crc8Checksum :=
  { c with
    profile := c.profile.normalize,
    profileData :=
      if c.profile = .unspecified then
        Block.zeroFilled 20 []
      else
        c.profileData }

theorem noBlank_value
    (c : Crc8Checksum) :
    Split.NoBlank c.value :=
  c.offsets.noBlank_text.append
    ((Hex.noBlank_byte .upper c.init).append
      (.cons rfl
        ((Hex.noBlank_byte .upper c.final).append
          (.cons rfl
            (Hex.noBlank_bytes .upper c.table.bytes)))))

theorem noBlank_profileValue
    {c : Crc8Checksum}
    {profile : List Char}
    (hProfile : c.profileValue? = some profile) :
    Split.NoBlank profile := by
  unfold profileValue? at hProfile
  split at hProfile
  · cases hProfile
  · cases hProfile
    have hNumber :
        Split.NoBlank
          (Number.decimal c.profile.number.toNat).toList :=
      Number.noBlank_of_digits? (Number.digits?_decimal _)
    exact hNumber.append
      (.cons rfl (Hex.noBlank_bytes .upper c.profileData.bytes))

theorem words_text
    (c : Crc8Checksum) :
    Split.words c.text.toList =
      [CommandOption.crc8.word, c.value]
        ++ c.profileValue?.toList.flatMap fun profile =>
          [CommandOption.profile.word, profile] := by
  have hNonempty : c.value ≠ [] :=
    List.append_ne_nil_of_right_ne_nil _ (by simp [Hex.byte])
  have hValue :=
    CommandOption.crc8.words_valued c.noBlank_value hNonempty
  cases hProfile : c.profileValue? with
  | none =>
      have hUnspecified : c.profile = .unspecified := by
        simpa [profileValue?] using hProfile
      have hText :
          c.text.toList =
            CommandOption.crc8.word ++ ' ' :: c.value := by
        simp [text, value, hUnspecified, CommandOption.word,
          CommandOption.short]
      rw [hText, hValue]
      rfl
  | some profile =>
      have hBlank := noBlank_profileValue hProfile
      rw [profileValue?] at hProfile
      split at hProfile
      · cases hProfile
      · rename_i hSpecified
        cases hProfile
        have hOption :=
          CommandOption.profile.words_valued hBlank (by simp)
        have hText :
            c.text.toList =
              (CommandOption.crc8.word ++ ' ' :: c.value)
                ++ ' ' :: (CommandOption.profile.word ++ ' ' ::
                  ((Number.decimal
                      c.profile.number.toNat).toList
                    ++ ':' ::
                      Hex.bytes .upper
                        c.profileData.bytes)) := by
          simp [text, value, hSpecified, CommandOption.word,
            CommandOption.short]
        rw [hText, Split.words_append_cons, hValue, hOption]
        rfl

end Crc8Checksum

namespace Descriptor

variable {kind : FrameKind}

/- A checksum for frames of a kind is read from its value. -/
theorem xorChecksum_value
    {c : XorChecksum}
    (hValid : c.offsets.validate kind.maxLength = .ok ()) :
    xorChecksum kind c.value = .ok c := by
  have hInit := Number.digits?_byte .upper c.init
  have hByte :
      Split.atAll ':' (Hex.byte .upper c.init) =
        [Hex.byte .upper c.init] :=
    Split.atAll_of_not_mem
      (Number.not_mem_of_digits? hInit (by decide))
  unfold xorChecksum XorChecksum.value
  rw [Offsets.atAll_text_append, hByte]
  change
    (do
      let offsets ← offsets _ _ _
      let init ← byte (Hex.byte .upper c.init)
      checked (XorChecksum.make kind offsets init)) = _
  rw [offsets_text, byte_of_digits? hInit]
  change checked (XorChecksum.make kind c.offsets c.init) = _
  unfold XorChecksum.make
  rw [hValid]
  rfl

/- The parameters that a checksum gets with its profile. -/
theorem withProfile_value
    {c made : Crc8Checksum}
    {profile : List Char}
    (hProfile : c.profileValue? = some profile) :
    withProfile made profile =
      .ok
        { made with
          profile := c.profile.normalize,
          profileData := c.profileData } := by
  unfold Crc8Checksum.profileValue? at hProfile
  split at hProfile
  · cases hProfile
  cases hProfile
  have hDigits :=
    Number.digits?_decimal c.profile.number.toNat
  have hColon :
      ':' ∉ (Number.decimal c.profile.number.toNat).toList :=
    Number.not_mem_of_digits? hDigits (by decide)
  have hNumber :
      Number.unsigned? 10 0x100
          (Number.decimal c.profile.number.toNat).toList =
        some c.profile.number.toNat :=
    Number.unsigned?_of_digits? hDigits
      c.profile.number.toNat_lt
  unfold withProfile
  rw [Split.atFirst?_append_cons hColon]
  simp only [Option.getD_some, hNumber]
  rw [data_bytes]
  change
    checked
        (made.withProfile
          (Profile.ofNumber
            (UInt8.ofNat c.profile.number.toNat))
          c.profileData.bytes) =
      _
  rw [UInt8.ofNat_toNat, Profile.ofNumber_number,
    Crc8Checksum.withProfile,
    if_pos (Nat.le_of_eq c.profileData.length_bytes),
    Block.zeroFilled_bytes]
  rfl

/-
  A checksum for frames of a kind is read from its values, as
  far as these say what it is.
-/
theorem crc8Checksum_value
    {c : Crc8Checksum}
    (hValid : c.offsets.validate kind.maxLength = .ok ()) :
    crc8Checksum kind c.profileValue? c.value =
      .ok c.asWritten := by
  have hInit := Number.digits?_byte .upper c.init
  have hFinal := Number.digits?_byte .upper c.final
  have hColon : ¬ Hex.IsDigit ':' := by
    decide
  have hMade :
      Crc8Checksum.make kind c.offsets c.init c.final
          c.table.bytes =
        .ok
          { c with
            profile := .unspecified,
            profileData := Block.zeroFilled 20 [] } := by
    unfold Crc8Checksum.make
    rw [dif_pos c.table.length_bytes, hValid]
    rfl
  unfold crc8Checksum Crc8Checksum.value
  rw [Offsets.atAll_text_append,
    Number.atAll_digits hInit hColon,
    Number.atAll_digits hFinal hColon,
    Hex.atAll_bytes .upper hColon]
  simp only []
  rw [offsets_text, byte_of_digits? hInit,
    byte_of_digits? hFinal, Hex.decode_bytes]
  cases hProfile : c.profileValue? with
  | none =>
      have hUnspecified : c.profile = .unspecified := by
        simpa [Crc8Checksum.profileValue?] using hProfile
      change
        (checked
            (Crc8Checksum.make kind c.offsets c.init c.final
              c.table.bytes) >>=
          Except.ok) =
          _
      rw [hMade]
      simp only [Crc8Checksum.asWritten, hUnspecified]
      rfl
  | some profile =>
      have hSpecified : c.profile ≠ .unspecified := by
        intro hUnspecified
        simp [Crc8Checksum.profileValue?, hUnspecified]
          at hProfile
      change
        (checked
            (Crc8Checksum.make kind c.offsets c.init c.final
              c.table.bytes) >>=
          fun made => withProfile made profile) =
          _
      rw [hMade]
      simp only [Crc8Checksum.asWritten, hSpecified, if_false]
      exact withProfile_value hProfile

/-
  What is read from the text of a part is this part: of a
  template without the raw length code, of a modification
  without those of its templates, of one checksum all of it,
  and of the other one with the name of a profile that has
  one, and with parameters only for a profile that is
  specified.
-/
theorem text_is_read_back :
    (∀ f : Frame,
      f.length.toNat ≤ f.kind.maxLength →
        frame f.kind f.text.toList = .ok (f.withDlc 0)) ∧
    (∀ (kind : FrameKind) (m : Modification),
      (∀ operation f, m.get operation = some f →
        f.IsDescribable kind ∧ f.Suits kind) →
        ∃ values,
          Split.words m.text.toList =
              values.flatMap (fun value =>
                [(Modification.option kind).word, value]) ∧
            modification kind values = .ok (m.withDlc 0)) ∧
    (∀ (kind : FrameKind) (c : XorChecksum),
      c.offsets.validate kind.maxLength = .ok () →
        ∃ value,
          Split.words c.text.toList =
              [CommandOption.xor.word, value] ∧
            xorChecksum kind value = .ok c) ∧
    (∀ (kind : FrameKind) (c : Crc8Checksum),
      c.offsets.validate kind.maxLength = .ok () →
        ∃ value profile,
          Split.words c.text.toList =
              [CommandOption.crc8.word, value]
                ++ profile.toList.flatMap (fun profile =>
                  [CommandOption.profile.word, profile]) ∧
            crc8Checksum kind profile value =
              .ok
                { c with
                  profile := c.profile.normalize,
                  profileData :=
                    if c.profile = .unspecified then
                      Block.zeroFilled 20 []
                    else
                      c.profileData }) := by
  refine ⟨fun _ => frame_text, ?_, ?_, ?_⟩
  · intro kind m hFunctions
    have hKind :
        ∀ operation f, m.get operation = some f →
          f.template.kind = kind :=
      fun operation f hGet =>
        (hFunctions operation f hGet).1.template
    have hSuits :
        ∀ operation f, (m.withDlc 0).get operation = some f →
          f.Suits kind := by
      intro operation f hGet
      rw [Modification.get_withDlc] at hGet
      rcases Option.map_eq_some_iff.mp hGet with
        ⟨original, hOriginal, rfl⟩
      exact (hFunctions operation original hOriginal).2.withDlc 0
    refine ⟨m.values, Modification.words_text hKind, ?_⟩
    rw [modification_values fun operation f hGet =>
        (hFunctions operation f hGet).1,
      Modification.addAll_functions hSuits]
    rfl
  · intro kind c hValid
    exact ⟨c.value, c.words_text, xorChecksum_value hValid⟩
  · intro kind c hValid
    exact
      ⟨c.value, c.profileValue?, c.words_text,
        crc8Checksum_value hValid⟩

/- A template with an extended identifier and a length code. -/
def coded : Frame :=
  .classic
    { id := 0x92345678,
      length := 8,
      dlc := 15,
      data := Block.zeroFilled 8 [0xA0, 0x0B] }

/- FD templates of full length, with flags of their own. -/
def flagged : Modification :=
  let template : Frame :=
    .fd
      { id := 7,
        length := 64,
        flags := ⟨0x85⟩,
        data := Block.zeroFilled 64 [0xFF] }
  { onOr := some ⟨⟨15⟩, template⟩,
    onSet := some ⟨Targets.length, template⟩ }

/- A checksum with the number of a profile that has a name. -/
def numbered : Crc8Checksum where
  offsets := ⟨-64, 63, -1⟩
  init := 0
  final := 0xFF
  table := Block.zeroFilled 256 [0x1D]
  profile := .other 3
  profileData := Block.zeroFilled 20 [2]

theorem text_is_read_back_flagged :
    frame .classic coded.text.toList =
        .ok (coded.withDlc 0) ∧
      (∃ values,
        Split.words flagged.text.toList =
            values.flatMap (fun value =>
              [CommandOption.fdModify.word, value]) ∧
          modification .fd values = .ok flagged) ∧
      (∃ value,
        Split.words (XorChecksum.mk ⟨-8, 7, 0⟩ 0xA5).text.toList =
            [CommandOption.xor.word, value] ∧
          xorChecksum .classic value =
            .ok ⟨⟨-8, 7, 0⟩, 0xA5⟩) ∧
      ∃ value profile,
        Split.words numbered.text.toList =
            [CommandOption.crc8.word, value,
              CommandOption.profile.word, profile] ∧
          crc8Checksum .fd (some profile) value =
            .ok { numbered with profile := .identifier } := by
  rcases text_is_read_back with
    ⟨hFrame, hModification, hXor, hCrc8⟩
  have hFunctions :
      ∀ operation f, flagged.get operation = some f →
        f.IsDescribable .fd ∧ f.Suits .fd := by
    intro operation f hGet
    cases operation with
    | and => cases hGet
    | or =>
        cases hGet
        exact
          ⟨⟨rfl, by decide, by decide⟩,
            ⟨rfl, by decide, fun _ => rfl⟩⟩
    | xor => cases hGet
    | set =>
        cases hGet
        exact
          ⟨⟨rfl, by decide, by decide⟩,
            ⟨rfl, by decide, fun _ => rfl⟩⟩
  refine
    ⟨hFrame coded (by decide),
      hModification .fd flagged hFunctions,
      hXor .classic ⟨⟨-8, 7, 0⟩, 0xA5⟩ (by decide), ?_⟩
  rcases hCrc8 .fd numbered (by decide) with
    ⟨value, profile, hWords, hRead⟩
  have hShown :
      numbered.profileValue? ≠ none := by
    simp [Crc8Checksum.profileValue?, numbered]
  cases profile with
  | none =>
      have hOwn := numbered.words_text
      rw [hWords] at hOwn
      cases hProfile : numbered.profileValue? with
      | none => exact absurd hProfile hShown
      | some profile =>
          rw [hProfile] at hOwn
          cases hOwn
  | some profile => exact ⟨value, profile, hWords, hRead⟩

end Descriptor

end GatewayRules
