import GatewayRules.Proofs.DescribedOptions
import Mathlib

/-
  The texts that are read as numbers, and those that are read
  as byte strings.  A number is read from its digits in some
  base, in letters of either case, behind any number of zeros
  and perhaps a plus sign; a byte string from two digits for
  each byte.  Nothing else is read as either.

  Main declarations:
    * `Hex.IsDigitOf`
    * `Number.IsNumeral` and `Number.Spells`
    * `Number.unsigned?_eq_some_iff`
    * `Hex.Spells` and `Hex.decode_eq_ok_iff`
    * `Descriptor.word_eq_ok_iff`, `Descriptor.byte_eq_ok_iff`,
      and `Descriptor.data_eq_ok_iff`
-/

------------------------------------------------------------
-- Digits
------------------------------------------------------------

namespace GatewayRules

namespace Hex

/- Whether a character is a digit of a value, in either case. -/
def IsDigitOf
    (value : Nat)
    (char : Char) : Prop :=
  value < 16 ∧ ∃ letters, char = digit letters value

/- Nothing but a digit has the value of one. -/
theorem digitValue?_eq_some_iff
    {char : Char}
    {value : Nat} :
    digitValue? char.toNat = some value ↔
      IsDigitOf value char := by
  constructor
  · intro h
    have hChar (code : Nat) (hCode : char.toNat = code) :
        char = Char.ofNat code := by
      rw [← hCode, Char.ofNat_toNat]
    unfold digitValue? at h
    split_ifs at h with hDecimal hUpper hLower <;> cases h
    · refine ⟨by omega, .upper, ?_⟩
      rw [digit, if_pos (by omega)]
      exact hChar _ (by omega)
    · refine ⟨by omega, .upper, ?_⟩
      rw [digit, if_neg (by omega)]
      exact hChar _ (by omega)
    · refine ⟨by omega, .lower, ?_⟩
      rw [digit, if_neg (by omega)]
      exact hChar _ (by omega)
  · rintro ⟨hValue, letters, rfl⟩
    exact digitValue?_digit letters hValue

theorem IsDigitOf.isDigit
    {value : Nat}
    {char : Char}
    (h : IsDigitOf value char) :
    IsDigit char :=
  Option.isSome_of_eq_some (digitValue?_eq_some_iff.mpr h)

/- Digits are characters of one byte. -/
theorem IsDigitOf.toNat_lt
    {value : Nat}
    {char : Char}
    (h : IsDigitOf value char) :
    char.toNat < 128 := by
  have hValue := digitValue?_eq_some_iff.mpr h
  unfold digitValue? at hValue
  split_ifs at hValue <;> omega

end Hex

------------------------------------------------------------
-- Numbers
------------------------------------------------------------

namespace Number

variable {base bound n : Nat}
variable {text : List Char}

/-
  Whether a text consists of one or more digits, which stand
  for a number in some base, the last one for the least.
-/
def IsNumeral
    (base : Nat)
    (text : List Char)
    (n : Nat) : Prop :=
  text ≠ [] ∧
    ∃ values,
      List.Forall₂
          (fun value char =>
            value < base ∧ Hex.IsDigitOf value char)
          values text ∧
        Nat.ofDigits base values.reverse = n

/- A plus sign may stand in front of the digits. -/
def Spells
    (base : Nat)
    (text : List Char)
    (n : Nat) : Prop :=
  ∃ digits,
    (text = digits ∨ text = '+' :: digits) ∧
      IsNumeral base digits n

theorem extend?_eq_some_iff
    {value : Nat} :
    extend? base value text = some n ↔
      ∃ values,
        List.Forall₂
            (fun value char =>
              value < base ∧ Hex.IsDigitOf value char)
            values text ∧
          value * base ^ text.length +
              Nat.ofDigits base values.reverse =
            n := by
  -- Each digit moves those in front of it up by one place.
  induction text generalizing value with
  | nil =>
      simp [extend?]
  | cons char text ih =>
      have hPlace (digit : Nat) (values : List Nat)
          (hValues : values.length = text.length) :
          (value * base + digit) * base ^ text.length +
              Nat.ofDigits base values.reverse =
            value * base ^ (char :: text).length +
              Nat.ofDigits base (digit :: values).reverse := by
        rw [List.reverse_cons, Nat.ofDigits_append,
          Nat.ofDigits_singleton, List.length_reverse,
          hValues, List.length_cons]
        ring
      constructor
      · intro h
        unfold extend? at h
        cases hDigit : Hex.digitValue? char.toNat with
        | none =>
            rw [hDigit] at h
            cases h
        | some digit =>
            simp only [hDigit] at h
            split at h
            case isTrue hBase =>
              rcases ih.mp h with ⟨values, hValues, rfl⟩
              refine
                ⟨digit :: values, .cons ⟨hBase, ?_⟩ hValues,
                  (hPlace digit values
                    hValues.length_eq).symm⟩
              exact Hex.digitValue?_eq_some_iff.mp hDigit
            case isFalse => cases h
      · rintro ⟨_, hValues, rfl⟩
        cases hValues with
        | @cons digit _ values _ hDigit hValues =>
            have hChar :=
              Hex.digitValue?_eq_some_iff.mpr hDigit.2
            simp only [extend?, hChar, hDigit.1, if_true]
            exact ih.mpr
              ⟨values, hValues,
                hPlace digit values hValues.length_eq⟩

theorem digits?_eq_some_iff :
    digits? base text = some n ↔ IsNumeral base text n := by
  cases text with
  | nil => exact iff_of_false nofun fun h => h.1 rfl
  | cons char rest =>
      rw [digits?, extend?_eq_some_iff]
      simp [IsNumeral]

/- A sign is no digit. -/
theorem IsNumeral.ne_plus
    (h : IsNumeral base text n)
    (rest : List Char) :
    text ≠ '+' :: rest := by
  rintro rfl
  have hDigits := digits?_eq_some_iff.mpr h
  exact absurd
    (isDigit_of_digits? hDigits '+' List.mem_cons_self)
    (by decide)

theorem unsigned?_plus
    (base bound : Nat)
    (rest : List Char) :
    unsigned? base bound ('+' :: rest) =
      (digits? base rest).filter (· < bound) := by
  simp only [unsigned?]
  cases digits? base rest with
  | none => simp
  | some n => simp [Option.filter]

theorem unsigned?_of_ne_plus
    (hSign : ∀ rest, text ≠ '+' :: rest) :
    unsigned? base bound text =
      (digits? base text).filter (· < bound) := by
  unfold unsigned?
  split
  · exact absurd rfl (hSign _)
  · cases h : digits? base text with
    | none => simp [h]
    | some n => simp [h, Option.filter]

/- What is read as a number spells one that is not too large. -/
theorem unsigned?_eq_some_iff :
    unsigned? base bound text = some n ↔
      Spells base text n ∧ n < bound := by
  by_cases hPlus : ∃ rest, text = '+' :: rest
  · rcases hPlus with ⟨rest, rfl⟩
    rw [unsigned?_plus, Option.filter_eq_some_iff,
      digits?_eq_some_iff, decide_eq_true_iff]
    refine and_congr_left fun _ => ?_
    constructor
    · intro hRest
      exact ⟨rest, .inr rfl, hRest⟩
    · rintro ⟨digits, hText | hText, hDigits⟩
      · exact absurd hText.symm (hDigits.ne_plus rest)
      · cases hText
        exact hDigits
  · have hSign := not_exists.mp hPlus
    rw [unsigned?_of_ne_plus hSign,
      Option.filter_eq_some_iff, digits?_eq_some_iff,
      decide_eq_true_iff]
    refine and_congr_left fun _ => ?_
    constructor
    · intro hText
      exact ⟨text, .inl rfl, hText⟩
    · rintro ⟨digits, hText | hText, hDigits⟩
      · rw [hText]
        exact hDigits
      · exact absurd hText (hSign digits)

/- What spells a number consists of digits and a sign. -/
theorem Spells.not_mem
    {separator : Char}
    (h : Spells base text n)
    (hSeparator : ¬ Hex.IsDigit separator)
    (hSign : separator ≠ '+') :
    separator ∉ text := by
  rcases h with ⟨digits, hText, hDigits⟩
  have hNone : separator ∉ digits :=
    not_mem_of_digits? (digits?_eq_some_iff.mpr hDigits)
      hSeparator
  rcases hText with rfl | rfl
  · exact hNone
  · exact List.not_mem_cons_of_ne_of_not_mem hSign hNone

end Number

------------------------------------------------------------
-- Byte Strings
------------------------------------------------------------

namespace Hex

variable {text : List Char}
variable {bs : Bytes}

/- Whether a text consists of two digits for each of some bytes. -/
inductive Spells : List Char → Bytes → Prop where
  | nil : Spells [] []
  | cons
      {highChar lowChar : Char}
      {high low : Nat}
      {b : UInt8}
      {text : List Char}
      {bs : Bytes}
      (hHigh : IsDigitOf high highChar)
      (hLow : IsDigitOf low lowChar)
      (hByte : b.toNat = 16 * high + low)
      (hRest : Spells text bs) :
      Spells (highChar :: lowChar :: text) (b :: bs)

theorem Spells.length_eq
    (h : Spells text bs) :
    text.length = 2 * bs.length := by
  induction h with
  | nil => rfl
  | cons _ _ _ _ ih =>
      simp only [List.length_cons, ih]
      omega

theorem Spells.isDigit
    (h : Spells text bs) :
    ∀ char ∈ text, IsDigit char := by
  induction h with
  | nil => simp
  | cons hHigh hLow _ _ ih =>
      intro char hChar
      rcases List.mem_cons.mp hChar with rfl | hChar
      · exact hHigh.isDigit
      rcases List.mem_cons.mp hChar with rfl | hChar
      · exact hLow.isDigit
      · exact ih char hChar

/-
  The first byte of a character is the code of a digit only if
  the character is this digit, which has no other bytes.
-/
theorem exists_encodeChar
    (char : Char) :
    ∃ first rest,
      String.utf8EncodeChar char = first :: rest ∧
        (∀ value,
          digitValue? first.toNat = some value ↔
            IsDigitOf value char) ∧
        (IsDigit char → rest = []) := by
  unfold String.utf8EncodeChar
  by_cases hShort : char.val.toNat ≤ 127
  · refine ⟨_, _, if_pos hShort, ?_, fun _ => rfl⟩
    intro value
    have hCode :
        (UInt8.ofNat char.val.toNat).toNat = char.toNat := by
      simp only [UInt8.toNat_ofNat', Char.toNat]
      omega
    rw [hCode, digitValue?_eq_some_iff]
  · have hNoDigit (value : Nat) : ¬ IsDigitOf value char := by
      intro hDigit
      have hCode := hDigit.toNat_lt
      simp only [Char.toNat] at hCode
      omega
    have hNone (first : UInt8) (hFirst : 128 ≤ first.toNat)
        (value : Nat) :
        digitValue? first.toNat = some value ↔
          IsDigitOf value char := by
      refine iff_of_false ?_ (hNoDigit value)
      unfold digitValue?
      rw [if_neg (by omega), if_neg (by omega),
        if_neg (by omega)]
      exact nofun
    have hLong : ¬ IsDigit char := by
      intro hDigit
      rcases Option.isSome_iff_exists.mp hDigit with
        ⟨value, hValue⟩
      exact hNoDigit value (digitValue?_eq_some_iff.mp hValue)
    simp only [hShort, if_false]
    split_ifs
    all_goals
      refine ⟨_, _, rfl, hNone _ ?_, fun h => absurd h hLong⟩
      simp only [UInt8.toNat_ofNat']
      omega

/- Digits are as many bytes as characters. -/
theorem length_encode
    (h : ∀ char ∈ text, IsDigit char) :
    (Utf8.encode text).length = text.length := by
  induction text with
  | nil => rfl
  | cons char text ih =>
      rw [List.forall_mem_cons] at h
      rcases exists_encodeChar char with
        ⟨first, rest, hChar, -, hRest⟩
      rw [Utf8.encode, List.flatMap_cons, hChar, hRest h.1,
        List.singleton_append, List.length_cons,
        List.length_cons]
      exact congrArg (· + 1) (ih h.2)

theorem digitAt_eq_ok_iff
    {position value : Nat}
    {byte : UInt8} :
    digitAt position byte = .ok value ↔
      digitValue? byte.toNat = some value := by
  unfold digitAt
  cases digitValue? byte.toNat <;> simp

theorem decodeFrom_cons_cons_eq_ok_iff
    {position : Nat}
    {first second : UInt8}
    {rest : Bytes} :
    decodeFrom position (first :: second :: rest) = .ok bs ↔
      ∃ high, digitValue? first.toNat = some high ∧
        ∃ low, digitValue? second.toNat = some low ∧
          ∃ tail, decodeFrom (position + 2) rest = .ok tail ∧
            UInt8.ofNat (16 * high + low) :: tail = bs := by
  rw [decodeFrom]
  simp only [bind_eq_ok_iff, digitAt_eq_ok_iff, pure,
    Except.pure, Except.ok.injEq]

/- The two digits of a byte are read from their codes. -/
theorem spells_cons_cons_iff
    {highChar lowChar : Char} :
    Spells (highChar :: lowChar :: text) bs ↔
      ∃ high, IsDigitOf high highChar ∧
        ∃ low, IsDigitOf low lowChar ∧
          ∃ tail, Spells text tail ∧
            UInt8.ofNat (16 * high + low) :: tail = bs := by
  constructor
  · intro h
    cases h with
    | @cons _ _ high low b _ tail hHigh hLow hByte hRest =>
        refine ⟨high, hHigh, low, hLow, tail, hRest, ?_⟩
        rw [← hByte, UInt8.ofNat_toNat]
  · rintro ⟨high, hHigh, low, hLow, tail, hRest, rfl⟩
    refine .cons hHigh hLow ?_ hRest
    have hHighLess := hHigh.1
    have hLowLess := hLow.1
    rw [UInt8.toNat_ofNat']
    omega

/- What is read as bytes from its code spells these bytes. -/
theorem decodeFrom_encode_eq_ok_iff
    (hEven : (Utf8.encode text).length % 2 = 0)
    (position : Nat) :
    decodeFrom position (Utf8.encode text) = .ok bs ↔
      Spells text bs := by
  -- Two characters at a time, unless one is longer than a byte.
  induction text using List.twoStepInduction
      generalizing position bs with
  | nil =>
      constructor
      · intro h
        cases h
        exact .nil
      · intro h
        cases h
        rfl
  | singleton char =>
      refine iff_of_false ?_ nofun
      rcases exists_encodeChar char with
        ⟨first, rest, hChar, hFirst, hRest⟩
      rw [Utf8.encode, List.flatMap_singleton, hChar] at hEven ⊢
      cases rest with
      | nil => cases hEven
      | cons second rest =>
          rw [decodeFrom_cons_cons_eq_ok_iff]
          rintro ⟨value, hValue, -⟩
          cases hRest ((hFirst value).mp hValue).isDigit
  | cons_cons highChar lowChar text ih _ =>
      rcases exists_encodeChar highChar with
        ⟨first, rest, hHighChar, hHigh, hHighRest⟩
      rcases exists_encodeChar lowChar with
        ⟨second, others, hLowChar, hLow, hLowRest⟩
      rw [spells_cons_cons_iff]
      rw [Utf8.encode, List.flatMap_cons, List.flatMap_cons,
        hHighChar, hLowChar] at hEven ⊢
      cases rest with
      | cons next rest =>
          refine iff_of_false ?_ ?_
          · intro h
            rcases decodeFrom_cons_cons_eq_ok_iff.mp h with
              ⟨high, hValue, -⟩
            cases hHighRest ((hHigh high).mp hValue).isDigit
          · rintro ⟨high, hDigit, -⟩
            cases hHighRest hDigit.isDigit
      | nil =>
          simp only [List.cons_append, List.nil_append,
            decodeFrom_cons_cons_eq_ok_iff, hHigh, hLow]
          refine exists_congr fun high => and_congr_right' ?_
          refine exists_congr fun low =>
            and_congr_right fun hDigit => ?_
          cases hLowRest hDigit.isDigit
          have hRest : (Utf8.encode text).length % 2 = 0 := by
            rw [List.length_append, List.length_append,
              List.length_singleton, List.length_singleton]
              at hEven
            unfold Utf8.encode
            omega
          exact exists_congr fun tail =>
            and_congr_left' (ih hRest _)

/- A text is read as bytes exactly if it spells these bytes. -/
theorem decode_eq_ok_iff :
    decode text = .ok bs ↔ Spells text bs := by
  unfold decode
  dsimp only
  split
  case isTrue hOdd =>
    refine iff_of_false nofun fun h => ?_
    rw [length_encode h.isDigit, h.length_eq] at hOdd
    omega
  case isFalse hEven =>
    exact decodeFrom_encode_eq_ok_iff (by omega) 0

end Hex

------------------------------------------------------------
-- Values in Descriptions
------------------------------------------------------------

namespace Descriptor

variable {text : List Char}

theorem expect_eq_ok_iff
    {α : Type}
    {complaint : Complaint}
    {value? : Option α}
    {value : α} :
    expect complaint value? = .ok value ↔
      value? = some value := by
  cases value? with
  | none => exact iff_of_false nofun nofun
  | some other =>
      rw [expect, Except.ok.injEq, Option.some.injEq]

theorem word_eq_ok_iff
    {value : UInt32} :
    word text = .ok value ↔
      Number.Spells 16 text value.toNat := by
  unfold word
  rw [expect_eq_ok_iff, Option.map_eq_some_iff]
  simp only [Number.unsigned?_eq_some_iff]
  constructor
  · rintro ⟨n, ⟨hSpells, hBound⟩, rfl⟩
    rwa [UInt32.toNat_ofNat_of_lt' hBound]
  · intro hSpells
    exact
      ⟨value.toNat, ⟨hSpells, value.toNat_lt⟩,
        UInt32.ofNat_toNat⟩

theorem byte_eq_ok_iff
    {value : UInt8} :
    byte text = .ok value ↔
      Number.Spells 16 text value.toNat := by
  unfold byte
  rw [expect_eq_ok_iff, Option.map_eq_some_iff]
  simp only [Number.unsigned?_eq_some_iff]
  constructor
  · rintro ⟨n, ⟨hSpells, hBound⟩, rfl⟩
    rwa [UInt8.toNat_ofNat_of_lt' hBound]
  · intro hSpells
    exact
      ⟨value.toNat, ⟨hSpells, value.toNat_lt⟩,
        UInt8.ofNat_toNat⟩

theorem data_eq_ok_iff
    {bs : Bytes} :
    data text = .ok bs ↔ Hex.Spells text bs := by
  rw [← Hex.decode_eq_ok_iff]
  unfold data
  cases Hex.decode text with
  | error error => exact iff_of_false nofun nofun
  | ok bytes =>
      rw [Except.mapError, Except.ok.injEq, Except.ok.injEq]

end Descriptor

end GatewayRules
