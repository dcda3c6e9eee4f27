import GatewayRules.Text.Number
import Mathlib

/-
  Numbers and byte strings as they are written are read as
  what they were, in either base, with or without a sign and
  leading zeros.

  Main declarations:
    * `Number.extend?_of_positional`
    * `Number.digits?_number`, `Number.digits?_paddedNumber`,
      `Number.digits?_byte`, and `Number.digits?_decimal`
    * `Number.unsigned?_of_digits?`
    * `Number.signed?_signedDecimal`
    * `Hex.decode_bytes`
    * `Hex.IsDigit` and `Number.isDigit_of_digits?`
-/

------------------------------------------------------------
-- Digits
------------------------------------------------------------

namespace GatewayRules

namespace Hex

/- Whether a character is a digit in some base. -/
def IsDigit (char : Char) : Prop :=
  (digitValue? char.toNat).isSome = true

instance (char : Char) : Decidable (IsDigit char) :=
  inferInstanceAs
    (Decidable ((digitValue? char.toNat).isSome = true))

/- A digit is read as the value that it was written for. -/
theorem digitValue?_digit
    (letters : Letters)
    {value : Nat}
    (h : value < 16) :
    digitValue? (digit letters value).toNat = some value := by
  have hAll :
      ∀ value : Fin 16,
        digitValue? (digit letters value).toNat =
          some value.val := by
    cases letters <;> decide
  exact hAll ⟨value, h⟩

theorem isDigit_digit
    (letters : Letters)
    {value : Nat}
    (h : value < 16) :
    IsDigit (digit letters value) := by
  unfold IsDigit
  rw [digitValue?_digit letters h]
  rfl

/- The two halves of a byte are the values of digits. -/
theorem halves_lt (b : UInt8) :
    b.toNat / 16 < 16 ∧ b.toNat % 16 < 16 := by
  have hByte : b.toNat < 256 := b.toNat_lt
  omega

theorem isDigit_of_mem_byte
    {letters : Letters}
    {b : UInt8}
    {char : Char}
    (h : char ∈ byte letters b) :
    IsDigit char := by
  have hHalves := halves_lt b
  simp only [byte, List.mem_cons, List.not_mem_nil,
    or_false] at h
  rcases h with rfl | rfl
  · exact isDigit_digit letters hHalves.1
  · exact isDigit_digit letters hHalves.2

theorem isDigit_of_mem_bytes
    {letters : Letters}
    {bs : Bytes}
    {char : Char}
    (h : char ∈ bytes letters bs) :
    IsDigit char := by
  rcases List.mem_flatMap.mp h with ⟨b, -, hByte⟩
  exact isDigit_of_mem_byte hByte

end Hex

------------------------------------------------------------
-- Numbers
------------------------------------------------------------

namespace Number

theorem extend?_append
    (base value : Nat)
    (front back : List Char) :
    extend? base value (front ++ back) =
      (extend? base value front).bind fun n =>
        extend? base n back := by
  induction front generalizing value with
  | nil => rfl
  | cons char front ih =>
      simp only [List.cons_append, extend?]
      cases Hex.digitValue? char.toNat with
      | none => rfl
      | some digit =>
          by_cases hDigit : digit < base
          · simp only [hDigit, if_true]
            exact ih _
          · simp only [hDigit, if_false, Option.bind_none]

/- One more digit. -/
theorem extend?_singleton
    {base digit : Nat}
    {char : Char}
    (value : Nat)
    (hChar : Hex.digitValue? char.toNat = some digit)
    (hDigit : digit < base) :
    extend? base value [char] = some (value * base + digit) := by
  simp [extend?, hChar, hDigit]

/-
  Where numbers are written with the last digit behind the
  text of what the others stand for, they are read back.
-/
theorem extend?_of_positional
    {base : Nat}
    {write : Nat → List Char}
    (digit : Nat → Char)
    (hBase : 1 < base)
    (hDigit :
      ∀ n < base,
        Hex.digitValue? (digit n).toNat = some n)
    (hShort : ∀ n < base, write n = [digit n])
    (hLong :
      ∀ n, base ≤ n →
        write n = write (n / base) ++ [digit (n % base)])
    (n : Nat) :
    extend? base 0 (write n) = some n := by
  induction n using Nat.strong_induction_on with
  | _ n ih =>
    by_cases hSmall : n < base
    · rw [hShort n hSmall,
        extend?_singleton 0 (hDigit n hSmall) hSmall]
      simp
    · have hLarge : base ≤ n := Nat.le_of_not_lt hSmall
      have hLess : n / base < n :=
        Nat.div_lt_self (by omega) hBase
      have hLast : n % base < base :=
        Nat.mod_lt n (by omega)
      rw [hLong n hLarge, extend?_append, ih _ hLess,
        Option.bind_some,
        extend?_singleton _ (hDigit _ hLast) hLast,
        Nat.div_add_mod']

/- What extends a number consists of digits. -/
theorem isDigit_of_extend?
    {base value n : Nat}
    {text : List Char}
    (h : extend? base value text = some n) :
    ∀ char ∈ text, Hex.IsDigit char := by
  induction text generalizing value with
  | nil => simp
  | cons char rest ih =>
      unfold extend? at h
      cases hValue : Hex.digitValue? char.toNat with
      | none =>
          rw [hValue] at h
          cases h
      | some digit =>
          simp only [hValue] at h
          split at h
          · intro other hOther
            rcases List.mem_cons.mp hOther with rfl | hRest
            · exact Option.isSome_of_eq_some hValue
            · exact ih h other hRest
          · cases h

theorem digits?_of_extend?
    {base n : Nat}
    {text : List Char}
    (hNonempty : text ≠ [])
    (h : extend? base 0 text = some n) :
    digits? base text = some n := by
  cases text with
  | nil => exact absurd rfl hNonempty
  | cons char rest => exact h

theorem ne_nil_of_digits?
    {base n : Nat}
    {text : List Char}
    (h : digits? base text = some n) :
    text ≠ [] := by
  rintro rfl
  cases h

theorem isDigit_of_digits?
    {base n : Nat}
    {text : List Char}
    (h : digits? base text = some n) :
    ∀ char ∈ text, Hex.IsDigit char := by
  cases text with
  | nil => cases h
  | cons char rest => exact isDigit_of_extend? h

------------------------------------------------------------
-- Written Numbers
------------------------------------------------------------

theorem extend?_number
    (letters : Hex.Letters)
    (n : Nat) :
    extend? 16 0 (Hex.number letters n) = some n := by
  apply extend?_of_positional (Hex.digit letters) (by decide)
    (fun _ h => Hex.digitValue?_digit letters h)
  · intro n hSmall
    rw [Hex.number, if_pos hSmall]
  · intro n hLarge
    rw [Hex.number, if_neg (Nat.not_lt.mpr hLarge)]

theorem number_ne_nil
    (letters : Hex.Letters)
    (n : Nat) :
    Hex.number letters n ≠ [] := by
  unfold Hex.number
  split <;> simp

theorem digits?_number
    (letters : Hex.Letters)
    (n : Nat) :
    digits? 16 (Hex.number letters n) = some n :=
  digits?_of_extend? (number_ne_nil letters n)
    (extend?_number letters n)

/- Leading zeros do not matter. -/
theorem extend?_zeros
    (base count : Nat)
    (hBase : 0 < base) :
    extend? base 0 (List.replicate count '0') = some 0 := by
  induction count with
  | zero => rfl
  | succ count ih =>
      have hZero : Hex.digitValue? '0'.toNat = some 0 := rfl
      simp only [List.replicate_succ, extend?, hZero, hBase,
        if_true, Nat.zero_mul, Nat.add_zero]
      exact ih

theorem digits?_paddedNumber
    (letters : Hex.Letters)
    (width n : Nat) :
    digits? 16 (Hex.paddedNumber letters width n) =
      some n := by
  unfold Hex.paddedNumber
  apply digits?_of_extend?
  · exact List.append_ne_nil_of_right_ne_nil _
      (number_ne_nil letters n)
  · rw [extend?_append, extend?_zeros 16 _ (by decide)]
    exact extend?_number letters n

theorem digits?_byte
    (letters : Hex.Letters)
    (b : UInt8) :
    digits? 16 (Hex.byte letters b) = some b.toNat := by
  have hHalves := Hex.halves_lt b
  have hHigh := Hex.digitValue?_digit letters hHalves.1
  have hLow := Hex.digitValue?_digit letters hHalves.2
  simp only [Hex.byte, digits?, extend?, hHigh, hLow,
    hHalves.1, hHalves.2, if_true, Option.some.injEq]
  omega

theorem digits?_decimal (n : Nat) :
    digits? 10 (decimal n).toList = some n := by
  rw [decimal, String.toList_ofList]
  apply digits?_of_extend? Nat.toDigits_ne_nil
  apply extend?_of_positional Nat.digitChar (by decide)
  · have hAll :
        ∀ d : Fin 10,
          Hex.digitValue? (Nat.digitChar d).toNat =
            some d.val := by
      decide
    exact fun d hDigit => hAll ⟨d, hDigit⟩
  · exact fun n hSmall => Nat.toDigits_of_lt_base hSmall
  · exact fun n hLarge =>
      Nat.toDigits_of_base_le (by decide) hLarge

------------------------------------------------------------
-- Ranges and Signs
------------------------------------------------------------

/- A number that is not too large is read from its digits. -/
theorem unsigned?_of_digits?
    {base bound n : Nat}
    {text : List Char}
    (hDigits : digits? base text = some n)
    (hBound : n < bound) :
    unsigned? base bound text = some n := by
  unfold unsigned?
  split
  · exact absurd
      (isDigit_of_digits? hDigits '+' List.mem_cons_self)
      (by decide)
  · simp only [hDigits, hBound, if_true]

/- A number that lies in the range is read from its digits. -/
theorem signed?_of_digits?
    {low high : Int}
    {n : Nat}
    {text : List Char}
    (hDigits : digits? 10 text = some n)
    (hLow : low ≤ n)
    (hHigh : n ≤ high) :
    signed? low high text = some n := by
  unfold signed?
  split
  · exact absurd
      (isDigit_of_digits? hDigits '+' List.mem_cons_self)
      (by decide)
  · exact absurd
      (isDigit_of_digits? hDigits '-' List.mem_cons_self)
      (by decide)
  · simp [hDigits, hLow, hHigh]

/- An integer in the range is read back. -/
theorem signed?_signedDecimal
    {low high n : Int}
    (hLow : low ≤ n)
    (hHigh : n ≤ high) :
    signed? low high (signedDecimal n).toList = some n := by
  cases n with
  | ofNat n =>
      exact signed?_of_digits? (digits?_decimal n) hLow hHigh
  | negSucc n =>
      have hText :
          (signedDecimal (.negSucc n)).toList =
            '-' :: (decimal (n + 1)).toList := by
        rw [signedDecimal, String.toList_append]
        rfl
      rw [hText]
      simp only [signed?, digits?_decimal, Option.map_some]
      exact if_pos ⟨hLow, hHigh⟩

/- An integer is written in digits behind a sign, if any. -/
theorem of_mem_signedDecimal
    {n : Int}
    {char : Char}
    (h : char ∈ (signedDecimal n).toList) :
    char = '-' ∨ Hex.IsDigit char := by
  cases n with
  | ofNat n =>
      exact .inr (isDigit_of_digits? (digits?_decimal n) _ h)
  | negSucc n =>
      rw [signedDecimal, String.toList_append] at h
      rcases List.mem_append.mp h with hSign | hDigits
      · exact .inl (List.mem_singleton.mp hSign)
      · exact .inr
          (isDigit_of_digits? (digits?_decimal _) _ hDigits)

end Number

------------------------------------------------------------
-- Byte Strings
------------------------------------------------------------

namespace Hex

/- A byte is written in two characters of one byte each. -/
theorem exists_encode_byte
    (letters : Letters)
    (b : UInt8) :
    ∃ high low,
      Utf8.encode (byte letters b) = [high, low] ∧
        digitValue? high.toNat = some (b.toNat / 16) ∧
        digitValue? low.toNat = some (b.toNat % 16) := by
  have hAll :
      ∀ value : Fin 16,
        String.utf8EncodeChar (digit letters value) =
            [UInt8.ofNat (digit letters value).toNat] ∧
          digitValue?
              (UInt8.ofNat (digit letters value).toNat).toNat =
            some value.val := by
    cases letters <;> decide
  rcases halves_lt b with ⟨hHigh, hLow⟩
  rcases hAll ⟨b.toNat / 16, hHigh⟩ with ⟨hFirst, hFirstValue⟩
  rcases hAll ⟨b.toNat % 16, hLow⟩ with ⟨hSecond, hSecondValue⟩
  refine ⟨_, _, ?_, hFirstValue, hSecondValue⟩
  simp only [Utf8.encode, byte, List.flatMap_cons,
    List.flatMap_nil, hFirst, hSecond, List.append_nil,
    List.singleton_append]

/- A byte is read from the codes of its two digits. -/
theorem decodeFrom_byte
    (letters : Letters)
    (b : UInt8)
    (position : Nat)
    (rest : Bytes) :
    decodeFrom position (Utf8.encode (byte letters b) ++ rest) =
      (decodeFrom (position + 2) rest).map (b :: ·) := by
  rcases exists_encode_byte letters b with
    ⟨high, low, hText, hHigh, hLow⟩
  have hByte :
      UInt8.ofNat (16 * (b.toNat / 16) + b.toNat % 16) = b := by
    rw [Nat.div_add_mod, UInt8.ofNat_toNat]
  rw [hText]
  simp only [List.cons_append, List.nil_append, decodeFrom,
    digitAt, hHigh, hLow]
  cases decodeFrom (position + 2) rest with
  | error error => rfl
  | ok tail =>
      exact congrArg (fun b => Except.ok (b :: tail)) hByte

theorem encode_bytes_cons
    (letters : Letters)
    (b : UInt8)
    (bs : Bytes) :
    Utf8.encode (bytes letters (b :: bs)) =
      Utf8.encode (byte letters b)
        ++ Utf8.encode (bytes letters bs) := by
  simp only [Utf8.encode, bytes, List.flatMap_cons,
    List.flatMap_append]

theorem decodeFrom_bytes
    (letters : Letters)
    (bs : Bytes)
    (position : Nat) :
    decodeFrom position (Utf8.encode (bytes letters bs)) =
      .ok bs := by
  induction bs generalizing position with
  | nil => rfl
  | cons b bs ih =>
      rw [encode_bytes_cons, decodeFrom_byte, ih]
      rfl

theorem length_encode_bytes
    (letters : Letters)
    (bs : Bytes) :
    (Utf8.encode (bytes letters bs)).length =
      2 * bs.length := by
  induction bs with
  | nil => rfl
  | cons b bs ih =>
      rcases exists_encode_byte letters b with
        ⟨high, low, hText, -⟩
      rw [encode_bytes_cons, List.length_append, ih, hText]
      simp only [List.length_cons, List.length_nil]
      omega

/- A byte string is read from its text. -/
theorem decode_bytes
    (letters : Letters)
    (bs : Bytes) :
    decode (bytes letters bs) = .ok bs := by
  have hEven :
      (Utf8.encode (bytes letters bs)).length % 2 ≠ 1 := by
    rw [length_encode_bytes]
    omega
  exact (if_neg hEven).trans (decodeFrom_bytes letters bs 0)

end Hex

end GatewayRules
