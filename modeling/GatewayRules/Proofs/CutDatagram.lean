import GatewayRules.Proofs.WholeMessage

/-
  Datagrams that are cut.  If a cut goes through a message,
  the framing of what is left is at fault.  If it falls behind
  a message, what is left looks whole, and just the messages
  behind the cut are missed.

  Main declarations:
    * `Framed.unpadded`
    * `Framed.split_take`
    * `Framing.CutBehind`
    * `Framing.prefix_messages_take`
    * `Framing.cutBehind_of_fault_eq_none`
    * `Framing.CutBehind.messages_append`
-/

------------------------------------------------------------
-- Messages and Their Padding
------------------------------------------------------------

namespace GatewayRules

namespace Framed

/- A message without the padding behind it. -/
def unpadded (message : Framed) : Framed :=
  { message with used := message.bytes.length }

/- The padding comes after the message. -/
theorem length_bytes_le_used
    {bytes : Bytes}
    {message : Framed}
    (h : split bytes = .ok message) :
    message.bytes.length ≤ message.used := by
  have hAlign := Bytes.le_align message.header.length.toNat
  rw [length_bytes_of_split h]
  rcases split_eq_ok_iff.mp h with ⟨-, -, hLength, -, hUsed⟩
  omega

/- A message that is left whole by a cut is still cut off. -/
theorem split_take
    {bytes : Bytes}
    {message : Framed}
    {n : Nat}
    (h : split bytes = .ok message)
    (hReach : message.bytes.length ≤ n) :
    split (bytes.take n) =
      .ok { message with used := min message.used n } := by
  rw [length_bytes_of_split h] at hReach
  rcases split_eq_ok_iff.mp h with
    ⟨hHeader, hSize, hLength, hBytes, hUsed⟩
  apply split_eq_ok_iff.mpr
  refine ⟨?_, hSize, ?_, ?_, ?_⟩
  · rw [Header.layout.read?_take bytes
      (Nat.le_trans hSize hReach)]
    exact hHeader
  · rw [List.length_take]
    exact Nat.le_min.mpr ⟨hReach, hLength⟩
  · rw [List.take_take, Nat.min_eq_left hReach]
    exact hBytes
  · simp only [List.length_take]
    omega

/- Only a message that a cut left whole is cut off. -/
theorem exists_split_of_split_take
    {bytes : Bytes}
    {cut : Framed}
    {n : Nat}
    (h : split (bytes.take n) = .ok cut) :
    ∃ message,
      split bytes = .ok message ∧ message.bytes.length ≤ n := by
  have hOwn := length_bytes_of_split h
  rcases split_eq_ok_iff.mp h with
    ⟨hHeader, hSize, hLength, hBytes, hUsed⟩
  rw [List.length_take] at hLength
  have hReach := Nat.le_trans hLength (Nat.min_le_left _ _)
  have hFits := Nat.le_trans hLength (Nat.min_le_right _ _)
  rw [Header.layout.read?_take bytes
    (Nat.le_trans hSize hReach)] at hHeader
  rw [List.take_take, Nat.min_eq_left hReach] at hBytes
  refine
    ⟨{ cut with
        used :=
          min (Bytes.align cut.header.length.toNat)
            bytes.length },
      split_eq_ok_iff.mpr
        ⟨hHeader, hSize, hFits, hBytes, rfl⟩, ?_⟩
  exact Nat.le_trans (Nat.le_of_eq hOwn) hReach

end Framed

------------------------------------------------------------
-- Cuts
------------------------------------------------------------

namespace Framing

/-
  Whether a datagram that is cut after so many bytes is cut
  behind a message, or in the padding behind it.  What is lost
  are the messages after that.
-/
inductive CutBehind :
    (datagram : Bytes) → Nat → (lost : Bytes) → Prop where
  | here
      {datagram : Bytes}
      {message : Framed}
      {n : Nat}
      (hSplit : Framed.split datagram = .ok message)
      (hWhole : message.bytes.length ≤ n)
      (hEnd : n ≤ message.used) :
      CutBehind datagram n (datagram.drop message.used)
  | later
      {datagram lost : Bytes}
      {message : Framed}
      {n : Nat}
      (hSplit : Framed.split datagram = .ok message)
      (hRest :
        CutBehind (datagram.drop message.used) n lost) :
      CutBehind datagram (message.used + n) lost

/- The message before a cut is followed by what is left. -/
theorem ofDatagram_take
    {datagram : Bytes}
    {message : Framed}
    {n : Nat}
    (h : Framed.split datagram = .ok message)
    (hReach : message.bytes.length ≤ n) :
    ofDatagram (datagram.take n) =
      let rest :=
        ofDatagram
          ((datagram.drop message.used).take
            (n - message.used))
      ⟨{ message with used := min message.used n }
          :: rest.messages,
        rest.fault⟩ := by
  have hSplit := Framed.split_take h hReach
  have hPositive := Framed.used_pos_of_split hSplit
  have hNonempty : datagram.take n ≠ [] := by
    intro hEmpty
    rw [hEmpty] at hPositive
    have hNone : ([] : Bytes).length = 0 := rfl
    omega
  have hRest :
      (datagram.take n).drop (min message.used n) =
        (datagram.drop message.used).take
          (n - message.used) := by
    rw [List.drop_take]
    rcases Nat.le_total message.used n with hMore | hEnd
    · rw [Nat.min_eq_left hMore]
    · simp [Nat.min_eq_right hEnd,
        Nat.sub_eq_zero_of_le hEnd]
  rw [ofDatagram_of_split_ok hNonempty hSplit]
  simp only [hRest]

/-
  If the first message does not reach to a cut, none is read,
  and that is noticed.
-/
theorem ofDatagram_take_of_broken
    (datagram : Bytes)
    (n : Nat)
    (h :
      ∀ message, Framed.split datagram = .ok message →
        n < message.bytes.length) :
    (ofDatagram (datagram.take n)).messages = [] ∧
      ((ofDatagram (datagram.take n)).fault = none →
        datagram.take n = []) := by
  by_cases hEmpty : datagram.take n = []
  · rw [hEmpty, ofDatagram_nil]
    exact ⟨rfl, fun _ => rfl⟩
  · cases hSplit : Framed.split (datagram.take n) with
    | error fault =>
        rw [ofDatagram_of_split_error hEmpty hSplit]
        exact ⟨rfl, nofun⟩
    | ok cut =>
        rcases Framed.exists_split_of_split_take hSplit with
          ⟨message, hMessage, hReach⟩
        exact absurd (h message hMessage)
          (Nat.not_lt.mpr hReach)

/- The messages before a cut are the first of all messages. -/
theorem prefix_messages_take
    (datagram : Bytes)
    (n : Nat) :
    (ofDatagram (datagram.take n)).messages.map
        Framed.unpadded <+:
      (ofDatagram datagram).messages.map Framed.unpadded := by
  fun_induction ofDatagram datagram generalizing n with
  | case1 => simp
  | case2 datagram hNonempty fault hSplit =>
      have hBroken :=
        ofDatagram_take_of_broken datagram n
          (by simp [hSplit])
      simp only [hBroken.1, List.map_nil, List.nil_prefix]
  | case3 datagram hNonempty message hSplit rest ih =>
      by_cases hReach : message.bytes.length ≤ n
      · rw [ofDatagram_take hSplit hReach]
        simp only [List.map_cons]
        exact
          (List.prefix_cons_inj message.unpadded).mpr
            (ih (n - message.used))
      · have hBroken :=
          ofDatagram_take_of_broken datagram n
            (by simpa [hSplit] using hReach)
        simp only [hBroken.1, List.map_nil, List.nil_prefix]

/- A cut that is not noticed is one behind a message. -/
theorem cutBehind_of_fault_eq_none
    {datagram : Bytes}
    {n : Nat}
    (hSome : 0 < n)
    (h : (ofDatagram (datagram.take n)).fault = none) :
    datagram.length ≤ n ∨
      ∃ lost, CutBehind datagram n lost := by
  induction datagram using ofDatagram.induct
    generalizing n with
  | case1 => exact Or.inl (Nat.zero_le n)
  | case2 datagram hNonempty fault hSplit =>
      have hBroken :=
        ofDatagram_take_of_broken datagram n
          (by simp [hSplit])
      rcases List.take_eq_nil_iff.mp (hBroken.2 h) with
        hZero | hEmpty
      · exact absurd hZero (Nat.ne_of_gt hSome)
      · exact absurd hEmpty hNonempty
  | case3 datagram hNonempty message hSplit ih =>
      by_cases hReach : message.bytes.length ≤ n
      · rcases Nat.lt_or_ge message.used n with hMore | hEnd
        · rw [ofDatagram_take hSplit hReach] at h
          rcases ih (Nat.sub_pos_of_lt hMore) h with
            hFits | ⟨lost, hLost⟩
          · rw [List.length_drop] at hFits
            exact Or.inl (by omega)
          · have hLater := CutBehind.later hSplit hLost
            rw [Nat.add_sub_cancel' (Nat.le_of_lt hMore)]
              at hLater
            exact Or.inr ⟨lost, hLater⟩
        · exact Or.inr ⟨_, .here hSplit hReach hEnd⟩
      · have hBroken :=
          ofDatagram_take_of_broken datagram n
            (by simpa [hSplit] using hReach)
        rcases List.take_eq_nil_iff.mp (hBroken.2 h) with
          hZero | hEmpty
        · exact absurd hZero (Nat.ne_of_gt hSome)
        · exact absurd hEmpty hNonempty

/-
  The messages of what is lost are just those that are missed.
-/
theorem CutBehind.messages_append
    {datagram lost : Bytes}
    {n : Nat}
    (h : CutBehind datagram n lost) :
    (ofDatagram (datagram.take n)).messages.map
          Framed.unpadded
        ++ (ofDatagram lost).messages.map Framed.unpadded =
      (ofDatagram datagram).messages.map Framed.unpadded := by
  have hNonempty
      {datagram : Bytes}
      {message : Framed}
      (hSplit : Framed.split datagram = .ok message) :
      datagram ≠ [] := by
    rintro rfl
    cases hSplit
  induction h with
  | @here datagram message n hSplit hWhole hEnd =>
      rw [ofDatagram_take hSplit hWhole,
        ofDatagram_of_split_ok (hNonempty hSplit) hSplit,
        Nat.sub_eq_zero_of_le hEnd, List.take_zero,
        ofDatagram_nil]
      rfl
  | @later datagram lost message n hSplit hRest ih =>
      have hReach :
          message.bytes.length ≤ message.used + n :=
        Nat.le_trans (Framed.length_bytes_le_used hSplit)
          (Nat.le_add_right _ _)
      rw [ofDatagram_take hSplit hReach,
        ofDatagram_of_split_ok (hNonempty hSplit) hSplit,
        Nat.add_sub_cancel_left]
      simp only [List.map_cons, List.cons_append, ih]
      rfl

end Framing

end GatewayRules
