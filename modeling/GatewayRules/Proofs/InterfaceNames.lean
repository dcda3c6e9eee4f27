import GatewayRules.Interface.Basic
import Mathlib.Data.List.DropRight

/-
  Names of interfaces.  A name is taken from a byte string by
  looking for the last byte that is not zero, and read from its
  block by looking for the first byte that is.  Both come to
  the same bytes, since a stored name has no zero byte in front
  of the padding, and always some padding.  Names are the same
  just if these bytes are, however much padding there was.

  Main declarations:
    * `Interface.Name.Trims` and `Interface.Name.trims_trim`
    * `Interface.Name.IsProper`
    * `Interface.Name.make_eq_ok_iff`
    * `Interface.Name.read_block`
    * `Interface.Name.readTerminated?_block`
    * `Interface.Name.make_canonical`
-/

------------------------------------------------------------
-- Zero Bytes at the End
------------------------------------------------------------

namespace GatewayRules

namespace Interface

namespace Name

variable {bytes bare : Bytes}
variable {name : Name}

/-
  Whether a byte string is another one, which does not end with
  a zero byte, with any number of zero bytes behind it.
-/
structure Trims (bytes bare : Bytes) : Prop where
  padded :
    ∃ count, bytes = bare ++ List.replicate count 0
  last_ne_zero : bare.getLast? ≠ some 0

theorem trims_trim (bytes : Bytes) : Trims bytes (trim bytes) := by
  change Trims bytes (bytes.rdropWhile (· == 0))
  induction bytes using List.reverseRecOn with
  | nil => exact ⟨⟨0, rfl⟩, nofun⟩
  | append_singleton bytes byte ih =>
      by_cases hZero : byte = 0
      · subst hZero
        rw [List.rdropWhile_concat_pos _ _ _ rfl]
        rcases ih.padded with ⟨count, hPadded⟩
        refine ⟨⟨count + 1, ?_⟩, ih.last_ne_zero⟩
        rw [List.replicate_succ', ← List.append_assoc,
          ← hPadded]
      · rw [List.rdropWhile_concat_neg _ _ _ (by simpa)]
        exact ⟨⟨0, (List.append_nil _).symm⟩, by simpa⟩

/- Zero bytes behind bytes that end with another are dropped. -/
theorem Trims.eq_trim
    (h : Trims bytes bare) :
    bare = trim bytes := by
  rcases h.padded with ⟨count, rfl⟩
  change bare = (bare ++ List.replicate count 0).rdropWhile (· == 0)
  induction count with
  | zero =>
      rw [List.replicate_zero, List.append_nil, eq_comm,
        List.rdropWhile_eq_self_iff]
      intro hNonempty hZero
      apply h.last_ne_zero
      rw [List.getLast?_eq_some_getLast hNonempty,
        eq_of_beq hZero]
  | succ count ih =>
      rw [List.replicate_succ', ← List.append_assoc,
        List.rdropWhile_concat_pos _ _ _ rfl]
      exact ih ⟨⟨count, rfl⟩, h.last_ne_zero⟩

------------------------------------------------------------
-- Making a Name
------------------------------------------------------------

/-
  Whether bytes make up a name: there are some, not too many,
  and none of them is zero.
-/
structure IsProper (bytes : Bytes) : Prop where
  ne_nil : bytes ≠ []
  length_le : bytes.length ≤ 15
  zero_not_mem : 0 ∉ bytes

theorem isProper_bytes (name : Name) : IsProper name.bytes :=
  ⟨name.bytes_ne_nil, name.length_le, name.zero_not_mem⟩

/- What is made of a byte string are its bytes in front. -/
theorem make_eq_ok_iff
    (h : Trims bytes bare) :
    make bytes = .ok name ↔
      IsProper bare ∧ name.bytes = bare := by
  obtain rfl := h.eq_trim
  unfold make
  dsimp only
  split
  case isTrue hProper =>
    constructor
    · intro hMade
      cases hMade
      exact ⟨⟨hProper.1, hProper.2.1, hProper.2.2⟩, rfl⟩
    · rintro ⟨-, hBytes⟩
      cases name
      cases hBytes
      rfl
  case isFalse hImproper =>
    refine iff_of_false nofun ?_
    rintro ⟨hProper, -⟩
    exact hImproper
      ⟨hProper.ne_nil, hProper.length_le,
        hProper.zero_not_mem⟩

theorem exists_make_iff
    (h : Trims bytes bare) :
    (∃ name, make bytes = .ok name) ↔ IsProper bare := by
  simp only [make_eq_ok_iff h]
  constructor
  · rintro ⟨name, hProper, -⟩
    exact hProper
  · intro hProper
    exact
      ⟨⟨bare, hProper.ne_nil, hProper.length_le,
          hProper.zero_not_mem⟩,
        hProper, rfl⟩

/- Nothing is trimmed of a name. -/
theorem trims_bytes (name : Name) : Trims name.bytes name.bytes where
  padded := ⟨0, (List.append_nil _).symm⟩
  last_ne_zero hLast :=
    name.zero_not_mem (List.mem_of_getLast? hLast)

theorem make_bytes (name : Name) : make name.bytes = .ok name :=
  (make_eq_ok_iff name.trims_bytes).mpr
    ⟨name.isProper_bytes, rfl⟩

------------------------------------------------------------
-- Reading a Stored Name
------------------------------------------------------------

/- The padding of a stored name is never empty. -/
theorem exists_padding
    (name : Name) :
    ∃ count,
      name.block.bytes =
        name.bytes ++ 0 :: List.replicate count 0 := by
  have hLength : name.bytes.length ≤ 15 := name.length_le
  refine ⟨15 - name.bytes.length, ?_⟩
  have hTake : name.bytes.take nameSize = name.bytes :=
    List.take_of_length_le (by unfold nameSize maxNameLength; omega)
  have hCount :
      nameSize - name.bytes.length =
        15 - name.bytes.length + 1 := by
    unfold nameSize maxNameLength
    omega
  change
    name.bytes.take nameSize
        ++ List.replicate (nameSize - name.bytes.length) 0 = _
  rw [hTake, hCount, List.replicate_succ]

/- The first zero byte comes right after the bytes of a name. -/
theorem findIdx?_append_zero
    (name : Name)
    (rest : Bytes) :
    (name.bytes ++ 0 :: rest).findIdx? (· == 0) =
      some name.bytes.length := by
  have hNone :
      name.bytes.findIdx? (· == 0) = none := by
    rw [List.findIdx?_eq_none_iff]
    intro byte hByte
    rw [beq_eq_false_iff_ne]
    rintro rfl
    exact name.zero_not_mem hByte
  rw [List.findIdx?_append, hNone, List.findIdx?_cons]
  simp

theorem read_block (name : Name) : read name.block = name.bytes := by
  rcases name.exists_padding with ⟨count, hBlock⟩
  unfold read
  rw [hBlock, findIdx?_append_zero]
  exact List.take_left

theorem readTerminated?_block
    (name : Name) :
    readTerminated? name.block = some (name.bytes ++ [0]) := by
  rcases name.exists_padding with ⟨count, hBlock⟩
  have hTake :
      name.block.bytes.take (name.bytes.length + 1) =
        name.bytes ++ [0] := by
    rw [hBlock, List.take_length_add_append]
    rfl
  unfold readTerminated? terminated?
  rw [read_block, hTake, findIdx?_append_zero]
  simp

theorem eq_iff_bytes_eq
    {other : Name} :
    name = other ↔ name.bytes = other.bytes := by
  cases name
  cases other
  simp only [Name.mk.injEq]

/- Names are the same if what is stored of them is. -/
theorem block_injective : Function.Injective block := by
  intro name other hBlock
  rw [eq_iff_bytes_eq, ← read_block, hBlock, read_block]

------------------------------------------------------------
-- One Name for Every Amount of Padding
------------------------------------------------------------

/-
  A byte string holds a name exactly if its bytes in front of
  the zero bytes at its end make up one.  These are what is
  read from the block of the name, also with the zero byte
  behind them, and what the name is made of again.  Byte
  strings hold the same name, stored in the same way, exactly
  if these bytes are the same.
-/
theorem make_canonical (bytes : Bytes) :
    (∃! bare, Trims bytes bare) ∧
      ∀ bare,
        Trims bytes bare →
          ((∃ name, make bytes = .ok name) ↔ IsProper bare) ∧
            ∀ name,
              make bytes = .ok name →
                read name.block = bare ∧
                  readTerminated? name.block =
                    some (bare ++ [0]) ∧
                  name.terminated = bare ++ [0] ∧
                  make (read name.block) = .ok name ∧
                  ∀ others otherBare other,
                    Trims others otherBare →
                      make others = .ok other →
                        (name = other ↔ bare = otherBare) ∧
                          (name.block = other.block ↔
                            bare = otherBare) := by
  refine ⟨⟨trim bytes, trims_trim bytes, fun _ => Trims.eq_trim⟩,
    ?_⟩
  intro bare hTrims
  refine ⟨exists_make_iff hTrims, ?_⟩
  intro name hMade
  rcases (make_eq_ok_iff hTrims).mp hMade with ⟨-, hBytes⟩
  have hTerminated := name.readTerminated?_block
  rw [hBytes] at hTerminated
  refine ⟨?_, hTerminated, ?_, ?_, ?_⟩
  · rw [read_block, hBytes]
  · rw [terminated, hTerminated, Option.getD_some]
  · rw [read_block, make_bytes]
  · intro others otherBare other hOthers hOther
    rcases (make_eq_ok_iff hOthers).mp hOther with
      ⟨-, hOtherBytes⟩
    have hSame : name = other ↔ bare = otherBare := by
      rw [← hBytes, ← hOtherBytes, eq_iff_bytes_eq]
    rw [block_injective.eq_iff]
    exact ⟨hSame, hSame⟩

end Name

end Interface

end GatewayRules
