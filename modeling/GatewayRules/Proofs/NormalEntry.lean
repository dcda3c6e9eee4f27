import GatewayRules.Rule.Basic

/-
  Normal forms.  Two shapes of an entry have no form of their
  own on the wire: a modification without any function looks
  like none, and a profile given by the number of a named one
  looks like the named one.  An entry is normal if it has
  neither shape.

  Main declarations:
    * `Profile.normalize`
    * `Rule.normalize`
    * `Entry.normalize`
    * `Entry.IsNormal`
    * `Entry.normalize_eq_self_iff`
-/

------------------------------------------------------------
-- Profiles and Checksums
------------------------------------------------------------

namespace GatewayRules

namespace Profile

/- A profile, by its name if its number has one. -/
def normalize : Profile → Profile
  | .other 0 => .unspecified
  | .other 1 => .oneByte
  | .other 2 => .sixteenBytes
  | .other 3 => .identifier
  | profile => profile

/- The numbers above three are those without a name. -/
theorem three_lt_iff (n : UInt8) :
    3 < n ↔ n ≠ 0 ∧ n ≠ 1 ∧ n ≠ 2 ∧ n ≠ 3 := by
  simp only [UInt8.lt_iff_toNat_lt, ne_eq, ← UInt8.toNat_inj,
    UInt8.reduceToNat]
  omega

/- Reading the number of a profile gives its normal form. -/
theorem ofNumber_number (profile : Profile) :
    ofNumber profile.number = profile.normalize := by
  cases profile with
  | other n =>
      by_cases hZero : n = 0
      · subst hZero; rfl
      by_cases hOne : n = 1
      · subst hOne; rfl
      by_cases hTwo : n = 2
      · subst hTwo; rfl
      by_cases hThree : n = 3
      · subst hThree; rfl
      simp [ofNumber, number, normalize, hZero, hOne, hTwo,
        hThree]
  | _ => rfl

@[simp]
theorem number_normalize (profile : Profile) :
    profile.normalize.number = profile.number := by
  unfold normalize
  split <;> rfl

/- Only the numbers up to three have names. -/
theorem normalize_eq_self_iff
    (profile : Profile) :
    profile.normalize = profile ↔
      ∀ n, profile = .other n → 3 < n := by
  cases profile with
  | other n =>
      simp only [other.injEq, forall_eq', three_lt_iff]
      rw [← ofNumber_number, number, ofNumber]
      by_cases hZero : n = 0
      · simp [hZero]
      by_cases hOne : n = 1
      · simp [hOne]
      by_cases hTwo : n = 2
      · simp [hTwo]
      by_cases hThree : n = 3
      · simp [hThree]
      simp [hZero, hOne, hTwo, hThree]
  | _ => simp [normalize]

end Profile

namespace Checksum

/- A checksum with the normal form of its profile, if any. -/
def normalize : Checksum → Checksum
  | .xor c => .xor c
  | .crc8 c => .crc8 { c with profile := c.profile.normalize }

end Checksum

------------------------------------------------------------
-- Rules and Entries
------------------------------------------------------------

namespace Modification

/- A modification is empty if no operation has a function. -/
theorem isEmpty_iff
    (m : Modification) :
    m.isEmpty = true ↔ m = empty := by
  rcases m with ⟨onAnd, onOr, onXor, onSet⟩
  cases onAnd <;> cases onOr <;> cases onXor <;>
    cases onSet <;> simp [isEmpty, functions, Operation.all,
      get, empty]

end Modification

namespace Rule

/- A rule as it comes back from the wire. -/
def normalize (rule : Rule) : Rule :=
  { rule with
    modification :=
      if rule.modification = some .empty then
        none
      else
        rule.modification,
    checksum := rule.checksum.map Checksum.normalize }

end Rule

namespace Entry

/- An entry as it comes back from the wire. -/
def normalize (entry : Entry) : Entry :=
  { entry with rule := entry.rule.normalize }

/-
  Whether an entry has no modification without functions and
  no profile that is given by the number of a named one.
-/
structure IsNormal (entry : Entry) : Prop where
  modification : entry.rule.modification ≠ some .empty
  profile :
    ∀ c n, entry.rule.checksum = some (.crc8 c) →
      c.profile = .other n → 3 < n

/- Exactly the normal entries come back as they are. -/
theorem normalize_eq_self_iff
    (entry : Entry) :
    entry.normalize = entry ↔ entry.IsNormal := by
  rcases entry with ⟨rule, counters⟩
  rcases rule with
    ⟨source, destination, filter, modification, checksum,
      flags, hopLimit, uid⟩
  have hModification :
      (if modification = some .empty then none
        else modification) = modification ↔
        modification ≠ some .empty := by
    by_cases h : modification = some .empty
    · simp [h]
    · simp [h]
  have hChecksum :
      checksum.map Checksum.normalize = checksum ↔
        ∀ c n, checksum = some (.crc8 c) →
          c.profile = .other n → 3 < n := by
    cases checksum with
    | none => simp
    | some checksum =>
        cases checksum with
        | xor c => simp [Checksum.normalize]
        | crc8 c =>
            have hProfile := c.profile.normalize_eq_self_iff
            constructor
            · intro h other n hOther hNumber
              simp only [Option.map_some, Option.some.injEq,
                Checksum.normalize,
                Checksum.crc8.injEq] at h hOther
              subst hOther
              exact hProfile.mp
                (congrArg Crc8Checksum.profile h) n hNumber
            · intro h
              have hOwn := hProfile.mpr fun n => h c n rfl
              simp [Checksum.normalize, hOwn]
  simp only [normalize, Rule.normalize, Entry.mk.injEq,
    Rule.mk.injEq, and_true, true_and, hModification, hChecksum]
  constructor
  · rintro ⟨hLeft, hRight⟩
    exact ⟨hLeft, hRight⟩
  · rintro ⟨hLeft, hRight⟩
    exact ⟨hLeft, hRight⟩

end Entry

end GatewayRules
