import GatewayRules.Proofs.AddedFunctions
import Mathlib

/-
  Modifications with one template.  The targets that are named
  for an operation are united, and what they come to is the
  same in whichever order, how often, and in how many groups
  they are named.  The table in which they are gathered may be
  read in any order, too, since the operations are then put in
  theirs.

  Main declarations:
    * `Flags.IsUnion`
    * `Modification.isUnion_groupTargets`
    * `Modification.named` and `Modification.united`
    * `Modification.ofTemplate_congr`
    * `Modification.gathered` and `Modification.inOrder`
    * `Modification.ofTemplate_united`
-/

------------------------------------------------------------
-- Unions of Flags
------------------------------------------------------------

namespace GatewayRules

namespace Flags

variable {v : Vocabulary}
variable {among : Flags v → Prop}

/- Whether flags are those that are set in any of several. -/
def IsUnion
    (flags : Flags v)
    (among : Flags v → Prop) : Prop :=
  ∀ i,
    flags.bits.getLsbD i = true ↔
      ∃ member, among member ∧ member.bits.getLsbD i = true

theorem IsUnion.unique
    {flags other : Flags v}
    (h : flags.IsUnion among)
    (hOther : other.IsUnion among) :
    flags = other := by
  rcases flags with ⟨bits⟩
  rcases other with ⟨otherBits⟩
  congr
  apply BitVec.eq_of_getLsbD_eq
  intro i _
  exact Bool.eq_iff_iff.mpr ((h i).trans (hOther i).symm)

theorem isEmpty_eq_false_iff
    {flags : Flags v} :
    flags.isEmpty = false ↔
      ∃ i, flags.bits.getLsbD i = true := by
  unfold isEmpty
  rw [beq_eq_false_iff_ne]
  constructor
  · intro hSome
    by_contra hNone
    apply hSome
    apply BitVec.eq_of_getLsbD_eq
    intro i _
    rw [Bool.eq_false_iff.mpr (not_exists.mp hNone i)]
    exact BitVec.getLsbD_zero.symm
  · rintro ⟨i, hBit⟩ hZero
    rw [hZero] at hBit
    simp at hBit

/- A union is not empty if one of its members is not. -/
theorem IsUnion.isEmpty_eq_false_iff
    {flags : Flags v}
    (h : flags.IsUnion among) :
    flags.isEmpty = false ↔
      ∃ member, among member ∧ member.isEmpty = false := by
  simp only [Flags.isEmpty_eq_false_iff, h _]
  constructor
  · rintro ⟨i, member, hMember, hBit⟩
    exact ⟨member, hMember, i, hBit⟩
  · rintro ⟨member, hMember, i, hBit⟩
    exact ⟨i, member, hMember, hBit⟩

/- What is set in the end was set before or by a member. -/
theorem getLsbD_foldl_union
    {α : Type}
    (members : List α)
    (flagsOf : α → Flags v)
    (start : Flags v)
    (i : Nat) :
    (members.foldl
        (fun flags member => flags.union (flagsOf member))
        start).bits.getLsbD i = true ↔
      start.bits.getLsbD i = true ∨
        ∃ member ∈ members,
          (flagsOf member).bits.getLsbD i = true := by
  induction members generalizing start with
  | nil => simp
  | cons first members ih =>
      rw [List.foldl_cons, ih]
      simp only [union, BitVec.getLsbD_or, Bool.or_eq_true,
        List.exists_mem_cons_iff, or_assoc]

theorem isUnion_foldl
    {α : Type}
    (members : List α)
    (flagsOf : α → Flags v) :
    (members.foldl
        (fun flags member => flags.union (flagsOf member))
        empty).IsUnion
      fun flags => ∃ member ∈ members, flagsOf member = flags := by
  intro i
  rw [getLsbD_foldl_union]
  simp [empty]

end Flags

/- A target is reached if one of those united reaches it. -/
theorem Targets.contains_fdFlags_iff
    {t : Targets}
    {among : Targets → Prop}
    (h : t.IsUnion among) :
    t.contains fdFlags = true ↔
      ∃ member, among member ∧
        member.contains fdFlags = true := by
  have hBit :
      ∀ t : Targets,
        t.contains fdFlags = true ↔ t.bits.getLsbD 3 = true := by
    rintro ⟨bits⟩
    revert bits
    decide
  simp only [hBit, h 3]

------------------------------------------------------------
-- Functions With the Same Template
------------------------------------------------------------

namespace Modification

variable {template : Frame}
variable {groups others : List (Targets × Operation)}

/-
  Where functions with templates of one kind belong to
  different operations, only what is wrong with one of them on
  its own can be reported.
-/
theorem addAll_eq_error_iff_findSome?
    {entries : List (Operation × Function)}
    {kind : FrameKind}
    (hOnce : (entries.map Prod.fst).Nodup)
    (hKind : ∀ entry ∈ entries, entry.2.template.kind = kind)
    (violation : Violation) :
    empty.addAll entries = .error violation ↔
      entries.findSome? (fun entry => entry.2.violation?) =
        some violation := by
  -- Both sides are functional, so one direction is enough.
  have hFound (found : Violation)
      (hSome :
        entries.findSome? (fun entry => entry.2.violation?) =
          some found) :
      empty.addAll entries = .error found := by
    rcases List.findSome?_eq_some_iff.mp hSome with
      ⟨front, entry, back, rfl, hEntry, hFront⟩
    rw [List.map_append] at hOnce
    have hCompatible : Compatible front :=
      { alike := ⟨kind, fun other hOther =>
          Function.suits_iff.mpr
            ⟨hFront other hOther,
              hKind other (List.mem_append_left _ hOther)⟩⟩,
        once := hOnce.of_append_left }
    apply addAll_eq_error_iff.mpr
    refine
      ⟨front, entry, ⟨back, ?_⟩,
        compatible_iff_conflictFree.mp hCompatible, ?_⟩
    · rw [List.append_assoc, List.singleton_append]
    · rw [conflict?, hEntry, Option.some_or]
  constructor
  · intro hError
    cases hSome :
        entries.findSome? (fun entry => entry.2.violation?) with
    | some found =>
        rw [hFound found hSome] at hError
        cases hError
        rfl
    | none =>
        have hValid := List.findSome?_eq_none_iff.mp hSome
        rcases exists_addAll_iff.mpr
            ⟨⟨kind, fun entry hEntry =>
              Function.suits_iff.mpr
                ⟨hValid entry hEntry, hKind entry hEntry⟩⟩,
              hOnce⟩ with
          ⟨m, hAdd⟩
        rw [hAdd] at hError
        cases hError
  · exact hFound violation

/- The operations that are named, in their order. -/
def named
    (groups : List (Targets × Operation)) : List Operation :=
  Operation.all.filter (· ∈ groups.map Prod.snd)

/- What groups come to for an operation. -/
def united
    (template : Frame)
    (groups : List (Targets × Operation))
    (operation : Operation) : Function :=
  ⟨groupTargets groups operation, template⟩

/- The functions of the operations that are named. -/
def unitedFunctions
    (template : Frame)
    (groups : List (Targets × Operation)) :
    List (Operation × Function) :=
  (named groups).map fun operation =>
    (operation, united template groups operation)

theorem ofTemplate_eq
    (template : Frame)
    (groups : List (Targets × Operation)) :
    ofTemplate template groups =
      empty.addAll (unitedFunctions template groups) := by
  have hNamed :
      (Operation.all.filter fun operation =>
          groups.any fun group => group.2 = operation) =
        named groups := by
    apply List.filter_congr
    intro operation _
    apply Bool.eq_iff_iff.mpr
    simp
  unfold ofTemplate unitedFunctions
  rw [hNamed]
  rfl

theorem mem_named
    {operation : Operation} :
    operation ∈ named groups ↔
      operation ∈ groups.map Prod.snd := by
  have hAll : operation ∈ Operation.all := by
    cases operation <;> decide
  simp [named, hAll]

theorem nodup_named
    (groups : List (Targets × Operation)) :
    (named groups).Nodup := by
  have hAll : Operation.all.Nodup := by
    decide
  exact hAll.filter _

theorem map_fst_unitedFunctions
    (template : Frame)
    (groups : List (Targets × Operation)) :
    (unitedFunctions template groups).map Prod.fst =
      named groups := by
  simp [unitedFunctions, Function.comp_def]

/- The targets for an operation are all that are named for it. -/
theorem isUnion_groupTargets
    (groups : List (Targets × Operation))
    (operation : Operation) :
    (groupTargets groups operation).IsUnion
      fun targets => (targets, operation) ∈ groups := by
  have hUnion :=
    Flags.isUnion_foldl
      (groups.filter fun group => group.2 = operation)
      Prod.fst
  intro i
  refine (hUnion i).trans ?_
  simp

------------------------------------------------------------
-- Groups Put Differently
------------------------------------------------------------

/-
  Groups come to the same if they name the same operations, and
  the same targets for each.
-/
theorem ofTemplate_congr
    (template : Frame)
    (hNamed :
      ∀ operation,
        operation ∈ others.map Prod.snd ↔
          operation ∈ groups.map Prod.snd)
    (hTargets :
      ∀ operation,
        groupTargets others operation =
          groupTargets groups operation) :
    ofTemplate template others = ofTemplate template groups := by
  have hOperations : named others = named groups := by
    unfold named
    simp only [hNamed]
  have hFunctions :
      unitedFunctions template others =
        unitedFunctions template groups := by
    unfold unitedFunctions united
    rw [hOperations]
    apply List.map_congr_left
    intro operation _
    rw [hTargets]
  rw [ofTemplate_eq, ofTemplate_eq, hFunctions]

/- Neither the order of groups nor their number matters. -/
theorem ofTemplate_of_mem_iff
    (template : Frame)
    (hSame : ∀ group, group ∈ others ↔ group ∈ groups) :
    ofTemplate template others = ofTemplate template groups := by
  apply ofTemplate_congr
  · intro operation
    simp only [List.mem_map, hSame]
  · intro operation
    have hOthers := isUnion_groupTargets others operation
    simp only [hSame] at hOthers
    exact hOthers.unique (isUnion_groupTargets groups operation)

/- A group may be split into several for its operation. -/
theorem ofTemplate_split
    (template : Frame)
    (front back : List (Targets × Operation))
    (operation : Operation)
    {parts : List Targets}
    (hParts : parts ≠ []) :
    ofTemplate template
        (front ++ parts.map (·, operation) ++ back) =
      ofTemplate template
        (front
          ++ (parts.foldl Flags.union Flags.empty, operation)
            :: back) := by
  apply ofTemplate_congr
  · intro other
    simp only [List.map_append, List.map_cons, List.map_map,
      List.mem_append, List.mem_cons, Function.comp_def,
      List.map_const', List.mem_replicate]
    constructor
    · rintro ((hFront | ⟨-, hOwn⟩) | hBack)
      · exact .inl hFront
      · exact .inr (.inl hOwn)
      · exact .inr (.inr hBack)
    · rintro (hFront | hOwn | hBack)
      · exact .inl (.inl hFront)
      · exact .inl (.inr ⟨by simpa using hParts, hOwn⟩)
      · exact .inr hBack
  · intro other
    have hUnion :=
      Flags.isUnion_foldl parts fun targets => targets
    apply (isUnion_groupTargets _ other).unique
    intro i
    have hOwn :
        (∃ member,
            (member = parts.foldl Flags.union Flags.empty ∧
              other = operation) ∧
              member.bits.getLsbD i = true) ↔
          ∃ member,
            (∃ part ∈ parts,
              part = member ∧ operation = other) ∧
              member.bits.getLsbD i = true := by
      constructor
      · rintro ⟨_, ⟨rfl, rfl⟩, hBit⟩
        rcases (hUnion i).mp hBit with
          ⟨_, ⟨part, hPart, rfl⟩, hSet⟩
        exact ⟨part, ⟨part, hPart, rfl, rfl⟩, hSet⟩
      · rintro ⟨_, ⟨part, hPart, rfl, rfl⟩, hBit⟩
        exact
          ⟨_, ⟨rfl, rfl⟩,
            (hUnion i).mpr ⟨part, ⟨part, hPart, rfl⟩, hBit⟩⟩
    rw [isUnion_groupTargets _ other i]
    simp only [List.mem_append, List.mem_cons, List.mem_map,
      Prod.mk.injEq, or_and_right, exists_or, hOwn, or_assoc]

------------------------------------------------------------
-- A Table of Targets
------------------------------------------------------------

/- Unite the targets of a group with those of its operation. -/
def gather
    (table : List (Operation × Targets))
    (group : Targets × Operation) :
    List (Operation × Targets) :=
  if group.2 ∈ table.map Prod.fst then
    table.map fun entry =>
      if entry.1 = group.2 then
        (entry.1, entry.2.union group.1)
      else
        entry
  else
    table ++ [(group.2, Flags.empty.union group.1)]

/- The targets of each operation, gathered group by group. -/
def gathered
    (groups : List (Targets × Operation)) :
    List (Operation × Targets) :=
  groups.foldl gather []

/- A table whose entries stand in the order of the operations. -/
def inOrder
    (table : List (Operation × Targets)) :
    List (Operation × Targets) :=
  table.mergeSort fun a b =>
    Operation.all.idxOf a.1 ≤ Operation.all.idxOf b.1

/- Whether a table has what groups come to, and nothing else. -/
structure Gathers
    (table : List (Operation × Targets))
    (groups : List (Targets × Operation)) : Prop where
  once : (table.map Prod.fst).Nodup
  mem_iff :
    ∀ operation targets,
      (operation, targets) ∈ table ↔
        operation ∈ groups.map Prod.snd ∧
          targets = groupTargets groups operation

theorem groupTargets_append_singleton
    (groups : List (Targets × Operation))
    (group : Targets × Operation)
    (operation : Operation) :
    groupTargets (groups ++ [group]) operation =
      if group.2 = operation then
        (groupTargets groups operation).union group.1
      else
        groupTargets groups operation := by
  unfold groupTargets
  rw [List.filter_append, List.foldl_append]
  by_cases hOwn : group.2 = operation
  · simp [hOwn]
  · simp [hOwn]

theorem groupTargets_of_not_mem
    {operation : Operation}
    (hOther : operation ∉ groups.map Prod.snd) :
    groupTargets groups operation = Flags.empty := by
  have hNone :
      (groups.filter fun group => group.2 = operation) = [] := by
    apply List.filter_eq_nil_iff.mpr
    intro group hGroup hOwn
    exact hOther
      (List.mem_map.mpr ⟨group, hGroup, by simpa using hOwn⟩)
  rw [groupTargets, hNone]
  rfl

namespace Gathers

variable {table : List (Operation × Targets)}

theorem mem_map_fst_iff
    (h : Gathers table groups)
    (operation : Operation) :
    operation ∈ table.map Prod.fst ↔
      operation ∈ groups.map Prod.snd := by
  constructor
  · intro hMember
    rcases List.mem_map.mp hMember with
      ⟨⟨_, targets⟩, hEntry, rfl⟩
    exact ((h.mem_iff _ targets).mp hEntry).1
  · intro hNamed
    have hEntry := (h.mem_iff operation _).mpr ⟨hNamed, rfl⟩
    exact List.mem_map_of_mem hEntry

/- One more group is united with those of its operation. -/
theorem gather
    (h : Gathers table groups)
    (group : Targets × Operation) :
    Gathers (gather table group) (groups ++ [group]) := by
  have hNamed (operation : Operation) :
      operation ∈ (groups ++ [group]).map Prod.snd ↔
        operation ∈ groups.map Prod.snd ∨
          group.2 = operation := by
    simp [eq_comm]
  unfold Modification.gather
  by_cases hThere : group.2 ∈ table.map Prod.fst
  · rw [if_pos hThere]
    have hKept :
        (table.map fun entry =>
            if entry.1 = group.2 then
              (entry.1, entry.2.union group.1)
            else
              entry).map Prod.fst =
          table.map Prod.fst := by
      rw [List.map_map]
      apply List.map_congr_left
      intro entry _
      by_cases hOwn : entry.1 = group.2 <;> simp [hOwn]
    refine ⟨hKept ▸ h.once, ?_⟩
    intro operation targets
    rw [h.mem_map_fst_iff] at hThere
    rw [hNamed, groupTargets_append_singleton, List.mem_map]
    constructor
    · rintro ⟨⟨other, old⟩, hEntry, hSame⟩
      rcases (h.mem_iff other old).mp hEntry with
        ⟨hOther, rfl⟩
      by_cases hOwn : other = group.2
      · rw [if_pos hOwn] at hSame
        cases hSame
        exact ⟨.inl hOther, by rw [if_pos hOwn.symm]⟩
      · rw [if_neg hOwn] at hSame
        cases hSame
        exact ⟨.inl hOther, by rw [if_neg (Ne.symm hOwn)]⟩
    · rintro ⟨hOperation, rfl⟩
      have hOld : operation ∈ groups.map Prod.snd := by
        rcases hOperation with hOld | rfl
        · exact hOld
        · exact hThere
      refine ⟨_, (h.mem_iff operation _).mpr ⟨hOld, rfl⟩, ?_⟩
      by_cases hOwn : operation = group.2
      · simp [hOwn]
      · simp [hOwn, Ne.symm hOwn]
  · rw [if_neg hThere]
    have hOnce :
        ((table ++ [(group.2, Flags.empty.union group.1)]).map
          Prod.fst).Nodup := by
      rw [List.map_append, List.map_singleton]
      exact h.once.append (List.nodup_singleton _)
        (by simpa using hThere)
    refine ⟨hOnce, ?_⟩
    intro operation targets
    rw [h.mem_map_fst_iff] at hThere
    rw [hNamed, groupTargets_append_singleton, List.mem_append,
      List.mem_singleton, Prod.mk.injEq, h.mem_iff]
    by_cases hOwn : operation = group.2
    · subst hOwn
      simp [hThere, groupTargets_of_not_mem hThere]
    · simp [hOwn, Ne.symm hOwn]

/- A table that has other groups gathers what is left. -/
theorem foldl
    (h : Gathers table groups) :
    Gathers (others.foldl Modification.gather table)
      (groups ++ others) := by
  induction others generalizing table groups with
  | nil => rwa [List.append_nil]
  | cons group others ih =>
      rw [List.append_cons]
      exact ih (h.gather group)

end Gathers

theorem gathers_gathered
    (groups : List (Targets × Operation)) :
    Gathers (gathered groups) groups := by
  have hEmpty : Gathers [] [] :=
    { once := .nil, mem_iff := by simp }
  exact hEmpty.foldl

theorem pairwise_inOrder
    (table : List (Operation × Targets)) :
    (inOrder table).Pairwise fun a b =>
      Operation.all.idxOf a.1 ≤ Operation.all.idxOf b.1 := by
  have hPairwise :
      (inOrder table).Pairwise fun a b =>
        decide
          (Operation.all.idxOf a.1 ≤
            Operation.all.idxOf b.1) = true := by
    apply List.pairwise_mergeSort
    · intro a b c hFirst hSecond
      rw [decide_eq_true_eq] at hFirst hSecond ⊢
      exact hFirst.trans hSecond
    · intro a b
      rw [Bool.or_eq_true, decide_eq_true_eq,
        decide_eq_true_eq]
      exact Nat.le_total _ _
  simpa using hPairwise

/-
  However a table with the targets is read, in the order of the
  operations it is always the same.
-/
theorem inOrder_of_perm
    {table : List (Operation × Targets)}
    (hTable : table.Perm (gathered groups)) :
    inOrder table =
      (named groups).map fun operation =>
        (operation, groupTargets groups operation) := by
  have hGathers := gathers_gathered groups
  have hOnce :
      (((named groups).map fun operation =>
          (operation, groupTargets groups operation)).map
          Prod.fst).Nodup := by
    rw [List.map_map]
    simpa [Function.comp_def] using nodup_named groups
  have hGathered :
      (gathered groups).Perm
        ((named groups).map fun operation =>
          (operation, groupTargets groups operation)) := by
    apply (List.perm_ext_iff_of_nodup hGathers.once.of_map
      hOnce.of_map).mpr
    rintro ⟨operation, targets⟩
    rw [hGathers.mem_iff, ← mem_named]
    simp only [List.mem_map, Prod.mk.injEq]
    constructor
    · rintro ⟨hNamed, rfl⟩
      exact ⟨operation, hNamed, rfl, rfl⟩
    · rintro ⟨_, hNamed, rfl, rfl⟩
      exact ⟨hNamed, rfl⟩
  have hNamed :
      ((named groups).map fun operation =>
          (operation, groupTargets groups operation)).Pairwise
        fun a b =>
          Operation.all.idxOf a.1 ≤
            Operation.all.idxOf b.1 := by
    have hAll :
        Operation.all.Pairwise fun a b =>
          Operation.all.idxOf a ≤ Operation.all.idxOf b := by
      decide
    exact List.pairwise_map.mpr
      (hAll.sublist List.filter_sublist)
  have hSame :
      (inOrder table).Perm
        ((named groups).map fun operation =>
          (operation, groupTargets groups operation)) :=
    (List.mergeSort_perm _ _).trans (hTable.trans hGathered)
  -- An operation decides its place and its entry.
  refine hSame.eq_of_pairwise ?_ (pairwise_inOrder table) hNamed
  intro a b hA hB hLe hGe
  rw [hSame.mem_iff] at hA
  rcases List.mem_map.mp hA with ⟨first, -, rfl⟩
  rcases List.mem_map.mp hB with ⟨second, -, rfl⟩
  have hOperation : first = second := by
    have hAll : first ∈ Operation.all := by
      cases first <;> decide
    exact (List.idxOf_inj hAll).mp (Nat.le_antisymm hLe hGe)
  rw [hOperation]

------------------------------------------------------------
-- What One Template Comes To
------------------------------------------------------------

theorem violation?_united_eq_none_iff
    {operation : Operation} :
    (united template groups operation).violation? = none ↔
      (groupTargets groups operation).isEmpty = false ∧
        ((groupTargets groups operation).contains
            Targets.fdFlags = true →
          template.kind = .fd) := by
  rw [Function.violation?_eq_none_iff]
  exact
    ⟨fun h => ⟨h.targeted, h.flagged⟩,
      fun h => ⟨rfl, h.1, h.2⟩⟩

theorem ofTemplate_eq_error_iff
    {violation : Violation} :
    ofTemplate template groups = .error violation ↔
      (named groups).findSome? (fun operation =>
          (united template groups operation).violation?) =
        some violation := by
  have hOnce :
      ((unitedFunctions template groups).map
        Prod.fst).Nodup := by
    rw [map_fst_unitedFunctions]
    exact nodup_named groups
  have hKind :
      ∀ entry ∈ unitedFunctions template groups,
        entry.2.template.kind = template.kind := by
    intro entry hEntry
    rcases List.mem_map.mp hEntry with ⟨operation, -, rfl⟩
    rfl
  rw [ofTemplate_eq,
    addAll_eq_error_iff_findSome? hOnce hKind,
    unitedFunctions, List.findSome?_map]
  rfl

theorem exists_ofTemplate_iff :
    (∃ m, ofTemplate template groups = .ok m) ↔
      ∀ operation ∈ groups.map Prod.snd,
        (united template groups operation).violation? =
          none := by
  simp only [← mem_named]
  rw [← List.findSome?_eq_none_iff]
  cases hResult : ofTemplate template groups with
  | ok m =>
      refine iff_of_true ⟨m, rfl⟩ ?_
      apply Option.eq_none_iff_forall_ne_some.mpr
      intro violation hSome
      rw [ofTemplate_eq_error_iff.mpr hSome] at hResult
      cases hResult
  | error violation =>
      refine iff_of_false (by simp) ?_
      rw [ofTemplate_eq_error_iff.mp hResult]
      exact nofun

/- The template stands under every operation that is named. -/
theorem get_of_ofTemplate
    {m : Modification}
    (h : ofTemplate template groups = .ok m)
    (operation : Operation) :
    m.get operation =
      if operation ∈ groups.map Prod.snd then
        some (united template groups operation)
      else
        none := by
  rw [ofTemplate_eq] at h
  have hComprises := comprises_of_addAll h
  split
  case isTrue hNamed =>
    apply (hComprises.get_iff operation _).mpr
    exact List.mem_map.mpr
      ⟨operation, mem_named.mpr hNamed, rfl⟩
  case isFalse hNamed =>
    apply (hComprises.get_eq_none_iff operation).mpr
    rw [map_fst_unitedFunctions, mem_named]
    exact hNamed

/-
  A template is used for every operation that is named, with
  all targets that are named for it, provided that these are
  some and that only an FD template has flags among them.  The
  first operation of which this does not hold decides what is
  reported.  The groups may be put in another order, repeated,
  or split, and the table in which their targets are gathered
  may be read in any order.
-/
theorem ofTemplate_united
    (template : Frame)
    (groups : List (Targets × Operation)) :
    (∀ operation,
      (groupTargets groups operation).IsUnion
        fun targets => (targets, operation) ∈ groups) ∧
    ((∃ m, ofTemplate template groups = .ok m) ↔
      ∀ operation ∈ groups.map Prod.snd,
        (groupTargets groups operation).isEmpty = false ∧
          ((groupTargets groups operation).contains
              Targets.fdFlags = true →
            template.kind = .fd)) ∧
    (∀ m, ofTemplate template groups = .ok m →
      ∀ operation,
        m.get operation =
          if operation ∈ groups.map Prod.snd then
            some ⟨groupTargets groups operation, template⟩
          else
            none) ∧
    (∀ violation,
      ofTemplate template groups = .error violation ↔
        (named groups).findSome?
            (fun operation =>
              (united template groups operation).violation?) =
          some violation) ∧
    (∀ violation,
      ofTemplate template groups = .error violation →
        violation = .emptyModification ∨
          violation = .flagsOnClassicFrame) ∧
    (∀ others : List (Targets × Operation),
      (∀ group, group ∈ others ↔ group ∈ groups) →
        ofTemplate template others =
          ofTemplate template groups) ∧
    (∀ front back operation parts,
      parts ≠ [] →
        groups =
            front
              ++ (parts.foldl Flags.union Flags.empty,
                  operation)
                :: back →
          ofTemplate template
              (front ++ parts.map (·, operation) ++ back) =
            ofTemplate template groups) ∧
    ∀ table : List (Operation × Targets),
      table.Perm (gathered groups) →
        empty.addAll
            ((inOrder table).map fun entry =>
              (entry.1, ⟨entry.2, template⟩)) =
          ofTemplate template groups := by
  refine
    ⟨isUnion_groupTargets groups, ?_,
      fun m h => get_of_ofTemplate h,
      fun violation => ofTemplate_eq_error_iff, ?_,
      fun others => ofTemplate_of_mem_iff template, ?_, ?_⟩
  · rw [exists_ofTemplate_iff]
    simp only [violation?_united_eq_none_iff]
  · intro violation hError
    rcases List.exists_of_findSome?_eq_some
        (ofTemplate_eq_error_iff.mp hError) with
      ⟨operation, -, hFunction⟩
    exact Function.eq_of_violation? hFunction
  · rintro front back operation parts hParts rfl
    exact ofTemplate_split template front back operation hParts
  · intro table hTable
    rw [inOrder_of_perm hTable, ofTemplate_eq, List.map_map]
    rfl

end Modification

end GatewayRules
