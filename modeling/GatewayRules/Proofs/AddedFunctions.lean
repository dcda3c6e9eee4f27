import GatewayRules.Proofs.TemplateText
import Mathlib

/-
  Modifications that are put together function by function.
  A function is compared with the first of those that are
  there, but since all of these are of one kind, it is the
  whole list of functions that decides what can be added, and
  not the order in which they come.

  Main declarations:
    * `Function.violation?`
    * `Modification.conflict?` and `Modification.ConflictFree`
    * `Modification.Compatible` and `Modification.Comprises`
    * `Modification.Comprises.add_eq`
    * `Modification.comprises_of_addAll`
    * `Modification.addAll_anyOrder`
-/

------------------------------------------------------------
-- Functions on Their Own
------------------------------------------------------------

namespace GatewayRules

namespace Function

variable {f : Function}

/- What is wrong with a function on its own, if anything is. -/
def violation? (f : Function) : Option Violation :=
  if f.targets.isEmpty then
    some .emptyModification
  else if f.targets.contains Targets.fdFlags ∧
      f.template.kind = .classic then
    some .flagsOnClassicFrame
  else
    none

theorem violation?_eq_none_iff :
    f.violation? = none ↔ f.Suits f.template.kind := by
  unfold violation?
  split
  case isTrue hEmpty =>
    refine iff_of_false nofun fun hSuits => ?_
    rw [hSuits.targeted] at hEmpty
    cases hEmpty
  case isFalse hTargeted =>
    split
    case isTrue hFlags =>
      refine iff_of_false nofun fun hSuits => ?_
      rw [hSuits.flagged hFlags.1] at hFlags
      cases hFlags.2
    case isFalse hFlags =>
      refine iff_of_true rfl
        ⟨rfl, Bool.eq_false_iff.mpr hTargeted, ?_⟩
      intro hContains
      cases hKind : f.template.kind with
      | fd => rfl
      | classic => exact absurd ⟨hContains, hKind⟩ hFlags

theorem eq_of_violation?
    {violation : Violation}
    (h : f.violation? = some violation) :
    violation = .emptyModification ∨
      violation = .flagsOnClassicFrame := by
  unfold violation? at h
  split_ifs at h <;> cases h
  · exact .inl rfl
  · exact .inr rfl

/- A function suits frames of no kind but that of its template. -/
theorem suits_iff
    {kind : FrameKind} :
    f.Suits kind ↔
      f.violation? = none ∧ f.template.kind = kind := by
  rw [violation?_eq_none_iff]
  constructor
  · intro hSuits
    have hKind := hSuits.template
    exact ⟨hKind ▸ hSuits, hKind⟩
  · rintro ⟨hSuits, rfl⟩
    exact hSuits

end Function

------------------------------------------------------------
-- Functions Beside Each Other
------------------------------------------------------------

namespace Modification

variable {m : Modification}
variable {front entries : List (Operation × Function)}
variable {entry : Operation × Function}

/-
  What is wrong with a function behind others, if anything is:
  in itself, or because of those in front of it.
-/
def conflict?
    (front : List (Operation × Function))
    (entry : Operation × Function) : Option Violation :=
  entry.2.violation?.or <|
    if entry.1 ∈ front.map Prod.fst then
      some (.duplicateOperation entry.1)
    else if ∃ other ∈ front,
        other.2.template.kind ≠ entry.2.template.kind then
      some .mixedFrameKinds
    else
      none

/- Whether nothing is wrong with any of the functions. -/
def ConflictFree
    (entries : List (Operation × Function)) : Prop :=
  ∀ front entry, front ++ [entry] <+: entries →
    conflict? front entry = none

/-
  Whether functions can stand beside each other: they suit the
  same kind of frames, and no operation has two of them.
-/
structure Compatible
    (entries : List (Operation × Function)) : Prop where
  alike : ∃ kind, ∀ entry ∈ entries, entry.2.Suits kind
  once : (entries.map Prod.fst).Nodup

/- In which order functions are given is of no importance. -/
theorem Compatible.of_perm
    {others : List (Operation × Function)}
    (h : Compatible entries)
    (hSame : others.Perm entries) :
    Compatible others where
  alike := by
    rcases h.alike with ⟨kind, hSuits⟩
    exact
      ⟨kind, fun entry hEntry =>
        hSuits entry (hSame.mem_iff.mp hEntry)⟩
  once := (hSame.map Prod.fst).nodup_iff.mpr h.once

theorem Compatible.of_append
    {back : List (Operation × Function)}
    (h : Compatible (front ++ back)) :
    Compatible front where
  alike := by
    rcases h.alike with ⟨kind, hSuits⟩
    exact
      ⟨kind, fun entry hEntry =>
        hSuits entry (List.mem_append_left _ hEntry)⟩
  once := by
    have hOnce := h.once
    rw [List.map_append] at hOnce
    exact hOnce.of_append_left

theorem compatible_nil : Compatible [] where
  alike := ⟨.classic, nofun⟩
  once := .nil

theorem conflict?_eq_none_iff :
    conflict? front entry = none ↔
      entry.2.violation? = none ∧
        entry.1 ∉ front.map Prod.fst ∧
        ∀ other ∈ front,
          other.2.template.kind = entry.2.template.kind := by
  rw [conflict?, Option.or_eq_none_iff]
  refine and_congr_right fun _ => ?_
  split
  case isTrue hTwice =>
    exact iff_of_false nofun fun h => h.1 hTwice
  case isFalse hOnce =>
    split
    case isTrue hMixed =>
      rcases hMixed with ⟨other, hOther, hKind⟩
      exact iff_of_false nofun fun h => hKind (h.2 other hOther)
    case isFalse hAlike =>
      push Not at hAlike
      exact iff_of_true rfl ⟨hOnce, hAlike⟩

/- The operation of one more function is not one of the others. -/
theorem nodup_append_singleton_iff :
    ((front ++ [entry]).map Prod.fst).Nodup ↔
      entry.1 ∉ front.map Prod.fst ∧
        (front.map Prod.fst).Nodup := by
  rw [List.map_append, List.map_singleton,
    List.nodup_append_comm, List.singleton_append,
    List.nodup_cons]

/-
  One more function is compatible with the others if nothing is
  wrong with it behind them.
-/
theorem conflict?_eq_none_iff_compatible
    (h : Compatible front) :
    conflict? front entry = none ↔
      Compatible (front ++ [entry]) := by
  rw [conflict?_eq_none_iff]
  constructor
  · rintro ⟨hEntry, hFirst, hKind⟩
    rcases h.alike with ⟨kind, hSuits⟩
    refine
      ⟨⟨entry.2.template.kind, ?_⟩,
        nodup_append_singleton_iff.mpr ⟨hFirst, h.once⟩⟩
    intro other hOther
    rcases List.mem_append.mp hOther with hFront | hLast
    · have hValid :=
        (Function.suits_iff.mp (hSuits other hFront)).1
      exact Function.suits_iff.mpr ⟨hValid, hKind other hFront⟩
    · rw [List.mem_singleton.mp hLast]
      exact Function.suits_iff.mpr ⟨hEntry, rfl⟩
  · intro hAll
    rcases hAll.alike with ⟨kind, hSuits⟩
    have hEntry : entry.2.Suits kind := hSuits entry (by simp)
    refine
      ⟨(Function.suits_iff.mp hEntry).1,
        (nodup_append_singleton_iff.mp hAll.once).1, ?_⟩
    intro other hOther
    have hFront : other.2.Suits kind :=
      hSuits other (List.mem_append_left _ hOther)
    exact hFront.template.trans hEntry.template.symm

/- Functions are compatible if nothing is wrong with any. -/
theorem compatible_iff_conflictFree :
    Compatible entries ↔ ConflictFree entries := by
  -- What is in front of the last function is compatible first.
  induction entries using List.reverseRecOn with
  | nil =>
      refine iff_of_true compatible_nil ?_
      intro front entry hPrefix
      simp at hPrefix
  | append_singleton entries last ih =>
      have hParts :
          ConflictFree (entries ++ [last]) ↔
            ConflictFree entries ∧
              conflict? entries last = none := by
        constructor
        · intro h
          refine ⟨?_, h entries last (List.prefix_refl _)⟩
          intro front entry hPrefix
          exact h front entry
            (hPrefix.trans (List.prefix_append _ _))
        · rintro ⟨hFree, hLast⟩ front entry hPrefix
          rcases List.prefix_concat_iff.mp hPrefix with
            hWhole | hFront
          · rcases List.append_inj' hWhole rfl with
              ⟨rfl, hEntry⟩
            cases hEntry
            exact hLast
          · exact hFree front entry hFront
      rw [hParts, ← ih]
      constructor
      · intro h
        have hFront : Compatible entries := h.of_append
        exact ⟨hFront, (conflict?_eq_none_iff_compatible hFront).mpr h⟩
      · rintro ⟨hFront, hLast⟩
        exact (conflict?_eq_none_iff_compatible hFront).mp hLast

------------------------------------------------------------
-- Adding One Function
------------------------------------------------------------

/- Whether a modification is made up of compatible functions. -/
structure Comprises
    (m : Modification)
    (entries : List (Operation × Function)) : Prop where
  get_iff :
    ∀ operation f,
      m.get operation = some f ↔ (operation, f) ∈ entries
  compatible : Compatible entries

theorem comprises_empty : empty.Comprises [] where
  get_iff operation f := by
    rw [eq_empty_iff.mp rfl operation]
    simp
  compatible := compatible_nil

namespace Comprises

theorem get_eq_none_iff
    (h : m.Comprises entries)
    (operation : Operation) :
    m.get operation = none ↔
      operation ∉ entries.map Prod.fst := by
  rw [Option.eq_none_iff_forall_ne_some]
  simp [h.get_iff]

/- Each of the functions is of the kind of the modification. -/
theorem kind?_of_mem
    (h : m.Comprises entries)
    (hEntry : entry ∈ entries) :
    m.kind? = some entry.2.template.kind := by
  rcases h.compatible.alike with ⟨kind, hSuits⟩
  have hGet : m.get entry.1 = some entry.2 :=
    (h.get_iff entry.1 entry.2).mpr hEntry
  have hNonempty : m ≠ .empty := by
    intro hEmpty
    rw [eq_empty_iff.mp hEmpty entry.1] at hGet
    cases hGet
  have hKind : m.kind? = some kind := by
    apply kind?_of_suits _ hNonempty
    intro operation f hFunction
    exact hSuits (operation, f)
      ((h.get_iff operation f).mp hFunction)
  rw [hKind, (hSuits entry hEntry).template]

theorem kind?_eq_none_iff
    (h : m.Comprises entries) :
    m.kind? = none ↔ entries = [] := by
  constructor
  · intro hNone
    apply List.eq_nil_iff_forall_not_mem.mpr
    intro entry hEntry
    rw [h.kind?_of_mem hEntry] at hNone
    cases hNone
  · rintro rfl
    cases hKind : m.kind? with
    | none => rfl
    | some kind =>
        rcases exists_function_of_kind? hKind with
          ⟨operation, f, hGet, -⟩
        cases (h.get_iff operation f).mp hGet

/- The first function stands for all in front of a new one. -/
theorem any_kind?_iff
    (h : m.Comprises front)
    (kind : FrameKind) :
    m.kind?.any (· ≠ kind) = true ↔
      ∃ other ∈ front, other.2.template.kind ≠ kind := by
  cases hFront : front with
  | nil =>
      rw [h.kind?_eq_none_iff.mpr hFront]
      simp
  | cons first rest =>
      rw [← hFront]
      have hFirst : first ∈ front := by
        simp [hFront]
      constructor
      · intro hKind
        rw [h.kind?_of_mem hFirst] at hKind
        exact ⟨first, hFirst, by simpa using hKind⟩
      · rintro ⟨other, hOther, hKind⟩
        rw [h.kind?_of_mem hOther]
        simpa using hKind

/-
  A function is added to others if nothing is wrong with it
  behind them, and what is wrong is reported otherwise.
-/
theorem add_eq
    (h : m.Comprises front)
    (entry : Operation × Function) :
    m.add entry.1 entry.2 =
      match conflict? front entry with
      | some violation => .error violation
      | none => .ok (m.put entry.1 entry.2) := by
  have hTwice :
      (m.get entry.1).isSome = true ↔
        entry.1 ∈ front.map Prod.fst := by
    rw [← Option.not_isNone, Bool.not_eq_true',
      ← Bool.not_eq_true, Option.isNone_iff_eq_none,
      h.get_eq_none_iff, not_not]
  unfold add conflict? Function.violation?
  simp only [hTwice, h.any_kind?_iff]
  split_ifs <;> rfl

/-
  A function is added if there is nothing wrong with it, none
  for its operation, and none of another kind.
-/
theorem add_eq_ok_iff
    {next : Modification}
    {operation : Operation}
    {f : Function}
    (h : m.Comprises front) :
    m.add operation f = .ok next ↔
      f.violation? = none ∧
        m.get operation = none ∧
        (∀ other g, m.get other = some g →
          g.template.kind = f.template.kind) ∧
        next = m.put operation f := by
  have hConflict :
      conflict? front (operation, f) = none ↔
        f.violation? = none ∧
          m.get operation = none ∧
          ∀ other g, m.get other = some g →
            g.template.kind = f.template.kind := by
    rw [conflict?_eq_none_iff, h.get_eq_none_iff]
    simp only [h.get_iff, Prod.forall]
  have hAdd :
      m.add operation f = .ok next ↔
        conflict? front (operation, f) = none ∧
          next = m.put operation f := by
    rw [h.add_eq (operation, f)]
    cases conflict? front (operation, f) with
    | some violation => exact iff_of_false nofun nofun
    | none => simp [eq_comm]
  rw [hAdd, hConflict, and_assoc, and_assoc]

/- The function that was added is there beside the others. -/
theorem put
    (h : m.Comprises front)
    (hNext : Compatible (front ++ [entry])) :
    (m.put entry.1 entry.2).Comprises (front ++ [entry]) where
  get_iff operation f := by
    have hFirst := (nodup_append_singleton_iff.mp hNext.once).1
    rw [get_put, List.mem_append, List.mem_singleton]
    by_cases hOwn : operation = entry.1
    · subst hOwn
      rw [if_pos rfl, ← h.get_iff,
        (h.get_eq_none_iff entry.1).mpr hFirst]
      simp [Prod.ext_iff, eq_comm]
    · rw [if_neg hOwn, h.get_iff]
      simp [Prod.ext_iff, hOwn]
  compatible := hNext

end Comprises

------------------------------------------------------------
-- Adding Functions One After the Other
------------------------------------------------------------

theorem addAll_cons
    (m : Modification)
    (entry : Operation × Function)
    (entries : List (Operation × Function)) :
    m.addAll (entry :: entries) =
      (m.add entry.1 entry.2 >>= fun next =>
        next.addAll entries) :=
  List.foldlM_cons

/- What is added are the functions that are given. -/
theorem Comprises.addAll
    {next : Modification}
    (h : m.Comprises front)
    (hAdd : m.addAll entries = .ok next) :
    next.Comprises (front ++ entries) := by
  induction entries generalizing m front with
  | nil =>
      cases hAdd
      rwa [List.append_nil]
  | cons entry entries ih =>
      rw [addAll_cons, h.add_eq] at hAdd
      cases hConflict : conflict? front entry with
      | some violation =>
          rw [hConflict] at hAdd
          cases hAdd
      | none =>
          rw [hConflict] at hAdd
          have hNext :=
            (conflict?_eq_none_iff_compatible h.compatible).mp hConflict
          rw [List.append_cons]
          exact ih (h.put hNext) hAdd

theorem comprises_of_addAll
    (hAdd : empty.addAll entries = .ok m) :
    m.Comprises entries :=
  comprises_empty.addAll hAdd

/- Functions that are compatible can all be added. -/
theorem exists_addAll_iff :
    (∃ m, empty.addAll entries = .ok m) ↔
      Compatible entries := by
  constructor
  · rintro ⟨m, hAdd⟩
    exact (comprises_of_addAll hAdd).compatible
  · intro h
    rcases h.alike with ⟨kind, hSuits⟩
    exact
      ⟨_, addAll_of_suits suits_empty hSuits h.once
        fun entry _ => eq_empty_iff.mp rfl entry.1⟩

/- What is reported is wrong with the first one that is. -/
theorem Comprises.addAll_eq_error
    {violation : Violation}
    (h : m.Comprises front)
    (hAdd : m.addAll entries = .error violation) :
    ∃ before entry,
      before ++ [entry] <+: entries ∧
        ConflictFree (front ++ before) ∧
        conflict? (front ++ before) entry =
          some violation := by
  induction entries generalizing m front with
  | nil => cases hAdd
  | cons entry entries ih =>
      rw [addAll_cons, h.add_eq] at hAdd
      cases hConflict : conflict? front entry with
      | some found =>
          rw [hConflict] at hAdd
          cases hAdd
          refine ⟨[], entry, ?_, ?_, ?_⟩
          · simp
          · rw [List.append_nil]
            exact compatible_iff_conflictFree.mp h.compatible
          · rw [List.append_nil]
            exact hConflict
      | none =>
          rw [hConflict] at hAdd
          have hNext :=
            (conflict?_eq_none_iff_compatible h.compatible).mp hConflict
          rcases ih (h.put hNext) hAdd with
            ⟨before, other, hPrefix, hFree, hOther⟩
          rw [List.append_assoc, List.singleton_append]
            at hFree hOther
          refine ⟨entry :: before, other, ?_, hFree, hOther⟩
          rw [List.cons_append]
          exact (List.prefix_cons_inj entry).mpr hPrefix

theorem addAll_eq_error_iff
    {violation : Violation} :
    empty.addAll entries = .error violation ↔
      ∃ front entry,
        front ++ [entry] <+: entries ∧
          ConflictFree front ∧
          conflict? front entry = some violation := by
  constructor
  · exact comprises_empty.addAll_eq_error
  · rintro ⟨front, entry, ⟨back, rfl⟩, hFree, hConflict⟩
    rcases exists_addAll_iff.mpr
        (compatible_iff_conflictFree.mpr hFree) with
      ⟨m, hAdd⟩
    have hEntry := (comprises_of_addAll hAdd).add_eq entry
    rw [hConflict] at hEntry
    have hParts :
        empty.addAll (front ++ [entry] ++ back) =
          (empty.addAll front >>= fun m =>
            m.addAll (entry :: back)) := by
      rw [List.append_assoc]
      exact List.foldlM_append
    rw [hParts, hAdd]
    change m.addAll (entry :: back) = _
    rw [addAll_cons, hEntry]
    rfl

------------------------------------------------------------
-- What a List of Functions Comes To
------------------------------------------------------------

/- A modification is made up of functions in one way only. -/
theorem Comprises.unique
    {other : Modification}
    (h : m.Comprises entries)
    (hOther : other.Comprises entries) :
    other = m := by
  apply ext_get
  intro operation
  apply Option.ext
  intro f
  rw [h.get_iff, hOther.get_iff]

theorem Comprises.of_perm
    {others : List (Operation × Function)}
    (h : m.Comprises entries)
    (hSame : others.Perm entries) :
    m.Comprises others where
  get_iff operation f := by
    rw [h.get_iff, hSame.mem_iff]
  compatible := h.compatible.of_perm hSame

theorem Comprises.perm_functions
    (h : m.Comprises entries) :
    m.functions.Perm entries := by
  apply (List.perm_ext_iff_of_nodup
    m.nodup_functions.of_map h.compatible.once.of_map).mpr
  rintro ⟨operation, f⟩
  rw [mem_functions, h.get_iff]

/- The functions stand in the order of their operations. -/
theorem sublist_functions
    (m : Modification) :
    (m.functions.map Prod.fst).Sublist Operation.all := by
  rw [map_fst_functions]
  exact List.filter_sublist

/-
  Functions can be added, in whichever order they come, if they
  all suit the same kind of frames and belong to different
  operations.  They are then found under their operations, in
  the order of these, and nothing else is; their kind is the
  one of the modification.  Otherwise what is reported is wrong
  with the first function of which this can be said, because of
  itself or because of those in front of it.
-/
theorem addAll_anyOrder
    (entries : List (Operation × Function)) :
    ((∃ m, empty.addAll entries = .ok m) ↔
      (∃ kind, ∀ entry ∈ entries, entry.2.Suits kind) ∧
        (entries.map Prod.fst).Nodup) ∧
    (∀ m, empty.addAll entries = .ok m →
      (∀ others : List (Operation × Function),
        others.Perm entries → empty.addAll others = .ok m) ∧
      (∀ operation f,
        m.get operation = some f ↔
          (operation, f) ∈ entries) ∧
      (∀ operation,
        m.get operation = none ↔
          operation ∉ entries.map Prod.fst) ∧
      m.functions.Perm entries ∧
      (m.functions.map Prod.fst).Sublist Operation.all ∧
      (∀ entry ∈ entries,
        m.kind? = some entry.2.template.kind) ∧
      (m.kind? = none ↔ entries = [])) ∧
    ∀ violation,
      empty.addAll entries = .error violation ↔
        ∃ front entry,
          front ++ [entry] <+: entries ∧
            ConflictFree front ∧
            conflict? front entry = some violation := by
  refine ⟨?_, ?_, fun _ => addAll_eq_error_iff⟩
  · rw [exists_addAll_iff]
    exact ⟨fun h => ⟨h.alike, h.once⟩, fun h => ⟨h.1, h.2⟩⟩
  · intro m hAdd
    have h := comprises_of_addAll hAdd
    refine
      ⟨?_, h.get_iff, h.get_eq_none_iff, h.perm_functions,
        m.sublist_functions, fun _ => h.kind?_of_mem,
        h.kind?_eq_none_iff⟩
    intro others hSame
    have hOthers := h.of_perm hSame
    rcases exists_addAll_iff.mpr hOthers.compatible with
      ⟨other, hOther⟩
    rw [hOther, hOthers.unique (comprises_of_addAll hOther)]

end Modification

end GatewayRules
