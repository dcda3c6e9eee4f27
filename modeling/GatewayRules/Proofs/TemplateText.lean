import GatewayRules.CommandLine.Descriptor
import GatewayRules.Proofs.ArgumentScan
import GatewayRules.Proofs.SoundRule
import GatewayRules.Proofs.TextParts
import Mathlib

/-
  The texts of templates and modifications describe these.
  What is read from the text of a template is the template,
  apart from its raw length code, and what is read from the
  texts of functions is what can be put together from them.

  Main declarations:
    * `Flags.of_isKnown`
    * `Descriptor.frame_text`
    * `Function.IsDescribable`
    * `Descriptor.addModification_functionText`
    * `Modification.addAll_functions`
    * `Modification.words_text`
    * `Descriptor.modification_values`
-/

------------------------------------------------------------
-- Numbers and Data
------------------------------------------------------------

namespace GatewayRules

namespace Flags

variable {v : Vocabulary}

/- The bits of known flags are among those of all flags. -/
theorem toNat_bits_le
    {flags : Flags v}
    (hKnown : flags.isKnown = true) :
    flags.bits.toNat ≤ (all : Flags v).bits.toNat := by
  have hUnknown :
      flags.bits &&& ~~~ (all : Flags v).bits = 0#v.width := by
    simpa [isKnown, unknown, isEmpty, difference] using hKnown
  have hBits :
      flags.bits &&& (all : Flags v).bits = flags.bits := by
    apply BitVec.eq_of_getElem_eq
    intro i hi
    have hBit := congrArg (fun word => word[i]) hUnknown
    simp only [BitVec.getElem_and, BitVec.getElem_not,
      BitVec.getElem_zero] at hBit ⊢
    cases hOwn : flags.bits[i] <;> simp_all
  rw [← hBits, BitVec.toNat_and]
  exact Nat.and_le_right

/- What holds of all small words holds of all known flags. -/
theorem of_isKnown
    {P : Flags v → Prop}
    (hSmall :
      ∀ n : Fin ((all : Flags v).bits.toNat + 1),
        P ⟨BitVec.ofNat v.width n⟩)
    {flags : Flags v}
    (hKnown : flags.isKnown = true) :
    P flags := by
  have hBits := Nat.lt_succ_of_le (toNat_bits_le hKnown)
  have hFlags := hSmall ⟨flags.bits.toNat, hBits⟩
  rw [BitVec.ofNat_toNat, BitVec.setWidth_eq] at hFlags
  exact hFlags

end Flags

namespace Descriptor

variable {text : List Char}

theorem word_of_digits?
    {n : UInt32}
    (h : Number.digits? 16 text = some n.toNat) :
    word text = .ok n := by
  have hRead :
      Number.unsigned? 16 0x100000000 text = some n.toNat :=
    Number.unsigned?_of_digits? h n.toNat_lt
  simp [word, hRead, expect]

theorem byte_of_digits?
    {n : UInt8}
    (h : Number.digits? 16 text = some n.toNat) :
    byte text = .ok n := by
  have hRead : Number.unsigned? 16 0x100 text = some n.toNat :=
    Number.unsigned?_of_digits? h n.toNat_lt
  simp [byte, hRead, expect]

theorem offset_signedDecimal (n : Int8) :
    offset (Number.signedDecimal n.toInt).toList = .ok n := by
  have hLow : -128 ≤ n.toInt := n.le_toInt
  have hHigh : n.toInt ≤ 127 := by
    have hBound : n.toInt < 2 ^ 7 := n.toInt_lt
    omega
  have hRead := Number.signed?_signedDecimal hLow hHigh
  simp [offset, hRead, expect]

theorem data_bytes
    (letters : Hex.Letters)
    (bs : Bytes) :
    data (Hex.bytes letters bs) = .ok bs := by
  rw [data, Hex.decode_bytes]
  rfl

end Descriptor

------------------------------------------------------------
-- Templates
------------------------------------------------------------

namespace Frame

/- The text of a classic frame has three parts. -/
theorem toList_text_classic (f : ClassicFrame) :
    (classic f).text.toList =
      Hex.paddedNumber .upper 3 f.id.toNat
        ++ '.' :: (Hex.number .upper f.length.toNat
          ++ '.' :: Hex.bytes .upper f.data.bytes) := by
  simp [text, id, length, data]

/- The text of an FD frame has four parts. -/
theorem toList_text_fd (f : FdFrame) :
    (fd f).text.toList =
      Hex.paddedNumber .upper 3 f.id.toNat
        ++ '.' :: (Hex.number .upper f.flags.bits.toNat
          ++ '.' :: (Hex.number .upper f.length.toNat
            ++ '.' :: Hex.bytes .upper f.data.bytes)) := by
  simp [text, id, length, data]

theorem kind_withDlc
    (f : Frame)
    (dlc : UInt8) :
    (f.withDlc dlc).kind = f.kind := by
  cases f <;> rfl

/- A template with a full array of data. -/
theorem makeClassic_bytes
    (id : UInt32)
    (data : Block 8) :
    makeClassic id data.bytes =
      .ok (.classic { id, length := 8, dlc := 0, data }) := by
  have hLength :
      data.bytes.length ≤ FrameKind.classic.maxLength :=
    Nat.le_of_eq data.length_bytes
  rw [makeClassic, if_pos hLength, Block.zeroFilled_bytes,
    data.length_bytes]
  rfl

theorem makeFd_bytes
    (id : UInt32)
    (data : Block 64)
    (flags : FdFlags) :
    makeFd id data.bytes flags =
      .ok (.fd { id, length := 64, flags, data }) := by
  have hLength :
      data.bytes.length ≤ FrameKind.fd.maxLength :=
    Nat.le_of_eq data.length_bytes
  rw [makeFd, if_pos hLength, Block.zeroFilled_bytes,
    data.length_bytes]
  rfl

end Frame

namespace Descriptor

/- A template of the allowed length is read from its text. -/
theorem frame_text
    {f : Frame}
    (hLength : f.length.toNat ≤ f.kind.maxLength) :
    frame f.kind f.text.toList = .ok (f.withDlc 0) := by
  have hPoint : ¬ Hex.IsDigit '.' := by
    decide
  cases f with
  | classic f =>
      have hId :=
        Number.digits?_paddedNumber .upper 3 f.id.toNat
      have hText :=
        Number.digits?_number .upper f.length.toNat
      rw [Frame.toList_text_classic]
      simp only [frame, Frame.kind,
        Number.atAll_digits hId hPoint,
        Number.atAll_digits hText hPoint,
        Hex.atAll_bytes .upper hPoint]
      rw [word_of_digits? hId, data_bytes,
        byte_of_digits? hText]
      change
        (checked (Frame.makeClassic f.id f.data.bytes) >>=
          fun frame => checked (frame.withLength f.length)) = _
      rw [Frame.makeClassic_bytes]
      exact congrArg checked (if_pos hLength)
  | fd f =>
      have hId :=
        Number.digits?_paddedNumber .upper 3 f.id.toNat
      have hFlags :
          Number.digits? 16
              (Hex.number .upper f.flags.bits.toNat) =
            some (UInt8.ofBitVec f.flags.bits).toNat :=
        Number.digits?_number .upper f.flags.bits.toNat
      have hText :=
        Number.digits?_number .upper f.length.toNat
      rw [Frame.toList_text_fd]
      simp only [frame, Frame.kind,
        Number.atAll_digits hId hPoint,
        Number.atAll_digits hFlags hPoint,
        Number.atAll_digits hText hPoint,
        Hex.atAll_bytes .upper hPoint]
      rw [word_of_digits? hId, data_bytes,
        byte_of_digits? hFlags, byte_of_digits? hText]
      change
        (checked (Frame.makeFd f.id f.data.bytes f.flags) >>=
          fun frame => checked (frame.withLength f.length)) = _
      rw [Frame.makeFd_bytes]
      exact congrArg checked (if_pos hLength)

end Descriptor

------------------------------------------------------------
-- Functions
------------------------------------------------------------

namespace Function

/- A function whose template has the given raw length code. -/
def withDlc
    (f : Function)
    (dlc : UInt8) : Function :=
  { f with template := f.template.withDlc dlc }

/-
  Whether there are words for a function in a rule for frames
  of a kind: the template is of this kind and not too long,
  and every target has a letter.
-/
structure IsDescribable
    (kind : FrameKind)
    (f : Function) : Prop where
  template : f.template.kind = kind
  short : f.template.length.toNat ≤ kind.maxLength
  known : f.targets.isKnown = true

end Function

/- The text of a template is a single word. -/
theorem Frame.noBlank_text
    (f : Frame) :
    Split.NoBlank f.text.toList := by
  have hId :=
    Number.noBlank_of_digits?
      (Number.digits?_paddedNumber .upper 3 f.id.toNat)
  have hLength :=
    Number.noBlank_of_digits?
      (Number.digits?_number .upper f.length.toNat)
  have hRest :
      Split.NoBlank
        ('.' :: (Hex.number .upper f.length.toNat
          ++ '.' :: Hex.bytes .upper f.data)) :=
    .cons rfl
      (hLength.append (.cons rfl (Hex.noBlank_bytes _ _)))
  cases f with
  | classic f =>
      rw [toList_text_classic]
      exact hId.append hRest
  | fd f =>
      have hFlags :=
        Number.noBlank_of_digits?
          (Number.digits?_number .upper f.flags.bits.toNat)
      rw [toList_text_fd]
      exact hId.append (.cons rfl (hFlags.append hRest))

namespace Modification

theorem toList_functionText
    (operation : Operation)
    (f : Function) :
    (functionText operation f).toList =
      operation.name.toList
        ++ ':' :: (f.targets.text
          ++ ':' :: f.template.text.toList) := by
  simp [functionText]

/- What is not among the letters of the targets. -/
theorem not_mem_targets_text
    {char : Char}
    (targets : Targets)
    (hOther : char ∉ Targets.letters.map Prod.snd) :
    char ∉ targets.text := by
  intro hChar
  rcases List.mem_filterMap.mp hChar with
    ⟨entry, hEntry, hLetter⟩
  split at hLetter
  · cases hLetter
    exact hOther (List.mem_map_of_mem hEntry)
  · cases hLetter

/- The text of a function is a single word. -/
theorem noBlank_functionText
    (operation : Operation)
    (f : Function) :
    Split.NoBlank (functionText operation f).toList := by
  have hName : Split.NoBlank operation.name.toList := by
    cases operation <;> decide
  have hLetters :
      Split.NoBlank (Targets.letters.map Prod.snd) := by
    decide
  have hTargets : Split.NoBlank f.targets.text := by
    intro char hChar
    apply hLetters char
    by_contra hOther
    exact not_mem_targets_text f.targets hOther hChar
  rw [toList_functionText]
  exact hName.append
    (.cons rfl
      (hTargets.append (.cons rfl f.template.noBlank_text)))

theorem functionText_ne_nil
    (operation : Operation)
    (f : Function) :
    (functionText operation f).toList ≠ [] := by
  rw [toList_functionText]
  simp

end Modification

namespace Descriptor

theorem operation_name
    (op : Operation) :
    operation op.name.toList = .ok op := by
  cases op <;> rfl

/- Known targets are read from their letters. -/
theorem targets_text
    {t : Targets}
    (hKnown : t.isKnown = true) :
    targets t.text = .ok t := by
  revert t
  apply Flags.of_isKnown
  decide

/- A function is added by its text. -/
theorem addModification_functionText
    {kind : FrameKind}
    {f : Function}
    (hFunction : f.IsDescribable kind)
    (m : Modification)
    (op : Operation) :
    addModification kind m
        (Modification.functionText op f).toList =
      checked (m.add op (f.withDlc 0)) := by
  have hName : ':' ∉ op.name.toList := by
    cases op <;> decide
  have hTargets : ':' ∉ f.targets.text :=
    Modification.not_mem_targets_text f.targets (by decide)
  have hFrame :
      frame kind f.template.text.toList =
        .ok (f.template.withDlc 0) := by
    have hLength := hFunction.short
    rw [← hFunction.template] at hLength ⊢
    exact frame_text hLength
  unfold addModification
  rw [Modification.toList_functionText,
    Split.atFirst?_append_cons hName]
  change
    (expect _ (Split.atFirst? ':'
        (f.targets.text ++ ':' :: f.template.text.toList)) >>=
      fun parts => do
        let operation ← operation op.name.toList
        let targets ← targets parts.1
        let template ← frame kind parts.2
        checked (m.add operation ⟨targets, template⟩)) =
      _
  rw [Split.atFirst?_append_cons hTargets, operation_name]
  change
    (do
      let targets ← targets f.targets.text
      let template ← frame kind f.template.text.toList
      checked (m.add op ⟨targets, template⟩)) = _
  rw [targets_text hFunction.known, hFrame]
  rfl

end Descriptor

------------------------------------------------------------
-- Modifications
------------------------------------------------------------

namespace Function

/- The length code has no part in what a function suits. -/
theorem Suits.withDlc
    {f : Function}
    {kind : FrameKind}
    (h : f.Suits kind)
    (dlc : UInt8) :
    (f.withDlc dlc).Suits kind where
  template := (f.template.kind_withDlc dlc).trans h.template
  targeted := h.targeted
  flagged hContains :=
    (f.template.kind_withDlc dlc).trans (h.flagged hContains)

end Function

namespace Modification

variable {m : Modification}
variable {kind : FrameKind}

/- A modification whose templates have the given code. -/
def withDlc
    (m : Modification)
    (dlc : UInt8) : Modification where
  onAnd := m.onAnd.map (·.withDlc dlc)
  onOr := m.onOr.map (·.withDlc dlc)
  onXor := m.onXor.map (·.withDlc dlc)
  onSet := m.onSet.map (·.withDlc dlc)

theorem get_withDlc
    (m : Modification)
    (dlc : UInt8)
    (operation : Operation) :
    (m.withDlc dlc).get operation =
      (m.get operation).map (·.withDlc dlc) := by
  cases operation <;> rfl

theorem functions_withDlc
    (m : Modification)
    (dlc : UInt8) :
    (m.withDlc dlc).functions =
      m.functions.map fun entry =>
        (entry.1, entry.2.withDlc dlc) := by
  unfold functions
  rw [List.map_filterMap]
  apply List.filterMap_congr
  intro operation _
  rw [get_withDlc, Option.map_map, Option.map_map]
  rfl

/-
  A function that suits the same frames as the others can be
  added for an operation without one.
-/
theorem add_of_suits
    {operation : Operation}
    {f : Function}
    (hSuits :
      ∀ operation f, m.get operation = some f →
        f.Suits kind)
    (hFunction : f.Suits kind)
    (hNone : m.get operation = none) :
    m.add operation f = .ok (m.put operation f) := by
  have hTargets : ¬ f.targets.isEmpty = true :=
    Bool.eq_false_iff.mp hFunction.targeted
  have hFlags :
      ¬ (f.targets.contains Targets.fdFlags = true ∧
        f.template.kind = .classic) := by
    rintro ⟨hContains, hClassic⟩
    rw [hFunction.flagged hContains] at hClassic
    cases hClassic
  have hOnce : ¬ (m.get operation).isSome = true := by
    simp [hNone]
  have hSame :
      ¬ m.kind?.any (· ≠ f.template.kind) = true := by
    cases hKind : m.kind? with
    | none => simp
    | some found =>
        rcases exists_function_of_kind? hKind with
          ⟨other, g, hGet, rfl⟩
        rw [(hSuits other g hGet).template,
          hFunction.template]
        simp
  unfold add
  rw [if_neg hTargets, if_neg hFlags, if_neg hOnce,
    if_neg hSame]

/-
  Functions that suit the same frames can be added one after
  the other, if no operation has two of them.
-/
theorem addAll_of_suits
    {entries : List (Operation × Function)}
    (hSuits :
      ∀ operation f, m.get operation = some f →
        f.Suits kind)
    (hEntries : ∀ entry ∈ entries, entry.2.Suits kind)
    (hOnce : (entries.map Prod.fst).Nodup)
    (hNone : ∀ entry ∈ entries, m.get entry.1 = none) :
    m.addAll entries =
      .ok
        (entries.foldl (fun m entry => m.put entry.1 entry.2)
          m) := by
  induction entries generalizing m with
  | nil => rfl
  | cons first entries ih =>
      rw [List.map_cons, List.nodup_cons] at hOnce
      rw [List.forall_mem_cons] at hEntries hNone
      have hFirst :=
        add_of_suits hSuits hEntries.1 hNone.1
      have hStep :
          m.addAll (first :: entries) =
            (m.put first.1 first.2).addAll entries := by
        simp only [addAll, List.foldlM_cons, hFirst]
        rfl
      rw [hStep, List.foldl_cons]
      apply ih
      · intro operation f hGet
        rw [get_put] at hGet
        split at hGet
        · cases hGet
          exact hEntries.1
        · exact hSuits operation f hGet
      · exact hEntries.2
      · exact hOnce.2
      · intro entry hEntry
        have hOther : entry.1 ≠ first.1 := by
          intro hSame
          apply hOnce.1
          rw [← hSame]
          exact List.mem_map_of_mem hEntry
        rw [get_put, if_neg hOther]
        exact hNone.2 entry hEntry

/- The operations that have a function, in their order. -/
theorem map_fst_functions
    (m : Modification) :
    m.functions.map Prod.fst =
      Operation.all.filter fun operation =>
        (m.get operation).isSome := by
  unfold functions
  rw [List.map_filterMap, ← List.filterMap_eq_filter]
  apply List.filterMap_congr
  intro operation _
  cases hGet : m.get operation with
  | none => simp [Option.guard, hGet]
  | some f => simp [Option.guard, hGet]

/- Each operation has at most one function. -/
theorem nodup_functions
    (m : Modification) :
    (m.functions.map Prod.fst).Nodup := by
  have hAll : Operation.all.Nodup := by
    decide
  rw [map_fst_functions]
  exact hAll.filter _

theorem foldl_put_functions
    (m : Modification) :
    m.functions.foldl (fun n entry => n.put entry.1 entry.2)
        empty =
      m := by
  rcases m with ⟨onAnd, onOr, onXor, onSet⟩
  cases onAnd <;> cases onOr <;> cases onXor <;>
    cases onSet <;> rfl

theorem suits_empty
    (operation : Operation)
    (f : Function)
    (hGet : empty.get operation = some f) :
    f.Suits kind := by
  rw [eq_empty_iff.mp rfl operation] at hGet
  cases hGet

/- A modification is put together from its own functions. -/
theorem addAll_functions
    (hSuits :
      ∀ operation f, m.get operation = some f →
        f.Suits kind) :
    empty.addAll m.functions = .ok m := by
  have hEntries :
      ∀ entry ∈ m.functions, entry.2.Suits kind :=
    fun entry hEntry =>
      hSuits entry.1 entry.2 (mem_functions.mp hEntry)
  rw [addAll_of_suits suits_empty hEntries m.nodup_functions
      fun entry _ => eq_empty_iff.mp rfl entry.1,
    foldl_put_functions]

theorem put_of_add
    {next : Modification}
    {operation : Operation}
    {f : Function}
    (hAdd : m.add operation f = .ok next) :
    next = m.put operation f := by
  unfold add at hAdd
  split at hAdd
  · cases hAdd
  split at hAdd
  · cases hAdd
  split at hAdd
  · cases hAdd
  split at hAdd
  · cases hAdd
  cases hAdd
  rfl

theorem foldl_put_of_addAll
    {next : Modification}
    {entries : List (Operation × Function)}
    (hAdd : m.addAll entries = .ok next) :
    next =
      entries.foldl (fun m entry => m.put entry.1 entry.2)
        m := by
  induction entries generalizing m with
  | nil =>
      cases hAdd
      rfl
  | cons first entries ih =>
      rw [addAll, List.foldlM_cons] at hAdd
      cases hFirst : m.add first.1 first.2 with
      | error violation =>
          rw [hFirst] at hAdd
          cases hAdd
      | ok given =>
          rw [hFirst] at hAdd
          rw [List.foldl_cons, ← put_of_add hFirst]
          exact ih hAdd

/-
  Where the templates are of one kind, the functions can be
  put together only if they all suit it.
-/
theorem suits_of_addAll_functions
    {next : Modification}
    (hKind :
      ∀ operation f, m.get operation = some f →
        f.template.kind = kind)
    (hAdd : empty.addAll m.functions = .ok next) :
    ∀ operation f, m.get operation = some f →
      f.Suits kind := by
  have hStart :
      ∀ operation f, empty.get operation = some f →
        f.Suits kind :=
    suits_empty
  have hSame : next = m :=
    (foldl_put_of_addAll hAdd).trans m.foldl_put_functions
  rcases suits_of_addAll hStart hAdd with ⟨found, hSuits⟩
  intro operation f hGet
  rw [hSame] at hSuits
  have hFunction := hSuits operation f hGet
  have hFound : found = kind :=
    hFunction.template.symm.trans (hKind operation f hGet)
  rwa [hFound] at hFunction

/- The option for functions with templates of a kind. -/
def option : FrameKind → CommandOption
  | .classic => .modify
  | .fd => .fdModify

/- What the text says of each function behind the option. -/
def values (m : Modification) : List (List Char) :=
  m.functions.map fun entry =>
    (functionText entry.1 entry.2).toList

/- The options for the functions of a modification. -/
theorem words_text
    (hKind :
      ∀ operation f, m.get operation = some f →
        f.template.kind = kind) :
    Split.words m.text.toList =
      m.values.flatMap fun value =>
        [(option kind).word, value] := by
  unfold text values
  rw [Split.words_intercalate, List.flatMap_map,
    List.flatMap_map]
  apply List.flatMap_congr
  intro entry hEntry
  have hFirst : m.kind? = some kind := by
    cases hFound : m.kind? with
    | none =>
        have hNone : m.functions = [] := by
          simpa [kind?] using hFound
        rw [hNone] at hEntry
        cases hEntry
    | some found =>
        rcases exists_function_of_kind? hFound with
          ⟨operation, f, hGet, rfl⟩
        rw [hKind operation f hGet]
  have hLetter :
      (if m.kind? = some .fd then "-M " else "-m ").toList =
        (option kind).word ++ [' '] := by
    rw [hFirst]
    cases kind <;> rfl
  rw [String.toList_append, hLetter, List.append_assoc,
    List.singleton_append]
  exact (option kind).words_valued
    (noBlank_functionText entry.1 entry.2)
    (functionText_ne_nil entry.1 entry.2)

end Modification

namespace Descriptor

/- Functions are added by their texts, one after the other. -/
theorem foldlM_functionTexts
    {kind : FrameKind}
    {entries : List (Operation × Function)}
    (hEntries :
      ∀ entry ∈ entries, entry.2.IsDescribable kind)
    (m : Modification) :
    (entries.map fun entry =>
          (Modification.functionText entry.1
            entry.2).toList).foldlM (addModification kind) m =
      checked
        (m.addAll
          (entries.map fun entry =>
            (entry.1, entry.2.withDlc 0))) := by
  induction entries generalizing m with
  | nil => rfl
  | cons first entries ih =>
      rw [List.forall_mem_cons] at hEntries
      rw [List.map_cons, List.map_cons, List.foldlM_cons,
        addModification_functionText hEntries.1,
        Modification.addAll, List.foldlM_cons]
      cases m.add first.1 (first.2.withDlc 0) with
      | error violation => rfl
      | ok next => exact ih hEntries.2 next

/-
  What the texts of the functions describe is what can be put
  together from the functions.
-/
theorem modification_values
    {m : Modification}
    {kind : FrameKind}
    (hFunctions :
      ∀ operation f, m.get operation = some f →
        f.IsDescribable kind) :
    modification kind m.values =
      checked
        (Modification.empty.addAll (m.withDlc 0).functions) := by
  rw [Modification.functions_withDlc]
  apply foldlM_functionTexts
  intro entry hEntry
  exact hFunctions entry.1 entry.2
    (Modification.mem_functions.mp hEntry)

end Descriptor

end GatewayRules
