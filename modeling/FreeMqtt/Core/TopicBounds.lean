import FreeMqtt.Core.TopicLevels
import FreeMqtt.Lib.Audit

/-!
# Matching topics in bounds

`matchTopicFilter` with the bytes that it reads, in the order of the source, and with the exact
results of what it does to its two indices. Whatever the topic name and the topic filter are, the
loops end, every byte that is read belongs to one of the two, and no index wraps around
(`matchTopicFilter_inBounds`).
-/

namespace FreeMqtt

open Audit

/-- What the matcher does: it reads the byte at an offset of the topic name or of the topic filter,
or moves an index. `unfinished` is a loop that is cut off. -/
inductive TopicAccess
  | name (offset : Int)
  | filter (offset : Int)
  | index (exact : Int)
  | unfinished
  deriving DecidableEq, Repr

/-- A read inside the name or the filter, or an index that needs no wrapping. -/
def TopicAccess.InBounds (topicNameLength topicFilterLength : Nat) : TopicAccess → Prop
  | .name offset => 0 ≤ offset ∧ offset < topicNameLength
  | .filter offset => 0 ≤ offset ∧ offset < topicFilterLength
  | .index exact => Fits 16 exact
  | .unfinished => False

/-! ## The audited matcher -/

/-- The byte at an offset. -/
def auditedByteAt (event : Int → TopicAccess) (base : Pointer) (offset : Int) :
    Audit TopicAccess UInt8 := do
  report (event offset)
  pure (byteAt base offset.toNat)

/-- Whether the filter has a byte at an offset. -/
def auditedFilterIs (pTopicFilter : Pointer) (offset : Int) (byte : UInt8) :
    Audit TopicAccess Bool := do
  let found ← auditedByteAt .filter pTopicFilter offset
  pure (decide (found = byte))

/-- `matchEndWildcardsSpecialCases`, audited. -/
def auditedMatchEndWildcardsSpecialCases (pTopicFilter : Pointer)
    (topicFilterLength filterIndex : Nat) : Audit TopicAccess Bool := do
  let matchFound ←
    (if 3 ≤ topicFilterLength ∧ filterIndex + 3 = topicFilterLength then
      (auditedFilterIs pTopicFilter (filterIndex + 1) 0x2F).and
        (auditedFilterIs pTopicFilter (filterIndex + 2) 0x23)
    else pure false)
  let endsBehindSlash ←
    (if filterIndex + 2 = topicFilterLength then auditedFilterIs pTopicFilter filterIndex 0x2F
    else pure false)
  if endsBehindSlash then
    (auditedFilterIs pTopicFilter (filterIndex + 1) 0x2B).or
      (auditedFilterIs pTopicFilter (filterIndex + 1) 0x23)
  else pure matchFound

/-- The loop of `matchWildcards` to the end of the level, audited. -/
def auditedEndOfLevel (pTopicName : Pointer) (topicNameLength : Nat) :
    (fuel : Nat) → (nameIndex : Nat) → Audit TopicAccess (Bool × Nat)
  | 0, nameIndex => do
      report .unfinished
      pure (false, nameIndex)
  | fuel + 1, nameIndex =>
      if nameIndex < topicNameLength then do
        let byte ← auditedByteAt .name pTopicName nameIndex
        if byte = 0x2F then pure (true, nameIndex)
        else do
          let nameIndex ← addWord .index 16 nameIndex 1
          auditedEndOfLevel pTopicName topicNameLength fuel nameIndex
      else pure (false, nameIndex)

/-- `matchWildcards`, audited. -/
def auditedMatchWildcards (pTopicName : Pointer) (topicNameLength : Nat) (pTopicFilter : Pointer)
    (topicFilterLength nameIndex filterIndex : Nat) : Audit TopicAccess WildcardMatch := do
  let locationIsValidForWildcard ←
    (if filterIndex = 0 then pure true
    else auditedFilterIs pTopicFilter (filterIndex - 1) 0x2F)
  let singleLevel ← auditedFilterIs pTopicFilter filterIndex 0x2B
  if singleLevel ∧ locationIsValidForWildcard then do
    let level ← auditedEndOfLevel pTopicName topicNameLength (topicNameLength + 1) nameIndex
    let nextLevelExistsinTopicFilter ←
      (if filterIndex + 1 < topicFilterLength then
        auditedFilterIs pTopicFilter (filterIndex + 1) 0x2F
      else pure false)
    if level.1 ∧ nextLevelExistsinTopicFilter = false then
      pure ⟨true, level.2, filterIndex, false⟩
    else if level.1 then do
      let filterIndex ← addWord .index 16 filterIndex 1
      pure ⟨false, level.2, filterIndex, false⟩
    else do
      let nameIndex ← subWord .index 16 level.2 1
      pure ⟨false, nameIndex, filterIndex, false⟩
  else do
    let multiLevel ← auditedFilterIs pTopicFilter filterIndex 0x23
    if multiLevel ∧ filterIndex + 1 = topicFilterLength ∧ locationIsValidForWildcard then
      pure ⟨true, nameIndex, filterIndex, true⟩
    else pure ⟨true, nameIndex, filterIndex, false⟩

/-- The comparison in the loop of `matchTopicFilter`, audited. -/
def auditedCompare (pTopicName : Pointer) (topicNameLength : Nat) (pTopicFilter : Pointer)
    (topicFilterLength nameIndex filterIndex : Nat) : Audit TopicAccess WildcardMatch := do
  let nameByte ← auditedByteAt .name pTopicName nameIndex
  let filterByte ← auditedByteAt .filter pTopicFilter filterIndex
  if nameByte = filterByte then do
    let matchFound ←
      (if nameIndex + 1 = topicNameLength then
        auditedMatchEndWildcardsSpecialCases pTopicFilter topicFilterLength filterIndex
      else pure false)
    pure ⟨false, nameIndex, filterIndex, matchFound⟩
  else
    auditedMatchWildcards pTopicName topicNameLength pTopicFilter topicFilterLength nameIndex
      filterIndex

/-- The loop of `matchTopicFilter`, audited. -/
def auditedMatchTopicFilterLoop (pTopicName : Pointer) (topicNameLength : Nat)
    (pTopicFilter : Pointer) (topicFilterLength : Nat) :
    (fuel : Nat) → (nameIndex filterIndex : Nat) → Audit TopicAccess (Bool × Nat × Nat)
  | 0, nameIndex, filterIndex => do
      report .unfinished
      pure (false, nameIndex, filterIndex)
  | fuel + 1, nameIndex, filterIndex =>
      if nameIndex < topicNameLength ∧ filterIndex < topicFilterLength then do
        let wildcards ← auditedCompare pTopicName topicNameLength pTopicFilter topicFilterLength
          nameIndex filterIndex
        if wildcards.isMatch ∨ wildcards.shouldStopMatching then
          pure (wildcards.isMatch, wildcards.nameIndex, wildcards.filterIndex)
        else do
          let nameIndex ← addWord .index 16 wildcards.nameIndex 1
          let filterIndex ← addWord .index 16 wildcards.filterIndex 1
          auditedMatchTopicFilterLoop pTopicName topicNameLength pTopicFilter topicFilterLength fuel
            nameIndex filterIndex
      else pure (false, nameIndex, filterIndex)

/-- `matchTopicFilter`, audited, with its loop cut off behind as many iterations as the filter has
bytes. -/
def auditedMatchTopicFilter (pTopicName : Pointer) (topicNameLength : Nat) (pTopicFilter : Pointer)
    (topicFilterLength : Nat) : Audit TopicAccess Bool := do
  let walked ← auditedMatchTopicFilterLoop pTopicName topicNameLength pTopicFilter topicFilterLength
    (topicFilterLength + 1) 0 0
  pure (walked.1 || decide (walked.2.1 = topicNameLength ∧ walked.2.2 = topicFilterLength))

/-! ## Values -/

section Values

variable {pTopicName pTopicFilter : Pointer} {topicNameLength topicFilterLength : Nat}

@[simp] theorem value_auditedByteAt (event : Int → TopicAccess) (base : Pointer) (offset : Int) :
    (auditedByteAt event base offset).value = byteAt base offset.toNat := by
  simp [auditedByteAt]

@[simp] theorem value_auditedFilterIs (offset : Int) (byte : UInt8) :
    (auditedFilterIs pTopicFilter offset byte).value =
      decide (byteAt pTopicFilter offset.toNat = byte) := by
  simp [auditedFilterIs]

@[simp] theorem value_nextIndex (index : Nat) :
    (addWord TopicAccess.index 16 index 1).value = (index + 1) % 65536 := by
  simp [addWord]

@[simp] theorem value_previousIndex (index : Nat) :
    (subWord TopicAccess.index 16 index 1).value = (index + 65535) % 65536 := by
  show (index + 2 ^ 16 - 1) % 2 ^ 16 = _
  rw [Nat.add_sub_assoc (by decide)]
  rfl

@[simp] theorem value_auditedMatchEndWildcardsSpecialCases (filterIndex : Nat) :
    (auditedMatchEndWildcardsSpecialCases pTopicFilter topicFilterLength filterIndex).value =
      matchEndWildcardsSpecialCases pTopicFilter topicFilterLength filterIndex := by
  have hone : ((filterIndex : Int) + 1).toNat = filterIndex + 1 := by omega
  have htwo : ((filterIndex : Int) + 2).toNat = filterIndex + 2 := by omega
  unfold auditedMatchEndWildcardsSpecialCases matchEndWildcardsSpecialCases
  simp [hone, htwo, Bool.and_assoc]

@[simp] theorem value_auditedEndOfLevel (fuel nameIndex : Nat) :
    (auditedEndOfLevel pTopicName topicNameLength fuel nameIndex).value =
      endOfLevel pTopicName topicNameLength fuel nameIndex := by
  induction fuel generalizing nameIndex with
  | zero => rfl
  | succ fuel ih =>
    unfold auditedEndOfLevel endOfLevel
    simp [ih]

@[simp] theorem value_auditedMatchWildcards (nameIndex filterIndex : Nat) :
    (auditedMatchWildcards pTopicName topicNameLength pTopicFilter topicFilterLength nameIndex
      filterIndex).value =
      matchWildcards pTopicName topicNameLength pTopicFilter topicFilterLength nameIndex
        filterIndex := by
  unfold auditedMatchWildcards matchWildcards
  simp

theorem value_auditedMatchTopicFilterLoop (fuel nameIndex filterIndex : Nat) :
    (auditedMatchTopicFilterLoop pTopicName topicNameLength pTopicFilter topicFilterLength fuel
      nameIndex filterIndex).value =
      matchTopicFilterLoop pTopicName topicNameLength pTopicFilter topicFilterLength fuel nameIndex
        filterIndex := by
  induction fuel generalizing nameIndex filterIndex with
  | zero => rfl
  | succ fuel ih =>
    unfold auditedMatchTopicFilterLoop matchTopicFilterLoop auditedCompare
    simp [ih]

/-- The audited matcher computes what `matchTopicFilter` does. -/
theorem value_auditedMatchTopicFilter :
    (auditedMatchTopicFilter pTopicName topicNameLength pTopicFilter topicFilterLength).value =
      matchTopicFilter pTopicName topicNameLength pTopicFilter topicFilterLength := by
  unfold auditedMatchTopicFilter matchTopicFilter
  simp [value_auditedMatchTopicFilterLoop]

end Values

/-! ## Where the indices are -/

section Indices

variable {pTopicName pTopicFilter : Pointer}
  {topicNameLength topicFilterLength nameIndex filterIndex : Nat}

/-- The inner loop stops on a separator of the name or behind its last byte. -/
theorem endOfLevel_le (hlength : topicNameLength < 65536) (hle : nameIndex ≤ topicNameLength) :
    let level := endOfLevel pTopicName topicNameLength (topicNameLength + 1) nameIndex
    level.1 = true ∧ level.2 < topicNameLength ∨ level.1 = false ∧ level.2 = topicNameLength := by
  rcases @endOfLevel_spec pTopicName topicNameLength nameIndex (topicNameLength + 1) (by omega) hle
    hlength with ⟨-, heq⟩ | ⟨level, more, -, hdrop, heq⟩
  · rw [heq]
    exact .inr ⟨rfl, rfl⟩
  · have hsum := congrArg List.length hdrop
    rw [List.length_drop, length_readBytes, List.length_append, List.length_cons] at hsum
    rw [heq]
    refine .inl ⟨rfl, ?_⟩
    dsimp only
    omega

/-- Wildcards that do not end the matching leave both indices on a byte, and the filter is not left
behind. -/
theorem matchWildcards_goesOn (hnameLength : topicNameLength < 65536)
    (hfilterLength : topicFilterLength < 65536) (hname : nameIndex < topicNameLength)
    (hfilter : filterIndex < topicFilterLength)
    (hgoesOn : (matchWildcards pTopicName topicNameLength pTopicFilter topicFilterLength nameIndex
      filterIndex).shouldStopMatching = false) :
    let wildcards := matchWildcards pTopicName topicNameLength pTopicFilter topicFilterLength
      nameIndex filterIndex
    wildcards.nameIndex < topicNameLength ∧ filterIndex ≤ wildcards.filterIndex ∧
      wildcards.filterIndex < topicFilterLength := by
  have hlevel := @endOfLevel_le pTopicName topicNameLength nameIndex hnameLength (by omega)
  dsimp only at hlevel ⊢
  set level := endOfLevel pTopicName topicNameLength (topicNameLength + 1) nameIndex with hlevelDef
  unfold matchWildcards at hgoesOn ⊢
  simp only [← hlevelDef] at hgoesOn ⊢
  split at hgoesOn
  case isFalse => split at hgoesOn <;> cases hgoesOn
  rename_i hplus
  rw [if_pos hplus]
  split at hgoesOn
  case isTrue => cases hgoesOn
  rename_i hnext
  rw [if_neg hnext]
  rcases hlevel with ⟨hsep, hlt⟩ | ⟨hnoSep, hend⟩
  · have hinside : filterIndex + 1 < topicFilterLength := by
      by_contra hout
      exact hnext ⟨hsep, decide_eq_false fun hand => hout hand.1⟩
    rw [if_pos hsep]
    dsimp only
    omega
  · rw [if_neg (by simp [hnoSep])]
    dsimp only
    omega

/-- So does the whole comparison. -/
theorem auditedCompare_goesOn (hnameLength : topicNameLength < 65536)
    (hfilterLength : topicFilterLength < 65536) (hname : nameIndex < topicNameLength)
    (hfilter : filterIndex < topicFilterLength) {wildcards : WildcardMatch}
    (hwildcards : (auditedCompare pTopicName topicNameLength pTopicFilter topicFilterLength nameIndex
      filterIndex).value = wildcards)
    (hgoesOn : wildcards.shouldStopMatching = false) :
    wildcards.nameIndex < topicNameLength ∧ filterIndex ≤ wildcards.filterIndex ∧
      wildcards.filterIndex < topicFilterLength := by
  subst hwildcards
  unfold auditedCompare at hgoesOn ⊢
  rw [value_bind, value_bind, value_ite] at hgoesOn ⊢
  split at hgoesOn
  · rename_i hsame
    rw [if_pos hsame]
    exact ⟨hname, Nat.le_refl _, hfilter⟩
  · rename_i hdifferent
    rw [value_auditedMatchWildcards] at hgoesOn
    rw [if_neg hdifferent, value_auditedMatchWildcards]
    exact matchWildcards_goesOn hnameLength hfilterLength hname hfilter hgoesOn

end Indices

/-! ## Bounds -/

section Bounds

variable {pTopicName pTopicFilter : Pointer}
  {topicNameLength topicFilterLength nameIndex filterIndex : Nat}

theorem all_auditedByteAt_name (h : nameIndex < topicNameLength) :
    (auditedByteAt .name pTopicName nameIndex).All
      (TopicAccess.InBounds topicNameLength topicFilterLength) :=
  all_bind.2 ⟨all_report.2 ⟨Int.natCast_nonneg _, Int.ofNat_lt.2 h⟩, all_pure _⟩

theorem all_auditedByteAt_filter {offset : Int} (hle : 0 ≤ offset)
    (hlt : offset < topicFilterLength) :
    (auditedByteAt .filter pTopicFilter offset).All
      (TopicAccess.InBounds topicNameLength topicFilterLength) :=
  all_bind.2 ⟨all_report.2 ⟨hle, hlt⟩, all_pure _⟩

theorem all_auditedFilterIs {offset : Int} (byte : UInt8) (hle : 0 ≤ offset)
    (hlt : offset < topicFilterLength) :
    (auditedFilterIs pTopicFilter offset byte).All
      (TopicAccess.InBounds topicNameLength topicFilterLength) :=
  all_bind.2 ⟨all_auditedByteAt_filter hle hlt, all_pure _⟩

/-- An index below a length moves on without wrapping around. -/
theorem all_nextIndex {index length : Nat} (hlength : length < 65536) (hlt : index < length) :
    (addWord TopicAccess.index 16 index 1).All
      (TopicAccess.InBounds topicNameLength topicFilterLength) :=
  all_addWord.2 (fits_add (by omega))

theorem nextIndex_eq {index length : Nat} (hlength : length < 65536) (hlt : index < length) :
    (index + 1) % 65536 = index + 1 :=
  Nat.mod_eq_of_lt (by omega)

theorem all_auditedMatchEndWildcardsSpecialCases :
    (auditedMatchEndWildcardsSpecialCases pTopicFilter topicFilterLength filterIndex).All
      (TopicAccess.InBounds topicNameLength topicFilterLength) := by
  unfold auditedMatchEndWildcardsSpecialCases
  refine all_bind.2 ⟨all_ite ?_ fun _ => all_pure _, all_bind.2 ⟨all_ite ?_ fun _ => all_pure _, ?_⟩⟩
  · intro hthree
    exact all_and (all_auditedFilterIs _ (by omega) (by omega))
      (all_auditedFilterIs _ (by omega) (by omega))
  · intro htwo
    exact all_auditedFilterIs _ (by omega) (by omega)
  · refine all_ite ?_ fun _ => all_pure _
    intro hslash
    -- the offset behind the slash is the last one
    have htwo : filterIndex + 2 = topicFilterLength := by
      by_contra hne
      rw [if_neg hne] at hslash
      cases hslash
    exact all_or (all_auditedFilterIs _ (by omega) (by omega))
      (all_auditedFilterIs _ (by omega) (by omega))

theorem all_auditedEndOfLevel {fuel : Nat} (hlength : topicNameLength < 65536)
    (hfuel : topicNameLength < nameIndex + fuel) (hle : nameIndex ≤ topicNameLength) :
    (auditedEndOfLevel pTopicName topicNameLength fuel nameIndex).All
      (TopicAccess.InBounds topicNameLength topicFilterLength) := by
  induction fuel generalizing nameIndex with
  | zero => exact absurd hfuel (by omega)
  | succ fuel ih =>
    unfold auditedEndOfLevel
    refine all_ite ?_ fun _ => all_pure _
    intro hlt
    refine all_bind.2 ⟨all_auditedByteAt_name hlt, all_ite (fun _ => all_pure _) fun _ => ?_⟩
    refine all_bind.2 ⟨all_nextIndex hlength hlt, ?_⟩
    rw [value_nextIndex, nextIndex_eq hlength hlt]
    exact ih (by omega) hlt

theorem all_auditedMatchWildcards (hnameLength : topicNameLength < 65536)
    (hfilterLength : topicFilterLength < 65536) (hname : nameIndex < topicNameLength)
    (hfilter : filterIndex < topicFilterLength) :
    (auditedMatchWildcards pTopicName topicNameLength pTopicFilter topicFilterLength nameIndex
      filterIndex).All (TopicAccess.InBounds topicNameLength topicFilterLength) := by
  have hlevel := @endOfLevel_le pTopicName topicNameLength nameIndex hnameLength (by omega)
  unfold auditedMatchWildcards
  refine all_bind.2 ⟨all_ite (fun _ => all_pure _) ?_, ?_⟩
  · intro hne
    exact all_auditedFilterIs _ (by omega) (by omega)
  refine all_bind.2 ⟨all_auditedFilterIs _ (by omega) (by omega), all_ite (fun _ => ?_) fun _ => ?_⟩
  · refine all_bind.2 ⟨all_auditedEndOfLevel hnameLength (by omega) (by omega), ?_⟩
    refine all_bind.2 ⟨all_ite ?_ fun _ => all_pure _, ?_⟩
    · intro hnext
      exact all_auditedFilterIs _ (by omega) (by omega)
    rw [value_auditedEndOfLevel]
    refine all_ite (fun _ => all_pure _) fun _ => all_ite (fun _ => ?_) fun hnoSep => ?_
    · exact all_bind.2 ⟨all_nextIndex hfilterLength hfilter, all_pure _⟩
    · rcases hlevel with ⟨hsep, -⟩ | ⟨-, hend⟩
      · exact absurd hsep hnoSep
      -- the index that is decremented is the length, which is not zero
      · rw [hend]
        exact all_bind.2 ⟨all_subWord.2 (fits_sub (by omega) (by omega)), all_pure _⟩
  · exact all_bind.2 ⟨all_auditedFilterIs _ (by omega) (by omega),
      all_ite (fun _ => all_pure _) fun _ => all_pure _⟩

theorem all_auditedCompare (hnameLength : topicNameLength < 65536)
    (hfilterLength : topicFilterLength < 65536) (hname : nameIndex < topicNameLength)
    (hfilter : filterIndex < topicFilterLength) :
    (auditedCompare pTopicName topicNameLength pTopicFilter topicFilterLength nameIndex
      filterIndex).All (TopicAccess.InBounds topicNameLength topicFilterLength) := by
  unfold auditedCompare
  refine all_bind.2 ⟨all_auditedByteAt_name hname, ?_⟩
  refine all_bind.2 ⟨all_auditedByteAt_filter (by omega) (by omega), all_ite (fun _ => ?_) ?_⟩
  · exact all_bind.2 ⟨all_ite (fun _ => all_auditedMatchEndWildcardsSpecialCases)
      fun _ => all_pure _, all_pure _⟩
  · intro _
    exact all_auditedMatchWildcards hnameLength hfilterLength hname hfilter

/-- The filter is never behind the bytes that the fuel is for, and both indices stay up to their
lengths. -/
theorem all_auditedMatchTopicFilterLoop {fuel : Nat} (hnameLength : topicNameLength < 65536)
    (hfilterLength : topicFilterLength < 65536)
    (hfuel : topicFilterLength < filterIndex + fuel) (hname : nameIndex ≤ topicNameLength)
    (hfilter : filterIndex ≤ topicFilterLength) :
    (auditedMatchTopicFilterLoop pTopicName topicNameLength pTopicFilter topicFilterLength fuel
      nameIndex filterIndex).All (TopicAccess.InBounds topicNameLength topicFilterLength) := by
  induction fuel generalizing nameIndex filterIndex with
  | zero => exact absurd hfuel (by omega)
  | succ fuel ih =>
    unfold auditedMatchTopicFilterLoop
    refine all_ite ?_ fun _ => all_pure _
    rintro ⟨hnameLt, hfilterLt⟩
    refine all_bind.2 ⟨all_auditedCompare hnameLength hfilterLength hnameLt hfilterLt,
      all_ite (fun _ => all_pure _) ?_⟩
    intro hgoesOn
    obtain ⟨-, hgoesOn⟩ := not_or.1 hgoesOn
    obtain ⟨hnameLt', hle, hfilterLt'⟩ := auditedCompare_goesOn hnameLength hfilterLength hnameLt
      hfilterLt rfl (Bool.not_eq_true _ ▸ hgoesOn)
    refine all_bind.2 ⟨all_nextIndex hnameLength hnameLt', ?_⟩
    refine all_bind.2 ⟨all_nextIndex hfilterLength hfilterLt', ?_⟩
    rw [value_nextIndex, value_nextIndex, nextIndex_eq hnameLength hnameLt',
      nextIndex_eq hfilterLength hfilterLt']
    exact ih (by omega) hnameLt' hfilterLt'

end Bounds

/-- Whatever the bytes of a topic name and of a topic filter are, up to the greatest length,
`matchTopicFilter` ends, reads inside the two and moves its indices without wrapping around. -/
theorem matchTopicFilter_inBounds {name filter : List UInt8} (hname : name.length ≤ 65535)
    (hfilter : filter.length ≤ 65535) :
    (auditedMatchTopicFilter (some name) name.length (some filter) filter.length).All
        (TopicAccess.InBounds name.length filter.length) ∧
      (auditedMatchTopicFilter (some name) name.length (some filter) filter.length).value =
        matchTopicFilter (some name) name.length (some filter) filter.length := by
  refine ⟨all_bind.2 ⟨?_, all_pure _⟩, value_auditedMatchTopicFilter⟩
  exact all_auditedMatchTopicFilterLoop (by omega) (by omega) (by omega) (Nat.zero_le _)
    (Nat.zero_le _)

theorem matchTopicFilter_inBounds_sample :
    (auditedMatchTopicFilter (some [0x61, 0x2F, 0x62]) 3 (some [0x2B, 0x2F, 0x2B]) 3).All
      (TopicAccess.InBounds 3 3) :=
  (@matchTopicFilter_inBounds [0x61, 0x2F, 0x62] [0x2B, 0x2F, 0x2B] (by decide) (by decide)).1

end FreeMqtt
