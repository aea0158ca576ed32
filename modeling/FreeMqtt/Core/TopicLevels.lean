import FreeMqtt.Core.MatchTopic
import FreeMqtt.Lib.LevelPattern
import FreeMqtt.Serializer.RoundTrip

/-!
# Topics, level by level

The rules of MQTT 3.1.1 compare the levels of a topic name with those of a topic filter
(`TopicMatches`). `MQTT_MatchTopic` reports no other matches, whatever the filter (`topicMatch_sound`),
and misses those in which a `+` takes the last byte of the name and the filter goes on
(`topicMatch_complete_iff`).
-/

namespace FreeMqtt

open LevelPattern

/-! ## The rules -/

/-- `/`, `+` and `#`. -/
def topicSymbols : Symbols UInt8 where
  sep := 0x2F
  one := 0x2B
  rest := 0x23
  one_ne_sep := by decide
  rest_ne_sep := by decide
  rest_ne_one := by decide

/-- A topic name of a PUBLISH. -/
structure ValidTopicName (name : List UInt8) : Prop where
  ne_nil : name ≠ []
  length_le : name.length ≤ 65535
  plain : Plain topicSymbols name
  no_nul : 0 ∉ name

/-- A topic name matches a topic filter. A name that begins with `$` is not for the wildcards. -/
def TopicMatches (name filter : List UInt8) : Prop :=
  ¬ (name.head? = some 0x24 ∧ (filter.head? = some 0x2B ∨ filter.head? = some 0x23)) ∧
    MatchLevels topicSymbols (levels topicSymbols name) (levels topicSymbols filter)

instance (name filter : List UInt8) : Decidable (TopicMatches name filter) :=
  inferInstanceAs (Decidable (_ ∧ _))

/-- A `+` of the filter takes the last byte of the name, and the filter goes on behind it. -/
def TopicOverrun (name filter : List UInt8) : Prop :=
  Overrun topicSymbols (levels topicSymbols name) (levels topicSymbols filter)

instance (name filter : List UInt8) : Decidable (TopicOverrun name filter) :=
  inferInstanceAs (Decidable (Overrun ..))

/-! ## Bytes at an index -/

variable {pName pFilter : Pointer} {nameLength filterLength nameIndex filterIndex : Nat}

theorem readBytes_drop {base : Pointer} {length index : Nat} {a : UInt8} {more : List UInt8}
    (h : (readBytes base length).drop index = a :: more) :
    byteAt base index = a ∧ (readBytes base length).drop (index + 1) = more ∧
      index + 1 + more.length = length := by
  have hlength := congrArg List.length h
  simp only [List.length_drop, length_readBytes, List.length_cons] at hlength
  have hlt : index < (readBytes base length).length := by
    rw [length_readBytes]
    omega
  rw [List.drop_eq_getElem_cons hlt] at h
  obtain ⟨ha, hmore⟩ := List.cons.inj h
  refine ⟨?_, hmore, by omega⟩
  rw [← ha]
  simp [readBytes, byteAt]

theorem readBytes_drop_eq_nil {base : Pointer} {length index : Nat} :
    (readBytes base length).drop index = [] ↔ length ≤ index := by
  rw [List.drop_eq_nil_iff, length_readBytes]

/-! ## The functions -/

/-- The end of the filter that `matchEndWildcardsSpecialCases` accepts, behind the byte `a`. -/
theorem matchEnd_iff {a : UInt8} {more : List UInt8}
    (h : (readBytes pFilter filterLength).drop filterIndex = a :: more) :
    matchEndWildcardsSpecialCases pFilter filterLength filterIndex = true ↔
      more = [0x2F, 0x23] ∨ a = 0x2F ∧ (more = [0x2B] ∨ more = [0x23]) := by
  obtain ⟨ha, hmore, hlength⟩ := readBytes_drop h
  unfold matchEndWildcardsSpecialCases
  dsimp only
  rw [ha]
  rcases more with _ | ⟨b, more⟩
  · rw [if_neg (by simp at hlength; omega)]
    simp at hlength ⊢
    omega
  obtain ⟨hb, hbehind, -⟩ := readBytes_drop hmore
  rw [hb]
  rcases more with _ | ⟨c, more⟩
  · have htwo : filterIndex + 2 = filterLength := by simp at hlength; omega
    have hthree : filterIndex + 3 ≠ filterLength := by omega
    by_cases hslash : a = 0x2F
    · rw [if_pos ⟨htwo, hslash⟩]
      simp [hslash]
    · rw [if_neg fun hand => hslash hand.2]
      simp [hslash, hthree]
  obtain ⟨hc, -, -⟩ := readBytes_drop hbehind
  rw [hc, if_neg (by simp at hlength; omega)]
  rcases more with _ | ⟨d, more⟩
  · have hthree : filterIndex + 3 = filterLength := by simp at hlength; omega
    simp [hthree.symm]
  · have hthree : filterIndex + 3 ≠ filterLength := by simp at hlength; omega
    simp [hthree]

/-- Where `endOfLevel` stops: at the next separator or behind the name. -/
theorem endOfLevel_spec {fuel : Nat} (hfuel : nameLength < nameIndex + fuel)
    (hle : nameIndex ≤ nameLength) (hlength : nameLength < 65536) :
    (0x2F ∉ (readBytes pName nameLength).drop nameIndex ∧
        endOfLevel pName nameLength fuel nameIndex = (false, nameLength)) ∨
      ∃ level more, 0x2F ∉ level ∧
        (readBytes pName nameLength).drop nameIndex = level ++ 0x2F :: more ∧
        endOfLevel pName nameLength fuel nameIndex = (true, nameIndex + level.length) := by
  induction fuel generalizing nameIndex with
  | zero => exact absurd hfuel (by omega)
  | succ fuel ih =>
    unfold endOfLevel
    cases hdrop : (readBytes pName nameLength).drop nameIndex with
    | nil =>
      have hend := readBytes_drop_eq_nil.1 hdrop
      rw [if_neg (by omega), Nat.le_antisymm hle hend]
      exact .inl ⟨List.not_mem_nil, rfl⟩
    | cons a more =>
      obtain ⟨ha, hmore, hsum⟩ := readBytes_drop hdrop
      rw [if_pos (by omega), ha]
      by_cases hsep : a = 0x2F
      · rw [if_pos hsep, hsep]
        exact .inr ⟨[], more, List.not_mem_nil, rfl, rfl⟩
      · rw [if_neg hsep, Nat.mod_eq_of_lt (by omega)]
        rcases @ih (nameIndex + 1) (by omega) (by omega) with ⟨hnot, heq⟩ |
          ⟨level, behind, hlevel, hbehind, heq⟩
        · rw [hmore] at hnot
          exact .inl ⟨by simp [hnot, Ne.symm hsep], heq⟩
        · rw [hmore] at hbehind
          refine .inr ⟨a :: level, behind, by simp [hlevel, Ne.symm hsep], by rw [hbehind]; rfl, ?_⟩
          rw [heq, List.length_cons]
          congr 1
          omega

/-- Where a wildcard may stand. -/
def wildcardLocation (pFilter : Pointer) (filterIndex : Nat) : Prop :=
  filterIndex = 0 ∨ byteAt pFilter (filterIndex - 1) = 0x2F

instance : Decidable (wildcardLocation pFilter filterIndex) := inferInstanceAs (Decidable (_ ∨ _))

theorem wildcardLocation_succ :
    wildcardLocation pFilter (filterIndex + 1) ↔ byteAt pFilter filterIndex = 0x2F := by
  unfold wildcardLocation
  rw [Nat.add_sub_cancel]
  exact or_iff_right (Nat.succ_ne_zero _)

section Wildcards

variable {b : UInt8} {filter : List UInt8}

/-- `+` in the last level of the name. -/
theorem matchWildcards_level (hlength : nameLength < 65536) (hlt : nameIndex < nameLength)
    (hlevel : 0x2F ∉ (readBytes pName nameLength).drop nameIndex)
    (hb : byteAt pFilter filterIndex = 0x2B) (hstart : wildcardLocation pFilter filterIndex) :
    matchWildcards pName nameLength pFilter filterLength nameIndex filterIndex =
      ⟨false, nameLength - 1, filterIndex, false⟩ := by
  have hmod : (nameLength + 65535) % 65536 = nameLength - 1 := by omega
  unfold matchWildcards
  rw [if_pos ⟨hb, decide_eq_true hstart⟩]
  rcases @endOfLevel_spec pName nameLength nameIndex (nameLength + 1) (by omega)
    (Nat.le_of_lt hlt) hlength with ⟨-, heq⟩ | ⟨level, more, -, hdrop, -⟩
  · rw [heq]
    simp [hmod]
  · rw [hdrop] at hlevel
    exact absurd (List.mem_append_right _ List.mem_cons_self) hlevel

/-- `+` in a level of the name with another one behind it. -/
theorem matchWildcards_sep {level more : List UInt8} (hlength : nameLength < 65536)
    (hlt : nameIndex < nameLength) (hlevel : 0x2F ∉ level)
    (hdrop : (readBytes pName nameLength).drop nameIndex = level ++ 0x2F :: more)
    (hfilter : (readBytes pFilter filterLength).drop filterIndex = 0x2B :: filter)
    (hfilterLength : filterLength < 65536) (hstart : wildcardLocation pFilter filterIndex) :
    matchWildcards pName nameLength pFilter filterLength nameIndex filterIndex =
      if filter.head? = some 0x2F then ⟨false, nameIndex + level.length, filterIndex + 1, false⟩
      else ⟨true, nameIndex + level.length, filterIndex, false⟩ := by
  obtain ⟨hb, hnext, hsum⟩ := readBytes_drop hfilter
  unfold matchWildcards
  rw [if_pos ⟨hb, decide_eq_true hstart⟩]
  rcases @endOfLevel_spec pName nameLength nameIndex (nameLength + 1) (by omega)
    (Nat.le_of_lt hlt) hlength with ⟨hnot, -⟩ | ⟨level', more', hlevel', hdrop', heq⟩
  · rw [hdrop] at hnot
    exact absurd (List.mem_append_right _ List.mem_cons_self) hnot
  obtain rfl : level = level' := by
    have hsplit := congrArg (levels topicSymbols) (hdrop.symm.trans hdrop')
    have hfirst := (levels_append (w := topicSymbols) hlevel more).symm.trans
      (hsplit.trans (levels_append (w := topicSymbols) hlevel' more'))
    exact (List.cons.inj hfirst).1
  rw [heq]
  cases filter with
  | nil =>
    have hend : ¬ filterIndex + 1 < filterLength := by simp at hsum; omega
    simp [hend]
  | cons c filter =>
    obtain ⟨hc, -, hsum'⟩ := readBytes_drop hnext
    have hinside : filterIndex + 1 < filterLength := by omega
    have hmod : (filterIndex + 1) % 65536 = filterIndex + 1 := Nat.mod_eq_of_lt (by omega)
    by_cases hslash : c = 0x2F
    · simp [hc, hinside, hmod, hslash]
    · simp [hc, hslash]

theorem matchWildcards_rest
    (hfilter : (readBytes pFilter filterLength).drop filterIndex = 0x23 :: filter)
    (hstart : wildcardLocation pFilter filterIndex) :
    matchWildcards pName nameLength pFilter filterLength nameIndex filterIndex =
      ⟨true, nameIndex, filterIndex, decide (filter = [])⟩ := by
  obtain ⟨hb, -, hsum⟩ := readBytes_drop hfilter
  unfold matchWildcards
  rw [if_neg (by simp [hb]), hb]
  cases filter with
  | nil => rw [if_pos ⟨rfl, by simpa using hsum, decide_eq_true hstart⟩]; rfl
  | cons c filter =>
    rw [if_neg fun hand => ?_]
    · rfl
    · have hlast := hand.2.1
      simp at hsum
      omega

theorem matchWildcards_other
    (hother : ¬ (wildcardLocation pFilter filterIndex ∧
      (byteAt pFilter filterIndex = 0x2B ∨ byteAt pFilter filterIndex = 0x23))) :
    matchWildcards pName nameLength pFilter filterLength nameIndex filterIndex =
      ⟨true, nameIndex, filterIndex, false⟩ := by
  unfold matchWildcards
  rw [if_neg fun hand => hother ⟨of_decide_eq_true hand.2, .inl hand.1⟩,
    if_neg fun hand => hother ⟨of_decide_eq_true hand.2.2, .inr hand.1⟩]

end Wildcards

/-! ## The walk -/

/-- What `matchTopicFilter` makes of the outcome of its loop. -/
def walkFound (nameLength filterLength : Nat) (walked : Bool × Nat × Nat) : Bool :=
  walked.1 || decide (walked.2.1 = nameLength ∧ walked.2.2 = filterLength)

/-- The match that is left to find. -/
def FoundFrom (start : Prop) [Decidable start] (name filter : List UInt8) : Prop :=
  if start then Found topicSymbols name filter else FoundWithin topicSymbols name filter

theorem loop_end {fuel : Nat} (h : nameLength ≤ nameIndex) :
    matchTopicFilterLoop pName nameLength pFilter filterLength fuel nameIndex filterIndex =
      (false, nameIndex, filterIndex) := by
  cases fuel with
  | zero => rfl
  | succ fuel => rw [matchTopicFilterLoop, if_neg (by omega)]

theorem loop_same {fuel : Nat} (hname : nameLength < 65536) (hfilter : filterLength < 65536)
    (hinside : nameIndex < nameLength ∧ filterIndex < filterLength)
    (hsame : byteAt pName nameIndex = byteAt pFilter filterIndex) :
    matchTopicFilterLoop pName nameLength pFilter filterLength (fuel + 1) nameIndex filterIndex =
      if nameIndex + 1 = nameLength ∧
          matchEndWildcardsSpecialCases pFilter filterLength filterIndex = true then
        (true, nameIndex, filterIndex)
      else
        matchTopicFilterLoop pName nameLength pFilter filterLength fuel (nameIndex + 1)
          (filterIndex + 1) := by
  have hnameMod : (nameIndex + 1) % 65536 = nameIndex + 1 := Nat.mod_eq_of_lt (by omega)
  have hfilterMod : (filterIndex + 1) % 65536 = filterIndex + 1 := Nat.mod_eq_of_lt (by omega)
  rw [matchTopicFilterLoop, if_pos hinside, if_pos hsame]
  dsimp only
  rw [hnameMod, hfilterMod]
  by_cases hend : nameIndex + 1 = nameLength ∧
      matchEndWildcardsSpecialCases pFilter filterLength filterIndex = true
  · rw [if_pos hend, if_pos (by simpa using hend), decide_eq_true hend.1, hend.2]
    rfl
  · rw [if_neg hend, if_neg (by simpa using hend)]

theorem loop_different {fuel : Nat}
    (hinside : nameIndex < nameLength ∧ filterIndex < filterLength)
    (hdifferent : byteAt pName nameIndex ≠ byteAt pFilter filterIndex) :
    matchTopicFilterLoop pName nameLength pFilter filterLength (fuel + 1) nameIndex filterIndex =
      let wildcards :=
        matchWildcards pName nameLength pFilter filterLength nameIndex filterIndex
      if wildcards.isMatch ∨ wildcards.shouldStopMatching then
        (wildcards.isMatch, wildcards.nameIndex, wildcards.filterIndex)
      else
        matchTopicFilterLoop pName nameLength pFilter filterLength fuel
          ((wildcards.nameIndex + 1) % 65536) ((wildcards.filterIndex + 1) % 65536) := by
  rw [matchTopicFilterLoop, if_pos hinside, if_neg hdifferent]

/-- A name that is used up matches the filter that is used up. -/
theorem walkFound_end {fuel : Nat} :
    walkFound nameLength filterLength (matchTopicFilterLoop pName nameLength pFilter filterLength fuel
      nameLength filterIndex) = true ↔ filterIndex = filterLength := by
  rw [loop_end (Nat.le_refl _)]
  simp [walkFound]

theorem walkFound_stopped (h : nameIndex < nameLength) :
    walkFound nameLength filterLength (false, nameIndex, filterIndex) = false := by
  have hne : nameIndex ≠ nameLength := Nat.ne_of_lt h
  simp [walkFound, hne]

theorem foundFrom_congr {start start' : Prop} [Decidable start] [Decidable start']
    (h : start ↔ start') {name filter : List UInt8} :
    FoundFrom start name filter ↔ FoundFrom start' name filter := by
  unfold FoundFrom
  simp only [h]

/-- Within a level, or in front of a filter without a wildcard, nothing but the same letter goes on. -/
theorem foundFrom_iff {start : Prop} [Decidable start] {name filter : List UInt8}
    (hname : Plain topicSymbols name)
    (hfilter : start → ∀ more, filter ≠ 0x2B :: more ∧ filter ≠ 0x23 :: more) :
    FoundFrom start name filter ↔ FoundWithin topicSymbols name filter := by
  unfold FoundFrom
  split
  · rename_i hstart
    exact found_iff_foundWithin hname (fun more => (hfilter hstart more).1)
      fun more => (hfilter hstart more).2
  · rfl

/-- A letter that is the same, with more of the name behind it or with the end of the name. -/
theorem foundWithin_same {a : UInt8} {name filter : List UInt8} :
    FoundWithin topicSymbols (a :: name) (a :: filter) ↔ FoundFrom (a = 0x2F) name filter := by
  unfold FoundFrom
  split
  · rename_i hslash
    rw [hslash]
    exact foundWithin_sep name filter
  · rename_i hslash
    exact foundWithin_cons hslash name filter

theorem foundFrom_nil {a : UInt8} {filter : List UInt8} : FoundFrom (a = 0x2F) [] filter ↔
    filter = [] ∨ filter = [0x2F, 0x23] ∨ a = 0x2F ∧ (filter = [0x2B] ∨ filter = [0x23]) := by
  unfold FoundFrom
  split
  · rename_i hslash
    refine found_nil.trans ?_
    show _ ∨ filter = [0x2B] ∨ filter = [0x23] ∨ filter = [0x2F, 0x23] ↔ _
    tauto
  · rename_i hslash
    refine foundWithin_nil.trans ?_
    show _ ∨ filter = [0x2F, 0x23] ↔ _
    tauto

/-- The walk finds the match of what is left, from any two positions. -/
def WalkFinds (pName : Pointer) (nameLength : Nat) (pFilter : Pointer) (filterLength fuel : Nat) :
    Prop :=
  ∀ {nameIndex filterIndex : Nat} {a : UInt8} {name : List UInt8},
    filterLength < filterIndex + fuel →
    (readBytes pName nameLength).drop nameIndex = a :: name → Plain topicSymbols (a :: name) →
    (walkFound nameLength filterLength (matchTopicFilterLoop pName nameLength pFilter filterLength fuel
        nameIndex filterIndex) = true ↔
      FoundFrom (wildcardLocation pFilter filterIndex) (a :: name)
        ((readBytes pFilter filterLength).drop filterIndex))

section Steps

variable {fuel : Nat} {a b : UInt8} {name filter : List UInt8}

theorem walkFound_nil (hlt : nameIndex < nameLength) (hend : filterLength ≤ filterIndex)
    (hplain : Plain topicSymbols (a :: name)) :
    walkFound nameLength filterLength (matchTopicFilterLoop pName nameLength pFilter filterLength fuel
        nameIndex filterIndex) = true ↔
      FoundFrom (wildcardLocation pFilter filterIndex) (a :: name)
        ((readBytes pFilter filterLength).drop filterIndex) := by
  have hloop : matchTopicFilterLoop pName nameLength pFilter filterLength fuel nameIndex filterIndex =
      (false, nameIndex, filterIndex) := by
    cases fuel with
    | zero => rfl
    | succ fuel => rw [matchTopicFilterLoop, if_neg (by omega)]
  rw [hloop, walkFound_stopped hlt, readBytes_drop_eq_nil.2 hend,
    foundFrom_iff hplain fun _ more => ⟨by simp, by simp⟩]
  exact iff_of_false (by simp) (not_foundWithin_nil a name)

/-- A different letter, but for a `+`: the walk ends. -/
theorem walkFound_different (hdrop : (readBytes pName nameLength).drop nameIndex = a :: name)
    (hplain : Plain topicSymbols (a :: name))
    (hfilterDrop : (readBytes pFilter filterLength).drop filterIndex = b :: filter) (hab : a ≠ b)
    (hone : ¬ (wildcardLocation pFilter filterIndex ∧ b = 0x2B)) :
    walkFound nameLength filterLength (matchTopicFilterLoop pName nameLength pFilter filterLength
        (fuel + 1) nameIndex filterIndex) = true ↔
      FoundFrom (wildcardLocation pFilter filterIndex) (a :: name) (b :: filter) := by
  obtain ⟨ha, -, hsum⟩ := readBytes_drop hdrop
  obtain ⟨hb, -, hfilterSum⟩ := readBytes_drop hfilterDrop
  have hlt : nameIndex < nameLength := by omega
  rw [loop_different ⟨hlt, by omega⟩ (by rw [ha, hb]; exact hab)]
  dsimp only
  by_cases hrest : wildcardLocation pFilter filterIndex ∧ b = 0x23
  · obtain ⟨hstart, rfl⟩ := hrest
    rw [matchWildcards_rest hfilterDrop hstart, if_pos (by simp), FoundFrom, if_pos hstart]
    refine Iff.trans ?_ (found_rest (w := topicSymbols)).symm
    simp [walkFound, Nat.ne_of_lt hlt]
  · rw [matchWildcards_other (by rw [hb]; tauto), if_pos (by simp), walkFound_stopped hlt,
      foundFrom_iff hplain fun hstart more => ⟨fun h => hone ⟨hstart, (List.cons.inj h).1⟩,
        fun h => hrest ⟨hstart, (List.cons.inj h).1⟩⟩]
    exact iff_of_false (by simp) (not_foundWithin hab name filter)

variable (hname : nameLength < 65536) (hfilter : filterLength < 65536)
  (hfuel : filterLength < filterIndex + (fuel + 1))
  (hdrop : (readBytes pName nameLength).drop nameIndex = a :: name)
  (hplain : Plain topicSymbols (a :: name))

include hname hfilter hfuel hdrop hplain

/-- The same letter: the end of the name is looked at here. -/
theorem WalkFinds.same (ih : WalkFinds pName nameLength pFilter filterLength fuel)
    (hfilterDrop : (readBytes pFilter filterLength).drop filterIndex = a :: filter) :
    walkFound nameLength filterLength (matchTopicFilterLoop pName nameLength pFilter filterLength
        (fuel + 1) nameIndex filterIndex) = true ↔
      FoundFrom (wildcardLocation pFilter filterIndex) (a :: name) (a :: filter) := by
  obtain ⟨ha, hnext, hsum⟩ := readBytes_drop hdrop
  obtain ⟨hb, hfilterNext, hfilterSum⟩ := readBytes_drop hfilterDrop
  obtain ⟨⟨haOne, haRest⟩, hplainName⟩ := plain_cons.1 hplain
  rw [loop_same hname hfilter ⟨by omega, by omega⟩ (ha.trans hb.symm),
    foundFrom_iff hplain fun _ more =>
      ⟨fun h => haOne (List.cons.inj h).1, fun h => haRest (List.cons.inj h).1⟩, foundWithin_same]
  cases name with
  | nil =>
    have hlast : nameIndex + 1 = nameLength := by simpa using hsum
    have hmatch := matchEnd_iff hfilterDrop
    have hempty : filterIndex + 1 = filterLength ↔ filter = [] := by
      rw [← List.length_eq_zero_iff]
      omega
    rw [foundFrom_nil]
    split
    · rename_i hend
      exact iff_of_true rfl (.inr (hmatch.1 hend.2))
    · rename_i hend
      rw [hlast, walkFound_end]
      exact hempty.trans (or_iff_left fun h => hend ⟨hlast, hmatch.2 h⟩).symm
  | cons c name =>
    rw [List.length_cons] at hsum
    rw [if_neg fun hend => by omega]
    refine (ih (by omega) hnext hplainName).trans ?_
    rw [hfilterNext]
    exact foundFrom_congr (wildcardLocation_succ.trans (Eq.congr_left hb))

/-- A `+`: the walk goes on at the end of the level. -/
theorem WalkFinds.one (ih : WalkFinds pName nameLength pFilter filterLength fuel)
    (hfilterDrop : (readBytes pFilter filterLength).drop filterIndex = 0x2B :: filter)
    (hstart : wildcardLocation pFilter filterIndex) :
    walkFound nameLength filterLength (matchTopicFilterLoop pName nameLength pFilter filterLength
        (fuel + 1) nameIndex filterIndex) = true ↔
      FoundFrom (wildcardLocation pFilter filterIndex) (a :: name) (0x2B :: filter) := by
  obtain ⟨ha, -, hsum⟩ := readBytes_drop hdrop
  obtain ⟨hb, hfilterNext, hfilterSum⟩ := readBytes_drop hfilterDrop
  have hlt : nameIndex < nameLength := by omega
  have hne : a ≠ 0x2B := (plain_cons.1 hplain).1.1
  rw [loop_different ⟨hlt, by omega⟩ (by rw [ha, hb]; exact hne), FoundFrom, if_pos hstart]
  dsimp only
  rcases level_or_split (w := topicSymbols) (a :: name) with hlast | ⟨level, more, hlevel, hsplit⟩
  · have hmod : (nameLength - 1 + 1) % 65536 = nameLength := by omega
    have hempty : filterIndex + 1 = filterLength ↔ filter = [] := by
      rw [← List.length_eq_zero_iff]
      omega
    rw [matchWildcards_level hname hlt (by rw [hdrop]; exact hlast) hb hstart, if_neg (by simp)]
    dsimp only
    rw [hmod, Nat.mod_eq_of_lt (by omega), walkFound_end]
    exact hempty.trans (found_one_level hlast).symm
  have hdropSplit := hdrop.trans hsplit
  have hlength := congrArg List.length hdropSplit
  simp only [List.length_drop, length_readBytes, List.length_append, List.length_cons] at hlength
  rw [matchWildcards_sep hname hlt hlevel hdropSplit hfilterDrop hfilter hstart, hsplit]
  refine Iff.trans ?_ (found_one_sep hlevel).symm
  by_cases hslash : filter.head? = some 0x2F
  · obtain ⟨behind, rfl⟩ := List.head?_eq_some_iff.1 hslash
    obtain ⟨hc, hbehind, hbehindSum⟩ := readBytes_drop hfilterNext
    rw [if_pos hslash, if_neg (by simp)]
    dsimp only
    rw [Nat.mod_eq_of_lt (by omega), Nat.mod_eq_of_lt (by omega)]
    have hmore : (readBytes pName nameLength).drop (nameIndex + level.length + 1) = more := by
      rw [Nat.add_assoc, ← List.drop_drop, hdropSplit]
      exact List.drop_length_add_append 1
    have hexists : (∃ rest, topicSymbols.sep :: behind = topicSymbols.sep :: rest ∧
        Found topicSymbols more rest ∧ (more = [] → rest = [])) ↔
        Found topicSymbols more behind ∧ (more = [] → behind = []) := by
      constructor
      · rintro ⟨rest, heq, hrest⟩
        rw [(List.cons.inj heq).2]
        exact hrest
      · exact fun h => ⟨behind, rfl, h⟩
    refine Iff.trans ?_ hexists.symm
    cases more with
    | nil =>
      have hend : nameIndex + level.length + 1 = nameLength := by simp at hlength; omega
      have hempty : filterIndex + 1 + 1 = filterLength ↔ behind = [] := by
        rw [← List.length_eq_zero_iff]
        omega
      rw [hend, walkFound_end, hempty]
      exact ⟨fun h => ⟨found_nil.2 (.inl h), fun _ => h⟩, fun h => h.2 rfl⟩
    | cons c more =>
      have hplainMore : Plain topicSymbols (c :: more) := by
        rw [hsplit] at hplain
        exact ⟨fun h => hplain.1 (List.mem_append_right _ (List.mem_cons_of_mem _ h)),
          fun h => hplain.2 (List.mem_append_right _ (List.mem_cons_of_mem _ h))⟩
      refine (ih (by omega) hmore hplainMore).trans ?_
      rw [FoundFrom, if_pos (wildcardLocation_succ.2 hc), hbehind]
      simp
  · rw [if_neg hslash, if_pos (by simp)]
    dsimp only
    refine iff_of_false (by rw [walkFound_stopped (by omega)]; simp) ?_
    rintro ⟨behind, rfl, -⟩
    exact hslash rfl

end Steps

theorem walkFinds (pName pFilter : Pointer) (hname : nameLength < 65536)
    (hfilter : filterLength < 65536) (fuel : Nat) :
    WalkFinds pName nameLength pFilter filterLength fuel := by
  induction fuel with
  | zero =>
    intro nameIndex filterIndex a name hfuel hdrop hplain
    obtain ⟨-, -, hsum⟩ := readBytes_drop hdrop
    exact walkFound_nil (by omega) (by omega) hplain
  | succ fuel ih =>
    intro nameIndex filterIndex a name hfuel hdrop hplain
    obtain ⟨-, -, hsum⟩ := readBytes_drop hdrop
    cases hfilterDrop : (readBytes pFilter filterLength).drop filterIndex with
    | nil =>
      rw [← hfilterDrop]
      exact walkFound_nil (by omega) (readBytes_drop_eq_nil.1 hfilterDrop) hplain
    | cons b filter =>
      by_cases hab : a = b
      · subst hab
        exact ih.same hname hfilter hfuel hdrop hplain hfilterDrop
      by_cases hone : wildcardLocation pFilter filterIndex ∧ b = 0x2B
      · obtain ⟨hstart, rfl⟩ := hone
        exact ih.one hname hfilter hfuel hdrop hplain hfilterDrop hstart
      · exact walkFound_different hdrop hplain hfilterDrop hab hone

/-! ## `MQTT_MatchTopic` -/

theorem strncmpEqual_iff {name filter : List UInt8} (hnul : 0 ∉ name)
    (hlength : name.length = filter.length) : strncmpEqual name filter = true ↔ name = filter := by
  induction name generalizing filter with
  | nil =>
    rw [List.eq_nil_of_length_eq_zero hlength.symm]
    exact iff_of_true rfl rfl
  | cons a name ih =>
    cases filter with
    | nil => exact absurd hlength (by simp)
    | cons b filter =>
      rw [List.mem_cons, not_or] at hnul
      unfold strncmpEqual
      by_cases hab : a = b
      · rw [if_neg (not_not_intro hab), if_neg (Ne.symm hnul.1), ih hnul.2 (by simpa using hlength),
          hab]
        simp
      · rw [if_pos hab]
        exact iff_of_false (by simp) fun h => hab (List.cons.inj h).1

/-- A topic name matches itself. -/
theorem topicMatches_self {name : List UInt8} (h : ValidTopicName name) :
    TopicMatches name name ∧ ¬ TopicOverrun name name := by
  refine ⟨⟨?_, matchLevels_refl h.plain.levels⟩, not_overrun h.plain.levels⟩
  rintro ⟨hdollar, hwild⟩
  rw [hdollar] at hwild
  revert hwild
  decide

/-- What `MQTT_MatchTopic` reports: the matches without an overrun. -/
theorem mqttMatchTopic_eq {pTopicName pTopicFilter : Pointer}
    {topicNameLength topicFilterLength : UInt16} (hname : pTopicName ≠ none)
    (hvalid : ValidTopicName (readBytes pTopicName topicNameLength.toNat))
    (hfilter : pTopicFilter ≠ none) (hlength : topicFilterLength ≠ 0) (isMatch : Bool) :
    let name := readBytes pTopicName topicNameLength.toNat
    let filter := readBytes pTopicFilter topicFilterLength.toNat
    mqttMatchTopic pTopicName topicNameLength pTopicFilter topicFilterLength (some isMatch) =
      (.success, some (decide (TopicMatches name filter ∧ ¬ TopicOverrun name filter))) := by
  have hzero : topicNameLength ≠ 0 := by
    rintro rfl
    exact hvalid.ne_nil rfl
  have hnameSmall := topicNameLength.toNat_lt
  have hfilterSmall := topicFilterLength.toNat_lt
  obtain ⟨a, name, hnameEq⟩ := List.exists_cons_of_ne_nil hvalid.ne_nil
  obtain ⟨b, filter, hfilterEq⟩ : ∃ b filter,
      readBytes pTopicFilter topicFilterLength.toNat = b :: filter := by
    apply List.exists_cons_of_ne_nil
    intro hnil
    have hempty := congrArg List.length hnil
    rw [length_readBytes] at hempty
    exact hlength (UInt16.toNat_inj.1 hempty)
  obtain ⟨ha, -, -⟩ := @readBytes_drop _ _ 0 _ _ hnameEq
  obtain ⟨hb, -, -⟩ := @readBytes_drop _ _ 0 _ _ hfilterEq
  have hplain := hvalid.plain
  rw [hnameEq] at hplain
  have hwalk : matchTopicFilter pTopicName topicNameLength.toNat pTopicFilter
      topicFilterLength.toNat = true ↔ Found topicSymbols (a :: name) (b :: filter) := by
    rw [← hfilterEq]
    exact walkFinds pTopicName pTopicFilter hnameSmall hfilterSmall (topicFilterLength.toNat + 1)
      (by omega) hnameEq hplain
  dsimp only
  unfold mqttMatchTopic
  rw [if_neg (by simp [hname, hzero]), if_neg (by simp [hfilter, hlength])]
  refine congrArg (fun isMatch => (Status.success, some isMatch)) ?_
  by_cases hsame : (decide (topicNameLength = topicFilterLength) &&
      strncmpEqual (readBytes pTopicName topicNameLength.toNat)
        (readBytes pTopicFilter topicNameLength.toNat)) = true
  · rw [if_neg (by rw [hsame]; simp)]
    rw [Bool.and_eq_true, decide_eq_true_eq] at hsame
    obtain ⟨rfl, hequal⟩ := hsame
    rw [strncmpEqual_iff hvalid.no_nul (by simp)] at hequal
    rw [← hequal]
    exact (decide_eq_true (topicMatches_self hvalid)).symm
  rw [if_pos (Bool.eq_false_iff.2 hsame)]
  have hfirst : ¬ (byteAt pTopicName 0 = 0x24 ∧
      decide (byteAt pTopicFilter 0 = 0x2B ∨ byteAt pTopicFilter 0 = 0x23) = true) ↔
      ¬ ((readBytes pTopicName topicNameLength.toNat).head? = some 0x24 ∧
        ((readBytes pTopicFilter topicFilterLength.toNat).head? = some 0x2B ∨
          (readBytes pTopicFilter topicFilterLength.toNat).head? = some 0x23)) := by
    rw [hnameEq, hfilterEq, ha, hb]
    simp
  unfold TopicMatches TopicOverrun
  split
  · rename_i hdollar
    rw [Bool.eq_iff_iff, hwalk, ← hnameEq, ← hfilterEq, decide_eq_true_eq, Found,
      and_assoc, and_iff_right (hfirst.1 hdollar)]
  · rename_i hdollar
    rw [eq_comm, decide_eq_false_iff_not]
    exact fun h => hdollar (hfirst.2 h.1.1)

/-- A match by the rules is reported exactly when it has no overrun. -/
theorem topicMatch_complete_iff {pTopicName pTopicFilter : Pointer}
    {topicNameLength topicFilterLength : UInt16} (hname : pTopicName ≠ none)
    (hvalid : ValidTopicName (readBytes pTopicName topicNameLength.toNat))
    (hfilter : pTopicFilter ≠ none) (hlength : topicFilterLength ≠ 0) (isMatch : Bool)
    (hmatch : TopicMatches (readBytes pTopicName topicNameLength.toNat)
      (readBytes pTopicFilter topicFilterLength.toNat)) :
    mqttMatchTopic pTopicName topicNameLength pTopicFilter topicFilterLength (some isMatch) =
        (.success, some true) ↔
      ¬ TopicOverrun (readBytes pTopicName topicNameLength.toNat)
        (readBytes pTopicFilter topicFilterLength.toNat) := by
  rw [mqttMatchTopic_eq hname hvalid hfilter hlength]
  simp [hmatch]

/-- `a/b` and `+/b/#`. -/
theorem topicMatch_complete_iff_sample :
    mqttMatchTopic (some [0x61, 0x2F, 0x62]) 3 (some [0x2B, 0x2F, 0x62, 0x2F, 0x23]) 5 (some false) =
      (.success, some true) :=
  (@topicMatch_complete_iff (some [0x61, 0x2F, 0x62]) (some [0x2B, 0x2F, 0x62, 0x2F, 0x23]) 3 5
    (by decide) ⟨by decide, by decide, by decide, by decide⟩ (by decide) (by decide) false
    (by decide)).2 (by decide)

/-- `a` matches `+/#`, and `a/` matches `+/+`; neither is reported. -/
theorem not_topicMatch_complete :
    (TopicMatches [0x61] [0x2B, 0x2F, 0x23] ∧
      mqttMatchTopic (some [0x61]) 1 (some [0x2B, 0x2F, 0x23]) 3 (some false) =
        (.success, some false)) ∧
    TopicMatches [0x61, 0x2F] [0x2B, 0x2F, 0x2B] ∧
      mqttMatchTopic (some [0x61, 0x2F]) 2 (some [0x2B, 0x2F, 0x2B]) 3 (some false) =
        (.success, some false) := by
  decide +kernel

/-- A match that is reported is one by the rules, whatever the filter. -/
theorem topicMatch_sound {pTopicName pTopicFilter : Pointer}
    {topicNameLength topicFilterLength : UInt16} (hname : pTopicName ≠ none)
    (hvalid : ValidTopicName (readBytes pTopicName topicNameLength.toNat))
    (hfilter : pTopicFilter ≠ none) (hlength : topicFilterLength ≠ 0) (isMatch : Bool)
    (hreported : (mqttMatchTopic pTopicName topicNameLength pTopicFilter topicFilterLength
      (some isMatch)).2 = some true) :
    TopicMatches (readBytes pTopicName topicNameLength.toNat)
      (readBytes pTopicFilter topicFilterLength.toNat) := by
  rw [mqttMatchTopic_eq hname hvalid hfilter hlength] at hreported
  have hboth := of_decide_eq_true (Option.some.inj hreported)
  exact hboth.1

/-- `a/b` and `+/b`. -/
theorem topicMatch_sound_sample : TopicMatches [0x61, 0x2F, 0x62] [0x2B, 0x2F, 0x62] :=
  @topicMatch_sound (some [0x61, 0x2F, 0x62]) (some [0x2B, 0x2F, 0x62]) 3 3 (by decide)
    ⟨by decide, by decide, by decide, by decide⟩ (by decide) (by decide) false (by decide +kernel)

end FreeMqtt
