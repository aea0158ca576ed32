import FreeMqtt.Serializer.Decode

/-!
# Matching topics

`MQTT_MatchTopic` and the functions behind it. Two indices, of 16 bits in the source, walk over the
topic name and the topic filter.
-/

namespace FreeMqtt

/-! ## Wildcards -/

/-- `matchEndWildcardsSpecialCases`. An index that is compared with an unsigned difference is a sum
compared with the length. -/
def matchEndWildcardsSpecialCases (pTopicFilter : Pointer) (topicFilterLength filterIndex : Nat) :
    Bool :=
  let matchFound := decide (3 ≤ topicFilterLength ∧ filterIndex + 3 = topicFilterLength ∧
    byteAt pTopicFilter (filterIndex + 1) = 0x2F ∧ byteAt pTopicFilter (filterIndex + 2) = 0x23)
  if filterIndex + 2 = topicFilterLength ∧ byteAt pTopicFilter filterIndex = 0x2F then
    decide (byteAt pTopicFilter (filterIndex + 1) = 0x2B ∨
      byteAt pTopicFilter (filterIndex + 1) = 0x23)
  else matchFound

/-- The loop of `matchWildcards` to the end of the level: `nextLevelExistsInTopicName` and
`nameIndex`. -/
def endOfLevel (pTopicName : Pointer) (topicNameLength : Nat) :
    (fuel : Nat) → (nameIndex : Nat) → Bool × Nat
  | 0, nameIndex => (false, nameIndex)
  | fuel + 1, nameIndex =>
      if nameIndex < topicNameLength then
        if byteAt pTopicName nameIndex = 0x2F then (true, nameIndex)
        else endOfLevel pTopicName topicNameLength fuel ((nameIndex + 1) % 65536)
      else (false, nameIndex)

/-- What `matchWildcards` returns and writes. -/
structure WildcardMatch where
  shouldStopMatching : Bool
  nameIndex : Nat
  filterIndex : Nat
  isMatch : Bool
  deriving DecidableEq, Repr

/-- `matchWildcards`, entered with `*pMatch` not set. -/
def matchWildcards (pTopicName : Pointer) (topicNameLength : Nat) (pTopicFilter : Pointer)
    (topicFilterLength nameIndex filterIndex : Nat) : WildcardMatch :=
  let locationIsValidForWildcard :=
    decide (filterIndex = 0 ∨ byteAt pTopicFilter (filterIndex - 1) = 0x2F)
  if byteAt pTopicFilter filterIndex = 0x2B ∧ locationIsValidForWildcard then
    let level := endOfLevel pTopicName topicNameLength (topicNameLength + 1) nameIndex
    let nextLevelExistsinTopicFilter := decide (filterIndex + 1 < topicFilterLength ∧
      byteAt pTopicFilter (filterIndex + 1) = 0x2F)
    if level.1 ∧ nextLevelExistsinTopicFilter = false then ⟨true, level.2, filterIndex, false⟩
    else if level.1 then ⟨false, level.2, (filterIndex + 1) % 65536, false⟩
    else ⟨false, (level.2 + 65535) % 65536, filterIndex, false⟩
  else if byteAt pTopicFilter filterIndex = 0x23 ∧ filterIndex + 1 = topicFilterLength ∧
      locationIsValidForWildcard then
    ⟨true, nameIndex, filterIndex, true⟩
  else ⟨true, nameIndex, filterIndex, false⟩

/-! ## The walk -/

/-- The loop of `matchTopicFilter`: `matchFound` and the indices. -/
def matchTopicFilterLoop (pTopicName : Pointer) (topicNameLength : Nat) (pTopicFilter : Pointer)
    (topicFilterLength : Nat) : (fuel : Nat) → (nameIndex filterIndex : Nat) → Bool × Nat × Nat
  | 0, nameIndex, filterIndex => (false, nameIndex, filterIndex)
  | fuel + 1, nameIndex, filterIndex =>
      if nameIndex < topicNameLength ∧ filterIndex < topicFilterLength then
        let wildcards : WildcardMatch :=
          if byteAt pTopicName nameIndex = byteAt pTopicFilter filterIndex then
            ⟨false, nameIndex, filterIndex, decide (nameIndex + 1 = topicNameLength) &&
              matchEndWildcardsSpecialCases pTopicFilter topicFilterLength filterIndex⟩
          else
            matchWildcards pTopicName topicNameLength pTopicFilter topicFilterLength nameIndex
              filterIndex
        if wildcards.isMatch ∨ wildcards.shouldStopMatching then
          (wildcards.isMatch, wildcards.nameIndex, wildcards.filterIndex)
        else
          matchTopicFilterLoop pTopicName topicNameLength pTopicFilter topicFilterLength fuel
            ((wildcards.nameIndex + 1) % 65536) ((wildcards.filterIndex + 1) % 65536)
      else (false, nameIndex, filterIndex)

/-- `matchTopicFilter`. Every iteration moves `filterIndex` on, which bounds them. -/
def matchTopicFilter (pTopicName : Pointer) (topicNameLength : Nat) (pTopicFilter : Pointer)
    (topicFilterLength : Nat) : Bool :=
  let walked := matchTopicFilterLoop pTopicName topicNameLength pTopicFilter topicFilterLength
    (topicFilterLength + 1) 0 0
  walked.1 || decide (walked.2.1 = topicNameLength ∧ walked.2.2 = topicFilterLength)

/-- Whether `strncmp` of as many bytes finds no difference. -/
def strncmpEqual : List UInt8 → List UInt8 → Bool
  | a :: as, b :: bs => if a ≠ b then false else if a = 0 then true else strncmpEqual as bs
  | _, _ => true

/-- `MQTT_MatchTopic`: the status and `*pIsMatch` after the call, with `none` for `NULL`. -/
def mqttMatchTopic (pTopicName : Pointer) (topicNameLength : UInt16) (pTopicFilter : Pointer)
    (topicFilterLength : UInt16) (pIsMatch : Option Bool) : Status × Option Bool :=
  if pTopicName = none ∨ topicNameLength = 0 then (.badParameter, pIsMatch)
  else if pTopicFilter = none ∨ topicFilterLength = 0 then (.badParameter, pIsMatch)
  else
    match pIsMatch with
    | none => (.badParameter, none)
    | some _ =>
        let matchStatus := decide (topicNameLength = topicFilterLength) &&
          strncmpEqual (readBytes pTopicName topicNameLength.toNat)
            (readBytes pTopicFilter topicNameLength.toNat)
        let topicFilterStartsWithWildcard :=
          decide (byteAt pTopicFilter 0 = 0x2B ∨ byteAt pTopicFilter 0 = 0x23)
        let matchStatus :=
          if matchStatus = false then
            if ¬ (byteAt pTopicName 0 = 0x24 ∧ topicFilterStartsWithWildcard) then
              matchTopicFilter pTopicName topicNameLength.toNat pTopicFilter topicFilterLength.toNat
            else false
          else true
        (.success, some matchStatus)

end FreeMqtt
