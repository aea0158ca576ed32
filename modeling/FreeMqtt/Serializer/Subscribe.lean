import FreeMqtt.Serializer.Publish

/-!
# Serialized SUBSCRIBE and UNSUBSCRIBE packets

`MQTT_SerializeSubscribe` and `MQTT_SerializeUnsubscribe`, which write into a buffer of the
caller, and what the sizes are when no sum of `size_t` values wraps around.
-/

namespace FreeMqtt

/-! ## Writing into a buffer -/

/-- `validateSubscriptionSerializeParams`, with a buffer that is not `NULL`. -/
def validateSubscriptionSerializeParams (sizeBits : Nat)
    (pSubscriptionList : Option (List SubscribeInfo)) (packetId : UInt16) (remainingLength : Nat)
    (buffer : List UInt8) : Status :=
  match pSubscriptionList with
  | none => .badParameter
  | some list =>
      if list = [] then .badParameter
      else if packetId = 0 then .badParameter
      else if (1 + remainingLengthEncodedSize remainingLength + remainingLength) % 2 ^ sizeBits >
          buffer.length then
        .noMemory
      else .success

/-- `MQTT_SerializeSubscribe`: the status, and the buffer. -/
def mqttSerializeSubscribe (sizeBits : Nat) (pSubscriptionList : Option (List SubscribeInfo))
    (packetId : UInt16) (remainingLength : Nat) (buffer : List UInt8) : Status × List UInt8 :=
  let status := validateSubscriptionSerializeParams sizeBits pSubscriptionList packetId
    remainingLength buffer
  if status = .success then
    (status, writeFront buffer (mqttSerializeSubscribeHeader remainingLength packetId ++
      (pSubscriptionList.getD []).flatMap fun info =>
        encodeString info.pTopicFilter info.topicFilterLength ++ [info.qos.toByte]))
  else (status, buffer)

/-- `MQTT_SerializeUnsubscribe`: the status, and the buffer. -/
def mqttSerializeUnsubscribe (sizeBits : Nat) (pSubscriptionList : Option (List SubscribeInfo))
    (packetId : UInt16) (remainingLength : Nat) (buffer : List UInt8) : Status × List UInt8 :=
  let status := validateSubscriptionSerializeParams sizeBits pSubscriptionList packetId
    remainingLength buffer
  if status = .success then
    (status, writeFront buffer (mqttSerializeUnsubscribeHeader remainingLength packetId ++
      (pSubscriptionList.getD []).flatMap fun info =>
        encodeString info.pTopicFilter info.topicFilterLength))
  else (status, buffer)

/-! ## Both packets as one -/

/-- The size that the two packets are given. -/
def getTopicPacketSize (sizeBits : Nat) (pSubscriptionList : Option (List SubscribeInfo)) :
    SubscriptionType → Status × Nat × Nat
  | .subscribe => mqttGetSubscribePacketSize sizeBits pSubscriptionList
  | .unsubscribe => mqttGetUnsubscribePacketSize sizeBits pSubscriptionList

/-- The header of the two packets. -/
def serializeTopicHeader (remainingLength : Nat) (packetId : UInt16) : SubscriptionType → List UInt8
  | .subscribe => mqttSerializeSubscribeHeader remainingLength packetId
  | .unsubscribe => mqttSerializeUnsubscribeHeader remainingLength packetId

/-- The two serialized packets. -/
def serializeTopicPacket (sizeBits : Nat) (pSubscriptionList : Option (List SubscribeInfo))
    (packetId : UInt16) (remainingLength : Nat) (buffer : List UInt8) :
    SubscriptionType → Status × List UInt8
  | .subscribe => mqttSerializeSubscribe sizeBits pSubscriptionList packetId remainingLength buffer
  | .unsubscribe =>
      mqttSerializeUnsubscribe sizeBits pSubscriptionList packetId remainingLength buffer

/-- The bytes of a topic in a packet. -/
def topicBytes (info : SubscribeInfo) : SubscriptionType → List UInt8
  | .subscribe => encodeString info.pTopicFilter info.topicFilterLength ++ [info.qos.toByte]
  | .unsubscribe => encodeString info.pTopicFilter info.topicFilterLength

/-- The bytes of a packet. -/
def topicPacket (list : List SubscribeInfo) (packetId : UInt16) (remainingLength : Nat)
    (type : SubscriptionType) : List UInt8 :=
  serializeTopicHeader remainingLength packetId type ++ list.flatMap (topicBytes · type)

/-- The number of bytes of a topic. -/
def topicLength (info : SubscribeInfo) : SubscriptionType → Nat
  | .subscribe => info.topicFilterLength.toNat + 2 + 1
  | .unsubscribe => info.topicFilterLength.toNat + 2

/-- The remaining length, as a number that does not wrap around. -/
def topicRemainingLength (list : List SubscribeInfo) (type : SubscriptionType) : Nat :=
  2 + (list.map (topicLength · type)).sum

/-- A topic filter that is not empty. -/
def SubscribeInfo.HasFilter (info : SubscribeInfo) : Prop :=
  info.pTopicFilter ≠ none ∧ info.topicFilterLength ≠ 0

/-! ## Sizes -/

theorem length_topicBytes (info : SubscribeInfo) (type : SubscriptionType) :
    (topicBytes info type).length = topicLength info type := by
  cases type with
  | subscribe => simp [topicBytes, topicLength, length_encodeString]
  | unsubscribe => simp [topicBytes, topicLength, length_encodeString]

theorem length_flatMap_topicBytes (list : List SubscribeInfo) (type : SubscriptionType) :
    (list.flatMap (topicBytes · type)).length = (list.map (topicLength · type)).sum := by
  rw [List.length_flatMap]
  simp only [length_topicBytes]

/-- The loop adds up the topics modulo `2 ^ sizeBits`, and finds out whether all of them have a
filter. -/
theorem subscriptionSizes_mod {sizeBits : Nat} {type : SubscriptionType}
    {list : List SubscribeInfo} {packetSize : Nat} (valid : Bool) (h : packetSize < 2 ^ sizeBits) :
    (subscriptionSizes sizeBits type list packetSize valid).1 =
        (packetSize + (list.map (topicLength · type)).sum) % 2 ^ sizeBits ∧
      ((subscriptionSizes sizeBits type list packetSize valid).2 = true ↔
        valid = true ∧ ∀ info ∈ list, info.HasFilter) := by
  induction list generalizing packetSize valid with
  | nil => exact ⟨(Nat.mod_eq_of_lt h).symm, by simp [subscriptionSizes]⟩
  | cons info rest ih =>
    have hsize : (if type = .subscribe then
        ((packetSize + (info.topicFilterLength.toNat + 2)) % 2 ^ sizeBits + 1) % 2 ^ sizeBits
      else (packetSize + (info.topicFilterLength.toNat + 2)) % 2 ^ sizeBits) =
        (packetSize + topicLength info type) % 2 ^ sizeBits := by
      cases type with
      | subscribe => rw [if_pos rfl, Nat.mod_add_mod, topicLength, Nat.add_assoc packetSize]
      | unsubscribe => rw [if_neg (by decide), topicLength]
    obtain ⟨hsum, hvalid⟩ := ih (if info.topicFilterLength = 0 ∨ info.pTopicFilter = none then false
      else valid) (Nat.mod_lt (packetSize + topicLength info type) (Nat.two_pow_pos sizeBits))
    rw [subscriptionSizes, hsize]
    refine ⟨?_, hvalid.trans ?_⟩
    · rw [hsum, Nat.mod_add_mod, List.map_cons, List.sum_cons, Nat.add_assoc]
    · rw [List.forall_mem_cons, ← and_assoc]
      refine and_congr_left' ?_
      unfold SubscribeInfo.HasFilter
      split
      · rename_i hbad
        exact iff_of_false (by decide) fun hgood => hbad.elim hgood.2.2 hgood.2.1
      · rename_i hgood
        rw [not_or] at hgood
        exact (and_iff_left hgood.symm).symm

/-- The lists whose size is accepted, and the sizes that they are given. -/
theorem getTopicPacketSize_success_iff {sizeBits : Nat} (hbits : 2 ≤ sizeBits)
    {list : List SubscribeInfo} {type : SubscriptionType} {remainingLength packetSize : Nat} :
    getTopicPacketSize sizeBits (some list) type = (.success, remainingLength, packetSize) ↔
      list ≠ [] ∧ (∀ info ∈ list, info.HasFilter) ∧ remainingLength ≤ maxRemainingLength ∧
        remainingLength = topicRemainingLength list type % 2 ^ sizeBits ∧
        packetSize = 1 + remainingLengthEncodedSize remainingLength + remainingLength := by
  have hpow : 2 ^ 2 ≤ 2 ^ sizeBits := Nat.pow_le_pow_right (by decide) hbits
  cases list with
  | nil =>
    refine iff_of_false (fun h => ?_) fun h => h.1 rfl
    cases type <;> cases h
  | cons info rest =>
    have hcalculate : getTopicPacketSize sizeBits (some (info :: rest)) type =
        calculateSubscriptionPacketSize sizeBits (info :: rest) type := by
      cases type <;> rfl
    obtain ⟨hsum, hvalid⟩ :=
      @subscriptionSizes_mod sizeBits type (info :: rest) 2 true (by omega)
    change _ = topicRemainingLength _ type % _ at hsum
    rw [hcalculate, calculateSubscriptionPacketSize, hsum]
    generalize topicRemainingLength (info :: rest) type % 2 ^ sizeBits = sum
    by_cases hbad : sum > maxRemainingLength ∨
        (subscriptionSizes sizeBits type (info :: rest) 2 true).2 = false
    · rw [if_pos hbad]
      refine iff_of_false (fun h => by cases h) ?_
      rintro ⟨-, hfilters, hmax, rfl, -⟩
      rcases hbad with hbad | hbad
      · omega
      · rw [hvalid.2 ⟨rfl, hfilters⟩] at hbad
        cases hbad
    · rw [if_neg hbad]
      rw [not_or, Bool.not_eq_false, hvalid] at hbad
      simp only [Prod.mk.injEq, true_and]
      constructor
      · rintro ⟨rfl, rfl⟩
        exact ⟨by simp, hbad.2.2, by omega, rfl, by omega⟩
      · rintro ⟨-, -, -, rfl, rfl⟩
        exact ⟨rfl, by omega⟩

/-- What an accepted size says, when no sum wraps around. -/
theorem getTopicPacketSize_success {sizeBits : Nat} {list : List SubscribeInfo}
    {type : SubscriptionType} {remainingLength packetSize : Nat}
    (hsum : topicRemainingLength list type < 2 ^ sizeBits)
    (h : getTopicPacketSize sizeBits (some list) type = (.success, remainingLength, packetSize)) :
    list ≠ [] ∧ (∀ info ∈ list, info.HasFilter) ∧ remainingLength ≤ maxRemainingLength ∧
      remainingLength = topicRemainingLength list type ∧
      packetSize = 1 + remainingLengthEncodedSize remainingLength + remainingLength := by
  have hbits : 2 ≤ sizeBits := by
    by_contra hsmall
    have hpow : 2 ^ sizeBits ≤ 2 ^ 1 := Nat.pow_le_pow_right (by decide) (by omega)
    have htwo : 2 ≤ topicRemainingLength list type := Nat.le_add_right 2 _
    omega
  rw [getTopicPacketSize_success_iff hbits, Nat.mod_eq_of_lt hsum] at h
  exact h

theorem length_topicPacket_header (list : List SubscribeInfo) (packetId : UInt16)
    (remainingLength : Nat) (type : SubscriptionType) :
    (topicPacket list packetId remainingLength type).length =
      (serializeTopicHeader remainingLength packetId type).length +
        (list.map (topicLength · type)).sum := by
  rw [topicPacket, List.length_append, length_flatMap_topicBytes]

theorem length_topicPacket {list : List SubscribeInfo} {type : SubscriptionType}
    (h : topicRemainingLength list type ≤ maxRemainingLength) (packetId : UInt16) :
    (topicPacket list packetId (topicRemainingLength list type) type).length =
      1 + remainingLengthEncodedSize (topicRemainingLength list type) +
        topicRemainingLength list type := by
  have hencoded := length_encodeRemainingLength h
  have hheader : (serializeTopicHeader (topicRemainingLength list type) packetId type).length =
      1 + remainingLengthEncodedSize (topicRemainingLength list type) + 2 := by
    have htwo : (uint16Bytes packetId).length = 2 := rfl
    cases type <;> simp [serializeTopicHeader, mqttSerializeSubscribeHeader,
      mqttSerializeUnsubscribeHeader, hencoded, htwo] <;> omega
  rw [length_topicPacket_header, hheader]
  generalize remainingLengthEncodedSize (topicRemainingLength list type) = encoded
  unfold topicRemainingLength
  omega

/-- A packet of the size that was computed for it is written into the buffer. -/
theorem serializeTopicPacket_success {sizeBits : Nat} {list : List SubscribeInfo}
    {type : SubscriptionType} {packetId : UInt16} (hlist : list ≠ [])
    (hmax : topicRemainingLength list type ≤ maxRemainingLength) (hid : packetId ≠ 0)
    {buffer : List UInt8} (hbits : buffer.length < 2 ^ sizeBits)
    (hbuffer : 1 + remainingLengthEncodedSize (topicRemainingLength list type) +
      topicRemainingLength list type ≤ buffer.length) :
    serializeTopicPacket sizeBits (some list) packetId (topicRemainingLength list type) buffer type =
      (.success, writeFront buffer
        (topicPacket list packetId (topicRemainingLength list type) type)) := by
  have hvalid : validateSubscriptionSerializeParams sizeBits (some list) packetId
      (topicRemainingLength list type) buffer = .success := by
    unfold validateSubscriptionSerializeParams
    dsimp only
    rw [if_neg hlist, if_neg hid, Nat.mod_eq_of_lt (by omega), if_neg (by omega)]
  cases type with
  | subscribe =>
    show mqttSerializeSubscribe sizeBits _ _ _ _ = _
    unfold mqttSerializeSubscribe
    dsimp only
    rw [hvalid, if_pos rfl]
    rfl
  | unsubscribe =>
    show mqttSerializeUnsubscribe sizeBits _ _ _ _ = _
    unfold mqttSerializeUnsubscribe
    dsimp only
    rw [hvalid, if_pos rfl]
    rfl

end FreeMqtt
