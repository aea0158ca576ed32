import FreeMqtt.Serializer.Subscribe

/-!
# The size of a SUBSCRIBE or UNSUBSCRIBE

`calculateSubscriptionPacketSize` adds up the topics in a `size_t` and compares the sum with the
limit at the end. A sum that reaches `2 ^ sizeBits` has wrapped around by then, and is accepted
when what is left of it is small (`subscription_sizes_iff`). The serializer then writes past a
buffer of the size that was returned.
-/

namespace FreeMqtt

/-- What an accepted size promises: topics that all have a filter, a remaining length that MQTT
allows and that is returned with the size of the packet, and a packet that fits a buffer of that
size. -/
def SubscriptionSizesExact (sizeBits : Nat) (list : List SubscribeInfo) (type : SubscriptionType) :
    Prop :=
  ∀ remainingLength packetSize,
    getTopicPacketSize sizeBits (some list) type = (.success, remainingLength, packetSize) →
      (∀ info ∈ list, info.HasFilter) ∧
      topicRemainingLength list type ≤ maxRemainingLength ∧
      remainingLength = topicRemainingLength list type ∧
      packetSize = 1 + remainingLengthEncodedSize (topicRemainingLength list type) +
        topicRemainingLength list type ∧
      ∀ packetId buffer, buffer.length = packetSize →
        (serializeTopicPacket sizeBits (some list) packetId remainingLength buffer type).2.length =
          buffer.length

theorem length_writeFront {buffer bytes : List UInt8} :
    (writeFront buffer bytes).length = max bytes.length buffer.length := by
  rw [writeFront, List.length_append, List.length_drop]
  omega

/-- What the serializer leaves in the buffer: the packet, or what was there. -/
theorem serializeTopicPacket_buffer (sizeBits : Nat) (list : List SubscribeInfo)
    (packetId : UInt16) (remainingLength : Nat) (buffer : List UInt8) (type : SubscriptionType) :
    (serializeTopicPacket sizeBits (some list) packetId remainingLength buffer type).2 =
      if validateSubscriptionSerializeParams sizeBits (some list) packetId remainingLength buffer =
          .success then
        writeFront buffer (topicPacket list packetId remainingLength type)
      else buffer := by
  cases type with
  | subscribe =>
    show (mqttSerializeSubscribe sizeBits _ _ _ _).2 = _
    unfold mqttSerializeSubscribe
    dsimp only
    split <;> rfl
  | unsubscribe =>
    show (mqttSerializeUnsubscribe sizeBits _ _ _ _).2 = _
    unfold mqttSerializeUnsubscribe
    dsimp only
    split <;> rfl

theorem length_serializeTopicPacket {sizeBits : Nat} {list : List SubscribeInfo}
    {packetId : UInt16} {remainingLength : Nat} {buffer : List UInt8} {type : SubscriptionType}
    (hvalid : validateSubscriptionSerializeParams sizeBits (some list) packetId remainingLength
      buffer = .success) :
    (serializeTopicPacket sizeBits (some list) packetId remainingLength buffer type).2.length =
      max ((serializeTopicHeader remainingLength packetId type).length +
        (list.map (topicLength · type)).sum) buffer.length := by
  rw [serializeTopicPacket_buffer, if_pos hvalid, length_writeFront, length_topicPacket_header]

/-- The lists whose size is exact: those with a topic that has no filter, those whose sum does
not reach `2 ^ sizeBits`, and those whose sum is too large also after it wrapped around. -/
theorem subscription_sizes_iff {sizeBits : Nat} (hbits : sizeBits = 32 ∨ sizeBits = 64)
    (list : List SubscribeInfo) (type : SubscriptionType) :
    SubscriptionSizesExact sizeBits list type ↔
      (∃ info ∈ list, ¬ info.HasFilter) ∨ topicRemainingLength list type < 2 ^ sizeBits ∨
        maxRemainingLength < topicRemainingLength list type % 2 ^ sizeBits := by
  have hpow : 2 ^ 32 ≤ 2 ^ sizeBits := Nat.pow_le_pow_right (by decide) (by omega)
  have hmax : maxRemainingLength = 268435455 := rfl
  have hsuccess := @getTopicPacketSize_success_iff sizeBits (by omega) list type
  constructor
  · intro hexact
    by_contra hnot
    simp only [not_or, not_exists, not_and, not_not, not_lt] at hnot
    obtain ⟨hfilters, hwrapped, hsmall⟩ := hnot
    have hlist : list ≠ [] := by
      rintro rfl
      have htwo : topicRemainingLength [] type = 2 := rfl
      omega
    have hallowed := (hexact _ _ (hsuccess.2 ⟨hlist, hfilters, hsmall, rfl, rfl⟩)).2.1
    omega
  · intro hkind remainingLength packetSize h
    obtain ⟨-, hfilters, hsmall, hremaining, hsize⟩ := hsuccess.1 h
    have hsum : topicRemainingLength list type < 2 ^ sizeBits := by
      rcases hkind with ⟨info, hinfo, hempty⟩ | hsum | hlarge
      · exact absurd (hfilters info hinfo) hempty
      · exact hsum
      · omega
    rw [Nat.mod_eq_of_lt hsum] at hremaining
    subst hremaining
    refine ⟨hfilters, hsmall, rfl, hsize, fun packetId buffer hbuffer => ?_⟩
    rw [serializeTopicPacket_buffer]
    split
    · rw [length_writeFront, length_topicPacket hsmall, hbuffer, ← hsize, Nat.max_self]
    · rfl

theorem subscription_sizes_iff_sample :
    SubscriptionSizesExact 32 [⟨.qos1, some [0x61], 1⟩] .subscribe :=
  (subscription_sizes_iff (.inl rfl) _ _).2 (.inr (.inl (by decide)))

/-- A list of one topic, over and over. -/
theorem topicRemainingLength_replicate (count : Nat) (info : SubscribeInfo)
    (type : SubscriptionType) :
    topicRemainingLength (List.replicate count info) type = 2 + count * topicLength info type := by
  rw [topicRemainingLength, List.map_replicate, List.sum_replicate_nat]

/-- A topic of 65533 bytes. -/
def longTopic : SubscribeInfo := ⟨.qos0, some (List.replicate 65533 0x61), 65533⟩

theorem not_subscription_sizes :
    getTopicPacketSize 32 (some (List.replicate 65536 longTopic)) .subscribe = (.success, 2, 4) ∧
      (serializeTopicPacket 32 (some (List.replicate 65536 longTopic)) 1 2 [0, 0, 0, 0]
        .subscribe).2.length = 4 + 2 ^ 32 ∧
      ¬ SubscriptionSizesExact 32 (List.replicate 65536 longTopic) .subscribe := by
  have hsum : topicRemainingLength (List.replicate 65536 longTopic) .subscribe = 2 + 2 ^ 32 :=
    topicRemainingLength_replicate 65536 longTopic .subscribe
  have hnil : List.replicate 65536 longTopic ≠ [] := by
    rw [Ne, List.replicate_eq_nil_iff]
    decide
  have haccepted : getTopicPacketSize 32 (some (List.replicate 65536 longTopic)) .subscribe =
      (.success, 2, 4) := by
    rw [getTopicPacketSize_success_iff (by decide), hsum]
    refine ⟨hnil, fun info hinfo => ?_, by decide, rfl, rfl⟩
    rw [List.eq_of_mem_replicate hinfo]
    exact ⟨nofun, by decide⟩
  refine ⟨haccepted, ?_, fun hexact => ?_⟩
  · have htopics :
        ((List.replicate 65536 longTopic).map (topicLength · .subscribe)).sum = 2 ^ 32 := by
      rw [List.map_replicate, List.sum_replicate_nat]
      rfl
    have hvalid : validateSubscriptionSerializeParams 32 (some (List.replicate 65536 longTopic)) 1 2
        [0, 0, 0, 0] = .success := by
      rw [validateSubscriptionSerializeParams, if_neg hnil, if_neg (by decide), if_neg (by decide)]
    rw [length_serializeTopicPacket hvalid, htopics]
    rfl
  · have hallowed := (hexact _ _ haccepted).2.1
    rw [hsum] at hallowed
    exact absurd hallowed (by decide)

end FreeMqtt
