import FreeMqtt.Serializer.Publish
import FreeMqtt.Lib.Audit

/-!
# The size of a PUBLISH

`calculatePublishPacketSize` with the arithmetic of a `size_t` of 32 or 64 bits. None of its
additions and subtractions wraps around (`calculatePublishPacketSize_exact`). It holds the packet
size, not the remaining length, against the limit for remaining lengths, and so refuses the last
five remaining lengths that MQTT allows (`publish_size_iff`).
-/

namespace FreeMqtt

open Audit

/-- `calculatePublishPacketSize` on `size_t` values of `sizeBits` bits, which reports the exact
results of its additions and subtractions. -/
def auditedCalculatePublishPacketSize (sizeBits : Nat) (pPublishInfo : PublishInfo) :
    Audit Int (Option (Nat × Nat)) := do
  let packetSize ← addWord id sizeBits pPublishInfo.topicNameLength.toNat 2
  let packetSize ←
    (if pPublishInfo.qos ≠ .qos0 then addWord id sizeBits packetSize 2 else pure packetSize)
  let payloadLimit ← subWord id sizeBits maxRemainingLength packetSize
  let payloadLimit ← subWord id sizeBits payloadLimit 1
  if pPublishInfo.payloadLength > payloadLimit then pure none
  else do
    let packetSize ← addWord id sizeBits packetSize pPublishInfo.payloadLength
    let payloadLimit ←
      subWord id sizeBits payloadLimit (remainingLengthEncodedSize packetSize)
    if pPublishInfo.payloadLength > payloadLimit then pure none
    else do
      let headerSize ← addWord id sizeBits 1 (remainingLengthEncodedSize packetSize)
      let total ← addWord id sizeBits packetSize headerSize
      pure (some (packetSize, total))

/-- `MQTT_GetPublishPacketSize`, audited. -/
def auditedGetPublishPacketSize (sizeBits : Nat) (pPublishInfo : PublishInfo) :
    Audit Int (Status × Nat × Nat) := do
  if pPublishInfo.pTopicName = none ∨ pPublishInfo.topicNameLength = 0 then
    pure (.badParameter, 0, 0)
  else do
    match ← auditedCalculatePublishPacketSize sizeBits pPublishInfo with
    | none => pure (.badParameter, 0, 0)
    | some sizes => pure (.success, sizes)

/-- The arithmetic is exact, and the sizes are those of `calculatePublishPacketSize`. -/
theorem calculatePublishPacketSize_exact {sizeBits : Nat} (hbits : 32 ≤ sizeBits)
    (info : PublishInfo) :
    (auditedCalculatePublishPacketSize sizeBits info).All (Fits sizeBits) ∧
      (auditedCalculatePublishPacketSize sizeBits info).value = calculatePublishPacketSize info := by
  have hpow : 2 ^ 32 ≤ 2 ^ sizeBits := Nat.pow_le_pow_right (by decide) hbits
  have htopic := info.topicNameLength.toNat_lt
  have hmax : maxRemainingLength = 268435455 := rfl
  obtain ⟨header, hheader⟩ : ∃ header, header = if info.qos ≠ .qos0 then
    info.topicNameLength.toNat + 2 + 2 else info.topicNameLength.toNat + 2 := ⟨_, rfl⟩
  have hshort : header ≤ 65539 := by
    rw [hheader]
    split <;> omega
  have hfirst : (addWord id sizeBits info.topicNameLength.toNat 2).value =
      info.topicNameLength.toNat + 2 := value_addWord (by omega)
  have hsecond : (if info.qos ≠ .qos0 then addWord id sizeBits (info.topicNameLength.toNat + 2) 2
      else pure (info.topicNameLength.toNat + 2)).value = header := by
    rw [value_ite, hheader, value_addWord (by omega), value_pure]
  have hlimit : (subWord id sizeBits maxRemainingLength header).value =
      maxRemainingLength - header := value_subWord (by omega) (by omega)
  have hlimit' : (subWord id sizeBits (maxRemainingLength - header) 1).value =
      maxRemainingLength - header - 1 := value_subWord (by omega) (by omega)
  unfold auditedCalculatePublishPacketSize calculatePublishPacketSize
  simp only [all_bind, value_bind, hfirst, hsecond, hlimit, hlimit', ← hheader]
  have hfront : (addWord id sizeBits info.topicNameLength.toNat 2).All (Fits sizeBits) ∧
      (if info.qos ≠ .qos0 then addWord id sizeBits (info.topicNameLength.toNat + 2) 2
        else pure (info.topicNameLength.toNat + 2)).All (Fits sizeBits) ∧
      (subWord id sizeBits maxRemainingLength header).All (Fits sizeBits) ∧
      (subWord id sizeBits (maxRemainingLength - header) 1).All (Fits sizeBits) := by
    refine ⟨all_addWord.2 (fits_add (by omega)), ?_, all_subWord.2 (fits_sub (by omega) (by omega)),
      all_subWord.2 (fits_sub (by omega) (by omega))⟩
    exact all_ite (fun _ => all_addWord.2 (fits_add (by omega))) fun _ => all_pure _
  obtain ⟨hadd, hid, hsub, hsub'⟩ := hfront
  by_cases hpayload : info.payloadLength > maxRemainingLength - header - 1
  · rw [if_pos hpayload, if_pos hpayload]
    exact ⟨⟨hadd, hid, hsub, hsub', all_pure _⟩, rfl⟩
  rw [if_neg hpayload, if_neg hpayload]
  have hencoded := remainingLengthEncodedSize_le (header + info.payloadLength)
  have hremaining : (addWord id sizeBits header info.payloadLength).value =
      header + info.payloadLength := value_addWord (by omega)
  have hpayloadFits : (addWord id sizeBits header info.payloadLength).All (Fits sizeBits) :=
    all_addWord.2 (fits_add (by omega))
  simp only [all_bind, value_bind, hremaining]
  generalize remainingLengthEncodedSize (header + info.payloadLength) = encoded at hencoded ⊢
  have hlast : (subWord id sizeBits (maxRemainingLength - header - 1) encoded).value =
      maxRemainingLength - header - 1 - encoded := value_subWord (by omega) (by omega)
  have hlastFits : (subWord id sizeBits (maxRemainingLength - header - 1) encoded).All
      (Fits sizeBits) := all_subWord.2 (fits_sub (by omega) (by omega))
  rw [hlast]
  by_cases hpayload' : info.payloadLength > maxRemainingLength - header - 1 - encoded
  · rw [if_pos hpayload', if_pos hpayload']
    exact ⟨⟨hadd, hid, hsub, hsub', hpayloadFits, hlastFits, all_pure _⟩, rfl⟩
  rw [if_neg hpayload', if_neg hpayload']
  have hone : (addWord id sizeBits 1 encoded).value = 1 + encoded := value_addWord (by omega)
  have htotal : (addWord id sizeBits (header + info.payloadLength) (1 + encoded)).value =
      header + info.payloadLength + (1 + encoded) := value_addWord (by omega)
  simp only [all_bind, value_bind, hone, htotal]
  refine ⟨⟨hadd, hid, hsub, hsub', hpayloadFits, hlastFits, all_addWord.2 (fits_add (by omega)),
    all_addWord.2 (fits_add (by omega)), all_pure _⟩, ?_⟩
  rw [value_pure, ← Nat.add_assoc]

/-- `MQTT_GetPublishPacketSize` is exact, and no step of it wraps around. -/
theorem getPublishPacketSize_exact {sizeBits : Nat} (hbits : 32 ≤ sizeBits) (info : PublishInfo) :
    (auditedGetPublishPacketSize sizeBits info).All (Fits sizeBits) ∧
      (auditedGetPublishPacketSize sizeBits info).value = mqttGetPublishPacketSize info := by
  obtain ⟨hfits, hvalue⟩ := calculatePublishPacketSize_exact hbits info
  unfold auditedGetPublishPacketSize mqttGetPublishPacketSize
  by_cases htopic : info.pTopicName = none ∨ info.topicNameLength = 0
  · rw [if_pos htopic, if_pos htopic]
    exact ⟨all_pure _, rfl⟩
  · rw [if_neg htopic, if_neg htopic]
    simp only [all_bind, value_bind, hvalue]
    cases calculatePublishPacketSize info with
    | none => exact ⟨⟨hfits, all_pure _⟩, rfl⟩
    | some sizes => exact ⟨⟨hfits, all_pure _⟩, rfl⟩

/-! ## Acceptance -/

/-- `MQTT_GetPublishPacketSize` accepts exactly the remaining lengths that MQTT allows, returns the
sizes of the packet, and does not wrap around. -/
def PublishSizeExact (sizeBits : Nat) (info : PublishInfo) : Prop :=
  let sized := auditedGetPublishPacketSize sizeBits info
  (sized.value.1 = .success ↔ publishRemainingLength info ≤ maxRemainingLength) ∧
    (sized.value.1 = .success → sized.value.2 = (publishRemainingLength info,
      publishRemainingLength info + 1 + remainingLengthEncodedSize (publishRemainingLength info))) ∧
    sized.All (Fits sizeBits)

theorem getPublishPacketSize_success_iff {info : PublishInfo} (htopic : info.pTopicName ≠ none)
    (hlength : info.topicNameLength ≠ 0) :
    (mqttGetPublishPacketSize info).1 = .success ↔ publishPacketSize info ≤ maxRemainingLength := by
  constructor
  · intro h
    exact (mqttGetPublishPacketSize_success_iff.1 (Prod.ext_iff.2 ⟨h, rfl⟩)).2.1
  · intro h
    rw [mqttGetPublishPacketSize_success_iff.2 ⟨⟨htopic, hlength⟩, h, rfl, rfl⟩]

/-- The publishes whose size is judged as MQTT asks: those whose remaining length is at least five
bytes below the limit, and those whose remaining length exceeds it. -/
theorem publish_size_iff {sizeBits : Nat} (hbits : sizeBits = 32 ∨ sizeBits = 64)
    {info : PublishInfo} (htopic : info.pTopicName ≠ none) (hlength : info.topicNameLength ≠ 0) :
    PublishSizeExact sizeBits info ↔
      publishRemainingLength info + 5 ≤ maxRemainingLength ∨
        maxRemainingLength < publishRemainingLength info := by
  obtain ⟨hfits, hvalue⟩ := getPublishPacketSize_exact (by omega : 32 ≤ sizeBits) info
  unfold PublishSizeExact
  dsimp only
  rw [hvalue, getPublishPacketSize_success_iff htopic hlength]
  have hmax : maxRemainingLength = 268435455 := rfl
  have hencoded := remainingLengthEncodedSize_le (publishRemainingLength info)
  have hsize : publishPacketSize info = 1 + remainingLengthEncodedSize (publishRemainingLength info) +
      publishRemainingLength info := rfl
  have hlast : 2097152 ≤ publishRemainingLength info →
      remainingLengthEncodedSize (publishRemainingLength info) = 4 := by
    intro hge
    rw [remainingLengthEncodedSize, if_neg (by omega), if_neg (by omega), if_neg (by omega)]
  constructor
  · rintro ⟨haccept, -, -⟩
    omega
  · intro hkind
    refine ⟨by omega, fun h => ?_, hfits⟩
    rw [mqttGetPublishPacketSize_success_iff.2 ⟨⟨htopic, hlength⟩, h, rfl, rfl⟩, hsize]
    exact Prod.ext_iff.2 ⟨rfl, by dsimp only; omega⟩

theorem publish_size_iff_sample : PublishSizeExact 32 ⟨.qos1, false, false, some [0x61], 1, none, 0⟩ :=
  (publish_size_iff (.inl rfl) (by decide) (by decide)).2 (.inl (by decide))

/-- A publish with a topic of one byte whose remaining length is the greatest one. -/
def greatestPublish : PublishInfo :=
  ⟨.qos0, false, false, some [0x61], 1, some (List.replicate 268435452 0), 268435452⟩

theorem not_publish_size :
    publishRemainingLength greatestPublish = 268435455 ∧
      (mqttGetPublishPacketSize greatestPublish).1 = .badParameter ∧
      ¬ PublishSizeExact 32 greatestPublish ∧ ¬ PublishSizeExact 64 greatestPublish := by
  have hlength : publishRemainingLength greatestPublish = 268435455 := rfl
  have hrefused : (mqttGetPublishPacketSize greatestPublish).1 = .badParameter := rfl
  have hnot : ∀ sizeBits, 32 ≤ sizeBits → ¬ PublishSizeExact sizeBits greatestPublish := by
    rintro sizeBits hbits ⟨haccept, -⟩
    rw [(getPublishPacketSize_exact hbits greatestPublish).2, hrefused, hlength] at haccept
    exact absurd (haccept.2 (Nat.le_refl _)) (by decide)
  exact ⟨hlength, hrefused, hnot 32 (by decide), hnot 64 (by decide)⟩

end FreeMqtt
