import FreeMqtt.Core.Api
import FreeMqtt.Core.ConnectSpec
import FreeMqtt.Serializer.Connect

/-!
# The two ways to a CONNECT

`MQTT_SerializeConnect` and the vectors that `MQTT_Connect` hands to the transport are the same
bytes (`connect_paths_agree`), as long as no string of nonzero length is `NULL`. They are a CONNECT
packet of MQTT 3.1.1 with the size that was computed for it, unless the message of the will is
missing or the password has no user name (`connect_wellFormed_iff`).
-/

namespace FreeMqtt

/-! ## The vectors -/

theorem flatten_addEncodedStringToVector {string : Pointer} {length : UInt16}
    (h : length ≠ 0 → string ≠ none) :
    (addEncodedStringToVector string length).flatten = encodeString string length := by
  unfold addEncodedStringToVector encodeString
  split
  · rw [List.flatten_cons, List.flatten_singleton]
  · rename_i hempty
    obtain rfl : length = 0 := by
      by_contra hlength
      exact hempty ⟨h hlength, hlength⟩
    rfl

theorem flatten_optionalString (string : Pointer) (length : UInt16) :
    (if string ≠ none then addEncodedStringToVector string length else []).flatten =
      if string ≠ none then encodeString string length else [] := by
  split
  · rename_i hset
    exact flatten_addEncodedStringToVector fun _ => hset
  · rfl

theorem flatten_connectVectors {info : ConnectInfo} {will : Option PublishInfo}
    (hclient : info.pClientIdentifier ≠ none) (hwill : WillSet will) (remainingLength : Nat) :
    (connectVectors info will remainingLength).flatten =
      mqttSerializeConnectFixedHeader info will remainingLength ++ connectPayload info will := by
  unfold connectVectors connectPayload willBytes
  simp only [List.flatten_append, List.flatten_singleton, flatten_optionalString,
    flatten_addEncodedStringToVector fun _ => hclient, List.append_assoc]
  cases will with
  | none => rfl
  | some will =>
    obtain ⟨htopic, hpayload⟩ := hwill will rfl
    simp only [List.flatten_append, flatten_addEncodedStringToVector fun _ => htopic,
      @flatten_addEncodedStringToVector _ (UInt16.ofNat will.payloadLength)
        (willPayload_set hpayload)]

/-- The two ways to serialize a CONNECT lead to the same bytes. -/
theorem connect_paths_agree (c : Config) {pConnectInfo : Option ConnectInfo}
    {will : Option PublishInfo} {remainingLength packetSize : Nat} (hwill : WillSet will)
    (hsizes : mqttGetConnectPacketSize pConnectInfo will =
      (.success, remainingLength, packetSize)) :
    ∃ info, pConnectInfo = some info ∧
      let vectors := connectVectors info will remainingLength
      (∀ buffer : List UInt8, buffer.length = packetSize →
        mqttSerializeConnect c.sizeBits pConnectInfo will remainingLength buffer =
          (.success, vectors.flatten)) ∧
      vectors.flatten.length = packetSize ∧ packetSize ≤ 327700 ∧ vectors.length ≤ 11 ∧
      (mqttSerializeConnectFixedHeader info will remainingLength).length ≤ 15 ∧
      ∀ s : Sys, sendConnectWithoutCopy c s info will remainingLength =
        let sent := sendMessageVector c s vectors
        (if sent.1 ≠ int32Cast vectors.flatten.length then .sendFailed else .success,
          sent.2.recordSent s .connect vectors.flatten sent.1) := by
  obtain ⟨info, rfl, hclient, -, hremaining, hpacket⟩ := mqttGetConnectPacketSize_success hsizes
  have hpayload := length_connectPayload_le info will
  have hmax : maxRemainingLength = 268435455 := rfl
  have hle : remainingLength ≤ maxRemainingLength := by omega
  have hencoded := remainingLengthEncodedSize_le remainingLength
  have hheader := length_connectFixedHeader info will hle
  have hflatten := flatten_connectVectors hclient hwill remainingLength
  have hlength : (connectVectors info will remainingLength).flatten.length = packetSize := by
    rw [hflatten, List.length_append, hheader]
    omega
  have htopic : (will.any fun w => w.pTopicName = none) = false := by
    cases will with
    | none => rfl
    | some w => simpa using (hwill w rfl).1
  refine ⟨info, rfl, ?_, hlength, by omega, (shortVectors_connect info will hle).1, by omega, ?_⟩
  · intro buffer hbuffer
    have hbits : packetSize < 2 ^ c.sizeBits :=
      Nat.lt_of_lt_of_le (by omega : packetSize < 2 ^ 32)
        (Nat.pow_le_pow_right (by decide) (by have := c.sizeBits_eq; omega))
    unfold mqttSerializeConnect
    dsimp only
    have hsize : remainingLength + remainingLengthEncodedSize remainingLength + 1 = packetSize := by
      omega
    rw [if_neg (by simp [htopic]), hsize, Nat.mod_eq_of_lt hbits,
      if_neg (by omega), serializeConnectPacket_eq info (fun _ => hclient) hwill, ← hflatten,
      writeFront, hlength, ← hbuffer, List.drop_length, List.append_nil]
  · intro s
    unfold sendConnectWithoutCopy
    rw [if_neg (by simp [htopic])]

/-- A client with a user name, and a will with an empty message. -/
def sampleConnect : ConnectInfo := ⟨true, 60, some [0x61], 1, some [0x75], 1, none, 0⟩

def sampleWill : PublishInfo := ⟨.qos1, true, false, some [0x77], 1, none, 0⟩

theorem connect_paths_agree_sample :
    (connectVectors sampleConnect (some sampleWill) 21).flatten.length = 23 ∧
      (mqttSerializeConnect 32 (some sampleConnect) (some sampleWill) 21 (List.replicate 23 0)).2 =
        (connectVectors sampleConnect (some sampleWill) 21).flatten := by
  have hwill : WillSet (some sampleWill) := by
    rintro _ ⟨⟩
    exact ⟨by decide, fun hne => absurd rfl hne⟩
  obtain ⟨info, hinfo, hserialize, hlength, -⟩ := @connect_paths_agree .default (some sampleConnect)
    (some sampleWill) 21 23 hwill (by decide)
  cases hinfo
  refine ⟨hlength, ?_⟩
  exact congrArg Prod.snd (hserialize (List.replicate 23 0) List.length_replicate)

/-! ## The packet that is sent -/

/-- A CONNECT packet as it should be. -/
structure ConnectWellFormed (info : ConnectInfo) (will : Option PublishInfo) (packetSize : Nat)
    (bytes : List UInt8) : Prop where
  size : bytes.length = packetSize
  remaining : ∃ n rest, readRemainingLength 4 bytes.tail = some (n, rest) ∧ rest.length = n
  fields : readConnect bytes = some (info.packet will)
  password : ∀ packet ∈ readConnect bytes, packet.password ≠ none → packet.userName ≠ none

/-- The message of a will is there, unless it is empty, and a password comes with a user name. -/
def ConnectComplete (info : ConnectInfo) (will : Option PublishInfo) : Prop :=
  (∀ w ∈ will, w.pPayload = none → w.payloadLength = 0) ∧
    (info.pPassword ≠ none → info.pUserName ≠ none)

instance (info : ConnectInfo) (will : Option PublishInfo) : Decidable (ConnectComplete info will) :=
  inferInstanceAs (Decidable (_ ∧ _))

theorem length_flatten_addEncodedString (string : Pointer) (length : UInt16) :
    (addEncodedStringToVector string length).flatten.length =
      if string = none then 2 else length.toNat + 2 := by
  cases string with
  | none => rfl
  | some source =>
    rw [flatten_addEncodedStringToVector (by simp), length_encodeString, if_neg (by simp)]

/-- A will without its message is sent without it. -/
theorem length_connectVectors_lt_of_missing {info : ConnectInfo} {will : PublishInfo}
    {remainingLength packetSize : Nat} (hnone : will.pPayload = none) (hlength : will.payloadLength ≠ 0)
    (hsizes : mqttGetConnectPacketSize (some info) (some will) =
      (.success, remainingLength, packetSize)) :
    (connectVectors info (some will) remainingLength).flatten.length < packetSize := by
  obtain ⟨_, ⟨⟩, hclient, hpayload, hremaining, hpacket⟩ := mqttGetConnectPacketSize_success hsizes
  have hle := length_connectPayload_le info (some will)
  have hmax : maxRemainingLength = 268435455 := rfl
  have hheader := length_connectFixedHeader info (some will)
    (by omega : remainingLength ≤ maxRemainingLength)
  have hsmall : (UInt16.ofNat will.payloadLength).toNat = will.payloadLength :=
    UInt16.toNat_ofNat_of_lt' (Nat.lt_succ_of_le (hpayload will rfl))
  have htopic : (addEncodedStringToVector will.pTopicName will.topicNameLength).flatten.length ≤
      will.topicNameLength.toNat + 2 := by
    rw [length_flatten_addEncodedString]
    split <;> omega
  have hbytes : (connectPayload info (some will)).length =
      info.clientIdentifierLength.toNat + 2 + (will.topicNameLength.toNat + 2 +
        (will.payloadLength + 2)) +
        (if info.pUserName ≠ none then encodeString info.pUserName info.userNameLength
          else []).length +
        (if info.pPassword ≠ none then encodeString info.pPassword info.passwordLength
          else []).length := by
    simp only [connectPayload, willBytes, List.length_append, length_encodeString, hsmall]
  simp only [connectVectors, List.flatten_append, List.flatten_singleton, List.length_append,
    flatten_optionalString, flatten_addEncodedStringToVector fun _ => hclient, length_encodeString,
    hheader, hnone, length_flatten_addEncodedString none, if_true]
  omega

theorem sendConnectWithoutCopy_log (c : Config) (s : Sys) {info : ConnectInfo}
    {will : Option PublishInfo} (htopic : ∀ w ∈ will, w.pTopicName ≠ none) {remainingLength : Nat}
    (h : remainingLength ≤ maxRemainingLength) :
    ∃ n stop, (sendConnectWithoutCopy c s info will remainingLength).2.log =
      s.log ++ [.sent .connect (connectVectors info will remainingLength).flatten n stop] := by
  obtain ⟨-, hshort⟩ := shortVectors_connect info will h
  obtain ⟨n, stop, hsent, -⟩ := (sendMessageVector_spec c s
    fun v hv => Nat.lt_of_le_of_lt (hshort v hv) (by decide)).recordSent .connect
  refine ⟨n, stop, ?_⟩
  have hany : (will.any fun w => w.pTopicName = none) = false := by
    cases will with
    | none => rfl
    | some w => simpa using htopic w rfl
  unfold sendConnectWithoutCopy
  rw [if_neg (by simp [hany])]
  exact hsent.log_eq

/-- The CONNECT packet that is sent is as it should be exactly when the client left nothing out. -/
theorem connect_wellFormed_iff (c : Config) (s : Sys) {info : ConnectInfo}
    {will : Option PublishInfo} {remainingLength packetSize : Nat}
    (hsizes : mqttGetConnectPacketSize (some info) will = (.success, remainingLength, packetSize))
    (hparameter : (sendConnectWithoutCopy c s info will remainingLength).1 ≠ .badParameter) :
    (∃ bytes n stop, (sendConnectWithoutCopy c s info will remainingLength).2.log =
        s.log ++ [.sent .connect bytes n stop] ∧ ConnectWellFormed info will packetSize bytes) ↔
      ConnectComplete info will := by
  obtain ⟨_, ⟨⟩, hclient, hpayload, hremaining, hpacket⟩ := mqttGetConnectPacketSize_success hsizes
  have hle := length_connectPayload_le info will
  have hmax : maxRemainingLength = 268435455 := rfl
  have hallowed : remainingLength ≤ maxRemainingLength := by omega
  have htopic : ∀ w ∈ will, w.pTopicName ≠ none := by
    rintro w rfl hnone
    exact hparameter (by simp [sendConnectWithoutCopy, hnone])
  obtain ⟨n, stop, hlog⟩ := sendConnectWithoutCopy_log c s htopic hallowed
  constructor
  · rintro ⟨bytes, m, stop', hlog', hwell⟩
    rw [hlog] at hlog'
    obtain ⟨-, rfl, -, -⟩ : PacketKind.connect = .connect ∧
        (connectVectors info will remainingLength).flatten = bytes ∧ n = m ∧ stop = stop' := by
      simpa using hlog'
    refine ⟨?_, fun hset hnone => ?_⟩
    · rintro w rfl hnone
      by_contra hlength
      have hshort := length_connectVectors_lt_of_missing hnone hlength hsizes
      have hsize := hwell.size
      omega
    · refine hwell.password _ hwell.fields ?_ ?_
      · simp [ConnectInfo.packet, hset]
      · simp [ConnectInfo.packet, hnone]
  · rintro ⟨hmessage, huser⟩
    have hwill : WillSet will := fun w hw =>
      ⟨htopic w hw, fun hlength hnone => hlength (hmessage w hw hnone)⟩
    refine ⟨_, n, stop, hlog, ?_⟩
    have hflatten := flatten_connectVectors hclient hwill remainingLength
    have hread := readConnect_serialized info hpayload hremaining
    have hheader := length_connectFixedHeader info will hallowed
    refine ⟨?_, ?_, ?_, ?_⟩
    · rw [hflatten, List.length_append, hheader]
      omega
    · rw [hflatten]
      exact readConnect_remaining hread
    · rw [hflatten, hread]
    · rw [hflatten, hread]
      rintro packet ⟨⟩ hpass hnone
      have hset : info.pPassword ≠ none := by
        intro hnull
        simp [ConnectInfo.packet, hnull] at hpass
      refine huser hset ?_
      simpa [ConnectInfo.packet] using hnone

/-- A will that announces a message of three bytes and has none. -/
def missingMessage : PublishInfo := { sampleWill with payloadLength := 3 }

/-- A client with a password and no user name. -/
def passwordAlone : ConnectInfo := ⟨true, 60, some [0x61], 1, none, 0, some [0x70], 1⟩

theorem connect_wellFormed_iff_sample :
    let s := Sys.initialized (.still []) 16 1
    ∃ bytes n stop, (sendConnectWithoutCopy .default s sampleConnect (some sampleWill) 21).2.log =
      s.log ++ [.sent .connect bytes n stop] ∧
        ConnectWellFormed sampleConnect (some sampleWill) 23 bytes :=
  (@connect_wellFormed_iff .default (Sys.initialized (.still []) 16 1) sampleConnect (some sampleWill)
    21 23 (by decide) (by decide +kernel)).2 (by decide)

/-- Three bytes are missing behind the will, and the packet with a password alone says so. -/
theorem not_connect_wellFormed :
    let s := Sys.initialized (.still []) 16 1
    (mqttGetConnectPacketSize (some sampleConnect) (some missingMessage) = (.success, 24, 26) ∧
      (sendConnectWithoutCopy .default s sampleConnect (some missingMessage) 24).1 = .success ∧
      ¬ ConnectWellFormed sampleConnect (some missingMessage) 26
        (sendConnectWithoutCopy .default s sampleConnect (some missingMessage) 24).2.wire) ∧
    mqttGetConnectPacketSize (some passwordAlone) none = (.success, 16, 18) ∧
      (sendConnectWithoutCopy .default s passwordAlone none 16).1 = .success ∧
      ¬ ConnectWellFormed passwordAlone none 18
        (sendConnectWithoutCopy .default s passwordAlone none 16).2.wire := by
  refine ⟨⟨by decide, by decide +kernel, fun h => ?_⟩, by decide, by decide +kernel, fun h => ?_⟩
  · have hsize := h.size
    revert hsize
    decide +kernel
  · have hpassword := h.password (passwordAlone.packet none) h.fields
    revert hpassword
    decide +kernel

end FreeMqtt
