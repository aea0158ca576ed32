import FreeMqtt.Serializer.RoundTrip

/-!
# Serialized CONNECT packets

`MQTT_SerializeConnect`, which writes into a buffer that the caller provides, and the size that
`MQTT_GetConnectPacketSize` computes for it. The layout of a CONNECT packet is a reader of its own
(`readConnect`), which the written packets are compared with.
-/

namespace FreeMqtt

/-! ## Writing into a buffer -/

/-- Bytes written at the index of a buffer. -/
def writeBytes (cursor : List UInt8 × Nat) (bytes : List UInt8) : List UInt8 × Nat :=
  (cursor.1.take cursor.2 ++ bytes ++ cursor.1.drop (cursor.2 + bytes.length),
    cursor.2 + bytes.length)

/-- `encodeString` at the index of a buffer. Without a source the bytes of the string are left as
they are. -/
def encodeStringInto (pSource : Pointer) (sourceLength : UInt16) (cursor : List UInt8 × Nat) :
    List UInt8 × Nat :=
  let lengthWritten := writeBytes cursor (uint16Bytes sourceLength)
  if pSource ≠ none then writeBytes lengthWritten (readBytes pSource sourceLength.toNat)
  else (lengthWritten.1, lengthWritten.2 + sourceLength.toNat)

/-- `serializeConnectPacket`: the buffer. -/
def serializeConnectPacket (pConnectInfo : ConnectInfo) (pWillInfo : Option PublishInfo)
    (remainingLength : Nat) (buffer : List UInt8) : List UInt8 :=
  let cursor := writeBytes (buffer, 0)
    (mqttSerializeConnectFixedHeader pConnectInfo pWillInfo remainingLength)
  let cursor := encodeStringInto pConnectInfo.pClientIdentifier
    pConnectInfo.clientIdentifierLength cursor
  let cursor := match pWillInfo with
    | none => cursor
    | some will =>
        encodeStringInto will.pPayload (UInt16.ofNat will.payloadLength)
          (encodeStringInto will.pTopicName will.topicNameLength cursor)
  let cursor :=
    if pConnectInfo.pUserName ≠ none then
      encodeStringInto pConnectInfo.pUserName pConnectInfo.userNameLength cursor
    else cursor
  let cursor :=
    if pConnectInfo.pPassword ≠ none then
      encodeStringInto pConnectInfo.pPassword pConnectInfo.passwordLength cursor
    else cursor
  cursor.1

/-- `MQTT_SerializeConnect`: the status, and the buffer. No pointer to a buffer is `NULL`. -/
def mqttSerializeConnect (sizeBits : Nat) (pConnectInfo : Option ConnectInfo)
    (pWillInfo : Option PublishInfo) (remainingLength : Nat) (buffer : List UInt8) :
    Status × List UInt8 :=
  match pConnectInfo with
  | none => (.badParameter, buffer)
  | some info =>
      if pWillInfo.any fun will => will.pTopicName = none then (.badParameter, buffer)
      else
        let connectPacketSize :=
          (remainingLength + remainingLengthEncodedSize remainingLength + 1) % 2 ^ sizeBits
        if connectPacketSize > buffer.length then (.noMemory, buffer)
        else (.success, serializeConnectPacket info pWillInfo remainingLength buffer)

/-! ## The bytes written -/

/-- The will of a CONNECT packet. -/
def willBytes : Option PublishInfo → List UInt8
  | none => []
  | some will =>
      encodeString will.pTopicName will.topicNameLength ++
        encodeString will.pPayload (UInt16.ofNat will.payloadLength)

/-- The fields of a CONNECT packet behind its fixed header. -/
def connectPayload (info : ConnectInfo) (will : Option PublishInfo) : List UInt8 :=
  encodeString info.pClientIdentifier info.clientIdentifierLength ++ willBytes will ++
    (if info.pUserName ≠ none then encodeString info.pUserName info.userNameLength else []) ++
    if info.pPassword ≠ none then encodeString info.pPassword info.passwordLength else []

/-- The strings of a will have pointers, but for an empty message. -/
def WillSet (will : Option PublishInfo) : Prop :=
  ∀ w ∈ will, w.pTopicName ≠ none ∧ (w.payloadLength ≠ 0 → w.pPayload ≠ none)

/-- A buffer with bytes written at its front. -/
def written (buffer bytes : List UInt8) : List UInt8 × Nat := (writeFront buffer bytes, bytes.length)

theorem writeBytes_written (buffer bytes more : List UInt8) :
    writeBytes (written buffer bytes) more = written buffer (bytes ++ more) := by
  unfold writeBytes written writeFront
  dsimp only
  rw [List.take_left, List.drop_append, List.drop_eq_nil_of_le (Nat.le_add_right _ _),
    Nat.add_sub_cancel_left, List.nil_append, List.drop_drop, List.length_append]

theorem encodeStringInto_written (buffer bytes : List UInt8) {pSource : Pointer}
    {sourceLength : UInt16} (h : sourceLength ≠ 0 → pSource ≠ none) :
    encodeStringInto pSource sourceLength (written buffer bytes) =
      written buffer (bytes ++ encodeString pSource sourceLength) := by
  unfold encodeStringInto encodeString
  dsimp only
  rw [writeBytes_written]
  split
  · rw [writeBytes_written, List.append_assoc]
  · rename_i hnone
    obtain rfl : sourceLength = 0 := by
      by_contra hlength
      exact hnone (h hlength)
    have hempty : readBytes pSource (UInt16.toNat 0) = [] := rfl
    rw [hempty, List.append_nil]
    rfl

theorem writeBytes_front (buffer bytes : List UInt8) :
    writeBytes (buffer, 0) bytes = written buffer bytes := by
  have hstart := writeBytes_written buffer [] bytes
  rwa [List.nil_append] at hstart

/-- A string that is written if it is there. -/
theorem encodeStringInto_optional (buffer bytes : List UInt8) (pSource : Pointer)
    (sourceLength : UInt16) :
    (if pSource ≠ none then encodeStringInto pSource sourceLength (written buffer bytes)
      else written buffer bytes) =
      written buffer (bytes ++ if pSource ≠ none then encodeString pSource sourceLength else []) := by
  split
  · rename_i hset
    exact encodeStringInto_written buffer bytes fun _ => hset
  · rw [List.append_nil]

theorem willPayload_set {will : PublishInfo} (h : will.payloadLength ≠ 0 → will.pPayload ≠ none) :
    UInt16.ofNat will.payloadLength ≠ 0 → will.pPayload ≠ none := by
  intro hne
  apply h
  intro hzero
  rw [hzero] at hne
  exact hne rfl

theorem serializeConnectPacket_eq (info : ConnectInfo) {will : Option PublishInfo}
    (hclient : info.clientIdentifierLength ≠ 0 → info.pClientIdentifier ≠ none) (hwill : WillSet will)
    (remainingLength : Nat) (buffer : List UInt8) :
    serializeConnectPacket info will remainingLength buffer = writeFront buffer
      (mqttSerializeConnectFixedHeader info will remainingLength ++ connectPayload info will) := by
  unfold serializeConnectPacket connectPayload willBytes
  dsimp only
  rw [writeBytes_front, encodeStringInto_written _ _ hclient]
  cases will with
  | none =>
    dsimp only
    rw [encodeStringInto_optional, encodeStringInto_optional]
    simp only [written, List.append_assoc, List.nil_append]
  | some will =>
    obtain ⟨htopic, hpayload⟩ := hwill will rfl
    dsimp only
    rw [encodeStringInto_written _ _ fun _ => htopic,
      encodeStringInto_written _ _ (willPayload_set hpayload),
      encodeStringInto_optional, encodeStringInto_optional]
    simp only [written, List.append_assoc]

/-! ## Sizes -/

theorem mqttGetConnectPacketSize_success {pConnectInfo : Option ConnectInfo}
    {will : Option PublishInfo} {remainingLength packetSize : Nat}
    (h : mqttGetConnectPacketSize pConnectInfo will = (.success, remainingLength, packetSize)) :
    ∃ info, pConnectInfo = some info ∧ info.pClientIdentifier ≠ none ∧
      (∀ w ∈ will, w.payloadLength ≤ 65535) ∧
      remainingLength = 10 + (connectPayload info will).length ∧
      packetSize = remainingLength + 1 + remainingLengthEncodedSize remainingLength := by
  cases pConnectInfo with
  | none => exact absurd (congrArg Prod.fst h) (by simp [mqttGetConnectPacketSize])
  | some info =>
    unfold mqttGetConnectPacketSize at h
    dsimp only at h
    split at h
    · exact absurd (congrArg Prod.fst h) (by simp)
    rename_i hclient
    split at h
    · exact absurd (congrArg Prod.fst h) (by simp)
    rename_i hwill
    have hpayload : ∀ w ∈ will, w.payloadLength ≤ 65535 := by
      rintro w rfl
      simpa using hwill
    obtain ⟨-, hsizes⟩ := Prod.mk.inj h
    obtain ⟨hremaining, hpacket⟩ := Prod.mk.inj hsizes
    refine ⟨info, rfl, fun hnone => hclient (.inr hnone), hpayload, ?_, ?_⟩
    · rw [← hremaining]
      unfold connectPayload willBytes
      cases will with
      | none =>
        simp only [List.length_append, apply_ite List.length, length_encodeString, List.length_nil]
        split_ifs <;> omega
      | some will =>
        have hsmall : (UInt16.ofNat will.payloadLength).toNat = will.payloadLength :=
          UInt16.toNat_ofNat_of_lt' (Nat.lt_succ_of_le (hpayload will rfl))
        simp only [List.length_append, apply_ite List.length, length_encodeString, List.length_nil,
          hsmall]
        split_ifs <;> omega
    · rw [← hremaining, ← hpacket]

/-- Five fields of at most 65535 bytes. -/
theorem length_connectPayload_le (info : ConnectInfo) (will : Option PublishInfo) :
    (connectPayload info will).length ≤ 327685 := by
  have hstring (pSource : Pointer) (sourceLength : UInt16) :
      (encodeString pSource sourceLength).length ≤ 65537 := by
    rw [length_encodeString]
    have hlt := sourceLength.toNat_lt
    omega
  have hclient := hstring info.pClientIdentifier info.clientIdentifierLength
  have huser := hstring info.pUserName info.userNameLength
  have hpass := hstring info.pPassword info.passwordLength
  unfold connectPayload willBytes
  cases will with
  | none =>
    simp only [List.length_append, apply_ite List.length, List.length_nil]
    split_ifs <;> omega
  | some will =>
    have htopic := hstring will.pTopicName will.topicNameLength
    have hpayload := hstring will.pPayload (UInt16.ofNat will.payloadLength)
    simp only [List.length_append, apply_ite List.length, List.length_nil]
    split_ifs <;> omega

theorem length_connectFixedHeader (info : ConnectInfo) (will : Option PublishInfo)
    {remainingLength : Nat} (h : remainingLength ≤ maxRemainingLength) :
    (mqttSerializeConnectFixedHeader info will remainingLength).length =
      1 + remainingLengthEncodedSize remainingLength + 10 := by
  have hprotocol : (encodeString (some [0x4D, 0x51, 0x54, 0x54]) 4).length = 6 := rfl
  have hkeepAlive : (uint16Bytes info.keepAliveSeconds).length = 2 := rfl
  simp only [mqttSerializeConnectFixedHeader, List.length_append, List.length_cons, List.length_nil,
    length_encodeRemainingLength h, hprotocol, hkeepAlive]

/-! ## The layout of a CONNECT -/

/-- The will of a CONNECT packet. -/
structure WillMessage where
  topic : List UInt8
  message : List UInt8
  qos : QoS
  retain : Bool
  deriving DecidableEq, Repr

/-- What a CONNECT packet says. -/
structure ConnectPacket where
  keepAlive : UInt16
  cleanSession : Bool
  clientIdentifier : List UInt8
  will : Option WillMessage
  userName : Option (List UInt8)
  password : Option (List UInt8)
  deriving DecidableEq, Repr

/-- A Remaining Length of at most `digits` bytes, and what is behind it. -/
def readRemainingLength : (digits : Nat) → List UInt8 → Option (Nat × List UInt8)
  | 0, _ => none
  | _ + 1, [] => none
  | digits + 1, b :: bytes =>
      if b &&& 0x80 = 0 then some (lengthDigit b, bytes)
      else (readRemainingLength digits bytes).map fun r => (lengthDigit b + 128 * r.1, r.2)

def readUInt16 : List UInt8 → Option (UInt16 × List UInt8)
  | a :: b :: bytes => some ((a.toUInt16 <<< 8) ||| b.toUInt16, bytes)
  | _ => none

/-- A string behind its length. -/
def readString (bytes : List UInt8) : Option (List UInt8 × List UInt8) :=
  (readUInt16 bytes).bind fun r =>
    if r.1.toNat ≤ r.2.length then some (r.2.take r.1.toNat, r.2.drop r.1.toNat) else none

def readIf (present : Bool) (bytes : List UInt8) : Option (Option (List UInt8) × List UInt8) :=
  if present then (readString bytes).map fun r => (some r.1, r.2) else some (none, bytes)

/-- The QoS in two bits. -/
def qosOfBits (bits : UInt8) : Option QoS :=
  if bits = 0 then some .qos0 else if bits = 1 then some .qos1
  else if bits = 2 then some .qos2 else none

/-- Topic and message of the will, if the flags announce one. -/
def readWill (flags : UInt8) (bytes : List UInt8) : Option (Option WillMessage × List UInt8) :=
  if flags &&& 0x04 = 0 then
    if flags &&& 0x38 = 0 then some (none, bytes) else none
  else do
    let qos ← qosOfBits ((flags >>> 3) &&& 3)
    let topic ← readString bytes
    let message ← readString topic.2
    some (some ⟨topic.1, message.1, qos, decide (flags &&& 0x20 ≠ 0)⟩, message.2)

/-- The fields of a CONNECT packet behind its flags. -/
def readFields (flags : UInt8) (bytes : List UInt8) : Option ConnectPacket := do
  let keepAlive ← readUInt16 bytes
  let clientIdentifier ← readString keepAlive.2
  let will ← readWill flags clientIdentifier.2
  let userName ← readIf (decide (flags &&& 0x80 ≠ 0)) will.2
  let password ← readIf (decide (flags &&& 0x40 ≠ 0)) userName.2
  if password.2 = [] then
    some ⟨keepAlive.1, decide (flags &&& 0x02 ≠ 0), clientIdentifier.1, will.1, userName.1, password.1⟩
  else none

/-- What the bytes say, if they are one CONNECT packet of MQTT 3.1.1. -/
def readConnect : List UInt8 → Option ConnectPacket
  | [] => none
  | type :: bytes => do
      let remaining ← readRemainingLength 4 bytes
      if type = 0x10 ∧ remaining.2.length = remaining.1 then
        let protocol ← readString remaining.2
        match protocol with
        | (name, level :: flags :: bytes) =>
            if name = [0x4D, 0x51, 0x54, 0x54] ∧ level = 4 ∧ flags &&& 0x01 = 0 then
              readFields flags bytes
            else none
        | _ => none
      else none

/-! ## Reading what was written -/

theorem readRemainingLength_encode {digits n : Nat} (h : n < 128 ^ (digits + 1))
    (bytes : List UInt8) :
    readRemainingLength (digits + 1) (encodeRemainingLength n ++ bytes) = some (n, bytes) := by
  induction digits generalizing n with
  | zero =>
    have hlt : n < 128 := by omega
    obtain ⟨hdigit, hbit⟩ := lengthDigit_ofNat hlt
    rw [encodeRemainingLength_eq, if_pos hlt]
    show readRemainingLength 1 (UInt8.ofNat n :: bytes) = _
    rw [readRemainingLength, if_pos hbit, hdigit]
  | succ digits ih =>
    rw [encodeRemainingLength_eq]
    split
    · rename_i hlt
      obtain ⟨hdigit, hbit⟩ := lengthDigit_ofNat hlt
      show readRemainingLength (digits + 2) (UInt8.ofNat n :: bytes) = _
      rw [readRemainingLength, if_pos hbit, hdigit]
    · obtain ⟨hdigit, hbit⟩ := lengthDigit_setBit (Nat.mod_lt n (by decide : 128 > 0))
      have hrest : n / 128 < 128 ^ (digits + 1) := by
        rw [Nat.div_lt_iff_lt_mul (by decide)]
        exact Nat.lt_of_lt_of_eq h (Nat.pow_succ ..)
      rw [List.cons_append, readRemainingLength, if_neg hbit, ih hrest, hdigit]
      show some (n % 128 + 128 * (n / 128), bytes) = _
      rw [Nat.mod_add_div]

theorem readUInt16_append (x : UInt16) (bytes : List UInt8) :
    readUInt16 (uint16Bytes x ++ bytes) = some (x, bytes) := by
  have hdecode := uint16Decode_uint16Bytes x
  show some (((x >>> 8).toUInt8.toUInt16 <<< 8) ||| (x &&& 0x00ff).toUInt8.toUInt16, bytes) = _
  exact congrArg (fun y => some (y, bytes)) hdecode

theorem readString_append (pSource : Pointer) (sourceLength : UInt16) (bytes : List UInt8) :
    readString (encodeString pSource sourceLength ++ bytes) =
      some (readBytes pSource sourceLength.toNat, bytes) := by
  have hlength := length_readBytes pSource sourceLength.toNat
  unfold readString encodeString
  rw [List.append_assoc, readUInt16_append]
  dsimp only [Option.bind_some]
  rw [if_pos (by rw [List.length_append, hlength]; omega), List.take_left' hlength,
    List.drop_left' hlength]

theorem readIf_append (pSource : Pointer) (sourceLength : UInt16) (bytes : List UInt8) :
    readIf pSource.isSome
        ((if pSource ≠ none then encodeString pSource sourceLength else []) ++ bytes) =
      some (if pSource ≠ none then some (readBytes pSource sourceLength.toNat) else none, bytes) := by
  cases pSource with
  | none => rfl
  | some source =>
    rw [if_pos (by simp), if_pos (by simp)]
    show (readString _).map _ = _
    rw [readString_append]
    rfl

def bitIf (set : Bool) (bit : UInt8) : UInt8 := if set then bit else 0

/-- The connect flags, from what they announce. -/
def flagBits (clean user pass : Bool) (will : Option (QoS × Bool)) : UInt8 :=
  let fields := bitIf clean 0x02 ||| bitIf user 0x80 ||| bitIf pass 0x40
  match will with
  | none => fields
  | some (qos, retain) =>
      let qosBits : UInt8 := qos.toByte <<< 3
      fields ||| (0x04 : UInt8) ||| qosBits ||| bitIf retain 0x20

theorem connectFlags_eq (info : ConnectInfo) (will : Option PublishInfo) :
    connectFlags info will = flagBits info.cleanSession info.pUserName.isSome
      info.pPassword.isSome (will.map fun w => (w.qos, w.retain)) := by
  unfold connectFlags
  simp only [Option.ne_none_iff_isSome]
  generalize info.cleanSession = clean, info.pUserName.isSome = user, info.pPassword.isSome = pass
  cases will with
  | none =>
    revert clean user pass
    decide
  | some will =>
    dsimp only [Option.map_some]
    generalize will.retain = retain
    cases will.qos <;> revert clean user pass retain <;> decide

/-- The flags are read as they were set. -/
theorem flagBits_fields (clean user pass : Bool) (will : Option (QoS × Bool)) :
    let flags := flagBits clean user pass will
    decide (flags &&& 0x80 ≠ 0) = user ∧ decide (flags &&& 0x40 ≠ 0) = pass ∧
      decide (flags &&& 0x02 ≠ 0) = clean ∧ flags &&& 0x01 = 0 := by
  rcases will with _ | ⟨qos, retain⟩
  · revert clean user pass
    decide
  · cases qos <;> revert clean user pass retain <;> decide

theorem flagBits_will (clean user pass : Bool) (will : Option (QoS × Bool)) :
    let flags := flagBits clean user pass will
    match will with
    | none => flags &&& 0x04 = 0 ∧ flags &&& 0x38 = 0
    | some (qos, retain) => flags &&& 0x04 ≠ 0 ∧ qosOfBits ((flags >>> 3) &&& 3) = some qos ∧
        decide (flags &&& 0x20 ≠ 0) = retain := by
  rcases will with _ | ⟨qos, retain⟩
  · revert clean user pass
    decide
  · cases qos <;> revert clean user pass retain <;> decide

/-- The will that a client announces. -/
def PublishInfo.willMessage (will : PublishInfo) : WillMessage :=
  ⟨readBytes will.pTopicName will.topicNameLength.toNat, readBytes will.pPayload will.payloadLength,
    will.qos, will.retain⟩

/-- What a CONNECT packet should say. -/
def ConnectInfo.packet (info : ConnectInfo) (will : Option PublishInfo) : ConnectPacket where
  keepAlive := info.keepAliveSeconds
  cleanSession := info.cleanSession
  clientIdentifier := readBytes info.pClientIdentifier info.clientIdentifierLength.toNat
  will := will.map PublishInfo.willMessage
  userName :=
    if info.pUserName ≠ none then some (readBytes info.pUserName info.userNameLength.toNat) else none
  password :=
    if info.pPassword ≠ none then some (readBytes info.pPassword info.passwordLength.toNat) else none

theorem readWill_append (info : ConnectInfo) {will : Option PublishInfo}
    (hpayload : ∀ w ∈ will, w.payloadLength ≤ 65535) (bytes : List UInt8) :
    readWill (connectFlags info will) (willBytes will ++ bytes) =
      some (will.map PublishInfo.willMessage, bytes) := by
  unfold readWill
  cases will with
  | none =>
    obtain ⟨hwill, hbits⟩ := flagBits_will info.cleanSession info.pUserName.isSome
      info.pPassword.isSome none
    rw [connectFlags_eq, Option.map_none, if_pos hwill, if_pos hbits]
    rfl
  | some will =>
    obtain ⟨hwill, hqos, hretain⟩ := flagBits_will info.cleanSession info.pUserName.isSome
      info.pPassword.isSome (some (will.qos, will.retain))
    have hsmall : (UInt16.ofNat will.payloadLength).toNat = will.payloadLength :=
      UInt16.toNat_ofNat_of_lt' (Nat.lt_succ_of_le (hpayload will rfl))
    rw [connectFlags_eq, Option.map_some, if_neg hwill, willBytes, List.append_assoc]
    simp only [hqos, hretain, readString_append, hsmall, Option.bind_eq_bind, Option.bind_some]
    rfl

theorem readFields_payload (info : ConnectInfo) {will : Option PublishInfo}
    (hpayload : ∀ w ∈ will, w.payloadLength ≤ 65535) :
    readFields (connectFlags info will)
      (uint16Bytes info.keepAliveSeconds ++ connectPayload info will) =
        some (info.packet will) := by
  obtain ⟨huser, hpass, hclean, -⟩ := flagBits_fields info.cleanSession info.pUserName.isSome
    info.pPassword.isSome (will.map fun w => (w.qos, w.retain))
  rw [← connectFlags_eq] at huser hpass hclean
  have hbytes : connectPayload info will =
      encodeString info.pClientIdentifier info.clientIdentifierLength ++ (willBytes will ++
        ((if info.pUserName ≠ none then encodeString info.pUserName info.userNameLength else []) ++
          ((if info.pPassword ≠ none then encodeString info.pPassword info.passwordLength else []) ++
            []))) := by
    unfold connectPayload
    rw [List.append_nil, List.append_assoc, List.append_assoc]
  unfold readFields
  rw [hbytes, huser, hpass, hclean]
  simp only [readUInt16_append, readString_append, readWill_append info hpayload, readIf_append,
    Option.bind_eq_bind, Option.bind_some, if_true]
  rfl

/-- A CONNECT packet says what the client asked for. -/
theorem readConnect_serialized (info : ConnectInfo) {will : Option PublishInfo}
    (hpayload : ∀ w ∈ will, w.payloadLength ≤ 65535) {remainingLength : Nat}
    (hremaining : remainingLength = 10 + (connectPayload info will).length) :
    readConnect (mqttSerializeConnectFixedHeader info will remainingLength ++
      connectPayload info will) = some (info.packet will) := by
  have hsmall := length_connectPayload_le info will
  have hlt : remainingLength < 128 ^ 4 := by omega
  have hflag : connectFlags info will &&& 0x01 = 0 := by
    rw [connectFlags_eq]
    exact (flagBits_fields ..).2.2.2
  have hbytes : mqttSerializeConnectFixedHeader info will remainingLength ++
      connectPayload info will = packetTypeConnect :: (encodeRemainingLength remainingLength ++
        (encodeString (some [0x4D, 0x51, 0x54, 0x54]) 4 ++ (4 :: connectFlags info will ::
          (uint16Bytes info.keepAliveSeconds ++ connectPayload info will)))) := by
    simp only [mqttSerializeConnectFixedHeader, List.append_assoc, List.cons_append,
      List.nil_append]
  have hprotocol : (encodeString (some [0x4D, 0x51, 0x54, 0x54]) 4).length = 6 := rfl
  have hkeepAlive : (uint16Bytes info.keepAliveSeconds).length = 2 := rfl
  have hname : readBytes (some [0x4D, 0x51, 0x54, 0x54]) (UInt16.toNat 4) = [0x4D, 0x51, 0x54, 0x54] :=
    rfl
  rw [hbytes, readConnect, readRemainingLength_encode hlt]
  have hbehind : (encodeString (some [0x4D, 0x51, 0x54, 0x54]) 4 ++ (4 :: connectFlags info will ::
      (uint16Bytes info.keepAliveSeconds ++ connectPayload info will))).length =
        remainingLength := by
    simp only [List.length_append, List.length_cons, hprotocol, hkeepAlive]
    omega
  dsimp only [Option.bind_eq_bind, Option.bind_some]
  rw [if_pos ⟨rfl, hbehind⟩, readString_append]
  dsimp only [Option.bind_some]
  rw [if_pos ⟨hname, rfl, hflag⟩, readFields_payload info hpayload]

/-- What was read had a Remaining Length that counts the bytes behind it. -/
theorem readConnect_remaining {bytes : List UInt8} {packet : ConnectPacket}
    (h : readConnect bytes = some packet) :
    ∃ n rest, readRemainingLength 4 bytes.tail = some (n, rest) ∧ rest.length = n := by
  cases bytes with
  | nil => exact absurd h (by simp [readConnect])
  | cons type bytes =>
    obtain ⟨⟨n, rest⟩, hremaining, hfields⟩ := Option.bind_eq_some_iff.1 h
    refine ⟨n, rest, hremaining, ?_⟩
    by_contra hlength
    rw [if_neg fun hand => hlength hand.2] at hfields
    exact absurd hfields (by simp)

end FreeMqtt
