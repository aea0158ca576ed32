import FreeMqtt.Core.ConnectPacket
import FreeMqtt.Core.ServerPackets
import FreeMqtt.Core.TopicBatches
import FreeMqtt.Lib.Reading

/-!
# Client packets

The packets that a client may send under MQTT 3.1.1, and a reader for them: `readStream` takes the
bytes of a connection apart and says what each packet asks for. The serializers are read as they are
meant, one lemma for each of them (`readClientPacket_publish`, `readClientPacket_topics`, ...), and a
packet that is cut off is not read (`splitPacket_take`).
-/

namespace FreeMqtt

open Reading

/-! ## The reader -/

/-- A topic filter of a SUBSCRIBE or an UNSUBSCRIBE. In a SUBSCRIBE it comes with a QoS. -/
structure TopicRequest where
  filter : List UInt8
  qos : Option QoS
  deriving DecidableEq, Repr

/-- What a packet of a client says. -/
inductive ClientPacket
  | connect (packet : ConnectPacket)
  | publish (packetId : Option UInt16) (dup : Bool) (message : Message)
  | ack (packetType : PubAckType) (packetId : UInt16)
  | topics (type : SubscriptionType) (packetId : UInt16) (topics : List TopicRequest)
  | pingreq
  | disconnect
  deriving DecidableEq, Repr

def readPublish (type : UInt8) (body : List UInt8) : Option ClientPacket := do
  let qos ← qosOfBits ((type >>> 1) &&& 3)
  let topic ← readString body
  if topic.1 = [] then none
  let message (payload : List UInt8) : Message := ⟨qos, decide (type &&& 0x01 ≠ 0), topic.1, payload⟩
  let dup := decide (type &&& 0x08 ≠ 0)
  if qos = .qos0 then some (.publish none dup (message topic.2))
  else
    let packetId ← readUInt16 topic.2
    if packetId.1 = 0 then none else some (.publish (some packetId.1) dup (message packetId.2))

def readTopic (type : SubscriptionType) (bytes : List UInt8) : Option (TopicRequest × List UInt8) :=
  (readString bytes).bind fun filter =>
    if filter.1 = [] then none
    else
      match type, filter.2 with
      | .unsubscribe, rest => some (⟨filter.1, none⟩, rest)
      | .subscribe, [] => none
      | .subscribe, b :: rest => (qosOfBits b).map fun qos => (⟨filter.1, some qos⟩, rest)

/-- The topics, at least one, behind a packet id. -/
def readTopics (type : SubscriptionType) (body : List UInt8) : Option ClientPacket :=
  (readUInt16 body).bind fun packetId =>
    let topics := readAll (readTopic type) packetId.2.length packetId.2
    if packetId.1 = 0 ∨ topics.1 = [] ∨ topics.2 ≠ [] then none
    else some (.topics type packetId.1 topics.1)

def readAck (packetType : PubAckType) (body : List UInt8) : Option ClientPacket :=
  (readUInt16 body).bind fun packetId =>
    if packetId.1 = 0 ∨ packetId.2 ≠ [] then none else some (.ack packetType packetId.1)

/-- What is behind the Remaining Length of a packet other than CONNECT. -/
def readBody (type : UInt8) (body : List UInt8) : Option ClientPacket :=
  if type &&& 0xF0 = 0x30 then readPublish type body
  else if type = 0x40 then readAck .puback body
  else if type = 0x50 then readAck .pubrec body
  else if type = 0x62 then readAck .pubrel body
  else if type = 0x70 then readAck .pubcomp body
  else if type = 0x82 then readTopics .subscribe body
  else if type = 0xA2 then readTopics .unsubscribe body
  else if body ≠ [] then none
  else if type = 0xC0 then some .pingreq
  else if type = 0xE0 then some .disconnect
  else none

/-- What a packet says, if it is one that a client may send. -/
def readClientPacket : List UInt8 → Option ClientPacket
  | [] => none
  | type :: bytes =>
      if type = 0x10 then (readConnect (type :: bytes)).map .connect
      else
        (readRemainingLength 4 bytes).bind fun remaining =>
          if remaining.2.length = remaining.1 then readBody type remaining.2 else none

/-- The first packet of a stream, when all of it is there. -/
def splitPacket (stream : List UInt8) : Option (List UInt8 × List UInt8) :=
  (readRemainingLength 4 stream.tail).bind fun remaining =>
    let rest := remaining.2.drop remaining.1
    if remaining.1 ≤ remaining.2.length then
      some (stream.take (stream.length - rest.length), rest)
    else none

def readPacket (stream : List UInt8) : Option (Option ClientPacket × List UInt8) :=
  (splitPacket stream).map fun split => (readClientPacket split.1, split.2)

/-- What the packets of a stream say; `none` is a packet that no client may send. -/
def readStream (stream : List UInt8) : List (Option ClientPacket) :=
  (readAll readPacket stream.length stream).1

/-! ## Whole packets -/

/-- One packet, with a Remaining Length that counts what is behind it. -/
def WholePacket (bytes : List UInt8) : Prop :=
  ∃ type body, body.length ≤ maxRemainingLength ∧
    bytes = type :: (encodeRemainingLength body.length ++ body)

theorem readRemainingLength_length {digits n : Nat} {bytes rest : List UInt8}
    (h : readRemainingLength digits bytes = some (n, rest)) : rest.length < bytes.length := by
  induction digits generalizing bytes n with
  | zero => cases h
  | succ digits ih =>
    cases bytes with
    | nil => cases h
    | cons b bytes =>
      rw [readRemainingLength] at h
      split at h
      · cases h
        exact Nat.lt_succ_self _
      · obtain ⟨⟨m, rest'⟩, hrest, heq⟩ := Option.map_eq_some_iff.1 h
        cases heq
        exact Nat.lt_succ_of_lt (ih hrest)

/-- A Remaining Length that is there is read with anything behind it. -/
theorem readRemainingLength_append {digits n : Nat} {bytes rest : List UInt8}
    (h : readRemainingLength digits bytes = some (n, rest)) (more : List UInt8) :
    readRemainingLength digits (bytes ++ more) = some (n, rest ++ more) := by
  induction digits generalizing bytes n with
  | zero => cases h
  | succ digits ih =>
    cases bytes with
    | nil => cases h
    | cons b bytes =>
      rw [readRemainingLength] at h
      rw [List.cons_append, readRemainingLength]
      split at h
      · rename_i hlast
        cases h
        rw [if_pos hlast]
      · rename_i hmore
        obtain ⟨⟨m, rest'⟩, hrest, heq⟩ := Option.map_eq_some_iff.1 h
        cases heq
        rw [if_neg hmore, ih hrest]
        rfl

theorem splitPacket_append {stream packet rest : List UInt8}
    (h : splitPacket stream = some (packet, rest)) (more : List UInt8) :
    splitPacket (stream ++ more) = some (packet, rest ++ more) := by
  obtain ⟨⟨n, behind⟩, hremaining, hsplit⟩ := Option.bind_eq_some_iff.1 h
  obtain ⟨hle, heq⟩ := Option.ite_none_right_eq_some.1 hsplit
  cases stream with
  | nil => cases hremaining
  | cons type bytes =>
    rw [List.tail_cons] at hremaining
    have hlonger := readRemainingLength_append hremaining more
    have hrest : (behind ++ more).drop n = behind.drop n ++ more := List.drop_append_of_le_length hle
    unfold splitPacket
    rw [List.cons_append, List.tail_cons, hlonger, Option.bind_some]
    dsimp only
    rw [if_pos (by rw [List.length_append]; exact Nat.le_add_right_of_le hle), hrest]
    cases heq
    rw [← List.cons_append, List.length_append, List.length_append, Nat.add_sub_add_right,
      List.take_append_of_le_length (Nat.sub_le ..)]

theorem splitPacket_length {stream packet rest : List UInt8}
    (h : splitPacket stream = some (packet, rest)) : rest.length < stream.length := by
  obtain ⟨⟨n, behind⟩, hremaining, hsplit⟩ := Option.bind_eq_some_iff.1 h
  obtain ⟨-, heq⟩ := Option.ite_none_right_eq_some.1 hsplit
  cases heq
  have hlt := readRemainingLength_length hremaining
  rw [List.length_tail] at hlt
  rw [List.length_drop]
  dsimp only
  omega

/-- A whole packet is taken off any stream. -/
theorem splitPacket_whole {bytes : List UInt8} (h : WholePacket bytes) (rest : List UInt8) :
    splitPacket (bytes ++ rest) = some (bytes, rest) := by
  obtain ⟨type, body, hmax, rfl⟩ := h
  have hlt : body.length < 128 ^ 4 := Nat.lt_of_le_of_lt hmax (by decide)
  unfold splitPacket
  rw [List.cons_append, List.tail_cons, List.append_assoc, readRemainingLength_encode hlt,
    Option.bind_some]
  dsimp only
  rw [if_pos (by simp), List.drop_left, ← List.append_assoc, ← List.cons_append,
    List.length_append, Nat.add_sub_cancel, List.take_left]

/-- A packet that is cut off is not there. -/
theorem splitPacket_take {bytes : List UInt8} (h : WholePacket bytes) {n : Nat}
    (hn : n < bytes.length) : splitPacket (bytes.take n) = none := by
  by_contra hsome
  obtain ⟨⟨packet, rest⟩, hsplit⟩ := Option.ne_none_iff_exists'.1 hsome
  have hlonger := splitPacket_append hsplit (bytes.drop n)
  have hwhole := splitPacket_whole h []
  rw [List.append_nil] at hwhole
  rw [List.take_append_drop, hwhole] at hlonger
  have hnil : rest ++ bytes.drop n = [] := congrArg Prod.snd (Option.some.inj hlonger).symm
  have hlength := congrArg List.length (List.append_eq_nil_iff.1 hnil).2
  rw [List.length_drop, List.length_nil] at hlength
  omega

/-! ## Streams -/

theorem shortens_readPacket : Shortens readPacket := by
  intro stream rest item h
  obtain ⟨⟨packet, rest'⟩, hsplit, heq⟩ := Option.map_eq_some_iff.1 h
  cases heq
  exact splitPacket_length hsplit

theorem readsAs_readPacket {bytes : List UInt8} (h : WholePacket bytes) :
    ReadsAs readPacket bytes (readClientPacket bytes) := by
  intro rest
  rw [readPacket, splitPacket_whole h, Option.map_some]

/-- Whole packets in front of a stream are read in order, each for itself. -/
theorem readStream_flatten {packets : List (List UInt8)} (h : ∀ bytes ∈ packets, WholePacket bytes)
    (rest : List UInt8) :
    readStream (packets.flatten ++ rest) = packets.map readClientPacket ++ readStream rest := by
  have hread := readAll_flatMap shortens_readPacket (fun bytes hbytes =>
    readsAs_readPacket (h bytes hbytes)) rest
  rw [List.flatMap_id'] at hread
  unfold readStream
  rw [hread]

/-- A packet that is cut off is not read. -/
theorem readStream_take {bytes : List UInt8} (h : WholePacket bytes) {n : Nat}
    (hn : n < bytes.length) : readStream (bytes.take n) = [] := by
  have hnone : readPacket (bytes.take n) = none := by
    rw [readPacket, splitPacket_take h hn, Option.map_none]
  rw [readStream, readAll_none hnone]

/-! ## Reading what was serialized -/

theorem wholePacket_mk (type : UInt8) {body : List UInt8} (h : body.length ≤ maxRemainingLength) :
    WholePacket (type :: (encodeRemainingLength body.length ++ body)) := ⟨type, body, h, rfl⟩

theorem readClientPacket_body {type : UInt8} (htype : type ≠ 0x10) {body : List UInt8}
    (h : body.length ≤ maxRemainingLength) :
    readClientPacket (type :: (encodeRemainingLength body.length ++ body)) = readBody type body := by
  have hlt : body.length < 128 ^ 4 := Nat.lt_of_le_of_lt h (by decide)
  rw [readClientPacket, if_neg htype, readRemainingLength_encode hlt, Option.bind_some, if_pos rfl]

/-- What a PUBLISH is to say. -/
def PublishInfo.clientPacket (info : PublishInfo) (packetId : UInt16) : ClientPacket :=
  .publish (if info.qos = .qos0 then none else some packetId) info.dup info.message

theorem publishFlags_bits (info : PublishInfo) :
    qosOfBits ((publishFlags info >>> 1) &&& 3) = some info.qos ∧
      decide (publishFlags info &&& 0x01 ≠ 0) = info.retain ∧
      decide (publishFlags info &&& 0x08 ≠ 0) = info.dup := by
  unfold publishFlags
  cases info.qos <;> cases info.retain <;> cases info.dup <;> decide

theorem length_publishData (info : PublishInfo) (packetId : UInt16) :
    (publishData info packetId).length = publishRemainingLength info := by
  have htwo : (uint16Bytes info.topicNameLength).length = 2 := rfl
  unfold publishData publishRemainingLength
  simp only [List.length_append, length_publishId, length_readBytes, htwo, ne_eq, ite_not]
  omega

theorem readPublish_data {info : PublishInfo} (htopic : info.topicNameLength ≠ 0) {packetId : UInt16}
    (hid : info.qos ≠ .qos0 → packetId ≠ 0) :
    readPublish (publishFlags info) (publishData info packetId) = some (info.clientPacket packetId) := by
  obtain ⟨hqos, hretain, hdup⟩ := publishFlags_bits info
  have hdata : publishData info packetId = encodeString info.pTopicName info.topicNameLength ++
      (publishId info packetId ++ readBytes info.pPayload info.payloadLength) := by
    rw [publishData, encodeString, List.append_assoc]
  have hname : readBytes info.pTopicName info.topicNameLength.toNat ≠ [] := by
    intro hnil
    have hlength := congrArg List.length hnil
    rw [length_readBytes, List.length_nil] at hlength
    exact htopic (UInt16.toNat_inj.1 hlength)
  unfold readPublish
  rw [hqos, hretain, hdup, hdata]
  simp only [Option.bind_eq_bind, Option.bind_some, readString_append, if_neg hname]
  unfold publishId PublishInfo.clientPacket PublishInfo.message
  by_cases hzero : info.qos = .qos0
  · rw [if_pos hzero, if_pos hzero, if_neg (not_not_intro hzero), List.nil_append]
  · rw [if_neg hzero, if_neg hzero, if_pos hzero, readUInt16_append, Option.bind_some,
      if_neg (hid hzero)]

/-- A PUBLISH. -/
theorem readClientPacket_publish {info : PublishInfo}
    (hsize : (mqttGetPublishPacketSize info).1 = .success) {packetId : UInt16}
    (hid : info.qos ≠ .qos0 → packetId ≠ 0) :
    let bytes := (publishMessage info (mqttGetPublishPacketSize info).2.1 packetId).flatten
    WholePacket bytes ∧ readClientPacket bytes = some (info.clientPacket packetId) := by
  obtain ⟨htopic, hmax, hremaining, -⟩ := mqttGetPublishPacketSize_success_iff.1
    (Prod.ext hsize rfl : mqttGetPublishPacketSize info = (.success, _, _))
  have hle : (publishData info packetId).length ≤ maxRemainingLength := by
    rw [length_publishData]
    exact Nat.le_trans (Nat.le_add_left ..) hmax
  obtain ⟨hpublish, -⟩ := publishFlags_spec info
  have htype : publishFlags info ≠ 0x10 := by
    intro heq
    rw [heq] at hpublish
    revert hpublish
    decide
  dsimp only
  rw [publishMessage_flatten, hremaining, serializePublishCommon_eq, ← length_publishData info packetId]
  refine ⟨wholePacket_mk _ hle, ?_⟩
  have hkind : publishFlags info &&& 0xF0 = 0x30 := hpublish
  rw [readClientPacket_body htype hle, readBody, if_pos hkind, readPublish_data htopic.2 hid]

/-- An acknowledgement. -/
theorem readClientPacket_ack (packetType : PubAckType) {packetId : UInt16} (hid : packetId ≠ 0) :
    WholePacket (ackPacket packetType packetId) ∧
      readClientPacket (ackPacket packetType packetId) = some (.ack packetType packetId) := by
  have hle : (uint16Bytes packetId).length ≤ maxRemainingLength := by
    rw [length_uint16Bytes]
    decide
  have hbytes : ackPacket packetType packetId =
      packetType.toByte :: (encodeRemainingLength (uint16Bytes packetId).length ++
        uint16Bytes packetId) := by
    have hencoded : encodeRemainingLength 2 = [2] := by decide
    rw [length_uint16Bytes, hencoded]
    rfl
  have hread : readUInt16 (uint16Bytes packetId) = some (packetId, []) := by
    have happend := readUInt16_append packetId []
    rwa [List.append_nil] at happend
  have hack : ∀ type, readAck type (uint16Bytes packetId) = some (.ack type packetId) := by
    intro type
    rw [readAck, hread, Option.bind_some, if_neg (by simpa using hid)]
  rw [hbytes]
  refine ⟨wholePacket_mk _ hle, ?_⟩
  rw [readClientPacket_body (by cases packetType <;> decide) hle, ← hack packetType]
  cases packetType <;> rfl

theorem readClientPacket_pingreq : WholePacket mqttSerializePingreq ∧
    readClientPacket mqttSerializePingreq = some .pingreq :=
  ⟨⟨0xC0, [], Nat.zero_le _, by decide⟩, by decide⟩

theorem readClientPacket_disconnect : WholePacket mqttSerializeDisconnect ∧
    readClientPacket mqttSerializeDisconnect = some .disconnect :=
  ⟨⟨0xE0, [], Nat.zero_le _, by decide⟩, by decide⟩

/-! ## SUBSCRIBE and UNSUBSCRIBE -/

/-- What a topic of a request is to say. -/
def SubscribeInfo.topic (info : SubscribeInfo) (type : SubscriptionType) : TopicRequest where
  filter := readBytes info.pTopicFilter info.topicFilterLength.toNat
  qos := if type = .subscribe then some info.qos else none

theorem shortens_readTopic (type : SubscriptionType) : Shortens (readTopic type) := by
  have hstring : ∀ {bytes : List UInt8} {filter}, readString bytes = some filter →
      filter.2.length < bytes.length := by
    intro bytes filter h
    obtain ⟨⟨n, behind⟩, hlength, hfilter⟩ := Option.bind_eq_some_iff.1 h
    obtain ⟨-, heq⟩ := Option.ite_none_right_eq_some.1 hfilter
    cases heq
    match bytes, hlength with
    | a :: b :: bytes, hlength =>
      cases hlength
      simp only [List.length_drop, List.length_cons]
      omega
  intro bytes rest topic h
  obtain ⟨filter, hfilter, htopic⟩ := Option.bind_eq_some_iff.1 h
  have hlt := hstring hfilter
  obtain ⟨-, htopic⟩ := Option.ite_none_left_eq_some.1 htopic
  obtain ⟨name, behind⟩ := filter
  cases type with
  | unsubscribe =>
    cases htopic
    exact hlt
  | subscribe =>
    cases behind with
    | nil => cases htopic
    | cons b behind =>
      obtain ⟨qos, -, heq⟩ := Option.map_eq_some_iff.1 htopic
      cases heq
      exact Nat.lt_of_succ_lt hlt

theorem readsAs_topicBytes {info : SubscribeInfo} (h : info.HasFilter) (type : SubscriptionType) :
    ReadsAs (readTopic type) (topicBytes info type) (info.topic type) := by
  have hname : readBytes info.pTopicFilter info.topicFilterLength.toNat ≠ [] := by
    intro hnil
    have hlength := congrArg List.length hnil
    rw [length_readBytes, List.length_nil] at hlength
    exact h.2 (UInt16.toNat_inj.1 hlength)
  have hqos : qosOfBits info.qos.toByte = some info.qos := by
    cases info.qos <;> rfl
  intro rest
  unfold readTopic SubscribeInfo.topic
  cases type with
  | unsubscribe =>
    rw [topicBytes, readString_append, Option.bind_some, if_neg hname]
    rfl
  | subscribe =>
    rw [topicBytes, List.append_assoc, readString_append, Option.bind_some, if_neg hname]
    dsimp only [List.singleton_append]
    rw [hqos, if_pos rfl]
    rfl

theorem readTopics_topicBytes {list : List SubscribeInfo} (hlist : list ≠ [])
    (hfilters : ∀ info ∈ list, info.HasFilter) (type : SubscriptionType) {packetId : UInt16}
    (hid : packetId ≠ 0) :
    readTopics type (uint16Bytes packetId ++ list.flatMap (topicBytes · type)) =
      some (.topics type packetId (list.map (·.topic type))) := by
  have hread := readAll_flatMap (shortens_readTopic type)
    (fun info hinfo => readsAs_topicBytes (hfilters info hinfo) type) []
  have hnothing : readAll (readTopic type) ([] : List UInt8).length [] = ([], []) := rfl
  rw [hnothing, List.append_nil, List.append_nil] at hread
  unfold readTopics
  rw [readUInt16_append, Option.bind_some]
  simp only [hread]
  exact if_neg (by simpa using ⟨hid, hlist⟩)

/-- A SUBSCRIBE or an UNSUBSCRIBE. -/
theorem readClientPacket_topics {sizeBits : Nat} {list : List SubscribeInfo} {type : SubscriptionType}
    (hsum : topicRemainingLength list type < 2 ^ sizeBits)
    (hsize : (getTopicPacketSize sizeBits (some list) type).1 = .success) {packetId : UInt16}
    (hid : packetId ≠ 0) :
    let header := serializeTopicHeader (getTopicPacketSize sizeBits (some list) type).2.1 packetId type
    let bytes := header ++ (list.flatMap (topicVectors · type)).flatten
    WholePacket bytes ∧
      readClientPacket bytes = some (.topics type packetId (list.map (·.topic type))) := by
  obtain ⟨hlist, hfilters, hmax, hremaining, -⟩ := getTopicPacketSize_success hsum
    (Prod.ext hsize rfl : getTopicPacketSize sizeBits (some list) type = (.success, _, _))
  have hbody : (uint16Bytes packetId ++ list.flatMap (topicBytes · type)).length =
      topicRemainingLength list type := by
    rw [List.length_append, length_flatMap_topicBytes]
    rfl
  rw [hremaining] at hmax
  rw [← hbody] at hmax
  obtain ⟨first, hfirst, hheader⟩ : ∃ first : UInt8, (first ≠ 0x10 ∧ ∀ body, readBody first body =
      readTopics type body) ∧ ∀ n, serializeTopicHeader n packetId type =
        first :: (encodeRemainingLength n ++ uint16Bytes packetId) := by
    cases type with
    | subscribe => exact ⟨0x82, ⟨by decide, fun _ => rfl⟩, fun _ => rfl⟩
    | unsubscribe => exact ⟨0xA2, ⟨by decide, fun _ => rfl⟩, fun _ => rfl⟩
  dsimp only
  rw [flatten_flatMap_topicVectors hfilters, hremaining, hheader, List.cons_append, List.append_assoc,
    ← hbody]
  refine ⟨wholePacket_mk first hmax, ?_⟩
  rw [readClientPacket_body hfirst.1 hmax, hfirst.2, readTopics_topicBytes hlist hfilters type hid]

/-! ## CONNECT -/

/-- A CONNECT, with the message of its will. -/
theorem readClientPacket_connect {info : ConnectInfo} {will : Option PublishInfo} (hwill : WillSet will)
    (hsize : (mqttGetConnectPacketSize (some info) will).1 = .success) :
    let bytes := (connectVectors info will (mqttGetConnectPacketSize (some info) will).2.1).flatten
    WholePacket bytes ∧ readClientPacket bytes = some (.connect (info.packet will)) := by
  obtain ⟨_, ⟨⟩, hclient, hpayload, hremaining, -⟩ := mqttGetConnectPacketSize_success
    (Prod.ext hsize rfl : mqttGetConnectPacketSize (some info) will = (.success, _, _))
  have hread := readConnect_serialized info hpayload hremaining
  have hle := length_connectPayload_le info will
  dsimp only
  rw [flatten_connectVectors hclient hwill]
  generalize (mqttGetConnectPacketSize (some info) will).2.1 = remainingLength at hremaining hread ⊢
  obtain ⟨body, hbody, hbytes⟩ : ∃ body : List UInt8, body.length = remainingLength ∧
      mqttSerializeConnectFixedHeader info will remainingLength ++ connectPayload info will =
        0x10 :: (encodeRemainingLength remainingLength ++ body) := by
    refine ⟨encodeString (some [0x4D, 0x51, 0x54, 0x54]) 4 ++ (4 :: connectFlags info will ::
      (uint16Bytes info.keepAliveSeconds ++ connectPayload info will)), ?_, ?_⟩
    · have hprotocol : (encodeString (some [0x4D, 0x51, 0x54, 0x54]) 4).length = 6 := rfl
      simp only [List.length_append, List.length_cons, hprotocol, length_uint16Bytes]
      omega
    · simp only [mqttSerializeConnectFixedHeader, List.append_assoc, List.cons_append,
        List.nil_append]
      rfl
  rw [hbytes] at hread ⊢
  constructor
  · have hmax : maxRemainingLength = 268435455 := rfl
    rw [← hbody]
    exact wholePacket_mk 0x10 (by omega)
  · rw [readClientPacket, if_pos rfl, hread, Option.map_some]

end FreeMqtt
