import FreeMqtt.Core.Steps
import FreeMqtt.Serializer.Subscribe
import Mathlib.Logic.Function.Basic

/-!
# SUBSCRIBE and UNSUBSCRIBE without a copy

`sendSubscribeWithoutCopy` and `sendUnsubscribeWithoutCopy` with the memory that they use: a vector
is a pointer and a length, the length fields of the topics are an array that is used again for
every batch, and three counters are kept along. At every call of `sendMessageVector` the vectors
read as `fillVectors` has them (`sendTopicPacket_eq`), and all batches together are the packet
that `MQTT_SerializeSubscribe` or `MQTT_SerializeUnsubscribe` writes (`topic_batches_agree`).
-/

namespace FreeMqtt

/-! ## Memory -/

/-- What `iov_base` points to: the header, an element of `serializedTopicFieldLength`, or bytes
that the function does not change, a topic filter or the lowest byte of a QoS. -/
inductive VectorBase
  | header
  | topicFieldLength (index : Nat)
  | bytes (base : Pointer)
  deriving DecidableEq

/-- `TransportOutVector_t`. -/
structure OutVector where
  iovBase : VectorBase
  iovLen : Nat

/-- The local variables of the two functions. `pIoVector` ends at `pIterator`. -/
structure TopicLocals where
  pIoVector : List OutVector
  serializedTopicFieldLength : Nat → List UInt8
  totalPacketLength : Nat
  ioVectorLength : Nat
  topicFieldLengthIndex : Nat

/-- The bytes that a vector refers to. -/
def OutVector.read (header : List UInt8) (serializedTopicFieldLength : Nat → List UInt8)
    (vector : OutVector) : List UInt8 :=
  match vector.iovBase with
  | .header => readBytes (some header) vector.iovLen
  | .topicFieldLength index => readBytes (some (serializedTopicFieldLength index)) vector.iovLen
  | .bytes base => readBytes base vector.iovLen

/-- The vectors that `sendMessageVector` reads, from the memory at the time of the call. -/
def TopicLocals.vectors (l : TopicLocals) (header : List UInt8) : List (List UInt8) :=
  (l.pIoVector.take l.ioVectorLength).map (OutVector.read header l.serializedTopicFieldLength)

/-- The elements of `serializedTopicFieldLength` that the vectors refer to, in the order in which
they were written. -/
def TopicLocals.lengthFields (l : TopicLocals) : List Nat :=
  l.pIoVector.filterMap fun vector =>
    match vector.iovBase with
    | .topicFieldLength index => some index
    | _ => none

/-! ## The two loops -/

/-- `addEncodedStringToVector`: the variables, and the number of vectors added. -/
def TopicLocals.addEncodedString (l : TopicLocals) (string : Pointer) (length : UInt16) :
    TopicLocals × Nat :=
  let l := { l with
    serializedTopicFieldLength := Function.update l.serializedTopicFieldLength
      l.topicFieldLengthIndex (uint16Bytes length)
    pIoVector := l.pIoVector ++ [OutVector.mk (.topicFieldLength l.topicFieldLengthIndex) 2] }
  if string ≠ none ∧ length ≠ 0 then
    ({ l with
      pIoVector := l.pIoVector ++ [OutVector.mk (.bytes string) length.toNat]
      totalPacketLength := l.totalPacketLength + (2 + length.toNat) }, 2)
  else ({ l with totalPacketLength := l.totalPacketLength + 2 }, 1)

/-- An iteration of the inner loops. -/
def TopicLocals.addTopic (l : TopicLocals) (info : SubscribeInfo) (type : SubscriptionType) :
    TopicLocals :=
  let added := l.addEncodedString info.pTopicFilter info.topicFilterLength
  let l :=
    match type with
    | .subscribe => { added.1 with
        pIoVector := added.1.pIoVector ++ [OutVector.mk (.bytes (some [info.qos.toByte])) 1]
        totalPacketLength := added.1.totalPacketLength + 1
        ioVectorLength := added.1.ioVectorLength + (added.2 + 1) }
    | .unsubscribe => { added.1 with ioVectorLength := added.1.ioVectorLength + added.2 }
  { l with topicFieldLengthIndex := l.topicFieldLengthIndex + 1 }

/-- `CORE_MQTT_SUBSCRIBE_PER_TOPIC_VECTOR_LENGTH` and
`CORE_MQTT_UNSUBSCRIBE_PER_TOPIC_VECTOR_LENGTH`. -/
def SubscriptionType.perTopic : SubscriptionType → Nat
  | .subscribe => 3
  | .unsubscribe => 2

/-- The inner loops. -/
def fillBatch (maxVectors : Nat) (type : SubscriptionType) :
    List SubscribeInfo → TopicLocals → TopicLocals × List SubscribeInfo
  | [], l => (l, [])
  | info :: rest, l =>
      if l.ioVectorLength ≤ maxVectors - type.perTopic then
        fillBatch maxVectors type rest (l.addTopic info type)
      else (l, info :: rest)

/-- The variables before the outer loops. -/
def TopicLocals.start (header : List UInt8) (fields : Nat → List UInt8) : TopicLocals where
  pIoVector := [⟨.header, header.length⟩]
  serializedTopicFieldLength := fields
  totalPacketLength := header.length
  ioVectorLength := 1
  topicFieldLengthIndex := 0

/-- The resets at the end of an iteration of the outer loops. -/
def TopicLocals.reset (l : TopicLocals) : TopicLocals :=
  { l with pIoVector := [], totalPacketLength := 0, ioVectorLength := 0 }

/-- The batches of the outer loops, each as it is when `sendMessageVector` is called. -/
def topicBatches (maxVectors : Nat) (type : SubscriptionType) :
    (fuel : Nat) → List SubscribeInfo → TopicLocals → List TopicLocals
  | 0, _, _ => []
  | fuel + 1, subscriptions, l =>
      if subscriptions = [] then []
      else
        let filled := fillBatch maxVectors type subscriptions { l with topicFieldLengthIndex := 0 }
        filled.1 :: topicBatches maxVectors type fuel filled.2 filled.1.reset

/-- The batches sent one after the other, until one of them fails. -/
def sendBatches (c : Config) (header : List UInt8) : List TopicLocals → Sys → Int →
    Status × Sys × Int
  | [], s, result => (.success, s, result)
  | batch :: batches, s, _ =>
      let sent := sendMessageVector c s (batch.vectors header)
      if sent.1 ≠ int32Cast batch.totalPacketLength then (.sendFailed, sent.2, sent.1)
      else sendBatches c header batches sent.2 sent.1

/-- The vectors of a topic, read as bytes. -/
def topicVectors (info : SubscribeInfo) : SubscriptionType → List (List UInt8)
  | .subscribe =>
      addEncodedStringToVector info.pTopicFilter info.topicFilterLength ++ [[info.qos.toByte]]
  | .unsubscribe => addEncodedStringToVector info.pTopicFilter info.topicFilterLength

/-! ## What the variables say -/

/-- The vectors read as these, the counters count them, and no length field is referred to
twice. -/
structure TopicLocals.Holds (l : TopicLocals) (header : List UInt8)
    (vectors : List (List UInt8)) : Prop where
  read : l.pIoVector.map (OutVector.read header l.serializedTopicFieldLength) = vectors
  count : l.ioVectorLength = l.pIoVector.length
  total : l.totalPacketLength = vectors.flatten.length
  index_le : l.topicFieldLengthIndex ≤ l.ioVectorLength
  field_lt : ∀ index ∈ l.lengthFields, index < l.topicFieldLengthIndex
  nodup : l.lengthFields.Nodup

theorem length_read (header : List UInt8) (fields : Nat → List UInt8) (vector : OutVector) :
    (vector.read header fields).length = vector.iovLen := by
  unfold OutVector.read
  split <;> exact length_readBytes ..

namespace TopicLocals.Holds

variable {l : TopicLocals} {header : List UInt8} {vectors : List (List UInt8)}

theorem vectors_eq (h : l.Holds header vectors) : l.vectors header = vectors := by
  unfold TopicLocals.vectors
  rw [h.count, List.take_length, h.read]

theorem total_eq_sum (h : l.Holds header vectors) :
    l.totalPacketLength = (l.pIoVector.map (·.iovLen)).sum := by
  rw [h.total, ← h.read, List.length_flatten, List.map_map]
  congr 1
  exact List.map_congr_left fun vector _ => length_read ..

/-- A write into the next length field is not seen by the vectors. -/
theorem read_update (h : l.Holds header vectors) (bytes : List UInt8) :
    l.pIoVector.map (OutVector.read header (Function.update l.serializedTopicFieldLength
      l.topicFieldLengthIndex bytes)) = vectors := by
  rw [← h.read]
  apply List.map_congr_left
  intro vector hvector
  unfold OutVector.read
  cases hbase : vector.iovBase with
  | header => rfl
  | bytes base => rfl
  | topicFieldLength index =>
    have hfield : index ∈ l.lengthFields :=
      List.mem_filterMap.2 ⟨vector, hvector, by rw [hbase]⟩
    have hne : index ≠ l.topicFieldLengthIndex := Nat.ne_of_lt (h.field_lt index hfield)
    dsimp only
    rw [Function.update_of_ne hne]

end TopicLocals.Holds

/-- Before the loops the variables hold the header. -/
theorem holds_start (header : List UInt8) (fields : Nat → List UInt8) :
    (TopicLocals.start header fields).Holds header [header] where
  read := by
    simp [TopicLocals.start, OutVector.read, readBytes_some]
  count := rfl
  total := by
    simp [TopicLocals.start]
  index_le := Nat.zero_le _
  field_lt := nofun
  nodup := .nil

theorem holds_reset (l : TopicLocals) (header : List UInt8) :
    TopicLocals.Holds { l.reset with topicFieldLengthIndex := 0 } header [] where
  read := rfl
  count := rfl
  total := rfl
  index_le := Nat.le_refl 0
  field_lt := nofun
  nodup := .nil

/-- What `addEncodedStringToVector` adds. -/
theorem TopicLocals.Holds.addEncodedString {l : TopicLocals} {header : List UInt8}
    {vectors : List (List UInt8)} (h : l.Holds header vectors) (string : Pointer)
    (length : UInt16) :
    let added := l.addEncodedString string length
    added.1.pIoVector.map (OutVector.read header added.1.serializedTopicFieldLength) =
        vectors ++ addEncodedStringToVector string length ∧
      added.1.pIoVector.length = l.pIoVector.length + added.2 ∧
      added.1.totalPacketLength =
        (vectors ++ addEncodedStringToVector string length).flatten.length ∧
      added.1.ioVectorLength = l.ioVectorLength ∧ 1 ≤ added.2 ∧
      added.1.topicFieldLengthIndex = l.topicFieldLengthIndex ∧
      added.1.lengthFields = l.lengthFields ++ [l.topicFieldLengthIndex] := by
  have hread := h.read_update (uint16Bytes length)
  have hfield : readBytes (some (uint16Bytes length)) 2 = uint16Bytes length := readBytes_some _
  unfold TopicLocals.addEncodedString addEncodedStringToVector TopicLocals.lengthFields
  by_cases hstring : string ≠ none ∧ length ≠ 0
  · rw [if_pos hstring, if_pos hstring]
    refine ⟨?_, ?_, ?_, rfl, Nat.le_succ 1, rfl, ?_⟩
    · simp [hread, OutVector.read, hfield]
    · simp
    · simp [h.total, length_uint16Bytes]
    · simp
  · rw [if_neg hstring, if_neg hstring]
    refine ⟨?_, ?_, ?_, rfl, Nat.le_refl 1, rfl, ?_⟩
    · simp [hread, OutVector.read, hfield]
    · simp
    · simp [h.total, length_uint16Bytes]
    · simp

/-- An iteration of the inner loops adds the vectors of a topic. -/
theorem TopicLocals.Holds.addTopic {l : TopicLocals} {header : List UInt8}
    {vectors : List (List UInt8)} (h : l.Holds header vectors) (info : SubscribeInfo)
    (type : SubscriptionType) :
    (l.addTopic info type).Holds header (vectors ++ topicVectors info type) := by
  obtain ⟨hread, hlength, htotal, hcount, hadded, hindex, hfields⟩ :=
    h.addEncodedString info.pTopicFilter info.topicFilterLength
  have hlt : ∀ index ∈ l.lengthFields ++ [l.topicFieldLengthIndex],
      index < l.topicFieldLengthIndex + 1 := by
    intro index hmem
    rcases List.mem_append.1 hmem with hmem | hmem
    · exact Nat.lt_succ_of_lt (h.field_lt index hmem)
    · rw [List.mem_singleton.1 hmem]
      exact Nat.lt_succ_self _
  have hnodup : (l.lengthFields ++ [l.topicFieldLengthIndex]).Nodup := by
    rw [List.nodup_append]
    refine ⟨h.nodup, List.nodup_singleton _, fun a ha b hb => ?_⟩
    rw [List.mem_singleton.1 hb]
    exact Nat.ne_of_lt (h.field_lt a ha)
  have hcount' := h.count
  have hle := h.index_le
  unfold TopicLocals.addTopic topicVectors
  dsimp only at hread hlength htotal hcount hadded hindex hfields ⊢
  generalize l.addEncodedString info.pTopicFilter info.topicFilterLength = added
    at hread hlength htotal hcount hadded hindex hfields ⊢
  cases type with
  | subscribe =>
    have hfields' : TopicLocals.lengthFields { added.1 with
        pIoVector := added.1.pIoVector ++ [OutVector.mk (.bytes (some [info.qos.toByte])) 1]
        totalPacketLength := added.1.totalPacketLength + 1
        ioVectorLength := added.1.ioVectorLength + (added.2 + 1)
        topicFieldLengthIndex := added.1.topicFieldLengthIndex + 1 } =
          l.lengthFields ++ [l.topicFieldLengthIndex] := by
      rw [← hfields]
      simp [TopicLocals.lengthFields]
    constructor
    · have hqos : readBytes (some [info.qos.toByte]) 1 = [info.qos.toByte] := readBytes_some _
      simp [hread, OutVector.read, hqos]
    · simp only [List.length_append, List.length_singleton]
      omega
    · simp only [htotal, List.flatten_append, List.length_append, List.flatten_singleton,
        List.length_singleton]
      omega
    · dsimp only
      omega
    · rw [hfields', hindex]
      exact hlt
    · rw [hfields']
      exact hnodup
  | unsubscribe =>
    have hfields' : TopicLocals.lengthFields { added.1 with
        ioVectorLength := added.1.ioVectorLength + added.2
        topicFieldLengthIndex := added.1.topicFieldLengthIndex + 1 } =
          l.lengthFields ++ [l.topicFieldLengthIndex] := by
      rw [← hfields]
      rfl
    constructor
    · exact hread
    · dsimp only
      omega
    · exact htotal
    · dsimp only
      omega
    · rw [hfields', hindex]
      exact hlt
    · rw [hfields']
      exact hnodup

theorem length_topicVectors_le (info : SubscribeInfo) (type : SubscriptionType) :
    (topicVectors info type).length ≤ type.perTopic := by
  have hlength := (@length_addEncodedStringToVector info.pTopicFilter info.topicFilterLength).1
  cases type with
  | subscribe =>
    rw [topicVectors, List.length_append]
    exact Nat.succ_le_succ hlength
  | unsubscribe => exact hlength

/-! ## Batches -/

/-- A batch takes topics from the front, and has no more vectors than the array. -/
theorem fillBatch_holds {maxVectors : Nat} {type : SubscriptionType}
    (hmax : type.perTopic ≤ maxVectors) (subscriptions : List SubscribeInfo) {l : TopicLocals}
    {header : List UInt8} {vectors : List (List UInt8)} (h : l.Holds header vectors)
    (hcount : l.ioVectorLength ≤ maxVectors) :
    let filled := fillBatch maxVectors type subscriptions l
    ∃ taken, subscriptions = taken ++ filled.2 ∧
      filled.1.Holds header (vectors ++ taken.flatMap (topicVectors · type)) ∧
      filled.1.ioVectorLength ≤ maxVectors ∧
      (l.ioVectorLength = 0 → subscriptions ≠ [] → taken ≠ []) := by
  induction subscriptions generalizing l vectors with
  | nil => exact ⟨[], rfl, by simpa [fillBatch] using h, hcount, fun _ hne => absurd rfl hne⟩
  | cons info rest ih =>
    dsimp only
    unfold fillBatch
    split
    · rename_i hfits
      have hadd := h.addTopic info type
      have hlength := congrArg List.length hadd.read
      rw [List.length_map, ← hadd.count, List.length_append, ← congrArg List.length h.read,
        List.length_map, ← h.count] at hlength
      have htopic := length_topicVectors_le info type
      obtain ⟨taken, hsplit, hholds, hle, -⟩ := ih hadd (by omega)
      refine ⟨info :: taken, ?_, ?_, hle, fun _ _ => List.cons_ne_nil _ _⟩
      · rw [List.cons_append, ← hsplit]
      · rwa [List.flatMap_cons, ← List.append_assoc]
    · rename_i hfull
      exact ⟨[], rfl, by simpa using h, hcount, fun hzero => absurd (by omega) hfull⟩

/-- The vectors of a batch, as `fillVectors` has them. -/
theorem fillBatch_eq_fillVectors {c : Config} {type : SubscriptionType}
    (subscriptions : List SubscribeInfo) {l : TopicLocals} {header : List UInt8}
    {vectors : List (List UInt8)} (h : l.Holds header vectors) :
    let filled := fillBatch c.subUnsubMaxVectors type subscriptions l
    fillVectors c type.perTopic (topicVectors · type) subscriptions vectors =
        (filled.1.vectors header, filled.2) := by
  induction subscriptions generalizing l vectors with
  | nil =>
    dsimp only [fillBatch, fillVectors]
    rw [h.vectors_eq]
  | cons info rest ih =>
    dsimp only
    unfold fillBatch fillVectors
    rw [h.count, ← List.length_map (OutVector.read header l.serializedTopicFieldLength), h.read]
    split
    · exact ih (h.addTopic info type)
    · rw [h.vectors_eq]

/-- Sending topics is sending the batches. -/
theorem sendTopics_eq_sendBatches (c : Config) (type : SubscriptionType) (header : List UInt8)
    {fuel : Nat} {subscriptions : List SubscribeInfo} {l : TopicLocals}
    {vectors : List (List UInt8)}
    (h : TopicLocals.Holds { l with topicFieldLengthIndex := 0 } header vectors)
    (hcount : l.ioVectorLength ≤ c.subUnsubMaxVectors) (s : Sys) (result : Int) :
    sendTopics c type.perTopic (topicVectors · type) fuel subscriptions vectors s result =
      sendBatches c header (topicBatches c.subUnsubMaxVectors type fuel subscriptions l) s result := by
  induction fuel generalizing subscriptions l vectors s result with
  | zero => rfl
  | succ fuel ih =>
    unfold sendTopics topicBatches
    by_cases hnil : subscriptions = []
    · rw [if_pos hnil, if_pos hnil]
      rfl
    · rw [if_neg hnil, if_neg hnil]
      have hmax : type.perTopic ≤ c.subUnsubMaxVectors := by
        have hthree := c.three_le_subUnsubMaxVectors
        cases type
        · exact hthree
        · exact Nat.le_of_succ_le hthree
      obtain ⟨taken, -, hholds, hle, -⟩ := fillBatch_holds hmax subscriptions h hcount
      have htotal := hholds.total
      have hvectors := hholds.vectors_eq
      dsimp only
      rw [fillBatch_eq_fillVectors subscriptions h]
      dsimp only
      generalize fillBatch c.subUnsubMaxVectors type subscriptions
        { l with topicFieldLengthIndex := 0 } = filled at hholds hle htotal hvectors
      unfold sendBatches
      dsimp only
      rw [htotal, ← hvectors]
      split
      · rfl
      · exact ih (holds_reset filled.1 header) (Nat.zero_le _) _ _

/-- All batches together are the vectors of all topics, and each keeps the bounds. Every batch but
the first takes a topic. -/
theorem topicBatches_spec {maxVectors : Nat} {type : SubscriptionType}
    (hmax : type.perTopic ≤ maxVectors) (header : List UInt8) {fuel : Nat}
    {subscriptions : List SubscribeInfo} {l : TopicLocals} {vectors : List (List UInt8)}
    (h : TopicLocals.Holds { l with topicFieldLengthIndex := 0 } header vectors)
    (hcount : l.ioVectorLength ≤ maxVectors) (hne : subscriptions ≠ [] ∨ vectors = [])
    (hfuel : subscriptions.length < fuel ∨
      l.ioVectorLength = 0 ∧ subscriptions.length ≤ fuel) :
    let batches := topicBatches maxVectors type fuel subscriptions l
    (batches.map (·.vectors header)).flatten =
        vectors ++ subscriptions.flatMap (topicVectors · type) ∧
      ∀ batch ∈ batches, (∃ vectors, batch.Holds header vectors) ∧
        batch.ioVectorLength ≤ maxVectors := by
  induction fuel generalizing subscriptions l vectors with
  | zero =>
    have hnil : subscriptions = [] := List.eq_nil_of_length_eq_zero (by omega)
    rw [hnil, hne.resolve_left (not_not_intro hnil)]
    exact ⟨rfl, nofun⟩
  | succ fuel ih =>
    dsimp only
    unfold topicBatches
    by_cases hnil : subscriptions = []
    · rw [if_pos hnil, hnil, hne.resolve_left (not_not_intro hnil)]
      exact ⟨rfl, nofun⟩
    · rw [if_neg hnil]
      obtain ⟨taken, hsplit, hholds, hle, htaken⟩ := fillBatch_holds hmax subscriptions h hcount
      dsimp only at hsplit hholds hle htaken ⊢
      generalize fillBatch maxVectors type subscriptions { l with topicFieldLengthIndex := 0 } =
        filled at hsplit hholds hle
      have hlength := congrArg List.length hsplit
      rw [List.length_append] at hlength
      have hrest : filled.2.length ≤ fuel := by
        rcases hfuel with hlt | ⟨hzero, hlt⟩
        · omega
        · have hpos := List.length_pos_of_ne_nil (htaken hzero hnil)
          omega
      obtain ⟨hflatten, hbatches⟩ := ih (holds_reset filled.1 header) (Nat.zero_le _) (.inr rfl)
        (.inr ⟨rfl, hrest⟩)
      refine ⟨?_, fun batch hbatch => ?_⟩
      · rw [List.map_cons, List.flatten_cons, hholds.vectors_eq, hflatten, List.nil_append,
          List.append_assoc, ← List.flatMap_append, ← hsplit]
      · rcases List.mem_cons.1 hbatch with rfl | hbatch
        · exact ⟨⟨_, hholds⟩, hle⟩
        · exact hbatches batch hbatch

theorem flatten_topicVectors {info : SubscribeInfo} (h : info.HasFilter)
    (type : SubscriptionType) : (topicVectors info type).flatten = topicBytes info type := by
  have hstring : (addEncodedStringToVector info.pTopicFilter info.topicFilterLength).flatten =
      encodeString info.pTopicFilter info.topicFilterLength := by
    unfold addEncodedStringToVector encodeString
    rw [if_pos ⟨h.1, h.2⟩, List.flatten_cons, List.flatten_singleton]
  cases type with
  | subscribe =>
    rw [topicVectors, topicBytes, List.flatten_append, hstring, List.flatten_singleton]
  | unsubscribe => exact hstring

theorem flatten_flatMap_topicVectors {list : List SubscribeInfo} (h : ∀ info ∈ list, info.HasFilter)
    (type : SubscriptionType) :
    (list.flatMap (topicVectors · type)).flatten = list.flatMap (topicBytes · type) := by
  induction list with
  | nil => rfl
  | cons info rest ih =>
    rw [List.flatMap_cons, List.flatMap_cons, List.flatten_append,
      flatten_topicVectors (h info (by simp)),
      ih fun other hother => h other (List.mem_cons_of_mem info hother)]

/-! ## The two functions -/

/-- `sendSubscribeWithoutCopy` and `sendUnsubscribeWithoutCopy`. -/
def sendTopicsWithoutCopy (c : Config) (s : Sys) (list : List SubscribeInfo) (packetId : UInt16)
    (remainingLength : Nat) : SubscriptionType → Status × Sys
  | .subscribe => sendSubscribeWithoutCopy c s list packetId remainingLength
  | .unsubscribe => sendUnsubscribeWithoutCopy c s list packetId remainingLength

/-- What the packets are in the log. -/
def SubscriptionType.kind : SubscriptionType → PacketKind
  | .subscribe => .subscribe
  | .unsubscribe => .unsubscribe

/-- The two functions send the batches, from whatever is in the array of the length fields. -/
theorem sendTopicsWithoutCopy_eq (c : Config) (s : Sys) (list : List SubscribeInfo)
    (packetId : UInt16) (remainingLength : Nat) (type : SubscriptionType)
    (fields : Nat → List UInt8) :
    let header := serializeTopicHeader remainingLength packetId type
    let sent := sendBatches c header
      (topicBatches c.subUnsubMaxVectors type (list.length + 1) list (.start header fields)) s 0
    sendTopicsWithoutCopy c s list packetId remainingLength type =
      (sent.1, sent.2.1.recordSent s type.kind
        (header ++ (list.flatMap (topicVectors · type)).flatten) sent.2.2) := by
  dsimp only
  rw [← sendTopics_eq_sendBatches c type _ (holds_start _ fields)
    (Nat.le_trans (by decide : 1 ≤ 3) c.three_le_subUnsubMaxVectors)]
  cases type <;> rfl

/-- The batches of vectors, one after the other, are the serialized packet, and each keeps to the
arrays. -/
theorem topic_batches_agree (type : SubscriptionType) {maxVectors : Nat} (hmax : 3 ≤ maxVectors)
    {sizeBits : Nat} {list : List SubscribeInfo} {packetId : UInt16}
    {remainingLength packetSize : Nat} (hsum : topicRemainingLength list type < 2 ^ sizeBits)
    (hsizes : getTopicPacketSize sizeBits (some list) type =
      (.success, remainingLength, packetSize))
    (hid : packetId ≠ 0) (fields : Nat → List UInt8) :
    let header := serializeTopicHeader remainingLength packetId type
    let batches := topicBatches maxVectors type (list.length + 1) list (.start header fields)
    let bytes := (batches.map (·.vectors header)).flatten.flatten
    bytes.length = packetSize ∧
      (∀ buffer : List UInt8, buffer.length < 2 ^ sizeBits → packetSize ≤ buffer.length →
        serializeTopicPacket sizeBits (some list) packetId remainingLength buffer type =
          (.success, bytes ++ buffer.drop packetSize)) ∧
      (∀ batch ∈ batches, batch.ioVectorLength = batch.pIoVector.length ∧
        batch.ioVectorLength ≤ maxVectors ∧
        batch.totalPacketLength = (batch.pIoVector.map (·.iovLen)).sum ∧
        batch.lengthFields.Nodup ∧ ∀ index ∈ batch.lengthFields, index < maxVectors) ∧
      ∀ (c : Config) (s : Sys), c.subUnsubMaxVectors = maxVectors →
        let sent := sendBatches c header batches s 0
        sendTopicsWithoutCopy c s list packetId remainingLength type =
          (sent.1, sent.2.1.recordSent s type.kind bytes sent.2.2) := by
  obtain ⟨hlist, hfilters, hmaximum, rfl, rfl⟩ := getTopicPacketSize_success hsum hsizes
  have hperTopic : type.perTopic ≤ maxVectors := by
    cases type
    · exact hmax
    · exact Nat.le_of_succ_le hmax
  intro header batches bytes
  have hone : (TopicLocals.start header fields).ioVectorLength ≤ maxVectors :=
    Nat.le_trans (by decide : 1 ≤ 3) hmax
  obtain ⟨hflatten, hbatches⟩ := @topicBatches_spec maxVectors type hperTopic header
    (list.length + 1) list (.start header fields) [header] (holds_start header fields) hone
    (.inl hlist) (.inl (Nat.lt_succ_self _))
  have hbytes : bytes = topicPacket list packetId (topicRemainingLength list type) type := by
    show (batches.map (·.vectors header)).flatten.flatten = _
    rw [hflatten, List.flatten_append, List.flatten_singleton,
      flatten_flatMap_topicVectors hfilters]
    rfl
  have hlength := length_topicPacket hmaximum packetId
  rw [← hbytes] at hlength
  refine ⟨hlength, fun buffer hbits hbuffer => ?_, fun batch hbatch => ?_, ?_⟩
  · rw [serializeTopicPacket_success hlist hmaximum hid hbits hbuffer, ← hbytes, writeFront, hlength]
  · obtain ⟨⟨vectors, hholds⟩, hle⟩ := hbatches batch hbatch
    refine ⟨hholds.count, hle, hholds.total_eq_sum, hholds.nodup, fun index hindex => ?_⟩
    have hlt := hholds.field_lt index hindex
    have hindex' := hholds.index_le
    omega
  · rintro c s rfl sent
    rw [sendTopicsWithoutCopy_eq c s list packetId _ type fields,
      flatten_flatMap_topicVectors hfilters, hbytes]
    rfl

/-- Two topics of one byte, with three vectors: the header has a batch of its own, and each topic
another. -/
theorem topic_batches_agree_two :
    let list : List SubscribeInfo := [⟨.qos1, some [0x61], 1⟩, ⟨.qos0, some [0x62], 1⟩]
    let header := serializeTopicHeader 10 5 .subscribe
    let batches := topicBatches 3 .subscribe 3 list (.start header fun _ => [])
    batches.length = 3 ∧ ((batches.map (·.vectors header)).flatten.flatten).length = 12 := by
  intro list header batches
  refine ⟨rfl, ?_⟩
  exact (@topic_batches_agree .subscribe 3 (by decide) 32 list 5 10 12 (by decide) (by decide)
    (by decide) fun _ => []).1

end FreeMqtt
