import FreeMqtt.Core.SendSpec
import Mathlib.Logic.Relation

/-!
# Library calls as steps

Seen from the connection, a library call is a sequence of steps: it sends a packet while
connected, disconnects, or does something else. `Step` is such a step, with the packets and
the other changes that are meant as parameters, and every request of the application is a
sequence of request steps (`SendCall.requests`): it leaves the incoming records alone, sends
no acknowledgement and calls no callback.
-/

namespace FreeMqtt

open Relation

/-- A step of a library call: another change, a packet sent while connected, or
`MQTT_Disconnect`. -/
inductive Step (quiet : Sys → Sys → Prop) (kinds : PacketKind → Prop) (s s' : Sys) : Prop
  | quiet (h : quiet s s')
  | send (kind : PacketKind) (packet : List UInt8) (n : Nat) (stop : Stop) (hkind : kinds kind)
      (hconn : s.connectStatus = .connected) (hsent : Sent s s' kind packet n stop)
  | disconnect (n : Nat) (stop : Stop) (hconn : s.connectStatus ≠ .notConnected)
      (hsent : Sent { s with connectStatus := .notConnected }.clearBuffer s' .disconnect
        mqttSerializeDisconnect n stop)

/-- Neither the connection nor the log nor the incoming records change. -/
structure Untouched (s s' : Sys) : Prop where
  wire : s'.wire = s.wire
  log : s'.log = s.log
  connectStatus : s'.connectStatus = s.connectStatus
  incoming : s'.incomingPublishRecords = s.incomingPublishRecords

/-- The packets of the requests of an application. -/
def PacketKind.IsRequest : PacketKind → Prop
  | .publish _ _ | .subscribe | .unsubscribe | .pingreq => True
  | .connect | .resend _ | .ack _ _ | .disconnect => False

/-- A sequence of steps of requests. -/
def Requests : Sys → Sys → Prop := ReflTransGen (Step Untouched PacketKind.IsRequest)

theorem Untouched.refl (s : Sys) : Untouched s s := ⟨rfl, rfl, rfl, rfl⟩

theorem Untouched.trans {s s' s'' : Sys} (h : Untouched s s') (h' : Untouched s' s'') :
    Untouched s s'' :=
  ⟨h'.wire.trans h.wire, h'.log.trans h.log, h'.connectStatus.trans h.connectStatus,
    h'.incoming.trans h.incoming⟩

theorem Requests.quiet {s s' : Sys} (h : Untouched s s') : Requests s s' := .single (.quiet h)

/-- A packet with changes before and after it. -/
theorem Requests.send (kind : PacketKind) (hkind : kind.IsRequest) {s s₁ s₂ s' : Sys}
    {packet : List UInt8} {n : Nat} {stop : Stop} (hconn : s.connectStatus = .connected)
    (h₁ : Untouched s s₁) (hsent : Sent s₁ s₂ kind packet n stop) (h₂ : Untouched s₂ s') :
    Requests s s' :=
  ((Requests.quiet h₁).tail
    (.send kind packet n stop hkind (h₁.connectStatus.trans hconn) hsent)).tail (.quiet h₂)

/-! ## Lengths -/

theorem length_uint16Bytes (x : UInt16) : (uint16Bytes x).length = 2 := rfl

theorem length_encodeRemainingLengthLoop_le {k fuel remainingLength : Nat}
    (h : remainingLength < 128 ^ (k + 1)) :
    (encodeRemainingLengthLoop fuel remainingLength).length ≤ k + 1 := by
  induction k generalizing fuel remainingLength with
  | zero =>
    have hrest : remainingLength / 128 = 0 := Nat.div_eq_of_lt (by simpa using h)
    cases fuel <;> simp [encodeRemainingLengthLoop, hrest]
  | succ k ih =>
    cases fuel with
    | zero => simp [encodeRemainingLengthLoop]
    | succ fuel =>
      unfold encodeRemainingLengthLoop
      dsimp only
      split
      · exact Nat.succ_le_succ (ih (by rw [Nat.div_lt_iff_lt_mul (by decide), ← Nat.pow_succ]; exact h))
      · simp

/-- A remaining length takes at most four bytes. -/
theorem length_encodeRemainingLength_le {length : Nat} (h : length ≤ maxRemainingLength) :
    (encodeRemainingLength length).length ≤ 4 :=
  length_encodeRemainingLengthLoop_le (k := 3) (Nat.lt_of_le_of_lt h (by decide))

theorem length_flatten_le {vectors : List (List UInt8)} {bound : Nat}
    (h : ∀ v ∈ vectors, v.length ≤ bound) : vectors.flatten.length ≤ vectors.length * bound := by
  induction vectors with
  | nil => simp
  | cons v vectors ih =>
    have hv := h v (by simp)
    have hrest := ih fun w hw => h w (List.mem_cons_of_mem v hw)
    rw [List.flatten_cons, List.length_append, List.length_cons, Nat.succ_mul]
    omega

theorem length_addEncodedStringToVector {string : Pointer} {length : UInt16} :
    (addEncodedStringToVector string length).length ≤ 2 ∧
      ∀ v ∈ addEncodedStringToVector string length, v.length ≤ 65535 := by
  have hlt := length.toNat_lt
  unfold addEncodedStringToVector
  split
  · refine ⟨Nat.le_refl _, fun v hv => ?_⟩
    simp only [List.mem_cons, List.not_mem_nil, or_false] at hv
    rcases hv with rfl | rfl
    · rw [length_uint16Bytes]
      omega
    · rw [length_readBytes]
      omega
  · refine ⟨by simp, fun v hv => ?_⟩
    rw [List.mem_singleton.1 hv, length_uint16Bytes]
    omega

/-! ## SUBSCRIBE and UNSUBSCRIBE -/

/-- The vectors of a topic: at most as many as are kept free for it, all of them short. -/
structure TopicVectors (c : Config) (perTopic : Nat)
    (topicVectors : SubscribeInfo → List (List UInt8)) : Prop where
  le_max : perTopic ≤ c.subUnsubMaxVectors
  length_le : ∀ info, (topicVectors info).length ≤ perTopic
  short : ∀ info, ∀ v ∈ topicVectors info, v.length ≤ 65535

section Topics

variable {c : Config} {perTopic : Nat} {topicVectors : SubscribeInfo → List (List UInt8)}

/-- One batch: the vectors of some topics from the front, as many as fit. -/
theorem fillVectors_spec (h : TopicVectors c perTopic topicVectors)
    (subscriptions : List SubscribeInfo) {pIoVector : List (List UInt8)}
    (hlen : pIoVector.length ≤ c.subUnsubMaxVectors) (hshort : ∀ v ∈ pIoVector, v.length ≤ 65535) :
    let filled := fillVectors c perTopic topicVectors subscriptions pIoVector
    ∃ taken, subscriptions = taken ++ filled.2 ∧
      filled.1 = pIoVector ++ taken.flatMap topicVectors ∧
      filled.1.length ≤ c.subUnsubMaxVectors ∧ ∀ v ∈ filled.1, v.length ≤ 65535 := by
  induction subscriptions generalizing pIoVector with
  | nil => exact ⟨[], rfl, by simp [fillVectors], hlen, hshort⟩
  | cons info rest ih =>
    dsimp only
    unfold fillVectors
    split
    · rename_i hfits
      have hle := h.le_max
      have hinfo := h.length_le info
      have hlen' : (pIoVector ++ topicVectors info).length ≤ c.subUnsubMaxVectors := by
        rw [List.length_append]
        omega
      obtain ⟨taken, hsplit, hvectors, hlen', hshort'⟩ := ih hlen'
        fun v hv => (List.mem_append.1 hv).elim (hshort v) (h.short info v)
      refine ⟨info :: taken, ?_, ?_, hlen', hshort'⟩
      · rw [List.cons_append, ← hsplit]
      · rw [hvectors, List.flatMap_cons, List.append_assoc]
    · exact ⟨[], rfl, by simp, hlen, hshort⟩

/-- The invariant of the batches: a first part of the packet is handed over, all of the
batches before a failed one. -/
def TopicsSent (s₀ : Sys) (packet : List UInt8) (s : Sys) (result : Int) : Prop :=
  ∃ m ≤ packet.length, Handed s₀ s (packet.take m) (decide (result < 0)) ∧
    (0 ≤ result ∨ m < packet.length)

/-- The batches hand over a first part of the packet. -/
theorem sendTopics_spec (h : TopicVectors c perTopic topicVectors) {s₀ s : Sys}
    {packet : List UInt8} {fuel n : Nat} {subscriptions : List SubscribeInfo}
    {pIoVector : List (List UInt8)} {result : Int} (hn : n ≤ packet.length)
    (hhanded : Handed s₀ s (packet.take n) false)
    (hrest : packet.drop n = pIoVector.flatten ++ (subscriptions.flatMap topicVectors).flatten)
    (hlen : pIoVector.length ≤ c.subUnsubMaxVectors) (hshort : ∀ v ∈ pIoVector, v.length ≤ 65535)
    (hresult : 0 ≤ result) :
    let sent := sendTopics c perTopic topicVectors fuel subscriptions pIoVector s result
    TopicsSent s₀ packet sent.2.1 sent.2.2 := by
  induction fuel generalizing s n subscriptions pIoVector result with
  | zero => exact ⟨n, hn, by simpa [sendTopics, Int.not_lt.2 hresult] using hhanded, .inl hresult⟩
  | succ fuel ih =>
    dsimp only
    unfold sendTopics
    split
    · exact ⟨n, hn, by simpa [Int.not_lt.2 hresult] using hhanded, .inl hresult⟩
    · obtain ⟨taken, hsplit, hvectors, hlen', hshort'⟩ :=
        fillVectors_spec h subscriptions hlen hshort
      dsimp only
      generalize fillVectors c perTopic topicVectors subscriptions pIoVector = filled
        at hsplit hvectors hlen' hshort'
      obtain ⟨batch, rest⟩ := filled
      dsimp only at hsplit hvectors hlen' hshort' ⊢
      have hbatch : packet.drop n = batch.flatten ++ (rest.flatMap topicVectors).flatten := by
        rw [hrest, hsplit, hvectors]
        simp
      have hsmall : batch.flatten.length < 2 ^ 31 := by
        have hflat := length_flatten_le hshort'
        have hmax := c.subUnsubMaxVectors_lt
        have hmul : batch.length * 65535 ≤ (2 ^ 15 - 1) * 65535 :=
          Nat.mul_le_mul_right _ (by omega)
        omega
      have hlong := congrArg List.length hbatch
      rw [List.length_drop, List.length_append] at hlong
      obtain ⟨k, hk, hsent, hcount⟩ := sendMessageVector_spec c s
        fun v hv => Nat.lt_of_le_of_lt (hshort' v hv) (by decide)
      have htake : packet.take n ++ batch.flatten.take k = packet.take (n + k) := by
        rw [List.take_add, hbatch, List.take_append_of_le_length hk]
      have hhanded' := hhanded.trans hsent
      rw [htake] at hhanded'
      split
      · refine ⟨n + k, by omega, hhanded', ?_⟩
        dsimp only
        omega
      · rename_i hok
        rw [not_not, int32Cast_eq hsmall] at hok
        have hall : k = batch.flatten.length := by omega
        refine ih (n := n + k) (by omega) ?_ ?_ (by simp) (by simp) (by omega)
        · rwa [decide_eq_false (by omega)] at hhanded'
        · rw [← List.drop_drop, hbatch, hall]
          simp

theorem TopicsSent.recordSent {s s' : Sys} {packet : List UInt8} {result : Int}
    (h : TopicsSent s packet s' result) (kind : PacketKind) :
    ∃ n stop, Sent s (s'.recordSent s kind packet result) kind packet n stop := by
  obtain ⟨m, hm, hhanded, hresult⟩ := h
  exact ⟨m, _, (hhanded.recordSent hm hresult kind).1⟩

theorem sendTopicPacket_spec (h : TopicVectors c perTopic topicVectors) (s : Sys)
    (kind : PacketKind) {header : List UInt8} (hheader : header.length ≤ 65535)
    (subscriptions : List SubscribeInfo) :
    let sent := sendTopicPacket c s kind header perTopic topicVectors subscriptions
    ∃ n stop, Sent s sent.2 kind (header ++ (subscriptions.flatMap topicVectors).flatten) n stop := by
  have hmax := c.three_le_subUnsubMaxVectors
  have hrest : (header ++ (subscriptions.flatMap topicVectors).flatten).drop 0 =
      [header].flatten ++ (subscriptions.flatMap topicVectors).flatten := by simp
  have hlen : [header].length ≤ c.subUnsubMaxVectors := by
    rw [List.length_singleton]
    omega
  exact (sendTopics_spec h (Nat.zero_le _) (by simpa using Handed.refl s) hrest hlen
    (by simpa using hheader) (Int.le_refl 0)).recordSent kind

end Topics

theorem subscriptionSize_le {sizeBits : Nat} {pSubscriptionList : List SubscribeInfo}
    {subscriptionType : SubscriptionType}
    (h : (calculateSubscriptionPacketSize sizeBits pSubscriptionList subscriptionType).1 =
      .success) :
    (calculateSubscriptionPacketSize sizeBits pSubscriptionList subscriptionType).2.1 ≤
      maxRemainingLength := by
  unfold calculateSubscriptionPacketSize at h ⊢
  dsimp only at h ⊢
  split
  · rename_i hbad
    rw [if_pos hbad] at h
    exact absurd h (by decide)
  · rename_i hgood
    exact Nat.not_lt.1 fun hlt => hgood (.inl hlt)

theorem topicVectors_subscribe (c : Config) : TopicVectors c 3 fun info =>
    addEncodedStringToVector info.pTopicFilter info.topicFilterLength ++ [[info.qos.toByte]] where
  le_max := c.three_le_subUnsubMaxVectors
  length_le info := by
    rw [List.length_append]
    exact Nat.succ_le_succ length_addEncodedStringToVector.1
  short info v hv := by
    rcases List.mem_append.1 hv with hv | hv
    · exact length_addEncodedStringToVector.2 v hv
    · rw [List.mem_singleton.1 hv, List.length_singleton]
      decide

theorem topicVectors_unsubscribe (c : Config) : TopicVectors c 2 fun info =>
    addEncodedStringToVector info.pTopicFilter info.topicFilterLength where
  le_max := Nat.le_of_succ_le c.three_le_subUnsubMaxVectors
  length_le _ := length_addEncodedStringToVector.1
  short _ := length_addEncodedStringToVector.2

theorem length_topicHeader_le {type : UInt8} {remainingLength : Nat} (packetId : UInt16)
    (h : remainingLength ≤ maxRemainingLength) :
    ([type] ++ encodeRemainingLength remainingLength ++ uint16Bytes packetId).length ≤ 65535 := by
  have hlen := length_encodeRemainingLength_le h
  rw [List.length_append, List.length_append, length_uint16Bytes, List.length_singleton]
  omega

theorem getSubscribePacketSize_le {sizeBits : Nat} {list : Option (List SubscribeInfo)}
    (h : (mqttGetSubscribePacketSize sizeBits list).1 = .success) :
    (mqttGetSubscribePacketSize sizeBits list).2.1 ≤ maxRemainingLength := by
  match list with
  | none => exact absurd h (by simp [mqttGetSubscribePacketSize])
  | some [] => exact absurd h (by simp [mqttGetSubscribePacketSize])
  | some (_ :: _) => exact subscriptionSize_le h

theorem getUnsubscribePacketSize_le {sizeBits : Nat} {list : Option (List SubscribeInfo)}
    (h : (mqttGetUnsubscribePacketSize sizeBits list).1 = .success) :
    (mqttGetUnsubscribePacketSize sizeBits list).2.1 ≤ maxRemainingLength := by
  match list with
  | none => exact absurd h (by simp [mqttGetUnsubscribePacketSize])
  | some [] => exact absurd h (by simp [mqttGetUnsubscribePacketSize])
  | some (_ :: _) => exact subscriptionSize_le h

/-- What a request does to the context that sends at most one packet. -/
inductive SendOutcome (kind : PacketKind) (s s' : Sys) : Prop
  | unsent (h : s' = s)
  | sent (packet : List UInt8) (n : Nat) (stop : Stop) (hconn : s.connectStatus = .connected)
      (hsent : Sent s s' kind packet n stop)

/-- A request with changes before and after its packet. -/
theorem SendOutcome.requests {kind : PacketKind} {s s₁ s₂ s' : Sys} (h : SendOutcome kind s₁ s₂)
    (hkind : kind.IsRequest) (h₁ : Untouched s s₁) (h₂ : Untouched s₂ s') : Requests s s' := by
  cases h with
  | unsent heq =>
    subst heq
    exact Requests.quiet (h₁.trans h₂)
  | sent packet n stop hconn hsent =>
    exact Requests.send kind hkind (h₁.connectStatus.symm.trans hconn) h₁ hsent h₂

theorem mqttSubscribe_outcome (c : Config) (s : Sys)
    (pSubscriptionList : Option (List SubscribeInfo)) (packetId : UInt16) :
    SendOutcome .subscribe s (mqttSubscribe c s pSubscriptionList packetId).2 := by
  unfold mqttSubscribe
  dsimp only
  split_ifs with hvalid hsize hconn
  · exact .unsent rfl
  · exact .unsent rfl
  · exact .unsent rfl
  · obtain ⟨n, stop, hsent⟩ := sendTopicPacket_spec (topicVectors_subscribe c) s .subscribe
      (length_topicHeader_le packetId (getSubscribePacketSize_le (not_not.1 hsize)))
      (pSubscriptionList.getD [])
    exact .sent _ n stop (not_not.1 hconn) hsent

theorem mqttUnsubscribe_outcome (c : Config) (s : Sys)
    (pSubscriptionList : Option (List SubscribeInfo)) (packetId : UInt16) :
    SendOutcome .unsubscribe s (mqttUnsubscribe c s pSubscriptionList packetId).2 := by
  unfold mqttUnsubscribe
  dsimp only
  split_ifs with hvalid hsize hconn
  · exact .unsent rfl
  · exact .unsent rfl
  · exact .unsent rfl
  · obtain ⟨n, stop, hsent⟩ := sendTopicPacket_spec (topicVectors_unsubscribe c) s .unsubscribe
      (length_topicHeader_le packetId (getUnsubscribePacketSize_le (not_not.1 hsize)))
      (pSubscriptionList.getD [])
    exact .sent _ n stop (not_not.1 hconn) hsent

theorem mqttSubscribe_requests (c : Config) (s : Sys)
    (pSubscriptionList : Option (List SubscribeInfo)) (packetId : UInt16) :
    Requests s (mqttSubscribe c s pSubscriptionList packetId).2 :=
  (mqttSubscribe_outcome c s pSubscriptionList packetId).requests trivial (.refl s) (.refl _)

theorem mqttUnsubscribe_requests (c : Config) (s : Sys)
    (pSubscriptionList : Option (List SubscribeInfo)) (packetId : UInt16) :
    Requests s (mqttUnsubscribe c s pSubscriptionList packetId).2 :=
  (mqttUnsubscribe_outcome c s pSubscriptionList packetId).requests trivial (.refl s) (.refl _)

/-! ## PUBLISH -/

/-- The store of a publish changes nothing but the application's store. -/
theorem storePublish_spec (s : Sys) (pPublishInfo : PublishInfo) (pMqttHeader : List UInt8)
    (vectors : List (List UInt8)) (packetId : UInt16) :
    let stored := storePublish s pPublishInfo pMqttHeader vectors packetId
    stored.2.1.length = pMqttHeader.length ∧
      ∃ store storeResults, stored.2.2 = { s with store, storeResults } := by
  have hflag : ∀ header set, (mqttUpdateDuplicatePublishFlag header set).2.length =
      header.length := by
    intro header set
    unfold mqttUpdateDuplicatePublishFlag
    split
    · rfl
    · split <;> rfl
  have hstore : ∀ packet, ∃ store storeResults,
      (callStore s packetId packet).2 = { s with store, storeResults } := by
    intro packet
    unfold callStore
    split
    · exact ⟨_, _, rfl⟩
    · exact ⟨_, _, rfl⟩
  have hsame : ∃ store storeResults, s = { s with store, storeResults } := ⟨_, _, rfl⟩
  unfold storePublish
  cases pPublishInfo.dup
  · simp only [Bool.false_eq_true, if_false]
    split_ifs
    · exact ⟨hflag _ _, hsame⟩
    · exact ⟨hflag _ _, hstore _⟩
    · exact ⟨(hflag _ _).trans (hflag _ _), hstore _⟩
  · simp only [if_true]
    split_ifs
    · exact ⟨rfl, hsame⟩
    · exact ⟨rfl, hstore _⟩
    · exact ⟨rfl, hstore _⟩

theorem publishPacketSize_le {info : PublishInfo}
    (h : (mqttGetPublishPacketSize info).1 = .success) :
    (mqttGetPublishPacketSize info).2.1 ≤ maxRemainingLength ∧
      info.payloadLength ≤ maxRemainingLength := by
  have htopic := info.topicNameLength.toNat_lt
  have hmax : maxRemainingLength = 268435455 := rfl
  unfold mqttGetPublishPacketSize calculatePublishPacketSize at h ⊢
  dsimp only at h ⊢
  split_ifs at h ⊢ <;> first | exact absurd h (by decide) | (dsimp only; omega)

/-- The vectors of a PUBLISH whose size was accepted are short. -/
theorem length_publishVectors_lt {info : PublishInfo}
    (h : (mqttGetPublishPacketSize info).1 = .success) (packetId : UInt16) :
    ∀ v ∈ (mqttSerializePublishHeaderWithoutTopic info (mqttGetPublishPacketSize info).2.1).1 ::
      publishVectors info packetId, v.length < 2 ^ 28 := by
  obtain ⟨hremaining, hpayload⟩ := publishPacketSize_le h
  have hheader := length_encodeRemainingLength_le hremaining
  have htopic := info.topicNameLength.toNat_lt
  have hmax : maxRemainingLength = 268435455 := rfl
  intro v hv
  rw [List.mem_cons, publishVectors, List.mem_append, List.mem_append] at hv
  rcases hv with rfl | (hv | hv) | hv
  · rw [mqttSerializePublishHeaderWithoutTopic]
    simp only [List.length_append, List.length_singleton, length_uint16Bytes]
    omega
  · rw [List.mem_singleton.1 hv, length_readBytes]
    omega
  · split at hv
    · rw [List.mem_singleton.1 hv, length_uint16Bytes]
      decide
    · exact absurd hv List.not_mem_nil
  · split at hv
    · rw [List.mem_singleton.1 hv, length_readBytes]
      omega
    · exact absurd hv List.not_mem_nil

/-- The end of `sendPublishWithoutCopy`: the packet is stored, unless that fails, and sent. -/
theorem sendPublishWithoutCopy_spec (c : Config) (s : Sys) {info : PublishInfo}
    {header : List UInt8} {packetId : UInt16}
    (hlen : ∀ v ∈ header :: publishVectors info packetId, v.length < 2 ^ 28) :
    let sent := sendPublishWithoutCopy c s info header packetId
    ∃ store storeResults,
      sent.2 = { s with store, storeResults } ∧ sent.1 ≠ .success ∧ s.storeFunction = true ∨
      ∃ packet n stop,
        Sent { s with store, storeResults } sent.2 (.publish packetId info.qos) packet n stop ∧
          (sent.1 = .success ↔ stop = .complete) ∧ sent.1 ∈ [Status.success, .sendFailed] := by
  have hstored : ∃ status header' store storeResults,
      (if info.qos ≠ .qos0 ∧ s.storeFunction = true then
        storePublish s info header (publishVectors info packetId) packetId
      else (.success, header, s)) = (status, header', { s with store, storeResults }) ∧
      header'.length = header.length ∧ (status ≠ .success → s.storeFunction = true) := by
    split
    · rename_i hstore
      obtain ⟨hheader, store, storeResults, hs⟩ :=
        storePublish_spec s info header (publishVectors info packetId) packetId
      exact ⟨_, _, store, storeResults, Prod.ext rfl (Prod.ext rfl hs), hheader, fun _ => hstore.2⟩
    · exact ⟨_, header, s.store, s.storeResults, rfl, rfl, fun h => absurd rfl h⟩
  obtain ⟨status, header', store, storeResults, hs, hheader, hstore⟩ := hstored
  unfold sendPublishWithoutCopy
  dsimp only
  rw [hs]
  refine ⟨store, storeResults, ?_⟩
  dsimp only
  by_cases hfail : status ≠ .success
  · rw [if_pos hfail]
    exact .inl ⟨rfl, hfail, hstore hfail⟩
  · have hlen' : ∀ v ∈ header' :: publishVectors info packetId, v.length < 2 ^ 28 := by
      intro v hv
      rcases List.mem_cons.1 hv with rfl | hv
      · rw [hheader]
        exact hlen header (by simp)
      · exact hlen v (List.mem_cons_of_mem _ hv)
    have hcount : (publishVectors info packetId).length ≤ 3 := by
      unfold publishVectors
      split_ifs <;> simp
    have hsmall : (header' :: publishVectors info packetId).flatten.length < 2 ^ 31 := by
      have hflat := length_flatten_le fun v hv => Nat.le_of_lt (hlen' v hv)
      have hmul : (header' :: publishVectors info packetId).length * 2 ^ 28 ≤ 4 * 2 ^ 28 :=
        Nat.mul_le_mul_right _ (by rw [List.length_cons]; omega)
      omega
    obtain ⟨n, stop, hsent, hreturned⟩ := (sendMessageVector_spec c { s with store, storeResults }
      fun v hv => Nat.lt_trans (hlen' v hv) (by decide)).recordSent (.publish packetId info.qos)
    rw [if_neg hfail, int32Cast_eq hsmall]
    refine .inr ⟨_, n, stop, hsent, ?_, ?_⟩
    · rw [← hsent.result_eq_length hreturned]
      split
      · rename_i hall
        exact ⟨fun h => absurd h (by simp), fun h => absurd h hall⟩
      · rename_i hall
        exact ⟨fun _ => not_not.1 hall, fun _ => rfl⟩
    · split <;> simp

theorem mqttReserveState_incoming (t : PublishRecords) (packetId : UInt16) (qos : QoS) :
    (mqttReserveState t packetId qos).2.incomingPublishRecords = t.incomingPublishRecords := by
  unfold mqttReserveState
  split_ifs <;> rfl

theorem mqttUpdateStatePublish_incoming (t : PublishRecords) (packetId : UInt16) (qos : QoS) :
    (mqttUpdateStatePublish t packetId .send qos).2.2.incomingPublishRecords =
      t.incomingPublishRecords := by
  unfold mqttUpdateStatePublish updateStatePublish
  simp only [if_true, reduceCtorEq, if_false]
  split_ifs <;> rfl

theorem mqttRemoveStateRecord_incoming (t : PublishRecords) (packetId : UInt16) :
    (mqttRemoveStateRecord t packetId).2.incomingPublishRecords = t.incomingPublishRecords := by
  unfold mqttRemoveStateRecord
  dsimp only
  split_ifs <;> rfl

theorem untouched_setRecords {s : Sys} {t : PublishRecords}
    (h : t.incomingPublishRecords = s.incomingPublishRecords) : Untouched s (s.setRecords t) :=
  ⟨rfl, rfl, rfl, h⟩

theorem untouched_store (s : Sys) (store : UInt16 → Option (List UInt8))
    (storeResults : List Bool) : Untouched s { s with store, storeResults } :=
  ⟨rfl, rfl, rfl, rfl⟩

/-- `MQTT_Publish`: the record is reserved and the copy stored, the packet is sent, and the record
is updated. -/
theorem mqttPublish_outcome (c : Config) (s : Sys) (info : PublishInfo) (packetId : UInt16) :
    ∃ t store storeResults s₁ t', t.incomingPublishRecords = s.incomingPublishRecords ∧
      SendOutcome (.publish packetId info.qos) { s.setRecords t with store, storeResults } s₁ ∧
      t'.incomingPublishRecords = s.incomingPublishRecords ∧
      (mqttPublish c s (some info) packetId).2 = s₁.setRecords t' := by
  have hnone : ∀ t : PublishRecords, t.incomingPublishRecords = s.incomingPublishRecords →
      ∃ t₀ store storeResults s₁ t', t₀.incomingPublishRecords = s.incomingPublishRecords ∧
        SendOutcome (.publish packetId info.qos) { s.setRecords t₀ with store, storeResults } s₁ ∧
        t'.incomingPublishRecords = s.incomingPublishRecords ∧ s.setRecords t = s₁.setRecords t' :=
    fun t ht => ⟨t, s.store, s.storeResults, s.setRecords t, t, ht, .unsent rfl, ht, rfl⟩
  have hincoming := mqttReserveState_incoming s.toPublishRecords packetId info.qos
  have hpublish := mqttPublish_cases c s info packetId
  generalize mqttPublish c s (some info) packetId = published at hpublish
  cases hpublish with
  | rejected => exact hnone s.toPublishRecords rfl
  | unreserved => exact hnone _ hincoming
  | reserved hchecks =>
    generalize (mqttReserveState s.toPublishRecords packetId info.qos).2 = t at hincoming
    unfold publishReserved
    dsimp only
    obtain ⟨store, storeResults, ⟨hsent, hfail, -⟩ | ⟨packet, n, stop, hsent, -, -⟩⟩ :=
      sendPublishWithoutCopy_spec c (s.setRecords t) (length_publishVectors_lt hchecks.size packetId)
    · rw [if_neg fun h => hfail h.1, hsent]
      exact ⟨t, store, storeResults, _, t, hincoming, .unsent rfl, hincoming, rfl⟩
    · have hrecords := congrArg PublishRecords.incomingPublishRecords hsent.records
      have houtcome : SendOutcome (.publish packetId info.qos)
          { s.setRecords t with store, storeResults } _ :=
        .sent packet n stop hchecks.connected hsent
      split
      · exact ⟨t, store, storeResults, _, _, hincoming, houtcome,
          (mqttUpdateStatePublish_incoming _ _ _).trans (hrecords.trans hincoming), rfl⟩
      · exact ⟨t, store, storeResults, _, _, hincoming, houtcome,
          hrecords.trans hincoming, rfl⟩

theorem mqttPublish_requests (c : Config) (s : Sys) (pPublishInfo : Option PublishInfo)
    (packetId : UInt16) : Requests s (mqttPublish c s pPublishInfo packetId).2 := by
  cases pPublishInfo with
  | none => exact .refl
  | some info =>
    obtain ⟨t, store, storeResults, s₁, t', ht, houtcome, ht', heq⟩ :=
      mqttPublish_outcome c s info packetId
    have hincoming : s₁.incomingPublishRecords = s.incomingPublishRecords := by
      cases houtcome with
      | unsent h => rw [h]; exact ht
      | sent packet n stop _ hsent =>
        exact (congrArg PublishRecords.incomingPublishRecords hsent.records).trans ht
    rw [heq]
    exact houtcome.requests trivial ((untouched_setRecords ht).trans (untouched_store _ _ _))
      (untouched_setRecords (ht'.trans hincoming.symm))

/-! ## Other requests -/

theorem mqttPing_outcome (c : Config) (s : Sys) :
    ∃ s₁ pingReqSendTimeMs waitingForPingResp, SendOutcome .pingreq s s₁ ∧
      (mqttPing c s).2 = { s₁ with pingReqSendTimeMs, waitingForPingResp } := by
  unfold mqttPing
  split
  · exact ⟨s, _, _, .unsent rfl, rfl⟩
  · rename_i hconn
    obtain ⟨n, stop, hsent, -⟩ := sendPacket_spec c s .pingreq mqttSerializePingreq
    have houtcome := SendOutcome.sent _ n stop (not_not.1 hconn) hsent
    dsimp only
    split
    · exact ⟨_, _, _, houtcome, rfl⟩
    · exact ⟨_, _, _, houtcome, rfl⟩

theorem mqttPing_requests (c : Config) (s : Sys) : Requests s (mqttPing c s).2 := by
  obtain ⟨s₁, pingReqSendTimeMs, waitingForPingResp, houtcome, heq⟩ := mqttPing_outcome c s
  rw [heq]
  exact houtcome.requests trivial (.refl s) ⟨rfl, rfl, rfl, rfl⟩

/-- `MQTT_Disconnect`: nothing, or the status and the buffer reset and the packet sent. -/
theorem mqttDisconnect_outcome (c : Config) (s : Sys) :
    s.connectStatus = .notConnected ∧ (mqttDisconnect c s).2 = s ∨
      s.connectStatus ≠ .notConnected ∧ ∃ n stop,
        Sent { s with connectStatus := .notConnected }.clearBuffer (mqttDisconnect c s).2
          .disconnect mqttSerializeDisconnect n stop := by
  unfold mqttDisconnect
  split
  · rename_i hconn
    exact .inl ⟨hconn, rfl⟩
  · rename_i hconn
    obtain ⟨n, stop, hsent, -⟩ := sendPacket_spec c
      { s with connectStatus := .notConnected }.clearBuffer .disconnect mqttSerializeDisconnect
    exact .inr ⟨hconn, n, stop, hsent⟩

theorem mqttDisconnect_requests (c : Config) (s : Sys) : Requests s (mqttDisconnect c s).2 := by
  rcases mqttDisconnect_outcome c s with ⟨-, heq⟩ | ⟨hconn, n, stop, hsent⟩
  · rw [heq]
    exact .refl
  · exact .single (.disconnect n stop hconn hsent)

theorem mqttCancelCallback_requests (s : Sys) (packetId : UInt16) :
    Requests s (mqttCancelCallback s packetId).2 := by
  unfold mqttCancelCallback
  split
  · exact .refl
  · exact Requests.quiet (untouched_setRecords (mqttRemoveStateRecord_incoming _ _))

/-- The calls that an application makes from its callback are requests. -/
theorem SendCall.requests (c : Config) (s : Sys) (call : SendCall) : Requests s (call.run c s) := by
  cases call with
  | publish info packetId => exact mqttPublish_requests c s info packetId
  | subscribe list packetId => exact mqttSubscribe_requests c s list packetId
  | unsubscribe list packetId => exact mqttUnsubscribe_requests c s list packetId
  | ping => exact mqttPing_requests c s
  | disconnect => exact mqttDisconnect_requests c s
  | cancelCallback packetId => exact mqttCancelCallback_requests s packetId
  | getPacketId => exact Requests.quiet ⟨rfl, rfl, rfl, rfl⟩

/-- The application callback: its event, and requests. -/
theorem appCallback_requests (c : Config) (s : Sys) (packet : PacketInfo)
    (info : DeserializedInfo) :
    Requests (s.record (.callback packet info)) (appCallback c s packet info) := by
  have hfold : ∀ (calls : List SendCall) (s : Sys),
      Requests s (calls.foldl (SendCall.run c) s) := by
    intro calls
    induction calls with
    | nil => exact fun s => .refl
    | cons call calls ih => exact fun s => (call.requests c s).trans (ih _)
  unfold appCallback
  dsimp only
  refine .trans ?_ (hfold _ _)
  exact Requests.quiet ⟨rfl, rfl, rfl, rfl⟩

end FreeMqtt
