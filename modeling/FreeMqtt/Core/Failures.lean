import FreeMqtt.Core.Callback
import FreeMqtt.Core.ConnectSpec

/-!
# Negative results of the transport

Every function that sends or receives on a connection passes a negative result of the transport to
`networkError`, so a connected context does not stay connected (`Consumes`). The functions that read
a CONNACK do not: they fail instead.
-/

namespace FreeMqtt

/-- The results that were taken from a schedule. -/
def usedUp (results rest : List Int) : List Int := results.take (results.length - rest.length)

theorem usedUp_append (used rest : List Int) : usedUp (used ++ rest) rest = used := by
  simp [usedUp]

/-- Whether the transport returned a negative result between two contexts. -/
def negativeResult (s s' : Sys) : Bool :=
  (usedUp s.sends s'.sends ++ usedUp s.recvs s'.recvs).any (· < 0)

/-- `s'` is `s` after results of the transport were taken, and is not connected when one of them was
negative. -/
def Consumes (s s' : Sys) : Prop :=
  ∃ sent recvd, s.sends = sent ++ s'.sends ∧ s.recvs = recvd ++ s'.recvs ∧
    (∀ r ∈ sent ++ recvd, r < 0 → s'.connectStatus ≠ .connected) ∧
    s'.connectStatus.level ≤ s.connectStatus.level

theorem Consumes.not_connected {s s' : Sys} (h : Consumes s s') (hneg : negativeResult s s' = true) :
    s'.connectStatus ≠ .connected := by
  obtain ⟨sent, recvd, hsends, hrecvs, hconn, -⟩ := h
  unfold negativeResult at hneg
  rw [hsends, hrecvs, usedUp_append, usedUp_append, List.any_eq_true] at hneg
  obtain ⟨r, hr, hlt⟩ := hneg
  exact hconn r hr (of_decide_eq_true hlt)

theorem Consumes.of_eq {s s' : Sys} (hsends : s'.sends = s.sends) (hrecvs : s'.recvs = s.recvs)
    (hlevel : s'.connectStatus.level ≤ s.connectStatus.level) : Consumes s s' :=
  ⟨[], [], by simp [hsends], by simp [hrecvs], by simp, hlevel⟩

theorem Consumes.refl (s : Sys) : Consumes s s := .of_eq rfl rfl (Nat.le_refl _)

theorem Consumes.trans {s s' s'' : Sys} (h : Consumes s s') (h' : Consumes s' s'') :
    Consumes s s'' := by
  obtain ⟨sent, recvd, hsends, hrecvs, hconn, hlevel⟩ := h
  obtain ⟨sent', recvd', hsends', hrecvs', hconn', hlevel'⟩ := h'
  refine ⟨sent ++ sent', recvd ++ recvd', ?_, ?_, ?_, hlevel'.trans hlevel⟩
  · rw [hsends, hsends', List.append_assoc]
  · rw [hrecvs, hrecvs', List.append_assoc]
  · intro r hr hneg
    have hor : r ∈ sent ++ recvd ∨ r ∈ sent' ++ recvd' := by
      simp only [List.mem_append] at hr ⊢
      tauto
    rcases hor with hr | hr
    · exact ne_connected_of_level_le hlevel' (hconn r hr hneg)
    · exact hconn' r hr hneg

theorem consumes_getTime (s : Sys) : Consumes s (getTime s).2 := .of_eq rfl rfl (Nat.le_refl _)

theorem consumes_setRecords (s : Sys) (t : PublishRecords) : Consumes s (s.setRecords t) :=
  .of_eq rfl rfl (Nat.le_refl _)

theorem consumes_record (s : Sys) (e : Event) : Consumes s (s.record e) :=
  .of_eq rfl rfl (Nat.le_refl _)

/-! ## Sending -/

/-- One iteration of a send loop. -/
theorem consumes_afterSend (s : Sys) (offered : List UInt8) (bytesSent : Int) :
    Consumes s (afterSend bytesSent (transportSend s offered).1 (transportSend s offered).2).2 := by
  unfold transportSend
  cases hsends : s.sends with
  | nil =>
    dsimp only
    unfold afterSend
    split
    · exact .of_eq hsends.symm rfl (Nat.le_refl _)
    split
    · omega
    · exact .of_eq hsends.symm rfl (Nat.le_refl _)
  | cons result sends =>
    dsimp only
    split
    · rename_i hneg
      rw [afterSend, if_neg (by omega), if_pos hneg]
      exact ⟨[result], [], hsends, rfl, fun _ _ _ => networkError_not_connected _,
        (received_networkError { s with sends }).status⟩
    · rename_i hnonneg
      have hused : ∀ s' : Sys, s'.sends = sends → s'.recvs = s.recvs →
          s'.connectStatus = s.connectStatus → Consumes s s' := by
        intro s' hs' hr' hc'
        refine ⟨[result], [], by rw [hsends, hs']; rfl, by rw [hr']; rfl, ?_, by rw [hc']⟩
        intro r hr hlt
        rw [List.append_nil, List.mem_singleton] at hr
        omega
      unfold afterSend
      split
      · exact hused _ rfl rfl rfl
      split
      · omega
      · exact hused _ rfl rfl rfl

theorem consumes_sendBuffer (c : Config) (s : Sys) (buffer : List UInt8) :
    Consumes s (sendBuffer c s buffer).2 := by
  have hloop : ∀ (startTime : UInt32) (bytesToSend fuel : Nat) (rest : List UInt8)
      (bytesSent : Int) (s : Sys),
      Consumes s (sendBufferLoop c startTime bytesToSend fuel rest bytesSent s).2 := by
    intro startTime bytesToSend fuel
    induction fuel with
    | zero => exact fun _ _ s => .refl s
    | succ fuel ih =>
      intro rest bytesSent s
      have hsent := (consumes_afterSend s rest bytesSent).trans (consumes_getTime _)
      unfold sendBufferLoop
      dsimp only
      split
      · split
        · exact hsent
        · exact hsent.trans (ih ..)
      · exact .refl s
  exact (consumes_getTime s).trans (hloop ..)

theorem consumes_sendMessageVector (c : Config) (s : Sys) (pIoVec : List (List UInt8)) :
    Consumes s (sendMessageVector c s pIoVec).2 := by
  have hloop : ∀ (startTime : UInt32) (bytesToSend fuel : Nat) (vectors : List (List UInt8))
      (bytesSent : Int) (s : Sys),
      Consumes s (sendMessageVectorLoop c startTime bytesToSend fuel vectors bytesSent s).2 := by
    intro startTime bytesToSend fuel
    induction fuel with
    | zero => exact fun _ _ s => .refl s
    | succ fuel ih =>
      intro vectors bytesSent s
      have hsent := fun offered =>
        (consumes_afterSend s offered bytesSent).trans (consumes_getTime _)
      unfold sendMessageVectorLoop
      dsimp only
      generalize (if s.writev then vectors.flatten else vectors.headD []) = offered
      split
      · split
        · exact hsent offered
        · exact (hsent offered).trans (ih ..)
      · exact .refl s
  exact (consumes_getTime s).trans (hloop ..)

theorem consumes_sendPacket (c : Config) (s : Sys) (kind : PacketKind) (packet : List UInt8) :
    Consumes s (sendPacket c s kind packet).2 :=
  (consumes_sendBuffer c s packet).trans (consumes_record _ _)

theorem consumes_sendPublishAcks (c : Config) (s : Sys) (packetId : UInt16) (state : PublishState) :
    Consumes s (sendPublishAcks c s packetId state).2 := by
  have hsent := fun kind packet => consumes_sendPacket c s kind packet
  unfold sendPublishAcks
  dsimp only
  split
  · exact .refl s
  split
  · exact .refl s
  split
  · exact .refl s
  split
  · exact hsent _ _
  · exact (hsent _ _).trans (.of_eq rfl rfl (Nat.le_refl _))

theorem consumes_sendTopicPacket (c : Config) (s : Sys) (kind : PacketKind) (header : List UInt8)
    (perTopic : Nat) (topicVectors : SubscribeInfo → List (List UInt8))
    (subscriptions : List SubscribeInfo) :
    Consumes s (sendTopicPacket c s kind header perTopic topicVectors subscriptions).2 := by
  have hloop : ∀ (fuel : Nat) (subscriptions : List SubscribeInfo) (pIoVector : List (List UInt8))
      (s : Sys) (result : Int),
      Consumes s (sendTopics c perTopic topicVectors fuel subscriptions pIoVector s result).2.1 := by
    intro fuel
    induction fuel with
    | zero => exact fun _ _ s _ => .refl s
    | succ fuel ih =>
      intro subscriptions pIoVector s result
      unfold sendTopics
      dsimp only
      split
      · exact .refl s
      have hsent := consumes_sendMessageVector c s
        (fillVectors c perTopic topicVectors subscriptions pIoVector).1
      split
      · exact hsent
      · exact hsent.trans (ih ..)
  exact (hloop ..).trans (consumes_record _ _)

theorem consumes_sendPublishWithoutCopy (c : Config) (s : Sys) (info : PublishInfo)
    (header : List UInt8) (packetId : UInt16) :
    Consumes s (sendPublishWithoutCopy c s info header packetId).2 := by
  have hstored : Consumes s (if info.qos ≠ .qos0 ∧ s.storeFunction = true then
      storePublish s info header (publishVectors info packetId) packetId
      else (.success, header, s)).2.2 := by
    split
    · obtain ⟨-, store, storeResults, hs⟩ :=
        storePublish_spec s info header (publishVectors info packetId) packetId
      rw [hs]
      exact .of_eq rfl rfl (Nat.le_refl _)
    · exact .refl s
  unfold sendPublishWithoutCopy
  dsimp only
  generalize (if info.qos ≠ .qos0 ∧ s.storeFunction = true then
    storePublish s info header (publishVectors info packetId) packetId
    else (.success, header, s)) = stored at hstored ⊢
  split
  · exact hstored
  · exact (hstored.trans (consumes_sendMessageVector ..)).trans (consumes_record _ _)

theorem consumes_mqttPublish (c : Config) (s : Sys) (info : Option PublishInfo)
    (packetId : UInt16) : Consumes s (mqttPublish c s info packetId).2 := by
  cases info with
  | none => exact .refl s
  | some info =>
    have hreserved := consumes_setRecords s (mqttReserveState s.toPublishRecords packetId info.qos).2
    have houtcome := mqttPublish_cases c s info packetId
    generalize mqttPublish c s (some info) packetId = published at houtcome
    cases houtcome with
    | rejected => exact .refl s
    | unreserved => exact hreserved
    | reserved =>
      have hsent := hreserved.trans (consumes_sendPublishWithoutCopy c _ info
        (mqttSerializePublishHeaderWithoutTopic info (mqttGetPublishPacketSize info).2.1).1 packetId)
      unfold publishReserved
      dsimp only
      split
      · exact hsent.trans (consumes_setRecords _ _)
      · exact hsent

/-- A request of the application. -/
theorem SendCall.consumes (c : Config) (s : Sys) (call : SendCall) :
    Consumes s (call.run c s) := by
  cases call with
  | publish info packetId => exact consumes_mqttPublish c s info packetId
  | subscribe list packetId =>
    show Consumes s (mqttSubscribe c s list packetId).2
    unfold mqttSubscribe
    dsimp only
    split_ifs
    · exact .refl s
    · exact .refl s
    · exact .refl s
    · exact consumes_sendTopicPacket ..
  | unsubscribe list packetId =>
    show Consumes s (mqttUnsubscribe c s list packetId).2
    unfold mqttUnsubscribe
    dsimp only
    split_ifs
    · exact .refl s
    · exact .refl s
    · exact .refl s
    · exact consumes_sendTopicPacket ..
  | ping =>
    show Consumes s (mqttPing c s).2
    unfold mqttPing
    dsimp only
    split
    · exact .refl s
    split
    · exact consumes_sendPacket ..
    · exact (consumes_sendPacket ..).trans (.of_eq rfl rfl (Nat.le_refl _))
  | disconnect =>
    show Consumes s (mqttDisconnect c s).2
    unfold mqttDisconnect
    split
    · exact .refl s
    · have hreset : Consumes s { s with connectStatus := .notConnected }.clearBuffer :=
        .of_eq rfl rfl (Nat.zero_le _)
      exact hreset.trans (consumes_sendPacket c _ .disconnect mqttSerializeDisconnect)
  | cancelCallback packetId =>
    show Consumes s (mqttCancelCallback s packetId).2
    unfold mqttCancelCallback
    dsimp only
    split
    · exact .refl s
    · exact consumes_setRecords _ _
  | getPacketId => exact .of_eq rfl rfl (Nat.le_refl _)

/-! ## Receiving -/

/-- A result of `recv`: the results that are taken, and what they say about the one returned. -/
theorem transportRecv_used (s : Sys) (bytesToRecv : Nat) :
    ∃ used, s.recvs = used ++ (transportRecv s bytesToRecv).2.2.recvs ∧
      (transportRecv s bytesToRecv).2.2.sends = s.sends ∧
      (transportRecv s bytesToRecv).2.2.connectStatus = s.connectStatus ∧
      (0 ≤ (transportRecv s bytesToRecv).1 → ∀ r ∈ used, 0 ≤ r) := by
  unfold transportRecv
  cases hrecvs : s.recvs with
  | nil => exact ⟨[], by simp, rfl, rfl, by simp⟩
  | cons result recvs =>
    dsimp only
    split
    · rename_i hneg
      exact ⟨[result], rfl, rfl, rfl, fun h => absurd hneg (Int.not_lt.2 h)⟩
    · rename_i hneg
      refine ⟨[result], rfl, rfl, rfl, fun _ r hr => ?_⟩
      rw [List.mem_singleton] at hr
      omega

/-- A result of `recv` that `networkError` is told about when it is negative. -/
theorem consumes_recv (s : Sys) (bytesToRecv : Nat) (s' : Sys)
    (hsends : s'.sends = (transportRecv s bytesToRecv).2.2.sends)
    (hrecvs : s'.recvs = (transportRecv s bytesToRecv).2.2.recvs)
    (hconn : s'.connectStatus = (transportRecv s bytesToRecv).2.2.connectStatus) :
    ((transportRecv s bytesToRecv).1 < 0 → Consumes s (networkError s')) ∧
      (¬ (transportRecv s bytesToRecv).1 < 0 → Consumes s s') := by
  obtain ⟨used, hused, hsame, hstatus, hnonneg⟩ := transportRecv_used s bytesToRecv
  have hlevel : s'.connectStatus = s.connectStatus := hconn.trans hstatus
  constructor
  · intro _
    refine ⟨[], used, by rw [List.nil_append, ← hsame, ← hsends]; rfl, by rw [hused, ← hrecvs]; rfl,
      fun _ _ _ => networkError_not_connected s', ?_⟩
    rw [← hlevel]
    exact (received_networkError s').status
  · intro hneg
    refine ⟨[], used, by rw [List.nil_append, ← hsame, ← hsends], by rw [hused, ← hrecvs],
      fun r hr hlt => ?_, by rw [hlevel]⟩
    exact absurd hlt (Int.not_lt.2 (hnonneg (Int.not_lt.1 hneg) r hr))

theorem consumes_recvExact (c : Config) (s : Sys) (bytesToRecv : Nat) :
    Consumes s (recvExact c s bytesToRecv).2 := by
  have hloop : ∀ (fuel offset bytesRemaining : Nat) (total : Int) (last : UInt32) (s : Sys),
      Consumes s (recvExactLoop c fuel offset bytesRemaining total last s).2 := by
    intro fuel
    induction fuel with
    | zero => exact fun _ _ _ _ s => .refl s
    | succ fuel ih =>
      intro offset bytesRemaining total last s
      obtain ⟨hfailed, hread⟩ := consumes_recv s bytesRemaining
        { (transportRecv s bytesRemaining).2.2 with
          networkBuffer := writeAt (transportRecv s bytesRemaining).2.2.networkBuffer offset
            (transportRecv s bytesRemaining).2.1 } rfl rfl rfl
      unfold recvExactLoop
      dsimp only
      split
      · split
        · rename_i hneg
          exact hfailed hneg
        rename_i hneg
        have hclock := (hread hneg).trans (consumes_getTime _)
        split
        · exact hclock.trans (ih ..)
        split
        · exact hclock
        · exact hclock.trans (ih ..)
      · exact .refl s
  exact (consumes_getTime s).trans (hloop ..)

theorem consumes_discardStoredPacket (c : Config) (s : Sys) (packet : PacketInfo) :
    Consumes s (discardStoredPacket c s packet).2 := by
  have hloop : ∀ (remaining fuel bytesToReceive total : Nat) (s : Sys),
      Consumes s (discardStoredLoop c remaining fuel bytesToReceive total s).2 := by
    intro remaining fuel
    induction fuel with
    | zero => exact fun _ _ s => .refl s
    | succ fuel ih =>
      intro bytesToReceive total s
      unfold discardStoredLoop
      dsimp only
      split
      · split
        · exact consumes_recvExact c s _
        · exact (consumes_recvExact c s _).trans (ih ..)
      · exact .refl s
  exact (hloop ..).trans (.of_eq rfl rfl (Nat.le_refl _))

theorem consumes_readIntoBuffer (c : Config) (s : Sys) :
    Consumes s (readIntoBuffer c s).2.2.2 := by
  have hrecv := consumes_recv s (c.sizeSub s.networkBuffer.length s.index)
  unfold readIntoBuffer
  dsimp only
  split
  · rename_i hneg
    exact (hrecv _ rfl rfl rfl).1 hneg
  rename_i hneg
  split
  · exact (hrecv _ rfl rfl rfl).2 hneg
  · exact (hrecv _ rfl rfl rfl).2 hneg

theorem SilentOutcome.consumes {c : Config} {s : Sys} {packet : PacketInfo}
    {result : Status × Sys} (h : SilentOutcome c s packet result) : Consumes s result.2 := by
  cases h with
  | refused _ => exact .refl s
  | pingresp => exact .of_eq rfl rfl (Nat.le_refl _)
  | publish qos packetId _ _ => exact consumes_setRecords _ _
  | duplicate qos packetId _ =>
    exact (consumes_setRecords _ _).trans (consumes_sendPublishAcks ..)
  | ack packetId _ _ => exact consumes_setRecords _ _

end FreeMqtt
