import FreeMqtt.Core.PublishPaths
import FreeMqtt.Core.SendSteps
import FreeMqtt.Core.Stream
import FreeMqtt.Core.TopicBatches

/-!
# The calls of a callback

Whether the calls that an application makes from its callback send anything is decided by their
checks, and by the next results of the transport (`SendCall.Transmits`). While the clock stands still
the time of the last packet says the same: it stays as it is, or becomes the time of the clock
(`foldl_run_unsent`, `foldl_run_transmits`).
-/

namespace FreeMqtt

/-! ## The time of the last packet -/

/-- The time since the last packet was sent. -/
def sinceTransmit (now : UInt32) (s : Sys) : Nat :=
  (calculateElapsedTime now s.lastPacketTxTime).toNat

/-- While the clock shows `now`, the time of the last packet stays or becomes `now`. -/
def Stamped (now : UInt32) (s s' : Sys) : Prop :=
  (∀ n, s.clock n = now) → (∀ n, s'.clock n = now) ∧
    (s'.lastPacketTxTime = s.lastPacketTxTime ∨ s'.lastPacketTxTime = now)

section Stamps

variable {now : UInt32} {s s' s'' : Sys}

theorem sinceTransmit_now (h : s.lastPacketTxTime = now) : sinceTransmit now s = 0 := by
  unfold sinceTransmit calculateElapsedTime
  rw [h, UInt32.sub_self]
  rfl

theorem Stamped.of_eq (hclock : s'.clock = s.clock)
    (htime : s'.lastPacketTxTime = s.lastPacketTxTime) : Stamped now s s' := by
  intro h
  rw [hclock]
  exact ⟨h, .inl htime⟩

theorem Stamped.trans (h : Stamped now s s') (h' : Stamped now s' s'') : Stamped now s s'' := by
  intro hclock
  obtain ⟨hclock', htime⟩ := h hclock
  obtain ⟨hclock'', htime'⟩ := h' hclock'
  refine ⟨hclock'', ?_⟩
  rcases htime' with htime' | htime'
  · rw [htime']
    exact htime
  · exact .inr htime'

/-- When the interval is over at the end, nothing was sent. -/
theorem Stamped.unsent (h : Stamped now s s') (hclock : ∀ n, s.clock n = now)
    (hlate : 0 < sinceTransmit now s') : s'.lastPacketTxTime = s.lastPacketTxTime := by
  rcases (h hclock).2 with htime | htime
  · exact htime
  · rw [sinceTransmit_now htime] at hlate
    exact absurd hlate (Nat.lt_irrefl 0)

theorem stamped_preorder (now : UInt32) : SendPreorder (Stamped now) where
  refl _ := .of_eq rfl rfl
  trans := .trans
  clock _ := .of_eq rfl rfl
  error _ := .of_eq rfl rfl
  send s offered := by
    obtain ⟨sends, wire, heq⟩ := transportSend_kept s offered
    rw [heq]
    exact .of_eq rfl rfl
  stamp s hclock := ⟨hclock, .inr (hclock s.ticks)⟩
  record _ _ _ _ _ := .of_eq rfl rfl
  context _ _ _ _ _ _ := .of_eq rfl rfl

theorem mqttPing_stamps (c : Config) (s : Sys) : Stamped now s (mqttPing c s).2 :=
  (stamped_preorder now).mqttPing c (fun _ _ _ => .of_eq rfl rfl) s

theorem sendCall_stamps (c : Config) (s : Sys) (call : SendCall) : Stamped now s (call.run c s) := by
  by_cases hcall : call = .disconnect
  · subst hcall
    exact (stamped_preorder now).mqttDisconnect c (fun _ => .of_eq rfl rfl) s
  · exact (stamped_preorder now).request c (mqttPing_stamps c) s hcall

/-- A time that is the present one stays. -/
theorem Stamped.stays (h : Stamped now s s') (hclock : ∀ n, s.clock n = now)
    (hnow : s.lastPacketTxTime = now) : s'.lastPacketTxTime = now := by
  rcases (h hclock).2 with hkept | hnow'
  · exact hkept.trans hnow
  · exact hnow'

end Stamps

/-! ## What comes to the transport -/

/-- `MQTT_Subscribe` or `MQTT_Unsubscribe` passes its checks. -/
structure SendsTopics (c : Config) (s : Sys) (type : SubscriptionType)
    (list : Option (List SubscribeInfo)) (packetId : UInt16) : Prop where
  valid : validateSubscribeUnsubscribeParams s list packetId = .success
  size : (getTopicPacketSize c.sizeBits list type).1 = .success
  connected : s.connectStatus = .connected

/-- A call has a packet for the transport. -/
def SendCall.HandsOver (c : Config) (s : Sys) : SendCall → Prop
  | .publish info packetId => ∃ i ∈ info, FreeMqtt.HandsOver s i packetId
  | .subscribe list packetId => SendsTopics c s .subscribe list packetId
  | .unsubscribe list packetId => SendsTopics c s .unsubscribe list packetId
  | .ping => s.connectStatus = .connected
  | .disconnect => s.connectStatus ≠ .notConnected
  | .cancelCallback _ | .getPacketId => False

/-- `sendBuffer` sends the packet of a call, and not `sendMessageVector`. -/
def SendCall.Buffered : SendCall → Prop
  | .ping | .disconnect => True
  | _ => False

/-- The transport takes a byte of what it is offered before it fails. A zero is the end when
`zeroEnds` is set. -/
def TakesByte (zeroEnds : Prop) : List Int → Prop
  | [] => True
  | result :: sends => 0 < result ∨ result = 0 ∧ ¬ zeroEnds ∧ TakesByte zeroEnds sends

/-- A byte of the packet of a call is sent. `sendBuffer` does not ask again without a timeout. -/
def SendCall.Transmits (c : Config) (s : Sys) (call : SendCall) : Prop :=
  call.HandsOver c s ∧ TakesByte (call.Buffered ∧ c.sendTimeoutMs = 0) s.sends

/-- A byte is sent for one of these calls, which are made one after the other. -/
def SomeTransmits (c : Config) : Sys → List SendCall → Prop
  | _, [] => False
  | s, call :: calls => call.Transmits c s ∨ SomeTransmits c (call.run c s) calls

/-! ## The send loops -/

section Loops

variable (c : Config) {now : UInt32} {s : Sys} {offered : List UInt8} {zeroEnds : Prop}

/-- The transport accepts a byte, or it returns zero and may be asked again. -/
theorem transportSend_takes (h : TakesByte zeroEnds s.sends) (hoffered : offered ≠ []) :
    0 < (transportSend s offered).1 ∨ ¬ zeroEnds ∧ s.sends ≠ [] ∧ TakesByte zeroEnds s.sends.tail ∧
      transportSend s offered = (0, { s with sends := s.sends.tail }) := by
  have hlength := List.length_pos_of_ne_nil hoffered
  unfold transportSend
  cases hsends : s.sends with
  | nil => exact .inl (Int.natCast_pos.2 hlength)
  | cons result sends =>
    rw [hsends] at h
    rcases h with hpos | ⟨rfl, hends, hrest⟩
    · left
      dsimp only
      rw [if_neg (by omega), List.length_take]
      show (0 : Int) < (min result.toNat offered.length : Nat)
      omega
    · exact .inr ⟨hends, by simp, hrest, by simp⟩

/-- The transport fails, or it returns zero and is not asked again in vain. -/
theorem transportSend_refuses (h : ¬ TakesByte zeroEnds s.sends) (offered : List UInt8) :
    ((transportSend s offered).1 < 0 ∧
        (transportSend s offered).2 = { s with sends := s.sends.tail }) ∨
      (¬ zeroEnds → ¬ TakesByte zeroEnds s.sends.tail) ∧
        transportSend s offered = (0, { s with sends := s.sends.tail }) := by
  unfold transportSend
  cases hsends : s.sends with
  | nil =>
    rw [hsends] at h
    exact absurd trivial h
  | cons result sends =>
    rw [hsends] at h
    by_cases hneg : result < 0
    · dsimp only
      rw [if_pos hneg]
      exact .inl ⟨hneg, rfl⟩
    · obtain rfl : result = 0 := by
        by_contra hne
        exact h (.inl (by omega))
      exact .inr ⟨fun hends hrest => h (.inr ⟨rfl, hends, hrest⟩), by simp⟩

theorem afterSend_stamps {result : Int} (h : 0 < result) (bytesSentOrError : Int) (s : Sys) :
    (afterSend bytesSentOrError result s).2.lastPacketTxTime = s.clock s.ticks := by
  unfold afterSend
  rw [if_pos h]
  rfl

theorem afterSend_refused {result : Int} (h : result ≤ 0) (s : Sys) :
    afterSend 0 result s = (result, if result < 0 then networkError s else s) := by
  unfold afterSend
  rw [if_neg (by omega)]
  split
  · rfl
  · rw [show result = 0 by omega]

theorem sendMessageVectorLoop_negative (startTime : UInt32) (total fuel : Nat)
    (vectors : List (List UInt8)) {bytesSentOrError : Int} (h : bytesSentOrError < 0) :
    sendMessageVectorLoop c startTime total fuel vectors bytesSentOrError s =
      (bytesSentOrError, s) := by
  cases fuel with
  | zero => rfl
  | succ fuel =>
    unfold sendMessageVectorLoop
    exact if_neg fun hmore => absurd hmore.2 (by omega)

theorem sendBufferLoop_negative (startTime : UInt32) (total fuel : Nat) (rest : List UInt8)
    {bytesSentOrError : Int} (h : bytesSentOrError < 0) :
    sendBufferLoop c startTime total fuel rest bytesSentOrError s = (bytesSentOrError, s) := by
  cases fuel with
  | zero => rfl
  | succ fuel =>
    unfold sendBufferLoop
    exact if_neg fun hmore => absurd hmore.2 (by omega)

/-- A transport that takes no byte leaves the time of the last packet. -/
theorem sendMessageVectorLoop_refused (startTime : UInt32) (hends : ¬ zeroEnds)
    (h : ¬ TakesByte zeroEnds s.sends) {total fuel : Nat} {vectors : List (List UInt8)} :
    let sent := sendMessageVectorLoop c startTime total fuel vectors 0 s
    sent.1 ≤ 0 ∧ sent.2.lastPacketTxTime = s.lastPacketTxTime := by
  induction fuel generalizing vectors s with
  | zero => exact ⟨Int.le_refl 0, rfl⟩
  | succ fuel ih =>
    unfold sendMessageVectorLoop
    dsimp only
    generalize (if s.writev then vectors.flatten else vectors.headD []) = offered
    split
    swap
    · exact ⟨Int.le_refl 0, rfl⟩
    rcases transportSend_refuses h offered with ⟨hneg, heq⟩ | ⟨hrest, heq⟩
    · rw [afterSend_refused (Int.le_of_lt hneg), if_pos hneg, heq]
      split
      · exact ⟨Int.le_of_lt hneg, rfl⟩
      · rw [sendMessageVectorLoop_negative c _ _ _ _ hneg]
        exact ⟨Int.le_of_lt hneg, rfl⟩
    · rw [heq, afterSend_refused (Int.le_refl 0), if_neg (Int.lt_irrefl 0)]
      split
      · exact ⟨Int.le_refl 0, rfl⟩
      · exact ih (s := (getTime { s with sends := s.sends.tail }).2) (hrest hends)

theorem sendBufferLoop_refused (startTime : UInt32) (hends : zeroEnds ↔ c.sendTimeoutMs = 0)
    (h : ¬ TakesByte zeroEnds s.sends) {total fuel : Nat} {rest : List UInt8} :
    let sent := sendBufferLoop c startTime total fuel rest 0 s
    sent.1 ≤ 0 ∧ sent.2.lastPacketTxTime = s.lastPacketTxTime := by
  induction fuel generalizing rest s with
  | zero => exact ⟨Int.le_refl 0, rfl⟩
  | succ fuel ih =>
    unfold sendBufferLoop
    dsimp only
    split
    swap
    · exact ⟨Int.le_refl 0, rfl⟩
    rcases transportSend_refuses h rest with ⟨hneg, heq⟩ | ⟨hrest, heq⟩
    · rw [afterSend_refused (Int.le_of_lt hneg), if_pos hneg, heq]
      split
      · exact ⟨Int.le_of_lt hneg, rfl⟩
      · rw [sendBufferLoop_negative c _ _ _ _ hneg]
        exact ⟨Int.le_of_lt hneg, rfl⟩
    · rw [heq, afterSend_refused (Int.le_refl 0), if_neg (Int.lt_irrefl 0)]
      split
      · exact ⟨Int.le_refl 0, rfl⟩
      · rename_i htime
        have hagain : ¬ zeroEnds := fun hzero => htime (by
          rw [hends.1 hzero]
          exact Nat.zero_le _)
        exact ih (s := (getTime { s with sends := s.sends.tail }).2) (hrest hagain)

/-- A transport that takes a byte sets the time of the last packet. -/
theorem sendMessageVectorLoop_takes (hclock : ∀ n, s.clock n = now)
    (h : TakesByte zeroEnds s.sends) {total fuel : Nat} (htotal : 0 < int32Cast total)
    {v : List UInt8} (hv : v ≠ []) (hlen : v.length < 2 ^ 31) (vectors : List (List UInt8))
    (hfuel : s.sends.length < fuel) :
    (sendMessageVectorLoop c now total fuel (v :: vectors) 0 s).2.lastPacketTxTime = now := by
  induction fuel generalizing s with
  | zero => exact absurd hfuel (Nat.not_lt_zero _)
  | succ fuel ih =>
    have hoffered : (if s.writev then (v :: vectors).flatten else (v :: vectors).headD []) ≠ [] := by
      split
      · simp [hv]
      · exact hv
    unfold sendMessageVectorLoop
    dsimp only
    generalize (if s.writev then (v :: vectors).flatten else (v :: vectors).headD []) = offered
      at hoffered ⊢
    rw [if_pos ⟨htotal, Int.le_refl 0⟩]
    rcases transportSend_takes h hoffered with hpos | ⟨-, hsome, hrest, heq⟩
    · have hsent := (stamped_preorder now).send s offered hclock
      have hstamp := afterSend_stamps hpos 0 (transportSend s offered).2
      have hkept := (stamped_preorder now).afterSend 0 (transportSend s offered).1
        (transportSend s offered).2 hsent.1
      generalize afterSend 0 (transportSend s offered).1 (transportSend s offered).2 = after
        at hstamp hkept ⊢
      rw [hsent.1] at hstamp
      split
      · exact hstamp
      · have hrest := (stamped_preorder now).sendMessageVectorLoop c now total fuel
          (advanceVectors (transportSend s offered).1 (v :: vectors)) after.1 (getTime after.2).2
        exact hrest.stays hkept.1 hstamp
    · have hadvance : advanceVectors 0 (v :: vectors) = v :: vectors := by
        have hpos := List.length_pos_of_ne_nil hv
        rw [advanceVectors, int32Cast_eq hlen, if_neg (by omega)]
        rfl
      have hshorter := s.sends.length_tail
      have hlength := List.length_pos_of_ne_nil hsome
      rw [heq, afterSend_refused (Int.le_refl 0), if_neg (Int.lt_irrefl 0), hadvance]
      dsimp only
      have htime : ¬ c.sendTimeoutMs <
          (calculateElapsedTime (getTime { s with sends := s.sends.tail }).1 now).toNat := by
        rw [show (getTime { s with sends := s.sends.tail }).1 = now from hclock _,
          calculateElapsedTime_self]
        exact Nat.not_lt_zero _
      rw [if_neg htime]
      refine ih (s := (getTime { s with sends := s.sends.tail }).2) hclock hrest ?_
      show s.sends.tail.length < fuel
      omega

theorem sendBufferLoop_takes (hclock : ∀ n, s.clock n = now) (hends : zeroEnds ↔ c.sendTimeoutMs = 0)
    (h : TakesByte zeroEnds s.sends) {total fuel : Nat} (htotal : 0 < int32Cast total)
    {rest : List UInt8} (hoffered : rest ≠ []) (hfuel : s.sends.length < fuel) :
    (sendBufferLoop c now total fuel rest 0 s).2.lastPacketTxTime = now := by
  induction fuel generalizing s with
  | zero => exact absurd hfuel (Nat.not_lt_zero _)
  | succ fuel ih =>
    unfold sendBufferLoop
    dsimp only
    rw [if_pos ⟨htotal, Int.le_refl 0⟩]
    rcases transportSend_takes h hoffered with hpos | ⟨hagain, hsome, hrest, heq⟩
    · have hsent := (stamped_preorder now).send s rest hclock
      have hstamp := afterSend_stamps hpos 0 (transportSend s rest).2
      have hkept := (stamped_preorder now).afterSend 0 (transportSend s rest).1
        (transportSend s rest).2 hsent.1
      generalize afterSend 0 (transportSend s rest).1 (transportSend s rest).2 = after
        at hstamp hkept ⊢
      rw [hsent.1] at hstamp
      split
      · exact hstamp
      · have hrest := (stamped_preorder now).sendBufferLoop c now total fuel
          (rest.drop (transportSend s rest).1.toNat) after.1 (getTime after.2).2
        exact hrest.stays hkept.1 hstamp
    · have hshorter := s.sends.length_tail
      have hlength := List.length_pos_of_ne_nil hsome
      rw [heq, afterSend_refused (Int.le_refl 0), if_neg (Int.lt_irrefl 0)]
      dsimp only
      have htime : ¬ c.sendTimeoutMs ≤
          (calculateElapsedTime (getTime { s with sends := s.sends.tail }).1 now).toNat := by
        rw [show (getTime { s with sends := s.sends.tail }).1 = now from hclock _,
          calculateElapsedTime_self]
        exact fun hle => hagain (hends.2 (Nat.le_zero.1 hle))
      rw [if_neg htime]
      refine ih (s := (getTime { s with sends := s.sends.tail }).2) hclock hrest ?_
      show s.sends.tail.length < fuel
      omega

end Loops

/-! ## Packets -/

section Packets

variable (c : Config) {now : UInt32} {s : Sys} {zeroEnds : Prop}

theorem sendPacket_refused (hends : zeroEnds ↔ c.sendTimeoutMs = 0)
    (h : ¬ TakesByte zeroEnds s.sends) (kind : PacketKind) (packet : List UInt8) :
    let sent := sendPacket c s kind packet
    sent.1 ≤ 0 ∧ sent.2.lastPacketTxTime = s.lastPacketTxTime :=
  sendBufferLoop_refused (s := (getTime s).2) c (getTime s).1 hends h

theorem sendPacket_takes (hclock : ∀ n, s.clock n = now) (hends : zeroEnds ↔ c.sendTimeoutMs = 0)
    (h : TakesByte zeroEnds s.sends) (kind : PacketKind) (packet : List UInt8) (hsome : packet ≠ [])
    (hpacket : packet.length < 2 ^ 31) :
    (sendPacket c s kind packet).2.lastPacketTxTime = now := by
  have hpos := List.length_pos_of_ne_nil hsome
  have hnow : (getTime s).1 = now := hclock s.ticks
  have hloop := sendBufferLoop_takes (s := (getTime s).2) c hclock hends h
    (by rw [int32Cast_eq hpacket]; omega) hsome (Nat.lt_succ_self s.sends.length)
  rw [← hnow] at hloop ⊢
  exact hloop

theorem sendMessageVector_refused (hends : ¬ zeroEnds) (h : ¬ TakesByte zeroEnds s.sends)
    (vectors : List (List UInt8)) :
    let sent := sendMessageVector c s vectors
    sent.1 ≤ 0 ∧ sent.2.lastPacketTxTime = s.lastPacketTxTime :=
  sendMessageVectorLoop_refused (s := (getTime s).2) c (getTime s).1 hends h

theorem sendMessageVector_takes (hclock : ∀ n, s.clock n = now) (h : TakesByte zeroEnds s.sends)
    {v : List UInt8} (hv : v ≠ []) {vectors : List (List UInt8)}
    (hsmall : (v :: vectors).flatten.length < 2 ^ 31) :
    (sendMessageVector c s (v :: vectors)).2.lastPacketTxTime = now := by
  have hpos := List.length_pos_of_ne_nil hv
  have hflat : (v :: vectors).flatten.length = v.length + vectors.flatten.length := by simp
  have hnow : (getTime s).1 = now := hclock s.ticks
  have hloop := sendMessageVectorLoop_takes (s := (getTime s).2) c hclock h
    (by rw [int32Cast_eq hsmall]; omega) hv (by omega) vectors
    (show s.sends.length < s.sends.length + (v :: vectors).length + 1 by omega)
  rw [← hnow] at hloop ⊢
  exact hloop

/-- The first batch of a packet with topics starts with its header, and is short. -/
theorem fillVectors_header {perTopic : Nat} {topicVectors : SubscribeInfo → List (List UInt8)}
    (hvectors : TopicVectors c perTopic topicVectors) (subscriptions : List SubscribeInfo)
    {header : List UInt8} (hheader : header.length ≤ 65535) :
    ∃ vectors, (fillVectors c perTopic topicVectors subscriptions [header]).1 = header :: vectors ∧
      (header :: vectors).flatten.length < 2 ^ 31 := by
  have hmax := c.subUnsubMaxVectors_lt
  have hthree := c.three_le_subUnsubMaxVectors
  obtain ⟨taken, -, hfilled, hlen, hshort⟩ := fillVectors_spec hvectors subscriptions
    (show [header].length ≤ c.subUnsubMaxVectors by rw [List.length_singleton]; omega)
    (by simpa using hheader)
  refine ⟨taken.flatMap topicVectors, hfilled, ?_⟩
  have hflat := length_flatten_le hshort
  have hmul : (fillVectors c perTopic topicVectors subscriptions [header]).1.length * 65535 ≤
      (2 ^ 15 - 1) * 65535 := Nat.mul_le_mul_right _ (by omega)
  rw [hfilled] at hflat hmul
  rw [List.singleton_append] at hflat hmul
  omega

theorem sendTopicPacket_refused {perTopic : Nat}
    {topicVectors : SubscribeInfo → List (List UInt8)}
    (hvectors : TopicVectors c perTopic topicVectors) (hends : ¬ zeroEnds)
    (h : ¬ TakesByte zeroEnds s.sends) (kind : PacketKind) (subscriptions : List SubscribeInfo)
    {header : List UInt8} (hsome : header ≠ []) (hheader : header.length ≤ 65535) :
    (sendTopicPacket c s kind header perTopic topicVectors subscriptions).2.lastPacketTxTime =
      s.lastPacketTxTime := by
  obtain ⟨vectors, hfilled, hsmall⟩ := fillVectors_header c hvectors subscriptions hheader
  obtain ⟨hresult, hkept⟩ := sendMessageVector_refused c hends h (header :: vectors)
  have hpos := List.length_pos_of_ne_nil hsome
  have hflat : (header :: vectors).flatten.length = header.length + vectors.flatten.length := by simp
  change (sendTopics c perTopic topicVectors (subscriptions.length + 1) subscriptions [header] s
    0).2.1.lastPacketTxTime = _
  unfold sendTopics
  dsimp only
  split
  · rfl
  rw [hfilled, if_pos]
  · exact hkept
  · rw [int32Cast_eq hsmall]
    omega

theorem sendTopicPacket_takes {perTopic : Nat} {topicVectors : SubscribeInfo → List (List UInt8)}
    (hvectors : TopicVectors c perTopic topicVectors) (hclock : ∀ n, s.clock n = now)
    (h : TakesByte zeroEnds s.sends) (kind : PacketKind) {subscriptions : List SubscribeInfo}
    (hlist : subscriptions ≠ []) {header : List UInt8} (hsome : header ≠ [])
    (hheader : header.length ≤ 65535) :
    (sendTopicPacket c s kind header perTopic topicVectors subscriptions).2.lastPacketTxTime =
      now := by
  obtain ⟨vectors, hfilled, hsmall⟩ := fillVectors_header c hvectors subscriptions hheader
  have hstamp := sendMessageVector_takes c hclock h hsome hsmall
  have hsent := (stamped_preorder now).sendMessageVector c s (header :: vectors) hclock
  change (sendTopics c perTopic topicVectors (subscriptions.length + 1) subscriptions [header] s
    0).2.1.lastPacketTxTime = _
  unfold sendTopics
  dsimp only
  rw [if_neg hlist, hfilled]
  generalize sendMessageVector c s (header :: vectors) = sent at hstamp hsent ⊢
  split
  · exact hstamp
  · have hrest := (stamped_preorder now).sendTopics c perTopic topicVectors subscriptions.length
      (fillVectors c perTopic topicVectors subscriptions [header]).2 [] sent.2 sent.1
    exact hrest.stays hsent.1 hstamp

end Packets

/-! ## One call -/

/-- `MQTT_Subscribe` and `MQTT_Unsubscribe`. -/
def topicsCall (list : Option (List SubscribeInfo)) (packetId : UInt16) : SubscriptionType → SendCall
  | .subscribe => .subscribe list packetId
  | .unsubscribe => .unsubscribe list packetId

theorem topicVectors_type (c : Config) (type : SubscriptionType) :
    TopicVectors c type.perTopic (topicVectors · type) := by
  cases type with
  | subscribe => exact topicVectors_subscribe c
  | unsubscribe => exact topicVectors_unsubscribe c

section Topics

variable {c : Config} {s : Sys} {type : SubscriptionType} {list : Option (List SubscribeInfo)}
  {packetId : UInt16}

theorem topicsCall_run (h : SendsTopics c s type list packetId) :
    (topicsCall list packetId type).run c s = (sendTopicPacket c s type.kind
      (serializeTopicHeader (getTopicPacketSize c.sizeBits list type).2.1 packetId type)
      type.perTopic (topicVectors · type) (list.getD [])).2 := by
  obtain ⟨hvalid, hsize, hconn⟩ := h
  cases type with
  | subscribe =>
    unfold getTopicPacketSize at hsize
    show (mqttSubscribe c s list packetId).2 = _
    unfold mqttSubscribe
    dsimp only
    rw [if_neg (not_not_intro hvalid), if_neg (not_not_intro hsize), if_neg (not_not_intro hconn)]
    rfl
  | unsubscribe =>
    unfold getTopicPacketSize at hsize
    show (mqttUnsubscribe c s list packetId).2 = _
    unfold mqttUnsubscribe
    dsimp only
    rw [if_neg (not_not_intro hvalid), if_neg (not_not_intro hsize), if_neg (not_not_intro hconn)]
    rfl

theorem topicsCall_unsent (h : ¬ SendsTopics c s type list packetId) :
    (topicsCall list packetId type).run c s = s := by
  cases type with
  | subscribe =>
    show (mqttSubscribe c s list packetId).2 = _
    unfold mqttSubscribe
    dsimp only
    split_ifs with hvalid hsize hconn
    · rfl
    · rfl
    · rfl
    · exact absurd ⟨not_not.1 hvalid, not_not.1 hsize, not_not.1 hconn⟩ h
  | unsubscribe =>
    show (mqttUnsubscribe c s list packetId).2 = _
    unfold mqttUnsubscribe
    dsimp only
    split_ifs with hvalid hsize hconn
    · rfl
    · rfl
    · rfl
    · exact absurd ⟨not_not.1 hvalid, not_not.1 hsize, not_not.1 hconn⟩ h

/-- The header of a packet with topics. -/
theorem SendsTopics.header (h : SendsTopics c s type list packetId) :
    let header := serializeTopicHeader (getTopicPacketSize c.sizeBits list type).2.1 packetId type
    header ≠ [] ∧ header.length ≤ 65535 := by
  have hsize := h.size
  cases type with
  | subscribe =>
    exact ⟨List.cons_ne_nil _ _, length_topicHeader_le packetId (getSubscribePacketSize_le hsize)⟩
  | unsubscribe =>
    exact ⟨List.cons_ne_nil _ _, length_topicHeader_le packetId (getUnsubscribePacketSize_le hsize)⟩

theorem SendsTopics.topics (h : SendsTopics c s type list packetId) : list.getD [] ≠ [] := by
  have hvalid := h.valid
  unfold validateSubscribeUnsubscribeParams at hvalid
  cases list with
  | none => exact absurd hvalid (by simp)
  | some topics =>
    intro hnone
    dsimp only at hvalid
    rw [if_pos (show topics = [] from hnone)] at hvalid
    exact absurd hvalid (by simp)

end Topics

section Calls

variable (c : Config) {now : UInt32} {s : Sys}

/-- A call without a packet changes the records, the copies and the next packet id at most. -/
theorem SendCall.run_unsent {call : SendCall} (h : ¬ call.HandsOver c s) :
    ∃ t nextPacketId store storeResults,
      call.run c s = { s.setRecords t with nextPacketId, store, storeResults } := by
  have hsame : ∀ s' : Sys, s' = s → ∃ t nextPacketId store storeResults,
      s' = { s.setRecords t with nextPacketId, store, storeResults } :=
    fun s' heq => ⟨s.toPublishRecords, s.nextPacketId, s.store, s.storeResults, heq⟩
  cases call with
  | publish info packetId =>
    cases info with
    | none => exact hsame _ rfl
    | some info =>
      obtain ⟨t, store, storeResults, heq⟩ := mqttPublish_unsent c fun hover => h ⟨info, rfl, hover⟩
      exact ⟨t, s.nextPacketId, store, storeResults, heq⟩
  | subscribe list packetId =>
    exact hsame _ (@topicsCall_unsent c s .subscribe list packetId h)
  | unsubscribe list packetId =>
    exact hsame _ (@topicsCall_unsent c s .unsubscribe list packetId h)
  | ping => exact hsame _ (congrArg Prod.snd (if_pos h : mqttPing c s = _))
  | disconnect => exact hsame _ (congrArg Prod.snd (if_pos (not_not.1 h) : mqttDisconnect c s = _))
  | cancelCallback packetId =>
    show ∃ t nextPacketId store storeResults, (mqttCancelCallback s packetId).2 = _
    unfold mqttCancelCallback
    split
    · exact hsame _ rfl
    · exact ⟨_, s.nextPacketId, s.store, s.storeResults, rfl⟩
  | getPacketId => exact ⟨s.toPublishRecords, _, s.store, s.storeResults, rfl⟩

/-- `MQTT_Publish` from the packet on, seen from the connection. -/
theorem mqttPublish_sends {info : PublishInfo} {packetId : UInt16} (h : HandsOver s info packetId) :
    ∃ s₁ : Sys, s₁.clock = s.clock ∧ s₁.sends = s.sends ∧
      s₁.lastPacketTxTime = s.lastPacketTxTime ∧
      (mqttPublish c s (some info) packetId).2.lastPacketTxTime = (sendMessageVector c s₁
        (publishMessage info (mqttGetPublishPacketSize info).2.1 packetId)).2.lastPacketTxTime := by
  obtain ⟨t, heq⟩ := mqttPublish_handsOver c h
  obtain ⟨t₀, store, storeResults, hcontext⟩ := publishContext_kept s info packetId
  refine ⟨publishContext s info packetId, ?_, ?_, ?_, ?_⟩
  · rw [hcontext]
    rfl
  · rw [hcontext]
    rfl
  · rw [hcontext]
    rfl
  · rw [heq]
    rfl

theorem waiting_preorder :
    SendPreorder fun s s' => s'.waitingForPingResp = s.waitingForPingResp where
  refl _ := rfl
  trans h h' := h'.trans h
  clock _ := rfl
  error _ := rfl
  send s offered := by
    obtain ⟨sends, wire, heq⟩ := transportSend_kept s offered
    rw [heq]
  stamp _ := rfl
  record _ _ _ _ _ := rfl
  context _ _ _ _ _ _ := rfl

/-- Only `MQTT_Ping` begins to wait for a PINGRESP. -/
theorem SendCall.run_waiting {call : SendCall} (h : call ≠ .ping) :
    (call.run c s).waitingForPingResp = s.waitingForPingResp := by
  cases call with
  | ping => exact absurd rfl h
  | disconnect => exact waiting_preorder.mqttDisconnect c (fun _ => rfl) s
  | publish info packetId => exact waiting_preorder.mqttPublish c s info packetId
  | subscribe list packetId => exact waiting_preorder.mqttSubscribe c s list packetId
  | unsubscribe list packetId => exact waiting_preorder.mqttUnsubscribe c s list packetId
  | cancelCallback packetId => exact waiting_preorder.mqttCancelCallback s packetId
  | getPacketId => rfl

theorem mqttPing_refused (hconn : s.connectStatus = .connected)
    (h : ¬ TakesByte (c.sendTimeoutMs = 0) s.sends) :
    (mqttPing c s).2.lastPacketTxTime = s.lastPacketTxTime ∧
      (mqttPing c s).2.waitingForPingResp = s.waitingForPingResp := by
  obtain ⟨hresult, htime⟩ := sendPacket_refused c Iff.rfl h .pingreq mqttSerializePingreq
  have hwaiting := waiting_preorder.sendPacket c s .pingreq mqttSerializePingreq
  have hlength : (0 : Int) < mqttSerializePingreq.length := by decide
  unfold mqttPing
  dsimp only
  rw [if_neg (not_not_intro hconn), if_pos (Int.lt_of_le_of_lt hresult hlength)]
  exact ⟨htime, hwaiting⟩

theorem mqttDisconnect_refused (hconn : s.connectStatus ≠ .notConnected)
    (h : ¬ TakesByte (c.sendTimeoutMs = 0) s.sends) :
    (mqttDisconnect c s).2.lastPacketTxTime = s.lastPacketTxTime := by
  have htime := fun (s₁ : Sys) (hs₁ : s₁.sends = s.sends) =>
    (sendPacket_refused (s := s₁) c Iff.rfl (by rw [hs₁]; exact h) .disconnect
      mqttSerializeDisconnect).2
  unfold mqttDisconnect
  rw [if_neg hconn]
  exact htime _ rfl

/-- A call that sends no byte leaves the time of the last packet. -/
theorem SendCall.run_refused {call : SendCall} (h : ¬ call.Transmits c s) :
    (call.run c s).lastPacketTxTime = s.lastPacketTxTime ∧
      (call.run c s).waitingForPingResp = s.waitingForPingResp := by
  by_cases hover : call.HandsOver c s
  swap
  · obtain ⟨t, nextPacketId, store, storeResults, heq⟩ := call.run_unsent c hover
    rw [heq]
    exact ⟨rfl, rfl⟩
  have hsends : ¬ TakesByte (call.Buffered ∧ c.sendTimeoutMs = 0) s.sends := fun htakes =>
    h ⟨hover, htakes⟩
  cases call with
  | publish info packetId =>
    refine ⟨?_, SendCall.run_waiting c (by simp)⟩
    obtain ⟨info, rfl, hpublish⟩ := hover
    obtain ⟨s₁, -, hsends₁, htime, heq⟩ := mqttPublish_sends c hpublish
    rw [← hsends₁] at hsends
    have hrefused := sendMessageVector_refused c (fun h => h.1) hsends
      (publishMessage info (mqttGetPublishPacketSize info).2.1 packetId)
    exact heq.trans (hrefused.2.trans htime)
  | subscribe list packetId =>
    obtain ⟨hsome, hshort⟩ := SendsTopics.header hover
    refine ⟨?_, SendCall.run_waiting c (by simp)⟩
    rw [show SendCall.run c s (.subscribe list packetId) = _ from topicsCall_run hover]
    exact sendTopicPacket_refused c (topicVectors_type c .subscribe) (fun h => h.1) hsends _ _ hsome
      hshort
  | unsubscribe list packetId =>
    obtain ⟨hsome, hshort⟩ := SendsTopics.header hover
    refine ⟨?_, SendCall.run_waiting c (by simp)⟩
    rw [show SendCall.run c s (.unsubscribe list packetId) = _ from topicsCall_run hover]
    exact sendTopicPacket_refused c (topicVectors_type c .unsubscribe) (fun h => h.1) hsends _ _
      hsome hshort
  | ping => exact mqttPing_refused c hover fun htakes => hsends (by simpa [Buffered] using htakes)
  | disconnect =>
    exact ⟨mqttDisconnect_refused c hover fun htakes => hsends (by simpa [Buffered] using htakes),
      SendCall.run_waiting c (by simp)⟩
  | cancelCallback packetId => exact absurd hover id
  | getPacketId => exact absurd hover id

/-- While the clock stands still, a call that sends a byte sets the time of the last packet. -/
theorem SendCall.run_transmits {call : SendCall} (hclock : ∀ n, s.clock n = now)
    (h : call.Transmits c s) : (call.run c s).lastPacketTxTime = now := by
  obtain ⟨hover, hsends⟩ := h
  cases call with
  | publish info packetId =>
    obtain ⟨info, rfl, hpublish⟩ := hover
    obtain ⟨s₁, hclock₁, hsends₁, -, heq⟩ := mqttPublish_sends c hpublish
    rw [← hsends₁] at hsends
    exact heq.trans (sendMessageVector_takes c (by rw [hclock₁]; exact hclock) hsends
      (List.cons_ne_nil _ _) (length_publishMessage_lt hpublish.checks.size packetId))
  | subscribe list packetId =>
    obtain ⟨hsome, hshort⟩ := SendsTopics.header hover
    rw [show SendCall.run c s (.subscribe list packetId) = _ from topicsCall_run hover]
    exact sendTopicPacket_takes c (topicVectors_type c .subscribe) hclock hsends _
      (SendsTopics.topics hover) hsome hshort
  | unsubscribe list packetId =>
    obtain ⟨hsome, hshort⟩ := SendsTopics.header hover
    rw [show SendCall.run c s (.unsubscribe list packetId) = _ from topicsCall_run hover]
    exact sendTopicPacket_takes c (topicVectors_type c .unsubscribe) hclock hsends _
      (SendsTopics.topics hover) hsome hshort
  | ping =>
    have hconn : s.connectStatus = .connected := hover
    have htime := sendPacket_takes c hclock (and_iff_right trivial) hsends .pingreq
      mqttSerializePingreq (by decide) (by decide)
    show (mqttPing c s).2.lastPacketTxTime = _
    unfold mqttPing
    dsimp only
    rw [if_neg (not_not_intro hconn)]
    split
    · exact htime
    · exact htime
  | disconnect =>
    have htime := fun (s₁ : Sys) (hs₁ : s₁.sends = s.sends) (hclock₁ : ∀ n, s₁.clock n = now) =>
      sendPacket_takes c hclock₁ (and_iff_right trivial) (by rw [hs₁]; exact hsends) .disconnect
        mqttSerializeDisconnect (by decide) (by decide)
    show (mqttDisconnect c s).2.lastPacketTxTime = _
    unfold mqttDisconnect
    rw [if_neg hover]
    exact htime _ rfl hclock
  | cancelCallback packetId => exact absurd hover id
  | getPacketId => exact absurd hover id

/-! ## A sequence of calls -/

theorem foldl_run_refused {calls : List SendCall} (h : ¬ SomeTransmits c s calls) :
    (calls.foldl (SendCall.run c) s).lastPacketTxTime = s.lastPacketTxTime ∧
      (calls.foldl (SendCall.run c) s).waitingForPingResp = s.waitingForPingResp := by
  induction calls generalizing s with
  | nil => exact ⟨rfl, rfl⟩
  | cons call calls ih =>
    obtain ⟨htime, hwaiting⟩ := call.run_refused c fun hcall => h (.inl hcall)
    obtain ⟨htime', hwaiting'⟩ := ih fun hcalls => h (.inr hcalls)
    exact ⟨htime'.trans htime, hwaiting'.trans hwaiting⟩

theorem foldl_run_stamps (calls : List SendCall) (s : Sys) :
    Stamped now s (calls.foldl (SendCall.run c) s) := by
  induction calls generalizing s with
  | nil => exact .of_eq rfl rfl
  | cons call calls ih => exact (sendCall_stamps c s call).trans (ih _)

theorem foldl_run_transmits (hclock : ∀ n, s.clock n = now) {calls : List SendCall}
    (h : SomeTransmits c s calls) :
    (calls.foldl (SendCall.run c) s).lastPacketTxTime = now := by
  induction calls generalizing s with
  | nil => exact absurd h id
  | cons call calls ih =>
    have hcall := (sendCall_stamps c s call hclock).1
    rcases h with htransmits | hcalls
    · exact (foldl_run_stamps c calls _).stays hcall (call.run_transmits c hclock htransmits)
    · exact ih hcall hcalls

end Calls

end FreeMqtt
