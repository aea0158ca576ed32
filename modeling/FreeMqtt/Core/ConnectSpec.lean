import FreeMqtt.Core.LibrarySteps

/-!
# What connecting does

`establish` is the CONNECT packet and the CONNACK: either nothing is sent, or the packet is
sent and the connection refused, or the packet is complete and the connection accepted
(`EstablishOutcome`). A resumed session finds its records and its stored packets as they
were.
-/

namespace FreeMqtt

/-! ## CONNECT -/

/-- At most `count` vectors, all of them short. -/
def ShortVectors (count : Nat) (vectors : List (List UInt8)) : Prop :=
  vectors.length ≤ count ∧ ∀ v ∈ vectors, v.length ≤ 65535

theorem ShortVectors.append {m n : Nat} {vectors vectors' : List (List UInt8)}
    (h : ShortVectors m vectors) (h' : ShortVectors n vectors') :
    ShortVectors (m + n) (vectors ++ vectors') := by
  refine ⟨?_, fun v hv => (List.mem_append.1 hv).elim (h.2 v) (h'.2 v)⟩
  rw [List.length_append]
  exact Nat.add_le_add h.1 h'.1

theorem ShortVectors.ite {n : Nat} {vectors : List (List UInt8)} (h : ShortVectors n vectors)
    (p : Prop) [Decidable p] : ShortVectors n (if p then vectors else []) := by
  split
  · exact h
  · exact ⟨Nat.zero_le _, fun v hv => absurd hv List.not_mem_nil⟩

theorem shortVectors_addEncodedString (string : Pointer) (length : UInt16) :
    ShortVectors 2 (addEncodedStringToVector string length) := length_addEncodedStringToVector

theorem shortVectors_connect (info : ConnectInfo) (will : Option PublishInfo)
    {remainingLength : Nat} (h : remainingLength ≤ maxRemainingLength) :
    ShortVectors 11 (connectVectors info will remainingLength) := by
  have hheader : (mqttSerializeConnectFixedHeader info will remainingLength).length ≤ 65535 := by
    have hremaining := length_encodeRemainingLength_le h
    have hprotocol : (encodeString (some [0x4D, 0x51, 0x54, 0x54]) 4).length = 6 := rfl
    simp only [mqttSerializeConnectFixedHeader, List.length_append, List.length_cons,
      List.length_nil, length_uint16Bytes, hprotocol]
    omega
  have hfront : ShortVectors 3 ([mqttSerializeConnectFixedHeader info will remainingLength] ++
      addEncodedStringToVector info.pClientIdentifier info.clientIdentifierLength) :=
    .append (m := 1) ⟨Nat.le_refl _, by simpa using hheader⟩ (shortVectors_addEncodedString ..)
  have huser := (shortVectors_addEncodedString info.pUserName info.userNameLength).ite
    (info.pUserName ≠ none)
  have hpass := (shortVectors_addEncodedString info.pPassword info.passwordLength).ite
    (info.pPassword ≠ none)
  refine ((hfront.append (n := 4) ?_).append huser).append hpass
  cases will with
  | none => exact ⟨Nat.zero_le _, fun v hv => absurd hv List.not_mem_nil⟩
  | some will =>
    exact (shortVectors_addEncodedString ..).append (shortVectors_addEncodedString ..)

theorem length_connectVectors_lt (info : ConnectInfo) (will : Option PublishInfo)
    {remainingLength : Nat} (h : remainingLength ≤ maxRemainingLength) :
    (connectVectors info will remainingLength).flatten.length < 2 ^ 31 := by
  obtain ⟨hcount, hshort⟩ := shortVectors_connect info will h
  have hflat := length_flatten_le hshort
  have hmul : (connectVectors info will remainingLength).length * 65535 ≤ 11 * 65535 :=
    Nat.mul_le_mul_right _ hcount
  omega

theorem connectPacketSize_le (pConnectInfo : Option ConnectInfo) (pWillInfo : Option PublishInfo) :
    (mqttGetConnectPacketSize pConnectInfo pWillInfo).2.1 ≤ maxRemainingLength := by
  have hmax : maxRemainingLength = 268435455 := rfl
  unfold mqttGetConnectPacketSize
  cases pConnectInfo with
  | none => exact Nat.zero_le _
  | some info =>
    have hclient := info.clientIdentifierLength.toNat_lt
    have huser := info.userNameLength.toNat_lt
    have hpass := info.passwordLength.toNat_lt
    dsimp only
    split
    · exact Nat.zero_le _
    split
    · exact Nat.zero_le _
    · rename_i hwill
      cases pWillInfo with
      | none =>
        dsimp only
        split_ifs <;> omega
      | some will =>
        have htopic := will.topicNameLength.toNat_lt
        have hpayload : will.payloadLength ≤ 65535 := by simpa using hwill
        dsimp only
        split_ifs <;> omega

theorem sendConnectWithoutCopy_spec (c : Config) (s : Sys) (info : ConnectInfo)
    (will : Option PublishInfo) {remainingLength : Nat} (h : remainingLength ≤ maxRemainingLength) :
    let sent := sendConnectWithoutCopy c s info will remainingLength
    sent.1 ≠ .success ∧ sent.2 = s ∨
      ∃ packet n stop, Sent s sent.2 .connect packet n stop ∧
        (sent.1 = .success ↔ stop = .complete) := by
  unfold sendConnectWithoutCopy
  dsimp only
  split
  · exact .inl ⟨by simp, rfl⟩
  · have hsmall := length_connectVectors_lt info will h
    obtain ⟨-, hshort⟩ := shortVectors_connect info will h
    obtain ⟨n, stop, hsent, hreturned⟩ := (sendMessageVector_spec c s
      fun v hv => Nat.lt_of_le_of_lt (hshort v hv) (by decide)).recordSent .connect
    refine .inr ⟨_, n, stop, hsent, ?_⟩
    rw [int32Cast_eq hsmall, ← hsent.result_eq_length hreturned]
    split
    · rename_i hne
      exact ⟨fun heq => absurd heq (by simp), fun heq => absurd heq hne⟩
    · rename_i heq
      exact ⟨fun _ => not_not.1 heq, fun _ => rfl⟩

/-! ## CONNACK -/

namespace ReadPreorder

variable {r : Sys → Sys → Prop} (h : ReadPreorder r)

include h

theorem getRemainingLength (s : Sys) : r s (FreeMqtt.getRemainingLength s).2 := by
  have hloop : ∀ (fuel remainingLength bytesDecoded : Nat) (s : Sys),
      r s (getRemainingLengthLoop fuel remainingLength bytesDecoded s).2.2 := by
    intro fuel
    induction fuel with
    | zero => exact fun _ _ s => h.refl s
    | succ fuel ih =>
      intro remainingLength bytesDecoded s
      have hread := h.recv s 1
      unfold getRemainingLengthLoop
      dsimp only
      split
      · exact h.refl s
      split
      · split
        · exact h.trans hread (ih ..)
        · exact hread
      · exact hread
  exact hloop ..

theorem getIncomingPacketTypeAndLength (s : Sys) (packet : PacketInfo) :
    r s (mqttGetIncomingPacketTypeAndLength s packet).2.2 := by
  have hread := h.recv s 1
  unfold mqttGetIncomingPacketTypeAndLength
  dsimp only
  split
  · split
    · exact h.trans hread (h.getRemainingLength _)
    · exact hread
  split
  · exact hread
  · exact hread

theorem receiveConnackLoop (c : Config) (timeoutMs entryTimeMs : UInt32) (fuel loopCount : Nat)
    (packet : PacketInfo) (s : Sys) :
    r s (FreeMqtt.receiveConnackLoop c timeoutMs entryTimeMs fuel loopCount packet s).2.2 := by
  induction fuel generalizing loopCount packet s with
  | zero => exact h.refl s
  | succ fuel ih =>
    have hread := h.getIncomingPacketTypeAndLength s packet
    unfold FreeMqtt.receiveConnackLoop
    dsimp only
    generalize mqttGetIncomingPacketTypeAndLength s packet = received at hread
    have hclock : r s (if timeoutMs > 0 then getTime received.2.2 else (0, received.2.2)).2 := by
      split
      · exact h.trans hread (h.clock _)
      · exact hread
    generalize (if timeoutMs > 0 then getTime received.2.2 else (0, received.2.2)) = now at hclock
    generalize (if timeoutMs > 0 then decide (timeoutMs ≤ calculateElapsedTime now.1 entryTimeMs)
      else decide (c.maxConnackReceiveRetryCount ≤ loopCount)) = breakFromLoop
    split
    · exact h.trans hclock (ih ..)
    · exact hclock

theorem receiveConnack (c : Config) (s : Sys) (timeoutMs : UInt32) (cleanSession : Bool) :
    r s (FreeMqtt.receiveConnack c s timeoutMs cleanSession).2.2 := by
  have hloop := h.trans (h.clock s) (h.receiveConnackLoop c timeoutMs (getTime s).1
    ((getTime s).2.recvs.length + 1) 0 ⟨0, none, 0, 0⟩ (getTime s).2)
  unfold FreeMqtt.receiveConnack
  dsimp only
  generalize FreeMqtt.receiveConnackLoop c timeoutMs (getTime s).1 ((getTime s).2.recvs.length + 1) 0
    ⟨0, none, 0, 0⟩ (getTime s).2 = received at hloop
  have hclock := h.trans hloop (h.clock _)
  split
  · exact hloop
  split
  · exact hclock
  generalize (if calculateElapsedTime (getTime received.2.2).1 (getTime s).1 < timeoutMs then
    timeoutMs - calculateElapsedTime (getTime received.2.2).1 (getTime s).1 else 0) = remainingTimeMs
  have hpacket := h.trans hclock (h.receivePacket c _ received.2.1 remainingTimeMs)
  split
  · exact hpacket
  split
  · exact hpacket
  split
  · exact hpacket
  · exact hpacket

end ReadPreorder

theorem reads_receiveConnack (c : Config) (s : Sys) (timeoutMs : UInt32) (cleanSession : Bool) :
    Reads s (receiveConnack c s timeoutMs cleanSession).2.2 :=
  reads_preorder.receiveConnack c s timeoutMs cleanSession

theorem received_receiveConnack (c : Config) (s : Sys) (timeoutMs : UInt32) (cleanSession : Bool) :
    Received s (receiveConnack c s timeoutMs cleanSession).2.2 :=
  (reads_receiveConnack c s timeoutMs cleanSession).received

/-! ## The connection -/

/-- A clean session: the records, the buffer and the application's store are reset. -/
theorem handleCleanSession_eq (s : Sys) : ∃ store, handleCleanSession s =
    { s.clearBuffer.setRecords
        (.zeroed s.outgoingPublishRecords.length s.incomingPublishRecords.length) with store } := by
  have hloop : ∀ (fuel cursor : Nat) (s : Sys), ∃ store,
      clearPublishes fuel cursor s = { s with store } := by
    intro fuel
    induction fuel with
    | zero => exact fun _ s => ⟨s.store, rfl⟩
    | succ fuel ih =>
      intro cursor s
      unfold clearPublishes
      dsimp only
      split
      · exact ⟨s.store, rfl⟩
      · obtain ⟨store, heq⟩ := ih (mqttPublishToResend s.toPublishRecords cursor).2
          (callClear s (mqttPublishToResend s.toPublishRecords cursor).1)
        exact ⟨store, heq⟩
  unfold handleCleanSession
  dsimp only
  split
  · obtain ⟨store, heq⟩ := hloop (s.clearBuffer.outgoingPublishRecords.length + 1) 0 s.clearBuffer
    exact ⟨store, by rw [heq]; rfl⟩
  · exact ⟨s.store, rfl⟩

theorem handleCleanSession_spec (s : Sys) : (handleCleanSession s).wire = s.wire ∧
    (handleCleanSession s).log = s.log := by
  obtain ⟨store, heq⟩ := handleCleanSession_eq s
  rw [heq]
  exact ⟨rfl, rfl⟩

/-- The outcomes of `establish`. -/
inductive EstablishOutcome (s : Sys) : Status × Option Bool × Sys → Prop
  | unsent {status : Status} (hstatus : status ≠ .success) : EstablishOutcome s (status, none, s)
  | refused {packet : List UInt8} {n : Nat} {stop : Stop} {s₁ s' : Sys} {status : Status}
      {sessionPresent : Option Bool} (hsent : Sent s s₁ .connect packet n stop)
      (hreceived : Received s₁ s') (hstatus : status ≠ .success) :
      EstablishOutcome s (status, sessionPresent, s')
  | accepted {packet : List UInt8} {s₁ s' : Sys} {sessionPresent : Option Bool}
      (hsent : Sent s s₁ .connect packet packet.length .complete) (hwire : s'.wire = s₁.wire)
      (hlog : s'.log = s₁.log) (hconnected : s'.connectStatus = .connected)
      (hresumed : sessionPresent = some true → s'.store = s.store ∧
        s'.toPublishRecords = s.toPublishRecords ∧ s'.retrieveFunction = s.retrieveFunction) :
      EstablishOutcome s (.success, sessionPresent, s')

theorem establish_outcome (c : Config) (s : Sys) (info : ConnectInfo) (will : Option PublishInfo)
    {remainingLength : Nat} (h : remainingLength ≤ maxRemainingLength) (timeoutMs : UInt32) :
    EstablishOutcome s (establish c s info will remainingLength timeoutMs) := by
  have hsend := sendConnectWithoutCopy_spec c s info will h
  unfold establish
  dsimp only at hsend ⊢
  generalize sendConnectWithoutCopy c s info will remainingLength = sent at hsend
  obtain ⟨status, s₁⟩ := sent
  rcases hsend with ⟨hstatus, rfl⟩ | ⟨packet, n, stop, hsent, hcomplete⟩
  · rw [if_pos hstatus]
    exact .unsent hstatus
  dsimp only at hsent hcomplete ⊢
  by_cases hstatus : status ≠ .success
  · rw [if_pos hstatus]
    exact .refused hsent (.refl s₁) hstatus
  rw [if_neg hstatus]
  have hreceived := received_receiveConnack c s₁ timeoutMs info.cleanSession
  generalize receiveConnack c s₁ timeoutMs info.cleanSession = connack at hreceived
  obtain ⟨status', sessionPresent, s₂⟩ := connack
  dsimp only at hreceived ⊢
  by_cases hstatus' : status' ≠ .success
  · rw [if_pos hstatus']
    exact .refused hsent hreceived hstatus'
  rw [if_neg hstatus']
  obtain rfl := hcomplete.1 (not_not.1 hstatus)
  obtain rfl := hsent.2.1.1 rfl
  by_cases hpresent : sessionPresent = some true
  · rw [if_neg (not_not_intro hpresent)]
    obtain ⟨-, -, ticks, sends, lastTx, hs₁⟩ := hsent
    refine .accepted ⟨Nat.le_refl _, by simp, ticks, sends, lastTx, hs₁⟩ hreceived.wire
      hreceived.log rfl fun _ => ⟨hreceived.store.trans ?_, hreceived.records.trans ?_,
        hreceived.retrieve.trans ?_⟩
    · rw [hs₁]
    · rw [hs₁]
    · rw [hs₁]
  · rw [if_pos hpresent]
    obtain ⟨hwire, hlog⟩ := handleCleanSession_spec s₂
    exact .accepted hsent (hwire.trans hreceived.wire) (hlog.trans hreceived.log) rfl
      fun heq => absurd heq hpresent

/-- `establish` succeeds behind its two parts. -/
theorem establish_success {c : Config} {s : Sys} {info : ConnectInfo} {will : Option PublishInfo}
    {remainingLength : Nat} {timeoutMs : UInt32}
    (h : (establish c s info will remainingLength timeoutMs).1 = .success) :
    let sent := sendConnectWithoutCopy c s info will remainingLength
    let connack := receiveConnack c sent.2 timeoutMs info.cleanSession
    sent.1 = .success ∧ connack.1 = .success ∧
      establish c s info will remainingLength timeoutMs = (.success, connack.2.1,
        { (if connack.2.1 ≠ some true then handleCleanSession connack.2.2 else connack.2.2) with
          connectStatus := .connected
          keepAliveIntervalSec := info.keepAliveSeconds
          waitingForPingResp := false
          pingReqSendTimeMs := 0 }) := by
  unfold establish at h ⊢
  dsimp only at h ⊢
  split at h
  · rename_i hfail
    exact absurd h hfail
  rename_i hsent
  split at h
  · rename_i hfail
    exact absurd h hfail
  rename_i hreceived
  rw [if_neg hsent, if_neg hreceived]
  exact ⟨not_not.1 hsent, not_not.1 hreceived, rfl⟩

/-! ## Retrieved packets -/

theorem callRetrieve_spec (s : Sys) (packetId : UInt16) :
    (callRetrieve s packetId).1 ∈ [none, s.store packetId] ∧
      ∃ retrieveResults, (callRetrieve s packetId).2 = { s with retrieveResults } := by
  unfold callRetrieve
  split
  · exact ⟨by simp, _, rfl⟩
  · exact ⟨by simp, _, rfl⟩

end FreeMqtt
