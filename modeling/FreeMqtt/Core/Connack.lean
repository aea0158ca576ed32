import FreeMqtt.Core.BufferBounds
import FreeMqtt.Core.Connect

/-!
# The bytes of a CONNACK

An accepted CONNACK is read off the transport byte by byte: `receiveConnack` succeeds only when the
next four bytes delivered are `0x20`, `2`, the session-present flag and the return code `0`
(`receiveConnack_takesIn`), and no result of the transport was negative on the way.
-/

namespace FreeMqtt

/-! ## Reading bytes -/

/-- `s'` is `s` after the transport delivered `bytes`, without a negative result. -/
structure TakesIn (s s' : Sys) (bytes : List UInt8) : Prop where
  inbound : s.inbound = bytes ++ s'.inbound
  recvs : ∃ used, s.recvs = used ++ s'.recvs ∧ ∀ r ∈ used, 0 ≤ r
  sends : s'.sends = s.sends
  length : s'.networkBuffer.length = s.networkBuffer.length

theorem TakesIn.refl (s : Sys) : TakesIn s s [] := ⟨rfl, ⟨[], rfl, by simp⟩, rfl, rfl⟩

theorem TakesIn.trans {s s' s'' : Sys} {bytes more : List UInt8} (h : TakesIn s s' bytes)
    (h' : TakesIn s' s'' more) : TakesIn s s'' (bytes ++ more) := by
  obtain ⟨used, hused, hnonneg⟩ := h.recvs
  obtain ⟨used', hused', hnonneg'⟩ := h'.recvs
  refine ⟨?_, ⟨used ++ used', ?_, ?_⟩, h'.sends.trans h.sends, h'.length.trans h.length⟩
  · rw [h.inbound, h'.inbound, List.append_assoc]
  · rw [hused, hused', List.append_assoc]
  · exact fun r hr => (List.mem_append.1 hr).elim (hnonneg r) (hnonneg' r)

/-- A change that reads nothing. -/
theorem TakesIn.and_then {s s' s'' : Sys} {bytes : List UInt8} (h : TakesIn s s' bytes)
    (hinbound : s''.inbound = s'.inbound) (hrecvs : s''.recvs = s'.recvs)
    (hsends : s''.sends = s'.sends)
    (hlength : s''.networkBuffer.length = s'.networkBuffer.length) : TakesIn s s'' bytes :=
  ⟨by rw [hinbound]; exact h.inbound, by rw [hrecvs]; exact h.recvs, hsends.trans h.sends,
    hlength.trans h.length⟩

theorem TakesIn.getTime {s s' : Sys} {bytes : List UInt8} (h : TakesIn s s' bytes) :
    TakesIn s (getTime s').2 bytes := h.and_then rfl rfl rfl rfl

/-- A result of `recv` that is not negative counts the bytes it delivers. -/
theorem transportRecv_takesIn {s : Sys} {bytesToRecv : Nat}
    (h : 0 ≤ (transportRecv s bytesToRecv).1) :
    let received := transportRecv s bytesToRecv
    TakesIn s received.2.2 received.2.1 ∧ received.1 = received.2.1.length ∧
      received.2.1.length ≤ bytesToRecv := by
  unfold transportRecv at h ⊢
  cases hrecvs : s.recvs with
  | nil =>
    rw [hrecvs] at h
    dsimp only at h ⊢
    have hdelivers : TakesIn s { s with recvs := [], inbound := s.inbound.drop bytesToRecv }
        (s.inbound.take bytesToRecv) :=
      ⟨(List.take_append_drop _ _).symm, ⟨[], hrecvs, by simp⟩, rfl, rfl⟩
    split at h
    · exact absurd h (by decide)
    · rename_i hsome
      rw [if_neg hsome]
      exact ⟨hdelivers, rfl, List.length_take_le _ _⟩
  | cons result recvs =>
    rw [hrecvs] at h
    dsimp only at h ⊢
    split at h
    · rename_i hneg
      exact absurd hneg (Int.not_lt.2 h)
    · rename_i hnonneg
      rw [if_neg hnonneg]
      refine ⟨⟨(List.take_append_drop _ _).symm, ⟨[result], hrecvs, ?_⟩, rfl, rfl⟩, rfl, ?_⟩
      · intro r hr
        rw [List.mem_singleton] at hr
        omega
      · rw [List.length_take]
        omega

/-! ## Writes into the buffer -/

theorem writeAt_eq {buffer bytes : List UInt8} {offset : Nat}
    (h : offset + bytes.length ≤ buffer.length) :
    writeAt buffer offset bytes =
      buffer.take offset ++ bytes ++ buffer.drop (offset + bytes.length) := by
  unfold writeAt
  apply List.take_of_length_le
  simp only [List.length_append, List.length_take, List.length_drop]
  omega

/-- Two writes, one behind the other. -/
theorem writeAt_writeAt {buffer a b : List UInt8} {offset : Nat}
    (h : offset + a.length + b.length ≤ buffer.length) :
    writeAt (writeAt buffer offset a) (offset + a.length) b = writeAt buffer offset (a ++ b) := by
  have hfront : (buffer.take offset ++ a).length = offset + a.length := by
    rw [List.length_append, List.length_take]
    omega
  have hfirst : writeAt buffer offset a = buffer.take offset ++ a ++ buffer.drop (offset + a.length) :=
    writeAt_eq (by omega)
  have hboth : writeAt buffer offset (a ++ b) =
      buffer.take offset ++ (a ++ b) ++ buffer.drop (offset + (a ++ b).length) :=
    writeAt_eq (by rw [List.length_append]; omega)
  rw [writeAt_eq (by rw [length_writeAt]; exact h), hfirst, hboth]
  rw [List.take_left' hfront, List.drop_append, List.drop_eq_nil_of_le (by omega), hfront,
    List.nil_append, List.drop_drop, List.length_append]
  simp only [List.append_assoc]
  congr 4
  omega

/-- `recvExact` that returns the requested count read that many bytes into the buffer. -/
theorem recvExactLoop_takesIn (c : Config) {fuel offset bytesRemaining : Nat} {total : Int}
    {last : UInt32} {s : Sys} (htotal : 0 ≤ total)
    (hroom : offset + bytesRemaining ≤ s.networkBuffer.length)
    (h : (recvExactLoop c fuel offset bytesRemaining total last s).1 = total + bytesRemaining) :
    let s' := (recvExactLoop c fuel offset bytesRemaining total last s).2
    ∃ bytes, bytes.length = bytesRemaining ∧ TakesIn s s' bytes ∧
      s'.networkBuffer = writeAt s.networkBuffer offset bytes := by
  induction fuel generalizing offset bytesRemaining total last s with
  | zero =>
    have hzero : bytesRemaining = 0 := by
      have heq : total = total + bytesRemaining := h
      omega
    subst hzero
    exact ⟨[], rfl, .refl s, by simp [recvExactLoop, writeAt]⟩
  | succ fuel ih =>
    unfold recvExactLoop at h ⊢
    dsimp only at h ⊢
    by_cases hmore : 0 < bytesRemaining
    swap
    · obtain rfl : bytesRemaining = 0 := by omega
      rw [if_neg hmore]
      exact ⟨[], rfl, .refl s, by simp [writeAt]⟩
    rw [if_pos hmore] at h ⊢
    by_cases hneg : (transportRecv s bytesRemaining).1 < 0
    · rw [if_pos hneg] at h
      exact absurd h (by dsimp only; omega)
    obtain ⟨hread, hcount, hle⟩ := transportRecv_takesIn (Int.not_lt.1 hneg)
    obtain ⟨recvs, inbound, hrecv, -⟩ := transportRecv_spec s bytesRemaining
    have hbuffer : (transportRecv s bytesRemaining).2.2.networkBuffer = s.networkBuffer := by
      rw [hrecv]
    rw [if_neg hneg] at h ⊢
    generalize transportRecv s bytesRemaining = received at h hneg hread hcount hle hbuffer ⊢
    rw [hbuffer] at h ⊢
    have hwritten : TakesIn s { received.2.2 with
        networkBuffer := writeAt s.networkBuffer offset received.2.1 } received.2.1 :=
      hread.and_then rfl rfl rfl (by rw [hbuffer]; exact length_writeAt _ _ _)
    by_cases hsome : received.1 > 0
    · rw [if_pos hsome] at h ⊢
      have hnat : received.1.toNat = received.2.1.length := by omega
      rw [hnat] at h ⊢
      have hroom' : offset + received.2.1.length + (bytesRemaining - received.2.1.length) ≤
          (writeAt s.networkBuffer offset received.2.1).length := by
        rw [length_writeAt]
        omega
      obtain ⟨bytes, hlength, hrest, hfinal⟩ := ih (by omega) hroom' (h.trans (by omega))
      refine ⟨received.2.1 ++ bytes, ?_, hwritten.getTime.trans hrest, ?_⟩
      · rw [List.length_append]
        omega
      · rw [hfinal]
        exact writeAt_writeAt (by omega)
    · rw [if_neg hsome] at h ⊢
      have hnil : received.2.1 = [] := List.eq_nil_of_length_eq_zero (by omega)
      rw [hnil] at h hwritten ⊢
      have hsame : writeAt s.networkBuffer offset [] = s.networkBuffer := by simp [writeAt]
      split at h
      · exact absurd h (by dsimp only; omega)
      · rename_i helapsed
        rw [if_neg helapsed]
        obtain ⟨bytes, hlength, hrest, hfinal⟩ := ih htotal (by rw [hsame]; exact hroom) h
        refine ⟨bytes, hlength, hwritten.getTime.trans hrest, ?_⟩
        rw [hfinal]
        exact congrArg (writeAt · offset bytes) hsame

theorem recvExact_takesIn (c : Config) {s : Sys} {bytesToRecv : Nat}
    (hroom : bytesToRecv ≤ s.networkBuffer.length)
    (h : (recvExact c s bytesToRecv).1 = bytesToRecv) :
    let s' := (recvExact c s bytesToRecv).2
    ∃ bytes, bytes.length = bytesToRecv ∧ TakesIn s s' bytes ∧
      s'.networkBuffer = writeAt s.networkBuffer 0 bytes := by
  obtain ⟨bytes, hlength, hread, hfinal⟩ := recvExactLoop_takesIn c
    (s := (getTime s).2) (Int.le_refl 0) (by rw [Nat.zero_add]; exact hroom)
    (h.trans (Int.zero_add _).symm)
  exact ⟨bytes, hlength, (TakesIn.refl s).getTime.trans hread, hfinal⟩

/-! ## Type and length -/

theorem getRemainingLengthLoop_decoded (fuel remainingLength bytesDecoded : Nat) (s : Sys) :
    let decoded := getRemainingLengthLoop fuel remainingLength bytesDecoded s
    decoded.1 = remainingLengthInvalid ∨ bytesDecoded < decoded.2.1 := by
  induction fuel generalizing remainingLength bytesDecoded s with
  | zero => exact .inl rfl
  | succ fuel ih =>
    unfold getRemainingLengthLoop
    dsimp only
    split
    · exact .inl rfl
    split
    · split
      · rcases ih (remainingLength + _) (bytesDecoded + 1) _ with h | h
        · exact .inl h
        · exact .inr (by omega)
      · exact .inr (Nat.lt_succ_self _)
    · exact .inl rfl

theorem headD_of_length_eq_one {bytes : List UInt8} (h : bytes.length = 1) :
    bytes = [bytes.headD 0] := by
  obtain ⟨b, rfl⟩ := List.length_eq_one_iff.1 h
  rfl

/-- A byte that was asked for and delivered. -/
theorem transportRecv_one {s : Sys} (h : (transportRecv s 1).1 = 1) :
    TakesIn s (transportRecv s 1).2.2 [(transportRecv s 1).2.1.headD 0] := by
  obtain ⟨hread, hcount, -⟩ := @transportRecv_takesIn s 1 (by omega)
  rwa [← headD_of_length_eq_one (by omega)]

/-- The remaining length two, read from one byte. -/
theorem getRemainingLengthLoop_two {s : Sys} (hlength : (getRemainingLengthLoop 5 0 0 s).1 = 2)
    (hdecoded : (getRemainingLengthLoop 5 0 0 s).2.1 = 1) :
    TakesIn s (getRemainingLengthLoop 5 0 0 s).2.2 [2] := by
  have hbyte : ∀ b : UInt8, b &&& 0x80 = 0 → (b &&& 0x7F).toNat = 2 → b = 2 :=
    forall_uint8 (by decide +kernel)
  have hfirst : ¬ 128 ^ 0 > 2097152 := by decide
  unfold getRemainingLengthLoop at hlength hdecoded ⊢
  dsimp only at hlength hdecoded ⊢
  rw [if_neg hfirst] at hlength hdecoded ⊢
  by_cases hone : (transportRecv s 1).1 = 1
  swap
  · rw [if_neg hone] at hlength
    exact absurd hlength (by simp [remainingLengthInvalid])
  have hread := transportRecv_one hone
  rw [if_pos hone] at hlength hdecoded ⊢
  generalize (transportRecv s 1).2.1.headD 0 = b at hlength hdecoded hread ⊢
  by_cases hmore : b &&& 0x80 ≠ 0
  · rw [if_pos hmore] at hlength hdecoded
    rcases getRemainingLengthLoop_decoded 4 (0 + (b &&& 0x7F).toNat * 128 ^ 0) (0 + 1)
      (transportRecv s 1).2.2 with hinvalid | hmany
    · rw [hinvalid] at hlength
      exact absurd hlength (by decide)
    · omega
  · rw [if_neg hmore] at hlength ⊢
    dsimp only at hlength ⊢
    rw [hbyte b (not_not.1 hmore) (by omega)] at hread
    exact hread

theorem getRemainingLength_two {s : Sys} (h : (getRemainingLength s).1 = 2) :
    TakesIn s (getRemainingLength s).2 [2] := by
  have htwo := @getRemainingLengthLoop_two s
  unfold getRemainingLength at h ⊢
  dsimp only at h ⊢
  generalize getRemainingLengthLoop 5 0 0 s = decoded at h htwo ⊢
  split at h
  · exact absurd h (by decide)
  · rename_i hcond
    have hsize : decoded.2.1 = remainingLengthEncodedSize decoded.1 := by
      by_contra hne
      refine hcond ⟨?_, hne⟩
      rw [h]
      decide
    rw [h] at hsize
    exact htwo h hsize

/-- A packet of the type CONNACK and of the remaining length two. -/
theorem getIncomingPacket_connack {s : Sys} {packet : PacketInfo}
    (hstatus : (mqttGetIncomingPacketTypeAndLength s packet).1 = .success)
    (htype : (mqttGetIncomingPacketTypeAndLength s packet).2.1.type = packetTypeConnack)
    (hlength : (mqttGetIncomingPacketTypeAndLength s packet).2.1.remainingLength = 2) :
    TakesIn s (mqttGetIncomingPacketTypeAndLength s packet).2.2 [packetTypeConnack, 2] := by
  unfold mqttGetIncomingPacketTypeAndLength at hstatus htype hlength ⊢
  dsimp only at hstatus htype hlength ⊢
  split at hstatus
  · rename_i hone
    have hread := transportRecv_one hone
    rw [if_pos hone] at htype hlength ⊢
    split at hstatus
    · rename_i hvalid
      rw [if_pos hvalid] at htype hlength ⊢
      have hbyte : (transportRecv s 1).2.1.headD 0 = packetTypeConnack := htype
      rw [hbyte] at hread
      exact hread.trans (getRemainingLength_two hlength)
    · exact absurd hstatus (by simp)
  · split at hstatus
    · exact absurd hstatus (by simp)
    · exact absurd hstatus (by simp)

/-- No byte is read when no data is available. -/
theorem getIncomingPacket_noData {s : Sys} {packet : PacketInfo}
    (hstatus : (mqttGetIncomingPacketTypeAndLength s packet).1 = .noDataAvailable) :
    TakesIn s (mqttGetIncomingPacketTypeAndLength s packet).2.2 [] := by
  unfold mqttGetIncomingPacketTypeAndLength at hstatus ⊢
  dsimp only at hstatus ⊢
  split at hstatus
  · split at hstatus
    · split at hstatus
      · exact absurd hstatus (by simp)
      · exact absurd hstatus (by simp)
    · exact absurd hstatus (by simp)
  · rename_i hone
    rw [if_neg hone]
    split at hstatus
    · rename_i hzero
      rw [if_pos hzero]
      obtain ⟨hread, hcount, -⟩ := @transportRecv_takesIn s 1 (by omega)
      rwa [List.eq_nil_of_length_eq_zero (l := (transportRecv s 1).2.1) (by omega)] at hread
    · exact absurd hstatus (by simp)

theorem receiveConnackLoop_connack (c : Config) (timeoutMs entryTimeMs : UInt32)
    {fuel loopCount : Nat} {packet : PacketInfo} {s : Sys}
    (hstatus : (receiveConnackLoop c timeoutMs entryTimeMs fuel loopCount packet s).1 = .success)
    (htype : (receiveConnackLoop c timeoutMs entryTimeMs fuel loopCount packet s).2.1.type =
      packetTypeConnack)
    (hlength : (receiveConnackLoop c timeoutMs entryTimeMs fuel loopCount packet
      s).2.1.remainingLength = 2) :
    TakesIn s (receiveConnackLoop c timeoutMs entryTimeMs fuel loopCount packet s).2.2
      [packetTypeConnack, 2] := by
  induction fuel generalizing loopCount packet s with
  | zero => exact absurd hstatus (by simp [receiveConnackLoop])
  | succ fuel ih =>
    have hconnack := @getIncomingPacket_connack s packet
    have hnoData := @getIncomingPacket_noData s packet
    unfold receiveConnackLoop at hstatus htype hlength ⊢
    dsimp only at hstatus htype hlength ⊢
    generalize mqttGetIncomingPacketTypeAndLength s packet = received at *
    have hclock : ∀ bytes, TakesIn s received.2.2 bytes → TakesIn s
        (if timeoutMs > 0 then getTime received.2.2 else (0, received.2.2)).2 bytes := by
      intro bytes hread
      split
      · exact hread.and_then rfl rfl rfl rfl
      · exact hread
    generalize (if timeoutMs > 0 then getTime received.2.2 else (0, received.2.2)) = now at *
    generalize (if timeoutMs > 0 then decide (timeoutMs ≤ calculateElapsedTime now.1 entryTimeMs)
      else decide (c.maxConnackReceiveRetryCount ≤ loopCount)) = breakFromLoop at *
    split at hstatus
    · rename_i hagain
      rw [if_pos hagain] at htype hlength ⊢
      exact (hclock [] (hnoData hagain.1)).trans (ih hstatus htype hlength)
    · rename_i hstop
      rw [if_neg hstop] at htype hlength ⊢
      exact hclock _ (hconnack hstatus htype hlength)

/-! ## The CONNACK -/

theorem deserializeConnack_success {packet : PacketInfo}
    (h : (mqttDeserializeAck packet false true).1 = .success)
    (htype : packet.type = packetTypeConnack) :
    packet.remainingLength = 2 ∧ byteAt packet.pRemainingData 1 = 0 ∧
      (byteAt packet.pRemainingData 0 = 0 ∨ byteAt packet.pRemainingData 0 = 1) ∧
      (mqttDeserializeAck packet false true).2.2 =
        some (byteAt packet.pRemainingData 0 == 1) := by
  have hflags : ∀ b : UInt8, ¬ b ||| 0x01 ≠ 0x01 → (b = 0 ∨ b = 1) ∧
      (b &&& 0x01 == 0x01) = (b == 1) := forall_uint8 (by decide +kernel)
  have hzero : ∀ b : UInt8, ¬ b > 0 → b = 0 := forall_uint8 (by decide +kernel)
  unfold mqttDeserializeAck deserializeConnack at h ⊢
  dsimp only at h ⊢
  simp only [htype, ne_eq, not_true_eq_false, false_and, and_false, if_false, if_true,
    Bool.true_eq_false] at h ⊢
  split at h
  · exact absurd h (by simp)
  rename_i hdata
  rw [if_neg hdata]
  split at h
  · exact absurd h (by simp)
  rename_i hlength
  rw [if_neg hlength]
  split at h
  · exact absurd h (by simp)
  rename_i hreserved
  obtain ⟨hfirst, hpresent⟩ := hflags _ hreserved
  rw [if_neg hreserved]
  split at h
  · exact absurd h (by simp)
  rename_i hsession
  rw [if_neg hsession]
  split at h
  · exact absurd h (by simp)
  rename_i hknown
  rw [if_neg hknown]
  split at h
  · exact absurd h (by simp)
  rename_i haccepted
  rw [if_neg haccepted]
  exact ⟨not_not.1 hlength, hzero _ haccepted, hfirst, congrArg some hpresent⟩

/-- A packet with the remaining length two that was read into the buffer. -/
theorem receivePacket_two (c : Config) {s : Sys} {packet : PacketInfo} {remainingTimeMs : UInt32}
    (hlength : packet.remainingLength = 2)
    (h : (receivePacket c s packet remainingTimeMs).1 = .success) :
    let s' := (receivePacket c s packet remainingTimeMs).2
    TakesIn s s' [byteAt (some s'.networkBuffer) 0, byteAt (some s'.networkBuffer) 1] := by
  unfold receivePacket at h ⊢
  rw [hlength] at h ⊢
  by_cases hroom : s.networkBuffer.length < 2
  · rw [if_pos hroom] at h
    unfold discardPacket at h
    dsimp only at h
    split at h
    · exact absurd h (by simp)
    · exact absurd h (by simp)
  rw [if_neg hroom] at h ⊢
  dsimp only at h ⊢
  split at h
  swap
  · exact absurd h (by simp)
  rename_i hcount
  obtain ⟨bytes, htwo, hread, hbuffer⟩ := recvExact_takesIn c (by omega) hcount
  rw [writeAt_eq (by omega), List.take_zero, List.nil_append] at hbuffer
  obtain ⟨first, second, rfl⟩ := List.length_eq_two.1 htwo
  rw [hbuffer]
  exact hread

/-- The bytes of an accepted CONNACK. -/
def connackBytes (sessionPresent : Bool) : List UInt8 :=
  [packetTypeConnack, 2, if sessionPresent then 1 else 0, 0]

/-- `receiveConnack` succeeds on an accepted CONNACK only. -/
theorem receiveConnack_takesIn (c : Config) {s : Sys} {timeoutMs : UInt32} {cleanSession : Bool}
    (h : (receiveConnack c s timeoutMs cleanSession).1 = .success) :
    ∃ sessionPresent, (cleanSession = true → sessionPresent = false) ∧
      (receiveConnack c s timeoutMs cleanSession).2.1 = some sessionPresent ∧
      TakesIn s (receiveConnack c s timeoutMs cleanSession).2.2 (connackBytes sessionPresent) := by
  unfold receiveConnack at h ⊢
  dsimp only at h ⊢
  have hheader := @receiveConnackLoop_connack c timeoutMs (getTime s).1
    ((getTime s).2.recvs.length + 1) 0 ⟨0, none, 0, 0⟩ (getTime s).2
  generalize receiveConnackLoop c timeoutMs (getTime s).1 ((getTime s).2.recvs.length + 1) 0
    ⟨0, none, 0, 0⟩ (getTime s).2 = received at h hheader ⊢
  by_cases hreceived : received.1 = .success
  swap
  · rw [if_pos hreceived] at h
    exact absurd h hreceived
  rw [if_neg (not_not_intro hreceived)] at h ⊢
  by_cases htype : received.2.1.type = packetTypeConnack
  swap
  · rw [if_pos htype] at h
    exact absurd h (by simp)
  rw [if_neg (not_not_intro htype)] at h ⊢
  generalize hremaining : (if calculateElapsedTime (getTime received.2.2).1 (getTime s).1 <
    timeoutMs then timeoutMs - calculateElapsedTime (getTime received.2.2).1 (getTime s).1 else 0) =
      remainingTimeMs at h ⊢
  by_cases hpacket : (receivePacket c (getTime received.2.2).2 received.2.1 remainingTimeMs).1 =
    .success
  swap
  · rw [if_pos hpacket] at h
    exact absurd h hpacket
  rw [if_neg (not_not_intro hpacket)] at h ⊢
  generalize hfinal : receivePacket c (getTime received.2.2).2 received.2.1 remainingTimeMs = packet
    at h hpacket ⊢
  by_cases hconnack : (mqttDeserializeAck { received.2.1 with
    pRemainingData := some packet.2.networkBuffer } false true).1 = .success
  swap
  · rw [if_pos hconnack] at h
    exact absurd h hconnack
  obtain ⟨hlength, hcode, hflags, hpresent⟩ := deserializeConnack_success hconnack htype
  have htwo : received.2.1.remainingLength = 2 := hlength
  rw [← hfinal] at hpacket
  have hdata := receivePacket_two c htwo hpacket
  rw [hfinal] at hdata
  have hread := (TakesIn.refl s).getTime.trans ((hheader hreceived htype hlength).getTime.trans hdata)
  dsimp only at hcode hflags hpresent hdata
  rw [hcode] at hread
  rw [if_neg (not_not_intro hconnack), hpresent] at h ⊢
  generalize byteAt (some packet.2.networkBuffer) 0 = flags at h hflags hpresent hread ⊢
  split at h
  · exact absurd h (by simp)
  rename_i hclean
  rw [if_neg hclean]
  refine ⟨flags == 1, fun hrequested => ?_, rfl, ?_⟩
  · by_contra hsession
    exact hclean ⟨hrequested, congrArg some (Bool.eq_true_of_not_eq_false hsession)⟩
  · rcases hflags with rfl | rfl
    · exact hread
    · exact hread

end FreeMqtt
