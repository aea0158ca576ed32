import FreeMqtt.Core.Drain
import FreeMqtt.Core.KeepAlive

/-!
# Keep-alive timeouts

`MQTT_ProcessLoop` returns `MQTTKeepAliveTimeout` when a PINGRESP is awaited for too long. It may have
been read by then: `MQTT_ReceiveLoop` takes it off the buffer without ending the wait, a drain that is
cut short loses it, and the time is looked at before the packet in the buffer. In a run without such
calls (`HeedsPingresp`) no PINGRESP was read behind a PINGREQ whose wait times out
(`run_keepAliveTimeout`).
-/

namespace FreeMqtt

open Framing Moments Relation

/-! ## PINGREQs -/

/-- A PINGREQ that was sent completely. -/
def Event.isPingreq : Event → Bool
  | .sent .pingreq _ _ .complete => true
  | _ => false

/-- The number of PINGREQs that were sent completely. -/
def Sys.pingreqs (s : Sys) : Nat := s.log.countP Event.isPingreq

/-- Only a PINGREQ starts the wait for a PINGRESP. -/
structure Awaits (s s' : Sys) : Prop where
  pingreqs : s.pingreqs ≤ s'.pingreqs
  waiting : s'.waitingForPingResp = true → s.waitingForPingResp = true ∨ s.pingreqs < s'.pingreqs

section Awaits

variable {s s' s'' : Sys}

theorem Awaits.of_eq (hlog : s'.log = s.log) (hwaiting : s'.waitingForPingResp = s.waitingForPingResp) :
    Awaits s s' := by
  refine ⟨?_, fun h => .inl (hwaiting.symm.trans h)⟩
  unfold Sys.pingreqs
  rw [hlog]

theorem Awaits.trans (h : Awaits s s') (h' : Awaits s' s'') : Awaits s s'' := by
  refine ⟨h.pingreqs.trans h'.pingreqs, fun hwaiting => ?_⟩
  rcases h'.waiting hwaiting with hbefore | hmore
  · rcases h.waiting hbefore with hbefore | hmore
    · exact .inl hbefore
    · exact .inr (Nat.lt_of_lt_of_le hmore h'.pingreqs)
  · exact .inr (Nat.lt_of_le_of_lt h.pingreqs hmore)

/-- When no PINGREQ is sent, the wait was there before. -/
theorem Awaits.before (h : Awaits s s') (hpingreqs : s'.pingreqs = s.pingreqs)
    (hwaiting : s'.waitingForPingResp = true) : s.waitingForPingResp = true :=
  (h.waiting hwaiting).resolve_right (Nat.not_lt.2 (Nat.le_of_eq hpingreqs))

theorem pingreqs_record (s : Sys) (event : Event) :
    (s.record event).pingreqs = s.pingreqs + if event.isPingreq then 1 else 0 := by
  unfold Sys.pingreqs Sys.record
  rw [List.countP_append, List.countP_singleton]

theorem awaits_record (s : Sys) (event : Event) : Awaits s (s.record event) :=
  ⟨by rw [pingreqs_record]; exact Nat.le_add_right _ _, .inl⟩

theorem awaits_preorder : SendPreorder Awaits where
  refl _ := .of_eq rfl rfl
  trans := .trans
  clock _ := .of_eq rfl rfl
  error _ := .of_eq rfl rfl
  send s offered := by
    obtain ⟨sends, wire, heq⟩ := transportSend_kept s offered
    rw [heq]
    exact .of_eq rfl rfl
  stamp _ := .of_eq rfl rfl
  record s _ _ _ _ := awaits_record s _
  context _ _ _ _ _ _ := .of_eq rfl rfl

/-- A wait that `MQTT_Ping` starts is for the PINGREQ that it sent. -/
theorem mqttPing_awaits (c : Config) (s : Sys) : Awaits s (mqttPing c s).2 := by
  have hsent := awaits_preorder.sendPacket c s .pingreq mqttSerializePingreq
  obtain ⟨n, stop, hspec, hreturned⟩ := sendPacket_spec c s .pingreq mqttSerializePingreq
  unfold mqttPing
  dsimp only
  split
  · exact .of_eq rfl rfl
  split
  · exact hsent
  · rename_i hcomplete
    have hle := hspec.1
    have hresult := hspec.result_eq_length hreturned
    obtain rfl : stop = .complete := by
      refine hresult.1 ?_
      rcases hreturned with ⟨-, hneg⟩ | ⟨-, heq⟩
      · exact absurd hneg (by omega)
      · omega
    have hmore : s.pingreqs < (sendPacket c s .pingreq mqttSerializePingreq).2.pingreqs := by
      unfold Sys.pingreqs
      rw [hspec.log_eq, List.countP_append]
      exact Nat.lt_add_of_pos_right Nat.one_pos
    exact ⟨Nat.le_of_lt hmore, fun _ => .inr hmore⟩

theorem sendCall_awaits (c : Config) (s : Sys) (call : SendCall) : Awaits s (call.run c s) := by
  by_cases hcall : call = .disconnect
  · subst hcall
    exact awaits_preorder.mqttDisconnect c (fun _ => .of_eq rfl rfl) s
  · exact awaits_preorder.request c (mqttPing_awaits c) s hcall

theorem handlePacket_awaits (c : Config) (manageKeepAlive : Bool) (packet : PacketInfo) (s : Sys) :
    Awaits s (handlePacket c manageKeepAlive packet s).2 :=
  awaits_preorder.handlePacket c (sendCall_awaits c)
    (fun s _ _ _ => (awaits_record s _).trans (.of_eq rfl rfl)) (fun s _ => awaits_record s _)
    (fun _ => ⟨Nat.le_refl _, nofun⟩) manageKeepAlive packet s

theorem Reads.awaits (h : Reads s s') : Awaits s s' := .of_eq h.received.log h.waitingForPingResp

theorem receiveSingleIteration_awaits (c : Config) (s : Sys) (manageKeepAlive : Bool) :
    Awaits s (receiveSingleIteration c s manageKeepAlive).2 :=
  awaits_preorder.receiveSingleIteration c manageKeepAlive (mqttPing_awaits c)
    (fun s => (reads_readIntoBuffer c s).awaits)
    (fun s packet => (reads_discardStoredPacket c s packet).awaits)
    (handlePacket_awaits c manageKeepAlive) (fun _ _ _ _ _ => .of_eq rfl rfl) s

theorem ApiCall.awaits (c : Config) (s : Sys) (call : ApiCall) : Awaits s (call.run c s) := by
  cases call with
  | init transport getTimeFunction userCallback buffer =>
    show Awaits s (mqttInit s transport getTimeFunction userCallback buffer).2
    unfold mqttInit
    split
    · split_ifs
      · exact .of_eq rfl rfl
      · exact .of_eq rfl rfl
      · exact .of_eq rfl rfl
      · exact .of_eq rfl rfl
      · exact ⟨Nat.le_refl _, nofun⟩
    · exact .of_eq rfl rfl
  | initStatefulQoS outgoing outgoingCount incoming incomingCount =>
    show Awaits s (mqttInitStatefulQoS s outgoing outgoingCount incoming incomingCount).2
    unfold mqttInitStatefulQoS
    split_ifs <;> exact .of_eq rfl rfl
  | initRetransmits storeFunction retrieveFunction clearFunction =>
    show Awaits s (mqttInitRetransmits s storeFunction retrieveFunction clearFunction).2
    unfold mqttInitRetransmits
    split_ifs <;> exact .of_eq rfl rfl
  | request call => exact sendCall_awaits c s call
  | processLoop =>
    have hreset : Awaits s { s with controlPacketSent := false } := .of_eq rfl rfl
    exact hreset.trans (receiveSingleIteration_awaits c _ true)
  | receiveLoop => exact receiveSingleIteration_awaits c s false
  | checkConnectStatus => exact .of_eq rfl rfl

end Awaits

/-! ## Timeouts -/

/-- The keep-alive check of `MQTT_ProcessLoop` is made, and the PINGRESP is overdue. -/
def TimesOut (c : Config) (s : Sys) : Prop :=
  (readIntoBuffer c { s with controlPacketSent := false }).1 = 0 ∧ s.waitingForPingResp = true ∧
    c.pingrespTimeoutMs <
      (calculateElapsedTime (s.clock s.ticks) s.pingReqSendTimeMs).toNat

section Timeouts

variable {c : Config} {s : Sys}

theorem checkKeepAlive_timeout {recvBytes : Int} {manageKeepAlive : Bool} {status : Status}
    (hstatus : status ≠ .keepAliveTimeout)
    (h : (checkKeepAlive c recvBytes manageKeepAlive status s).1 = .keepAliveTimeout) :
    recvBytes = 0 ∧ s.waitingForPingResp = true ∧ c.pingrespTimeoutMs <
      (calculateElapsedTime (s.clock s.ticks) s.pingReqSendTimeMs).toNat := by
  have hping : (mqttPing c (getTime s).2).1 ≠ .keepAliveTimeout :=
    ne_of_mem_of_not_mem (mqttPing_status c (getTime s).2) (by decide)
  have hkept : (handleKeepAlive c s).1 = .keepAliveTimeout → s.waitingForPingResp = true ∧
      c.pingrespTimeoutMs <
        (calculateElapsedTime (s.clock s.ticks) s.pingReqSendTimeMs).toNat := by
    intro h
    unfold handleKeepAlive at h
    dsimp only at h
    split at h
    · rename_i hwaiting
      refine ⟨hwaiting, ?_⟩
      split at h
      · assumption
      · exact absurd h (by simp)
    split at h
    · exact absurd h hping
    split at h
    · exact absurd h hping
    · exact absurd h (by simp)
  unfold checkKeepAlive at h
  dsimp only at h
  split at h
  · rename_i hcheck
    refine ⟨hcheck.1, hkept ?_⟩
    split at h
    · exact absurd h hstatus
    · exact h
  · exact absurd h hstatus

theorem readIntoBuffer_status (c : Config) (s : Sys) : (readIntoBuffer c s).2.1 ∈
    [Status.success, .badResponse, .needMoreBytes, .noDataAvailable, .recvFailed] := by
  unfold readIntoBuffer
  dsimp only
  split
  · simp
  split
  · simp
  · exact List.mem_append_left [.recvFailed] (typeAndLength_status _ _)

/-- A read does not look at the clock, and one of no bytes leaves the stream as it was. -/
theorem readIntoBuffer_kept (c : Config) (s : Sys) :
    (readIntoBuffer c s).2.2.2.clock = s.clock ∧ (readIntoBuffer c s).2.2.2.ticks = s.ticks ∧
      (readIntoBuffer c s).2.2.2.pingReqSendTimeMs = s.pingReqSendTimeMs ∧
      ((readIntoBuffer c s).1 = 0 → (readIntoBuffer c s).2.2.2.inbound = s.inbound) := by
  obtain ⟨count, -, hbytes, hstate, hresult⟩ :=
    transportRecv_stream s (c.sizeSub s.networkBuffer.length s.index)
  have hinbound : (transportRecv s (c.sizeSub s.networkBuffer.length s.index)).1 = 0 →
      s.inbound.drop count = s.inbound := by
    intro hzero
    have hnone : s.inbound.take count = [] := by
      rcases hresult with ⟨hneg, -⟩ | heq
      · omega
      · rw [hbytes] at heq
        exact List.eq_nil_of_length_eq_zero (by omega)
    rw [← List.nil_append (s.inbound.drop count), ← hnone, List.take_append_drop]
  unfold readIntoBuffer
  dsimp only
  generalize transportRecv s (c.sizeSub s.networkBuffer.length s.index) = received at *
  obtain ⟨result, bytes, s₁⟩ := received
  dsimp only at hstate hinbound ⊢
  subst hstate
  split
  · exact ⟨rfl, rfl, rfl, hinbound⟩
  split
  · exact ⟨rfl, rfl, rfl, hinbound⟩
  · exact ⟨rfl, rfl, rfl, hinbound⟩

/-- `MQTT_ProcessLoop` returns `MQTTKeepAliveTimeout` only when the PINGRESP is overdue. -/
theorem timesOut_of_keepAliveTimeout (h : (mqttProcessLoop c s).1 = .keepAliveTimeout) :
    TimesOut c s ∧ (mqttProcessLoop c s).2.inbound = s.inbound := by
  have houtcome := receiveSingleIteration_outcome c { s with controlPacketSent := false } true
  have hreads := reads_readIntoBuffer c { s with controlPacketSent := false }
  have hstatus := readIntoBuffer_status c { s with controlPacketSent := false }
  obtain ⟨hclock, hticks, hping, hinbound⟩ :=
    readIntoBuffer_kept c { s with controlPacketSent := false }
  unfold mqttProcessLoop TimesOut at *
  dsimp only at houtcome hclock hticks hping hinbound
  generalize dispatched c { s with controlPacketSent := false } true = next at houtcome
  generalize draining c { s with controlPacketSent := false } true = drain at houtcome
  generalize readIntoBuffer c { s with controlPacketSent := false } = read at *
  have hstream := checkKeepAlive_streamKept c read.1 true read.2.1 read.2.2.2
  have htimeout := @checkKeepAlive_timeout c read.2.2.2 read.1 true read.2.1
  generalize checkKeepAlive c read.1 true read.2.1 read.2.2.2 = kept at *
  generalize receiveSingleIteration c { s with controlPacketSent := false } true = result at *
  have hnot : read.2.1 ≠ .keepAliveTimeout := ne_of_mem_of_not_mem hstatus (by decide)
  rw [hclock, hticks, hping, hreads.waitingForPingResp] at htimeout
  cases houtcome with
  | stopped =>
    dsimp only at h ⊢
    split at h
    · exact absurd h (by simp)
    · have hover := htimeout hnot h
      exact ⟨hover, hstream.inbound.trans (hinbound hover.1)⟩
  | @drained packet discarded _ hdiscarded =>
    have hdrained := discardStoredPacket_status c kept.2 packet
    rw [hdiscarded] at hdrained
    dsimp only at h
    rcases hdrained with hdrained | hdrained
    · rw [if_pos hdrained] at h
      exact absurd h (by simp)
    · rw [hdrained, if_neg (by simp)] at h
      exact absurd h (by simp)
  | incomplete => exact absurd h (by simp)
  | @handled packet handled _ hhandled ticks index networkBuffer lastPacketRxTime =>
    have hmem := handlePacket_status c true packet kept.2
    dsimp only at h
    rw [hhandled] at hmem
    exact absurd h (ne_of_mem_of_not_mem hmem (by decide))

end Timeouts

/-! ## PINGRESPs in the stream -/

/-- A PINGRESP. -/
def pingresp : List UInt8 := [packetTypePingresp, 0]

theorem framed_pingresp : Framed pingresp := by decide

/-- What was read and is not yet handled, and what is still to be read. -/
def Sys.unhandled (s : Sys) : List UInt8 := s.networkBuffer.take s.index ++ s.inbound

/-- How much of the stream of `s` is read in `s'`. -/
def bytesRead (s s' : Sys) : Nat := s.unhandled.length - s'.inbound.length

/-- A PINGRESP of the stream of `s` ends behind its first `n` bytes, and is read in `s'`. -/
def PingrespRead (s : Sys) (n : Nat) (s' : Sys) : Prop :=
  ∃ m, EndsAt Framed pingresp s.unhandled m ∧ n < m ∧ m ≤ bytesRead s s'

/-- How much of the stream was read when the last PINGREQ of a run was sent; nothing when the run
sends none. -/
def readAtPingreq (c : Config) (s : Sys) (calls : List ApiCall) : Nat :=
  (moments (ApiCall.run c) s calls).foldl (fun n m =>
    if m.before.pingreqs < (m.after (ApiCall.run c)).pingreqs then
      bytesRead s (m.operation.afterRead c m.before)
    else n) 0

theorem readAtPingreq_concat (c : Config) (s : Sys) (calls : List ApiCall) (call : ApiCall) :
    let s' := calls.foldl (ApiCall.run c) s
    readAtPingreq c s (calls ++ [call]) =
      if s'.pingreqs < (call.run c s').pingreqs then bytesRead s (call.afterRead c s')
      else readAtPingreq c s calls := by
  unfold readAtPingreq
  rw [moments_append, List.foldl_append]
  rfl

/-- A call does not lose a PINGRESP: no drain is cut short, `MQTT_ReceiveLoop` takes none that is
awaited, and there is none in the buffer when `MQTT_ProcessLoop` times out. -/
structure HeedsPingresp (c : Config) (s : Sys) (call : ApiCall) : Prop where
  drains : ∀ i ∈ call.iteration s, givesUpDrain c i.1 i.2 = false
  received : call = .receiveLoop → s.waitingForPingResp = true →
    ∀ next ∈ call.dispatches c s, next.1.type ≠ packetTypePingresp
  checked : call = .processLoop → TimesOut c s →
    ∀ n, ¬ EndsAt Framed pingresp (s.networkBuffer.take s.index) n

section Pingresp

variable {c : Config} {s s' : Sys}

/-- What is taken off the stream, if anything, is a packet; a PINGRESP is handed to its handler. -/
theorem TakesPacket.consumed {next : Option (PacketInfo × Sys)} {bound : Nat} {r r' : Receiver UInt8}
    (h : TakesPacket next bound r r') : r'.pending ++ r'.stream = r.pending ++ r.stream ∨
      ∃ p, Framed p ∧ r.pending ++ r.stream = p ++ (r'.pending ++ r'.stream) ∧
        (p = pingresp → r'.stream = r.stream ∧ ∃ d ∈ next, d.1.type = packetTypePingresp ∧
          (mqttDeserializeAck d.1 true false).1 = .success) := by
  cases h with
  | nothing => exact .inl rfl
  | @deliver p pending stream delivered packet data s hp _ hnext hpacket =>
    refine .inr ⟨p, hp, List.append_assoc _ _ _, ?_⟩
    rintro rfl
    have hdecoded : mqttProcessIncomingPacketTypeAndLength pingresp pingresp.length =
        (.success, ⟨packetTypePingresp, none, 0, 2⟩) := by decide
    rw [hdecoded] at hpacket
    cases hpacket
    refine ⟨rfl, _, hnext, rfl, ?_⟩
    cases data <;> rfl
  | @skip p rest r hp hlong htwo heq =>
    refine .inr ⟨p, hp, heq, ?_⟩
    rintro rfl
    exact absurd (Nat.lt_of_le_of_lt htwo hlong) (Nat.lt_irrefl 2)

theorem receiveSingleIteration_pingresp {packet : PacketInfo} {s₁ : Sys}
    (h : dispatched c s true = some (packet, s₁)) (htype : packet.type = packetTypePingresp)
    (hdecoded : (mqttDeserializeAck packet true false).1 = .success) :
    (receiveSingleIteration c s true).2.waitingForPingResp = false := by
  have houtcome := receiveSingleIteration_outcome c s true
  dsimp only at houtcome
  rw [h] at houtcome
  generalize draining c s true = drain at houtcome
  generalize checkKeepAlive c (readIntoBuffer c s).1 true (readIntoBuffer c s).2.1
    (readIntoBuffer c s).2.2.2 = kept at houtcome
  generalize receiveSingleIteration c s true = result at *
  cases houtcome with
  | @handled packet handled _ hhandled ticks index networkBuffer lastPacketRxTime =>
    rw [handlePacket_pingresp c htype hdecoded] at hhandled
    subst hhandled
    rfl

/-- A call that takes a PINGRESP ends the wait, unless it sends a PINGREQ. -/
theorem HeedsPingresp.answered {call : ApiCall} (h : HeedsPingresp c s call)
    (hpingreqs : (call.run c s).pingreqs = s.pingreqs) {next : PacketInfo × Sys}
    (hnext : next ∈ call.dispatches c s) (htype : next.1.type = packetTypePingresp)
    (hdecoded : (mqttDeserializeAck next.1 true false).1 = .success) :
    (call.run c s).waitingForPingResp = false := by
  cases call with
  | processLoop => exact receiveSingleIteration_pingresp hnext htype hdecoded
  | receiveLoop =>
    by_contra hwaiting
    have hbefore := (ApiCall.awaits c s .receiveLoop).before hpingreqs (eq_true_of_ne_false hwaiting)
    exact h.received rfl hbefore next hnext htype
  | init => cases hnext
  | initStatefulQoS => cases hnext
  | initRetransmits => cases hnext
  | request => cases hnext
  | checkConnectStatus => cases hnext

end Pingresp

/-! ## Runs -/

/-- Every PINGRESP that was taken off the stream of `s` behind its first `n` bytes ended the wait. -/
structure Answered (s : Sys) (n : Nat) (s' : Sys) : Prop where
  index_le : s'.index ≤ s'.networkBuffer.length
  length : s'.networkBuffer.length = s.networkBuffer.length
  taken : ∃ taken : List (List UInt8), (∀ p ∈ taken, Framed p) ∧
    s.unhandled = taken.flatten ++ s'.unhandled ∧
    ∀ m, EndsAt Framed pingresp s.unhandled m → n < m → m ≤ taken.flatten.length →
      s'.waitingForPingResp = false

section Runs

variable {c : Config} {s s' : Sys} {n : Nat}

theorem Answered.call (h : Answered s n s') (hsize : s.networkBuffer.length < 2 ^ c.sizeBits)
    {call : ApiCall} (hinit : ¬ call.IsInit) (hheeds : HeedsPingresp c s' call)
    (hconn : (call.run c s').connectStatus = .connected) :
    Answered s (if s'.pingreqs < (call.run c s').pingreqs then bytesRead s (call.afterRead c s')
      else n) (call.run c s') := by
  obtain ⟨taken, htaken, hstream, hanswered⟩ := h.taken
  rw [← h.length] at hsize
  obtain ⟨r₁, r', -, hsame, hread, htakes, htracks, hlength⟩ :=
    (Tracks.of_index_le h.index_le).takes hsize hheeds.drains hinit hconn
  have hunhandled : r₁.pending ++ r₁.stream = s'.unhandled := hsame
  have hunhandled' : r'.pending ++ r'.stream = (call.run c s').unhandled := by
    unfold Sys.unhandled
    rw [htracks.pending, htracks.stream]
  refine ⟨htracks.index_le, hlength.trans h.length, ?_⟩
  -- a PINGRESP that was taken before the call
  have hbefore : ∀ m, EndsAt Framed pingresp s.unhandled m →
      (if s'.pingreqs < (call.run c s').pingreqs then bytesRead s (call.afterRead c s') else n) < m →
      m ≤ taken.flatten.length → (call.run c s').waitingForPingResp = false := by
    intro m hends hlt hle
    split at hlt
    · have hcount : s.unhandled.length = taken.flatten.length +
          (r₁.pending.length + r₁.stream.length) := by
        rw [hstream, ← hunhandled, List.length_append, List.length_append]
      unfold bytesRead at hlt
      rw [hread.stream] at hlt
      omega
    · rename_i hnone
      have hawaits := call.awaits c s'
      have hpingreqs := Nat.le_antisymm (Nat.not_lt.1 hnone) hawaits.pingreqs
      by_contra hwaiting
      have hwaited := hawaits.before hpingreqs (eq_true_of_ne_false hwaiting)
      rw [hanswered m hends hlt hle] at hwaited
      exact absurd hwaited (by simp)
  rcases htakes.consumed with hnothing | ⟨p, hp, hpacket, hpingresp⟩
  · rw [hunhandled, hunhandled'] at hnothing
    exact ⟨taken, htaken, by rw [hstream, hnothing], hbefore⟩
  rw [hunhandled, hunhandled'] at hpacket
  have hstream' : s.unhandled = (taken ++ [p]).flatten ++ (call.run c s').unhandled := by
    rw [hstream, hpacket, List.flatten_append, List.flatten_singleton, List.append_assoc]
  refine ⟨taken ++ [p], List.forall_mem_append.2 ⟨htaken, List.forall_mem_singleton.2 hp⟩, hstream', ?_⟩
  intro m hends hlt hle
  have hfirst := hends
  rw [hstream'] at hfirst
  rcases hfirst.le_or_eq prefixFree_framed not_framed_nil htaken hp framed_pingresp hle with
    hfront | rfl
  · exact hbefore m hends hlt hfront
  -- it is the one that the call takes
  obtain ⟨hstays, next, hnext, htype, hdecoded⟩ := hpingresp rfl
  split at hlt
  · have hcount := congrArg List.length hstream'
    rw [List.length_append, ← hunhandled', List.length_append, hstays] at hcount
    unfold bytesRead at hlt
    rw [hread.stream] at hlt
    omega
  · rename_i hnone
    exact hheeds.answered (Nat.le_antisymm (Nat.not_lt.1 hnone) (call.awaits c s').pingreqs) hnext
      htype hdecoded

theorem run_answered (hindex : s.index ≤ s.networkBuffer.length)
    (hsize : s.networkBuffer.length < 2 ^ c.sizeBits) {calls : List ApiCall}
    (hinit : ∀ call ∈ calls, ¬ call.IsInit)
    (hheeds : ∀ m ∈ moments (ApiCall.run c) s calls, HeedsPingresp c m.before m.operation)
    (hconn : (runApi c s calls).connectStatus = .connected) :
    Answered s (readAtPingreq c s calls) (runApi c s calls) := by
  induction calls using List.reverseRecOn with
  | nil =>
    refine ⟨hindex, rfl, [], List.forall_mem_nil _, rfl, ?_⟩
    intro m _ hlt hle
    exact absurd (Nat.lt_of_lt_of_le hlt hle) (Nat.lt_irrefl 0)
  | append_singleton calls call ih =>
    have hrun : runApi c s (calls ++ [call]) = call.run c (runApi c s calls) :=
      List.foldl_concat ..
    rw [moments_append] at hheeds
    obtain ⟨hcalls, hcall⟩ := List.forall_mem_append.1 hheeds
    rw [hrun] at hconn ⊢
    have hbefore : (runApi c s calls).connectStatus = .connected := by
      by_contra hne
      exact ne_connected_of_level_le (call.library c _).level_le hne hconn
    rw [readAtPingreq_concat]
    exact (ih (fun call hmem => hinit call (List.mem_append_left _ hmem)) hcalls hbefore).call hsize
      (hinit call (by simp)) (hcall _ List.mem_cons_self) hconn

/-- In a run whose calls lose no PINGRESP, `MQTT_ProcessLoop` returns `MQTTKeepAliveTimeout` only if
none was read since the last PINGREQ was sent. -/
theorem run_keepAliveTimeout (c : Config) {s : Sys} (hindex : s.index ≤ s.networkBuffer.length)
    (hsize : s.networkBuffer.length < 2 ^ c.sizeBits) {calls : List ApiCall}
    (hinit : ∀ call ∈ calls, ¬ call.IsInit)
    (hheeds : ∀ m ∈ moments (ApiCall.run c) s (calls ++ [.processLoop]),
      HeedsPingresp c m.before m.operation)
    (hconn : (runApi c s calls).connectStatus = .connected)
    (htimeout : (mqttProcessLoop c (runApi c s calls)).1 = .keepAliveTimeout) :
    ¬ PingrespRead s (readAtPingreq c s calls) (mqttProcessLoop c (runApi c s calls)).2 := by
  rintro ⟨m, hends, hlt, hle⟩
  rw [moments_append] at hheeds
  obtain ⟨hcalls, hlast⟩ := List.forall_mem_append.1 hheeds
  obtain ⟨-, -, taken, htaken, hstream, hanswered⟩ :=
    run_answered hindex hsize hinit hcalls hconn
  obtain ⟨htimesOut, hinbound⟩ := timesOut_of_keepAliveTimeout htimeout
  -- the wait goes on, so the PINGRESP is still to be handled
  have hmore : taken.flatten.length < m := by
    by_contra hdone
    have hwaiting := hanswered m hends hlt (Nat.not_lt.1 hdone)
    rw [htimesOut.2.1] at hwaiting
    exact absurd hwaiting (by simp)
  rw [hstream] at hends
  have hbehind := hends.drop prefixFree_framed not_framed_nil htaken framed_pingresp hmore
  -- and it is in the buffer
  refine (hlast _ List.mem_cons_self).checked rfl htimesOut _ (hbehind.of_le ?_)
  unfold bytesRead at hle
  rw [hinbound, hstream, List.length_append] at hle
  unfold Sys.unhandled at hle
  rw [List.length_append] at hle
  omega

end Runs

/-- A PUBLISH of QoS 0. -/
def shortPublish : List UInt8 := [0x30, 3, 0, 1, 0x74]

/-- A connection on which the transport delivers these bytes at once and then nothing; the clock
stands still for four looks at it, and then shows twenty seconds. -/
def pingedConnection (inbound : List UInt8) : Sys :=
  { Sys.initialized { World.still inbound with
      recvs := [7, 0]
      clock := fun n => if n < 4 then 0 else 20000 } 16 1 with
    connectStatus := .connected }

/-- `run_keepAliveTimeout` on a PUBLISH behind which nothing comes. -/
theorem run_keepAliveTimeout_publish :
    let s := pingedConnection shortPublish
    let calls := [ApiCall.request .ping, .processLoop]
    ¬ PingrespRead s (readAtPingreq .default s calls)
      (mqttProcessLoop .default (runApi .default s calls)).2 := by
  refine run_keepAliveTimeout .default (by decide) (by decide) (by simp [ApiCall.IsInit]) ?_
    (by decide) (by decide)
  intro m hm
  simp only [List.cons_append, List.nil_append, moments_cons, moments_nil, List.mem_cons,
    List.not_mem_nil, or_false] at hm
  rcases hm with rfl | rfl | rfl
  · exact ⟨fun i hi => (Option.not_mem_none i hi).elim, (fun h => by cases h), fun h => by cases h⟩
  · exact ⟨by decide, (fun h => by cases h), fun _ htimes => absurd htimes.1 (by decide)⟩
  · refine ⟨by decide, (fun h => by cases h), fun _ _ n hends => ?_⟩
    obtain ⟨front, -, hprefix, -⟩ := hends
    have hlength := hprefix.length_le
    rw [List.flatten_append, List.length_append] at hlength
    have hempty : pingresp.length ≤ 0 := Nat.le_trans (Nat.le_add_left _ _) hlength
    exact absurd hempty (by decide)

/-- The PINGRESP is read together with the PUBLISH. The second call looks at the time before it takes
the PINGRESP out of the buffer. -/
theorem not_run_keepAliveTimeout :
    let s := pingedConnection (shortPublish ++ pingresp)
    let calls := [ApiCall.request .ping, .processLoop]
    let looped := mqttProcessLoop .default (runApi .default s calls)
    (runApi .default s calls).connectStatus = .connected ∧ (runApi .default s calls).pingreqs = 1 ∧
      looped.1 = .keepAliveTimeout ∧ PingrespRead s (readAtPingreq .default s calls) looped.2 := by
  intro s calls looped
  refine ⟨by decide, by decide, by decide, 7, ⟨[shortPublish], ?_, List.prefix_rfl, rfl⟩, ?_, ?_⟩
  · exact List.forall_mem_singleton.2 (by decide)
  · show readAtPingreq .default s calls < 7
    decide
  · show 7 ≤ bytesRead s looped.2
    decide

end FreeMqtt
