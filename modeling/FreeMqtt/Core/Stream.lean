import FreeMqtt.Core.Connack

/-!
# The stream under the library's own calls

What the transport has delivered and has still to deliver is changed by the reads of a loop, and by
`MQTT_Disconnect`, which empties the buffer. Everything else leaves it alone (`StreamKept`).
-/

namespace FreeMqtt

/-- A call of a handler. -/
def Event.isDispatch : Event → Bool
  | .dispatched _ _ => true
  | .sent .. | .callback _ _ => false

/-- The calls of the handlers, in order. -/
def Sys.dispatches (s : Sys) : List Event := s.log.filter Event.isDispatch

/-- The stream is as before, no handler was called, and no connection was made. -/
structure StreamKept (s s' : Sys) : Prop where
  networkBuffer : s'.networkBuffer = s.networkBuffer
  index : s'.index = s.index
  inbound : s'.inbound = s.inbound
  recvs : s'.recvs = s.recvs
  dispatches : s'.dispatches = s.dispatches
  connected : s'.connectStatus = .connected → s.connectStatus = .connected

theorem StreamKept.refl (s : Sys) : StreamKept s s := ⟨rfl, rfl, rfl, rfl, rfl, id⟩

theorem StreamKept.trans {s s' s'' : Sys} (h : StreamKept s s') (h' : StreamKept s' s'') :
    StreamKept s s'' :=
  ⟨h'.networkBuffer.trans h.networkBuffer, h'.index.trans h.index, h'.inbound.trans h.inbound,
    h'.recvs.trans h.recvs, h'.dispatches.trans h.dispatches, h.connected ∘ h'.connected⟩

theorem connected_of_statusAfter {connectStatus : ConnectionStatus} {failed : Bool}
    (h : statusAfter connectStatus failed = .connected) : connectStatus = .connected := by
  revert h
  cases connectStatus <;> cases failed <;> decide

theorem dispatches_append {s s' : Sys} {event : Event} (hlog : s'.log = s.log ++ [event])
    (h : event.isDispatch = false) : s'.dispatches = s.dispatches := by
  unfold Sys.dispatches
  rw [hlog, List.filter_append, List.filter_cons_of_neg (by simp [h]), List.filter_nil,
    List.append_nil]

theorem streamKept_networkError (s : Sys) : StreamKept s (networkError s) := by
  refine ⟨rfl, rfl, rfl, rfl, rfl, fun h => ?_⟩
  have hstatus := @connected_of_statusAfter s.connectStatus true
  unfold statusAfter at hstatus
  exact hstatus (by simpa [networkError] using h)

theorem Sent.streamKept {s s' : Sys} {kind : PacketKind} {packet : List UInt8} {n : Nat}
    {stop : Stop} (h : Sent s s' kind packet n stop) : StreamKept s s' := by
  obtain ⟨-, -, ticks, sends, lastTx, rfl⟩ := h
  exact ⟨rfl, rfl, rfl, rfl, dispatches_append rfl rfl, connected_of_statusAfter⟩

theorem streamKept_sendPreorder : SendPreorder StreamKept where
  refl := .refl
  trans := .trans
  clock _ := ⟨rfl, rfl, rfl, rfl, rfl, id⟩
  error := streamKept_networkError
  send s offered := by
    obtain ⟨sends, wire, heq⟩ := transportSend_kept s offered
    rw [heq]
    exact ⟨rfl, rfl, rfl, rfl, rfl, id⟩
  stamp _ := ⟨rfl, rfl, rfl, rfl, rfl, id⟩
  record _ _ _ _ _ := ⟨rfl, rfl, rfl, rfl, dispatches_append rfl rfl, id⟩
  context _ _ _ _ _ _ := ⟨rfl, rfl, rfl, rfl, rfl, id⟩

theorem mqttPing_streamKept (c : Config) (s : Sys) : StreamKept s (mqttPing c s).2 :=
  streamKept_sendPreorder.mqttPing c (fun _ _ _ => ⟨rfl, rfl, rfl, rfl, rfl, id⟩) s

/-- The calls of the application other than `MQTT_Disconnect`. -/
theorem SendCall.streamKept (c : Config) (s : Sys) {call : SendCall} (h : call ≠ .disconnect) :
    StreamKept s (call.run c s) :=
  streamKept_sendPreorder.request c (mqttPing_streamKept c) s h

/-- `MQTT_Disconnect` leaves no connection, and no bytes in the buffer. -/
theorem mqttDisconnect_not_connected (c : Config) (s : Sys) :
    (mqttDisconnect c s).2.connectStatus ≠ .connected := by
  rcases mqttDisconnect_outcome c s with ⟨hconn, heq⟩ | ⟨hconn, n, stop, hsent⟩
  · rw [heq, hconn]
    simp
  · intro h
    exact absurd (hsent.streamKept.connected h) (by simp [Sys.clearBuffer])

/-- Calls of the application, without an `MQTT_Disconnect` or with a connection after them. -/
theorem foldl_sendCalls_streamKept (c : Config) (calls : List SendCall) (s : Sys)
    (h : .disconnect ∉ calls ∨ (calls.foldl (SendCall.run c) s).connectStatus = .connected) :
    StreamKept s (calls.foldl (SendCall.run c) s) := by
  induction calls generalizing s with
  | nil => exact .refl s
  | cons call calls ih =>
    rw [List.foldl_cons] at h ⊢
    have hrest := ih (call.run c s) (h.imp_left fun hnot hmem => hnot (List.mem_cons_of_mem _ hmem))
    refine .trans (call.streamKept c s ?_) hrest
    rintro rfl
    rcases h with hnot | hconn
    · exact hnot List.mem_cons_self
    · exact mqttDisconnect_not_connected c s (hrest.connected hconn)

theorem appCallback_streamKept (c : Config) (s : Sys) (packet : PacketInfo) (info : DeserializedInfo)
    (h : .disconnect ∉ s.callbacks.headD [] ∨
      (appCallback c s packet info).connectStatus = .connected) :
    StreamKept s (appCallback c s packet info) := by
  have hrecord : StreamKept s { s.record (.callback packet info) with callbacks := s.callbacks.tail } :=
    ⟨rfl, rfl, rfl, rfl, dispatches_append rfl rfl, id⟩
  exact hrecord.trans (foldl_sendCalls_streamKept c _ _ h)

/-! ## Handlers -/

/-- The handler of a packet, unless its callback disconnects. -/
theorem handlePacket_streamKept (c : Config) (manageKeepAlive : Bool) (packet : PacketInfo) (s : Sys)
    (h : .disconnect ∉ s.callbacks.headD [] ∨
      (handlePacket c manageKeepAlive packet s).2.connectStatus = .connected) :
    StreamKept (s.dispatching packet) (handlePacket c manageKeepAlive packet s).2 := by
  cases hframe : callbackFrame (s.dispatching packet) packet manageKeepAlive with
  | none =>
    exact streamKept_sendPreorder.silentOutcome (fun _ => ⟨rfl, rfl, rfl, rfl, rfl, id⟩)
      (handlePacket_silent c hframe)
  | some frame =>
    obtain ⟨t, store, hbefore⟩ := callbackFrame_before hframe
    have hkept := streamKept_sendPreorder.callbackFrame hframe
    have hreply := streamKept_sendPreorder.sendReply c
      (appCallback c frame.before packet frame.info) frame.reply
    rw [handlePacket_callback c hframe] at h ⊢
    refine (hkept.trans (appCallback_streamKept c _ packet frame.info ?_)).trans hreply
    refine h.imp (fun hnot => ?_) hreply.connected
    rw [hbefore]
    exact hnot

/-- The callbacks to come make no calls. -/
def NoReentry (s : Sys) : Prop := ∀ calls ∈ s.callbacks, calls = []

theorem NoReentry.of_callbacks {s s' : Sys} (h : NoReentry s)
    (hcallbacks : s'.callbacks = s.callbacks) : NoReentry s' := by
  unfold NoReentry
  rw [hcallbacks]
  exact h

theorem NoReentry.not_disconnect {s : Sys} (h : NoReentry s) : .disconnect ∉ s.callbacks.headD [] := by
  unfold NoReentry at h
  cases hcallbacks : s.callbacks with
  | nil => exact List.not_mem_nil
  | cons calls callbacks =>
    rw [List.headD_cons, h calls (by rw [hcallbacks]; exact List.mem_cons_self)]
    exact List.not_mem_nil

theorem NoReentry.appCallback {s : Sys} (h : NoReentry s) (c : Config) (packet : PacketInfo)
    (info : DeserializedInfo) : NoReentry (appCallback c s packet info) := by
  have hnone : s.callbacks.headD [] = [] := by
    cases hcallbacks : s.callbacks with
    | nil => rfl
    | cons calls callbacks => exact h calls (by rw [hcallbacks]; exact List.mem_cons_self)
  unfold FreeMqtt.appCallback
  dsimp only
  rw [show (s.record (.callback packet info)).callbacks = s.callbacks from rfl, hnone]
  exact fun calls hcalls => h calls (List.mem_of_mem_tail hcalls)

theorem NoReentry.handlePacket {s : Sys} (h : NoReentry s) (c : Config) (manageKeepAlive : Bool)
    (packet : PacketInfo) : NoReentry (handlePacket c manageKeepAlive packet s).2 := by
  have hdispatching : NoReentry (s.dispatching packet) := h
  cases hframe : callbackFrame (s.dispatching packet) packet manageKeepAlive with
  | none => exact hdispatching.of_callbacks (handlePacket_silent_bufferKept c hframe).callbacks
  | some frame =>
    rw [handlePacket_callback c hframe]
    have hbefore := hdispatching.of_callbacks (bufferKept_sendPreorder.callbackFrame hframe).callbacks
    exact (hbefore.appCallback c packet frame.info).of_callbacks
      (bufferKept_sendPreorder.sendReply c _ frame.reply).callbacks

theorem checkKeepAlive_streamKept (c : Config) (recvBytes : Int) (manageKeepAlive : Bool)
    (status : Status) (s : Sys) :
    StreamKept s (checkKeepAlive c recvBytes manageKeepAlive status s).2 :=
  streamKept_sendPreorder.checkKeepAlive c (mqttPing_streamKept c) recvBytes manageKeepAlive status s

/-! ## Reads -/

theorem Reads.dispatches {s s' : Sys} (h : Reads s s') : s'.dispatches = s.dispatches := by
  unfold Sys.dispatches
  rw [h.received.log]

theorem Reads.callbacks {s s' : Sys} (h : Reads s s') : s'.callbacks = s.callbacks := by
  obtain ⟨_, _, _, _, _, _, -, rfl⟩ := h
  rfl

theorem transportRecv_stream (s : Sys) (bytesToRecv : Nat) :
    let received := transportRecv s bytesToRecv
    ∃ count, (s.inbound.take count).length ≤ bytesToRecv ∧
      received.2.1 = s.inbound.take count ∧
      received.2.2 = { s with recvs := s.recvs.tail, inbound := s.inbound.drop count } ∧
      (received.1 < 0 ∧ s.inbound.take count = [] ∨ received.1 = received.2.1.length) := by
  unfold transportRecv
  split
  · rename_i hrecvs
    refine ⟨bytesToRecv, List.length_take_le _ _, rfl, ?_, ?_⟩
    · have htail : s.recvs.tail = s.recvs := by rw [hrecvs]; rfl
      rw [htail]
    dsimp only
    split
    · rename_i hnone
      exact .inl ⟨by decide, hnone.1⟩
    · exact .inr rfl
  · rename_i result recvs hrecvs
    have htail : s.recvs.tail = recvs := by rw [hrecvs]; rfl
    rw [htail]
    dsimp only
    split
    · rename_i hneg
      exact ⟨0, Nat.zero_le _, rfl, rfl, .inl ⟨hneg, rfl⟩⟩
    · refine ⟨min result.toNat bytesToRecv, ?_, rfl, rfl, .inr rfl⟩
      rw [List.length_take]
      omega

theorem typeAndLength_status (buffer : List UInt8) (index : Nat) :
    (mqttProcessIncomingPacketTypeAndLength buffer index).1 ∈
      [Status.success, .badResponse, .needMoreBytes, .noDataAvailable] := by
  have hloop : ∀ (bytes : List UInt8) (remainingLength bytesDecoded : Nat),
      (processRemainingLengthLoop bytes remainingLength bytesDecoded).1 ∈
        [Status.success, .badResponse, .needMoreBytes, .noDataAvailable] := by
    intro bytes
    induction bytes with
    | nil =>
      intro remainingLength bytesDecoded
      unfold processRemainingLengthLoop
      split <;> simp
    | cons b bytes ih =>
      intro remainingLength bytesDecoded
      unfold processRemainingLengthLoop
      split
      · simp
      · dsimp only
        split
        · exact ih _ _
        · simp
  unfold mqttProcessIncomingPacketTypeAndLength processRemainingLength
  dsimp only
  split
  · simp
  split
  · split
    · split
      · simp
      · simp
    · exact hloop _ _ _
  · simp

/-- The read of an iteration moves the next bytes of the stream behind those in the buffer. -/
theorem readIntoBuffer_stream (c : Config) {s : Sys} (hindex : s.index ≤ s.networkBuffer.length)
    (hsize : s.networkBuffer.length < 2 ^ c.sizeBits) :
    let read := readIntoBuffer c s
    let s' := read.2.2.2
    ∃ count, s'.networkBuffer.take s'.index =
        s.networkBuffer.take s.index ++ s.inbound.take count ∧
      s'.inbound = s.inbound.drop count ∧ s'.recvs = s.recvs.tail ∧
      s'.networkBuffer.length = s.networkBuffer.length ∧ s'.index ≤ s'.networkBuffer.length ∧
      (read.2.1 = .recvFailed → s'.connectStatus ≠ .connected) ∧
      (read.2.1 = .success →
        mqttProcessIncomingPacketTypeAndLength s'.networkBuffer s'.index = (.success, read.2.2.1)) := by
  obtain ⟨count, hcount, hbytes, hstate, hresult⟩ :=
    transportRecv_stream s (c.sizeSub s.networkBuffer.length s.index)
  rw [c.sizeSub_eq hindex hsize] at hcount hbytes hstate hresult
  unfold readIntoBuffer
  rw [c.sizeSub_eq hindex hsize]
  dsimp only
  generalize transportRecv s (s.networkBuffer.length - s.index) = received at *
  obtain ⟨result, bytes, s₁⟩ := received
  dsimp only at hbytes hstate hresult ⊢
  subst hbytes hstate
  dsimp only
  have hroom : s.index + (s.inbound.take count).length ≤ s.networkBuffer.length := by omega
  have hwritten : (writeAt s.networkBuffer s.index (s.inbound.take count)).take
      (s.index + (s.inbound.take count).length) =
        s.networkBuffer.take s.index ++ s.inbound.take count := by
    rw [writeAt_eq hroom]
    exact List.take_left' (by rw [List.length_append, List.length_take_of_le hindex])
  rcases hresult with ⟨hneg, hnone⟩ | rfl
  · rw [if_pos hneg]
    have hread := streamKept_networkError { s with
      recvs := s.recvs.tail, inbound := s.inbound.drop count
      networkBuffer := writeAt s.networkBuffer s.index (s.inbound.take count) }
    rw [hnone, List.length_nil, Nat.add_zero] at hwritten
    refine ⟨count, ?_, hread.inbound, hread.recvs, ?_, ?_, fun _ => ?_, by simp⟩
    · rw [hread.networkBuffer, hread.index]
      dsimp only
      rw [hnone, hwritten]
    · rw [hread.networkBuffer]
      exact length_writeAt _ _ _
    · rw [hread.networkBuffer, hread.index]
      exact Nat.le_trans hindex (Nat.le_of_eq (length_writeAt _ _ _).symm)
    · exact networkError_not_connected _
  rw [if_neg (by omega), Int.toNat_natCast]
  split
  · rename_i hnone
    have hcount : (s.inbound.take count).length = 0 := by omega
    rw [hcount, Nat.add_zero] at hwritten
    exact ⟨count, hwritten, rfl, rfl, length_writeAt _ _ _,
      Nat.le_trans hindex (Nat.le_of_eq (length_writeAt _ _ _).symm), by simp, by simp⟩
  · refine ⟨count, hwritten, rfl, rfl, length_writeAt _ _ _, ?_, fun hstatus => ?_, fun hstatus => ?_⟩
    · dsimp only
      rw [length_writeAt]
      exact hroom
    · have hmem := typeAndLength_status (writeAt s.networkBuffer s.index (s.inbound.take count))
        (s.index + (s.inbound.take count).length)
      dsimp only at hstatus
      rw [hstatus] at hmem
      exact absurd hmem (by decide)
    · exact Prod.ext hstatus rfl

/-! ## Draining a packet -/

/-- A drain that gets all bytes takes them off the stream. -/
theorem discardStoredLoop_takesIn (c : Config) {remainingLength fuel bytesToReceive total : Nat}
    {s : Sys} (hle : total ≤ remainingLength) (hroom : bytesToReceive ≤ s.networkBuffer.length)
    (hsmall : s.networkBuffer.length < 2 ^ 31)
    (h : (discardStoredLoop c remainingLength fuel bytesToReceive total s).1 = remainingLength) :
    ∃ bytes, bytes.length = remainingLength - total ∧
      TakesIn s (discardStoredLoop c remainingLength fuel bytesToReceive total s).2 bytes := by
  induction fuel generalizing bytesToReceive total s with
  | zero =>
    have htotal : total = remainingLength := h
    exact ⟨[], by simp [htotal], .refl s⟩
  | succ fuel ih =>
    unfold discardStoredLoop at h ⊢
    dsimp only at h ⊢
    by_cases hmore : total < remainingLength
    swap
    · rw [if_neg hmore] at h ⊢
      exact ⟨[], by simp; omega, .refl s⟩
    rw [if_pos hmore] at h ⊢
    have hmin : min bytesToReceive (remainingLength - total) ≤ s.networkBuffer.length := by omega
    rw [int32Cast_eq (by omega)] at h ⊢
    by_cases hall : (recvExact c s (min bytesToReceive (remainingLength - total))).1 =
        (min bytesToReceive (remainingLength - total) : Nat)
    swap
    · rw [if_pos hall] at h
      exact absurd h (Nat.ne_of_lt hmore)
    rw [if_neg (not_not_intro hall)] at h ⊢
    obtain ⟨bytes, hlength, htakes, -⟩ := recvExact_takesIn c hmin hall
    rw [hall, Int.toNat_natCast] at h ⊢
    obtain ⟨more, hlength', htakes'⟩ := ih (by omega) (by rw [htakes.length]; exact hmin)
      (by rw [htakes.length]; exact hsmall) h
    refine ⟨bytes ++ more, ?_, htakes.trans htakes'⟩
    rw [List.length_append]
    omega

theorem discardStoredPacket_stream (c : Config) {s : Sys} {packet : PacketInfo}
    (hindex : s.index ≤ packet.totalLength) (hsize : packet.totalLength < 2 ^ 32)
    (hsmall : s.networkBuffer.length < 2 ^ 31) :
    let discarded := discardStoredPacket c s packet
    discarded.2.index = 0 ∧ discarded.2.networkBuffer.length = s.networkBuffer.length ∧
      (discarded.1 = .noDataAvailable ∨ discarded.1 = .recvFailed) ∧
      (discarded.1 = .noDataAvailable → ∃ bytes, bytes.length = packet.totalLength - s.index ∧
        s.inbound = bytes ++ discarded.2.inbound) := by
  have hbits : packet.totalLength < 2 ^ c.sizeBits :=
    Nat.lt_of_lt_of_le hsize (Nat.pow_le_pow_right (by decide) (by have := c.sizeBits_eq; omega))
  have hremaining := c.sizeSub_eq hindex hbits
  unfold PacketInfo.totalLength at hremaining
  have hkept := bufferKept_preorder.discardStoredLoop c
    (packet.remainingLength + packet.headerLength - s.index)
    (packet.remainingLength + packet.headerLength - s.index + 1) s.networkBuffer.length 0 s
  unfold discardStoredPacket
  dsimp only
  rw [hremaining]
  refine ⟨rfl, ?_, ?_, fun h => ?_⟩
  · exact List.length_replicate.trans hkept.length
  · split
    · exact .inl rfl
    · exact .inr rfl
  · split at h
    swap
    · exact absurd h (by simp)
    rename_i hall
    obtain ⟨bytes, hlength, htakes⟩ := discardStoredLoop_takesIn c (Nat.zero_le _) (Nat.le_refl _)
      hsmall hall
    exact ⟨bytes, hlength, htakes.inbound⟩

section Positive

variable {s : Sys}

/-- A transport that does not return zero. -/
def Delivering (s : Sys) : Prop := ∀ result ∈ s.recvs, 0 < result

theorem transportRecv_delivering (h : Delivering s) {bytesToRecv : Nat} (hpos : 0 < bytesToRecv)
    (hbytes : bytesToRecv ≤ s.inbound.length) : ∃ count, 0 < count ∧ count ≤ bytesToRecv ∧
      transportRecv s bytesToRecv = ((count : Int), s.inbound.take count,
        { s with recvs := s.recvs.tail, inbound := s.inbound.drop count }) := by
  unfold Delivering at h
  unfold transportRecv
  split
  · rename_i hrecvs
    have htail : s.recvs.tail = s.recvs := by rw [hrecvs]; rfl
    have hlength := List.length_take_of_le hbytes
    refine ⟨bytesToRecv, hpos, Nat.le_refl _, ?_⟩
    dsimp only
    rw [htail, if_neg fun hnone => ?_, hlength]
    rw [hnone.1] at hlength
    exact absurd hlength (Nat.ne_of_lt hpos)
  · rename_i result recvs hrecvs
    have htail : s.recvs.tail = recvs := by rw [hrecvs]; rfl
    have hresult := h result (by rw [hrecvs]; exact List.mem_cons_self)
    refine ⟨min result.toNat bytesToRecv, by omega, Nat.min_le_right _ _, ?_⟩
    dsimp only
    rw [htail, if_neg (by omega), List.length_take_of_le (by omega)]

theorem recvExactLoop_delivering (c : Config) {fuel offset bytesRemaining : Nat} {total : Int}
    {last : UInt32} (h : Delivering s) (hfuel : bytesRemaining < fuel)
    (hbytes : bytesRemaining ≤ s.inbound.length) :
    let received := recvExactLoop c fuel offset bytesRemaining total last s
    received.1 = total + bytesRemaining ∧ Delivering received.2 ∧
      received.2.inbound = s.inbound.drop bytesRemaining := by
  induction fuel generalizing offset bytesRemaining total last s with
  | zero => exact absurd hfuel (Nat.not_lt_zero _)
  | succ fuel ih =>
    unfold recvExactLoop
    dsimp only
    by_cases hpos : 0 < bytesRemaining
    swap
    · obtain rfl : bytesRemaining = 0 := by omega
      rw [if_neg hpos]
      exact ⟨(Int.add_zero _).symm, h, rfl⟩
    obtain ⟨count, hcount, hle, heq⟩ := transportRecv_delivering h hpos hbytes
    rw [if_pos hpos, heq]
    dsimp only
    rw [if_neg (by omega), if_pos (by omega), Int.toNat_natCast]
    have hrest : bytesRemaining - count ≤ (s.inbound.drop count).length := by
      rw [List.length_drop]
      omega
    let next : Sys := (getTime { s with
      recvs := s.recvs.tail
      inbound := s.inbound.drop count
      networkBuffer := writeAt s.networkBuffer offset (s.inbound.take count) }).2
    have hnext : Delivering next := fun result hresult => h result (List.mem_of_mem_tail hresult)
    obtain ⟨htotal, hdelivering, hinbound⟩ := @ih next (offset + count) (bytesRemaining - count)
      (total + count) _ hnext (by omega) hrest
    refine ⟨htotal.trans (by omega), hdelivering, hinbound.trans ?_⟩
    show (s.inbound.drop count).drop (bytesRemaining - count) = s.inbound.drop bytesRemaining
    rw [List.drop_drop, Nat.add_sub_cancel' hle]

/-- A drain from such a transport gets all bytes. -/
theorem discardStoredLoop_delivering (c : Config) {remainingLength fuel bytesToReceive total : Nat}
    (h : Delivering s) (hle : total ≤ remainingLength) (hfuel : remainingLength - total < fuel)
    (hpos : 0 < bytesToReceive) (hsmall : bytesToReceive < 2 ^ 31)
    (hbytes : remainingLength - total ≤ s.inbound.length) :
    (discardStoredLoop c remainingLength fuel bytesToReceive total s).1 = remainingLength := by
  induction fuel generalizing bytesToReceive total s with
  | zero => exact absurd hfuel (Nat.not_lt_zero _)
  | succ fuel ih =>
    unfold discardStoredLoop
    dsimp only
    by_cases hmore : total < remainingLength
    swap
    · rw [if_neg hmore]
      exact Nat.le_antisymm hle (Nat.not_lt.1 hmore)
    obtain ⟨hall, hdelivering, hinbound⟩ := @recvExactLoop_delivering (getTime s).2 c
      (s.recvs.length + min bytesToReceive (remainingLength - total) + 1) 0
      (min bytesToReceive (remainingLength - total)) 0 (getTime s).1 h (by omega)
      (show min bytesToReceive (remainingLength - total) ≤ s.inbound.length by omega)
    have hreceived : (recvExact c s (min bytesToReceive (remainingLength - total))).1 =
        (min bytesToReceive (remainingLength - total) : Nat) := hall.trans (Int.zero_add _)
    rw [if_pos hmore, int32Cast_eq (by omega), if_neg (not_not_intro hreceived), hreceived,
      Int.toNat_natCast]
    refine ih hdelivering (by omega) (by omega) (by omega) (by omega) ?_
    rw [show (recvExact c s (min bytesToReceive (remainingLength - total))).2.inbound =
      s.inbound.drop (min bytesToReceive (remainingLength - total)) from hinbound, List.length_drop]
    omega

theorem discardStoredPacket_delivering (c : Config) {packet : PacketInfo} (h : Delivering s)
    (hindex : s.index ≤ packet.totalLength) (hsize : packet.totalLength < 2 ^ 32)
    (hpos : 0 < s.networkBuffer.length) (hsmall : s.networkBuffer.length < 2 ^ 31)
    (hbytes : packet.totalLength - s.index ≤ s.inbound.length) :
    (discardStoredPacket c s packet).1 = .noDataAvailable := by
  have hbits : packet.totalLength < 2 ^ c.sizeBits :=
    Nat.lt_of_lt_of_le hsize (Nat.pow_le_pow_right (by decide) (by have := c.sizeBits_eq; omega))
  have hremaining := c.sizeSub_eq hindex hbits
  unfold PacketInfo.totalLength at hremaining hbytes
  unfold discardStoredPacket
  dsimp only
  rw [hremaining]
  exact if_pos (discardStoredLoop_delivering c h (Nat.zero_le _) (by omega) hpos hsmall (by omega))

end Positive

theorem NoReentry.receiveSingleIteration {s : Sys} (h : NoReentry s) (c : Config)
    (manageKeepAlive : Bool) : NoReentry (receiveSingleIteration c s manageKeepAlive).2 := by
  have hread := h.of_callbacks (reads_readIntoBuffer c s).callbacks
  unfold FreeMqtt.receiveSingleIteration
  dsimp only
  generalize readIntoBuffer c s = read at *
  have hkept := hread.of_callbacks
    (checkKeepAlive_bufferKept c read.1 manageKeepAlive read.2.1 read.2.2.2).callbacks
  generalize checkKeepAlive c read.1 manageKeepAlive read.2.1 read.2.2.2 = kept at *
  have hcomplete : NoReentry (checkComplete c kept.1 read.2.2.1 kept.2).2 := by
    unfold checkComplete
    dsimp only
    split
    · exact hkept
    split
    · exact hkept.of_callbacks (reads_discardStoredPacket c _ _).callbacks
    split
    · exact hkept
    · exact hkept
  generalize checkComplete c kept.1 read.2.2.1 kept.2 = complete at *
  split
  · unfold dispatchPacket
    dsimp only
    split
    · exact hcomplete.handlePacket c manageKeepAlive _
    · exact hcomplete.handlePacket c manageKeepAlive _
  · exact hcomplete

/-! ## A drain while the clock stands still -/

/-- The results of the transport suffice for the `wanted` bytes of a drain, which asks for `request`
of them next and then for at most `size` at a time. `available` bytes are there. A read that returns
nothing is repeated when `polls` is set. -/
def Supplies (polls : Prop) (size : Nat) :
    (recvs : List Int) → (available request wanted : Nat) → Prop
  | [], available, _, wanted => wanted ≤ available
  | result :: recvs, available, request, wanted =>
      let count := min (min result.toNat request) available
      let left := wanted - count
      wanted = 0 ∨ 0 ≤ result ∧ (count = 0 → polls) ∧
        Supplies polls size recvs (available - count)
          (if count < request then request - count else min size left) left

section Still

variable {c : Config} {now : UInt32} {s : Sys}

theorem supplies_zero (polls : Prop) (size : Nat) (recvs : List Int) (available request : Nat) :
    Supplies polls size recvs available request 0 := by
  cases recvs with
  | nil => exact Nat.zero_le _
  | cons result recvs => exact .inl rfl

theorem supplies_cons (polls : Prop) (size : Nat) (result : Int) (recvs : List Int)
    (available request wanted : Nat) :
    Supplies polls size (result :: recvs) available request wanted ↔
      wanted = 0 ∨ 0 ≤ result ∧ (min (min result.toNat request) available = 0 → polls) ∧
        Supplies polls size recvs (available - min (min result.toNat request) available)
          (if min (min result.toNat request) available < request then
            request - min (min result.toNat request) available
          else min size (wanted - min (min result.toNat request) available))
          (wanted - min (min result.toNat request) available) := .rfl

/-- A read fails, or delivers some bytes of the request. -/
theorem transportRecv_supplies (polls : Prop) (size : Nat) {request wanted : Nat}
    (hrequest : 0 < request) (hwanted : request ≤ wanted) :
    ((transportRecv s request).1 < 0 ∧
        ¬ Supplies polls size s.recvs s.inbound.length request wanted) ∨
      ∃ count ≤ request, count ≤ s.inbound.length ∧
        transportRecv s request = ((count : Int), s.inbound.take count,
          { s with recvs := s.recvs.tail, inbound := s.inbound.drop count }) ∧
        (count = 0 → s.recvs ≠ []) ∧
        (Supplies polls size s.recvs s.inbound.length request wanted ↔ (count = 0 → polls) ∧
          Supplies polls size s.recvs.tail (s.inbound.length - count)
            (if count < request then request - count else min size (wanted - count))
            (wanted - count)) := by
  unfold transportRecv
  cases hrecvs : s.recvs with
  | nil =>
    have hself : s.recvs.tail = s.recvs := by rw [hrecvs]; rfl
    dsimp only [List.tail_nil]
    by_cases hnone : s.inbound = []
    · left
      rw [hnone]
      refine ⟨by simp [hrequest], fun h => ?_⟩
      have hle : wanted ≤ 0 := h
      omega
    right
    have hpos := List.length_pos_of_ne_nil hnone
    refine ⟨min request s.inbound.length, Nat.min_le_left .., Nat.min_le_right .., ?_,
      fun hzero => by omega, ?_⟩
    · have hsome : ¬ (s.inbound.take request = [] ∧ 0 < request) := by
        rintro ⟨hempty, -⟩
        rcases List.take_eq_nil_iff.1 hempty with hzero | hnil
        · omega
        · exact hnone hnil
      rw [if_neg hsome, List.length_take, List.take_eq_take_min, List.drop_eq_drop_min, ← hrecvs]
    · show wanted ≤ s.inbound.length ↔ _ ∧
        wanted - min request s.inbound.length ≤ s.inbound.length - min request s.inbound.length
      omega
  | cons result recvs =>
    dsimp only [List.tail_cons]
    by_cases hneg : result < 0
    · left
      rw [if_pos hneg]
      refine ⟨hneg, ?_⟩
      rintro (hzero | ⟨hge, -⟩)
      · omega
      · omega
    right
    rw [if_neg hneg]
    refine ⟨min (min result.toNat request) s.inbound.length, by omega, Nat.min_le_right .., ?_,
      fun _ => by simp, ?_⟩
    · rw [List.length_take, List.take_eq_take_min, List.drop_eq_drop_min]
    · rw [supplies_cons, or_iff_right (by omega), and_iff_right (by omega)]

theorem calculateElapsedTime_self (now : UInt32) : (calculateElapsedTime now now).toNat = 0 := by
  unfold calculateElapsedTime
  rw [UInt32.sub_self]
  rfl

/-- While the clock stands still, `recvExact` gets its bytes exactly when the transport has them in
time, and the drain goes on behind them. -/
theorem recvExactLoop_supplies (hclock : ∀ n, s.clock n = now) (size : Nat)
    {fuel offset request wanted : Nat} {total : Int} (htotal : 0 ≤ total) (hrequest : 0 < request)
    (hwanted : request ≤ wanted) (hfuel : s.recvs.length + request < fuel) :
    let polls := c.recvPollingTimeoutMs ≠ 0
    let received := recvExactLoop c fuel offset request total now s
    (received.1 ≠ total + request ∧
        ¬ Supplies polls size s.recvs s.inbound.length request wanted) ∨
      received.1 = total + request ∧ (∀ n, received.2.clock n = now) ∧
        (Supplies polls size s.recvs s.inbound.length request wanted ↔
          Supplies polls size received.2.recvs received.2.inbound.length
            (min size (wanted - request)) (wanted - request)) := by
  intro polls
  induction fuel generalizing offset request wanted total s with
  | zero => exact absurd hfuel (Nat.not_lt_zero _)
  | succ fuel ih =>
    unfold recvExactLoop
    dsimp only
    rw [if_pos hrequest]
    rcases @transportRecv_supplies s polls size request wanted hrequest hwanted with
      ⟨hneg, hnot⟩ | ⟨count, hle, havailable, heq, hschedule, hiff⟩
    · rw [if_pos hneg]
      exact .inl ⟨by dsimp only; omega, hnot⟩
    rw [heq]
    dsimp only
    rw [if_neg (by omega), Int.toNat_natCast]
    generalize hs₁ : (getTime { s with
      recvs := s.recvs.tail
      inbound := s.inbound.drop count
      networkBuffer := writeAt s.networkBuffer offset (s.inbound.take count) }) = timed
    obtain ⟨time, s₁⟩ := timed
    obtain ⟨rfl, hrecvs, hinbound, hclock₁⟩ : time = now ∧ s₁.recvs = s.recvs.tail ∧
        s₁.inbound.length = s.inbound.length - count ∧ ∀ n, s₁.clock n = now := by
      cases hs₁
      exact ⟨hclock _, rfl, List.length_drop, hclock⟩
    dsimp only
    rw [← hrecvs, ← hinbound] at hiff
    have hshorter := s.recvs.length_tail
    rw [← hrecvs] at hshorter
    by_cases hcount : count = 0
    · have hsome := List.length_pos_of_ne_nil (hschedule hcount)
      subst hcount
      rw [if_pos hrequest, Nat.sub_zero, Nat.sub_zero] at hiff
      rw [if_neg (by simp), calculateElapsedTime_self]
      by_cases hpolls : polls
      swap
      · rw [if_pos (Nat.le_of_eq (not_not.1 hpolls))]
        refine .inl ⟨?_, fun h => hpolls ((hiff.1 h).1 rfl)⟩
        dsimp only
        omega
      rw [if_neg fun h => hpolls (Nat.le_zero.1 h), hiff, and_iff_right fun _ => hpolls]
      exact ih hclock₁ htotal hrequest hwanted (by omega)
    · rw [if_pos (by omega)]
      rw [and_iff_right fun h => absurd h hcount] at hiff
      by_cases hmore : count < request
      · rw [if_pos hmore] at hiff
        rw [hiff]
        have hrest := @ih s₁ hclock₁ (offset + count) (request - count) (wanted - count)
          (total + count) (by omega) (by omega) (by omega) (by omega)
        rwa [show wanted - count - (request - count) = wanted - request by omega,
          show total + (count : Int) + ((request - count : Nat) : Int) = total + request by omega]
          at hrest
      · obtain rfl : count = request := by omega
        rw [if_neg hmore] at hiff
        right
        rw [Nat.sub_self]
        cases fuel with
        | zero => exact absurd hfuel (by omega)
        | succ fuel =>
          unfold recvExactLoop
          rw [if_neg (Nat.lt_irrefl 0)]
          exact ⟨rfl, hclock₁, hiff⟩

/-- While the clock stands still, a drain gets its bytes exactly when the transport has them. -/
theorem discardStoredLoop_supplies {size remainingLength fuel bytesToReceive total : Nat}
    (hclock : ∀ n, s.clock n = now) (hle : total ≤ remainingLength)
    (hfuel : remainingLength - total < fuel) (hpos : 0 < bytesToReceive)
    (hsmall : bytesToReceive < 2 ^ 31)
    (hsize : min bytesToReceive (remainingLength - total) = min size (remainingLength - total)) :
    (discardStoredLoop c remainingLength fuel bytesToReceive total s).1 = remainingLength ↔
      Supplies (c.recvPollingTimeoutMs ≠ 0) size s.recvs s.inbound.length
        (min size (remainingLength - total)) (remainingLength - total) := by
  induction fuel generalizing bytesToReceive total s with
  | zero => exact absurd hfuel (Nat.not_lt_zero _)
  | succ fuel ih =>
    unfold discardStoredLoop
    dsimp only
    by_cases hmore : total < remainingLength
    swap
    · rw [if_neg hmore, show remainingLength - total = 0 by omega]
      exact iff_of_true (by dsimp only; omega) (supplies_zero ..)
    rw [if_pos hmore, int32Cast_eq (by omega), hsize]
    generalize hrequest : min size (remainingLength - total) = request at hsize ⊢
    have hreceived := @recvExactLoop_supplies c now (getTime s).2 hclock size
      (s.recvs.length + request + 1) 0 request (remainingLength - total) 0 (Int.le_refl 0) (by omega)
      (by omega) (Nat.lt_succ_self _)
    rw [Int.zero_add] at hreceived
    have hnow : (getTime s).1 = now := hclock s.ticks
    have hexact : recvExact c s request = recvExactLoop c (s.recvs.length + request + 1) 0 request 0
        now (getTime s).2 := by
      unfold recvExact
      dsimp only
      rw [hnow]
    rw [hexact]
    dsimp only at hreceived
    generalize recvExactLoop c (s.recvs.length + request + 1) 0 request 0 now (getTime s).2 =
      received at hreceived ⊢
    rcases hreceived with ⟨hshort, hnot⟩ | ⟨hall, hclock', hiff⟩
    · rw [if_pos hshort]
      exact iff_of_false (by dsimp only; omega) hnot
    · rw [if_neg (not_not_intro hall), hall, Int.toNat_natCast]
      refine Iff.trans (ih hclock' (by omega) (by omega) (by omega) (by omega) (by omega)) ?_
      rw [← Nat.sub_sub]
      exact hiff.symm

/-- The transport has the rest of the packet that a drain reads. -/
def DrainSupplied (c : Config) (s : Sys) (packet : PacketInfo) : Prop :=
  let wanted := c.sizeSub packet.totalLength s.index
  Supplies (c.recvPollingTimeoutMs ≠ 0) s.networkBuffer.length s.recvs s.inbound.length
    (min s.networkBuffer.length wanted) wanted

theorem discardStoredPacket_supplied (hclock : ∀ n, s.clock n = now)
    (hpos : 0 < s.networkBuffer.length) (hsmall : s.networkBuffer.length < 2 ^ 31)
    (packet : PacketInfo) :
    (discardStoredPacket c s packet).1 = .noDataAvailable ↔ DrainSupplied c s packet := by
  have hloop := @discardStoredLoop_supplies c now s s.networkBuffer.length
    (c.sizeSub packet.totalLength s.index) (c.sizeSub packet.totalLength s.index + 1)
    s.networkBuffer.length 0 hclock (Nat.zero_le _) (by omega) hpos hsmall rfl
  unfold DrainSupplied discardStoredPacket
  unfold PacketInfo.totalLength at hloop ⊢
  dsimp only
  rw [Nat.sub_zero] at hloop
  rw [← hloop]
  split
  · rename_i hall
    exact iff_of_true rfl hall
  · rename_i hshort
    exact iff_of_false (by simp) hshort

end Still

end FreeMqtt
