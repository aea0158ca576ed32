import FreeMqtt.Core.SendSteps
import FreeMqtt.Serializer.Length

/-!
# The receive buffer under re-entrant callbacks

`receiveSingleIteration` takes the length of a packet from `index` after the handler of the packet
has run, and the handler runs code of the application. Of the calls that this code can make, only
`MQTT_Disconnect` touches the buffer: it resets `index`. So the subtraction is within bounds exactly
when no callback disconnects (`keepsBounds_iff`).
-/

namespace FreeMqtt

/-! ## What leaves the buffer alone -/

/-- The bounds of the buffer are as before, and so is what decides what a callback does to them. -/
structure BufferKept (s s' : Sys) : Prop where
  index : s'.index = s.index
  length : s'.networkBuffer.length = s.networkBuffer.length
  callbacks : s'.callbacks = s.callbacks
  status : s'.connectStatus = .notConnected ↔ s.connectStatus = .notConnected

theorem BufferKept.refl (s : Sys) : BufferKept s s := ⟨rfl, rfl, rfl, .rfl⟩

theorem BufferKept.trans {s s' s'' : Sys} (h : BufferKept s s') (h' : BufferKept s' s'') :
    BufferKept s s'' :=
  ⟨h'.index.trans h.index, h'.length.trans h.length, h'.callbacks.trans h.callbacks,
    h'.status.trans h.status⟩

theorem statusAfter_eq_notConnected (connectStatus : ConnectionStatus) (failed : Bool) :
    statusAfter connectStatus failed = .notConnected ↔ connectStatus = .notConnected := by
  cases connectStatus <;> cases failed <;> decide

theorem bufferKept_networkError (s : Sys) : BufferKept s (networkError s) := by
  refine ⟨rfl, rfl, rfl, ?_⟩
  have h := statusAfter_eq_notConnected s.connectStatus true
  unfold statusAfter at h
  simpa [networkError] using h

theorem Sent.bufferKept {s s' : Sys} {kind : PacketKind} {packet : List UInt8} {n : Nat}
    {stop : Stop} (h : Sent s s' kind packet n stop) : BufferKept s s' := by
  obtain ⟨-, -, ticks, sends, lastTx, rfl⟩ := h
  exact ⟨rfl, rfl, rfl, statusAfter_eq_notConnected _ _⟩

theorem bufferKept_sendPreorder : SendPreorder BufferKept where
  refl := .refl
  trans := .trans
  clock _ := ⟨rfl, rfl, rfl, .rfl⟩
  error := bufferKept_networkError
  send s offered := by
    obtain ⟨sends, wire, heq⟩ := transportSend_kept s offered
    rw [heq]
    exact ⟨rfl, rfl, rfl, .rfl⟩
  stamp _ := ⟨rfl, rfl, rfl, .rfl⟩
  record _ _ _ _ _ := ⟨rfl, rfl, rfl, .rfl⟩
  context _ _ _ _ _ _ := ⟨rfl, rfl, rfl, .rfl⟩

theorem mqttPing_bufferKept (c : Config) (s : Sys) : BufferKept s (mqttPing c s).2 :=
  bufferKept_sendPreorder.mqttPing c (fun _ _ _ => ⟨rfl, rfl, rfl, .rfl⟩) s

/-- The calls of the application other than `MQTT_Disconnect`. -/
theorem SendCall.bufferKept (c : Config) (s : Sys) {call : SendCall} (h : call ≠ .disconnect) :
    BufferKept s (call.run c s) :=
  bufferKept_sendPreorder.request c (mqttPing_bufferKept c) s h

/-! ## Callbacks -/

/-- `index` after calls of the application: `MQTT_Disconnect` resets it when there is something
to disconnect. -/
theorem foldl_sendCalls_index (c : Config) (calls : List SendCall) (s : Sys) :
    let s' := calls.foldl (SendCall.run c) s
    s'.networkBuffer.length = s.networkBuffer.length ∧
      s'.index = if s.connectStatus ≠ .notConnected ∧ .disconnect ∈ calls then 0 else s.index := by
  induction calls generalizing s with
  | nil => simp
  | cons call calls ih =>
    obtain ⟨hlength, hindex⟩ := ih (call.run c s)
    by_cases hcall : call = .disconnect
    · subst hcall
      rcases mqttDisconnect_outcome c s with ⟨hconn, heq⟩ | ⟨hconn, n, stop, hsent⟩
      · rw [List.foldl_cons]
        rw [SendCall.run, heq] at hlength hindex ⊢
        refine ⟨hlength, hindex.trans ?_⟩
        rw [if_neg fun h => h.1 hconn, if_neg fun h => h.1 hconn]
      · have hkept := hsent.bufferKept
        rw [List.foldl_cons]
        refine ⟨hlength.trans (hkept.length.trans List.length_replicate), hindex.trans ?_⟩
        -- the index is zero from here on, whatever the other calls do
        have hzero : (SendCall.disconnect.run c s).index = 0 := hkept.index
        rw [hzero, ite_self, if_pos ⟨hconn, List.mem_cons_self⟩]
    · have hkept := call.bufferKept c s hcall
      rw [List.foldl_cons]
      refine ⟨hlength.trans hkept.length, hindex.trans ?_⟩
      have hmem : .disconnect ∈ call :: calls ↔ .disconnect ∈ calls := by
        rw [List.mem_cons]
        exact or_iff_right fun h => hcall h.symm
      simp only [hkept.index, ne_eq, hkept.status, hmem]

/-- Whether the next callback resets the buffer: it disconnects, and there is something to
disconnect. -/
def resetsBuffer (s : Sys) : Bool :=
  s.connectStatus ≠ .notConnected ∧ .disconnect ∈ s.callbacks.headD []

theorem BufferKept.resetsBuffer_eq {s s' : Sys} (h : BufferKept s s') :
    resetsBuffer s' = resetsBuffer s := by
  unfold resetsBuffer
  simp only [h.callbacks, ne_eq, h.status]

theorem appCallback_index (c : Config) (s : Sys) (packet : PacketInfo) (info : DeserializedInfo) :
    (appCallback c s packet info).networkBuffer.length = s.networkBuffer.length ∧
      (appCallback c s packet info).index = if resetsBuffer s then 0 else s.index := by
  have hfold := foldl_sendCalls_index c (s.callbacks.headD [])
    { s.record (.callback packet info) with callbacks := s.callbacks.tail }
  refine ⟨hfold.1, hfold.2.trans ?_⟩
  unfold resetsBuffer
  simp only [decide_eq_true_eq]
  rfl

/-! ## Handlers -/

/-- A handler that does not invoke the callback. -/
theorem handlePacket_silent_bufferKept (c : Config) {manageKeepAlive : Bool} {packet : PacketInfo}
    {s : Sys} (h : callbackFrame (s.dispatching packet) packet manageKeepAlive = none) :
    BufferKept (s.dispatching packet) (handlePacket c manageKeepAlive packet s).2 :=
  bufferKept_sendPreorder.silentOutcome (fun _ => ⟨rfl, rfl, rfl, .rfl⟩) (handlePacket_silent c h)

/-- Whether the handler of a packet resets the buffer. -/
def handlerResets (s : Sys) (packet : PacketInfo) (manageKeepAlive : Bool) : Bool :=
  (callbackFrame (s.dispatching packet) packet manageKeepAlive).isSome && resetsBuffer s

theorem handlePacket_index (c : Config) (manageKeepAlive : Bool) (packet : PacketInfo) (s : Sys) :
    let s' := (handlePacket c manageKeepAlive packet s).2
    s'.networkBuffer.length = s.networkBuffer.length ∧
      s'.index = if handlerResets s packet manageKeepAlive then 0 else s.index := by
  have hdispatching : BufferKept s (s.dispatching packet) := ⟨rfl, rfl, rfl, .rfl⟩
  unfold handlerResets
  dsimp only
  cases hframe : callbackFrame (s.dispatching packet) packet manageKeepAlive with
  | none =>
    have hkept := hdispatching.trans (handlePacket_silent_bufferKept c hframe)
    exact ⟨hkept.length, hkept.index⟩
  | some frame =>
    have hkept := hdispatching.trans (bufferKept_sendPreorder.callbackFrame hframe)
    have hreply := bufferKept_sendPreorder.sendReply c
      (appCallback c frame.before packet frame.info) frame.reply
    obtain ⟨hlength, hindex⟩ := appCallback_index c frame.before packet frame.info
    rw [hkept.resetsBuffer_eq, hkept.index] at hindex
    rw [handlePacket_callback c hframe]
    exact ⟨hreply.length.trans (hlength.trans hkept.length), hreply.index.trans hindex⟩

/-! ## Reading -/

theorem length_writeAt (buffer : List UInt8) (offset : Nat) (bytes : List UInt8) :
    (writeAt buffer offset bytes).length = buffer.length := by
  unfold writeAt
  simp only [List.length_take, List.length_append, List.length_drop]
  omega

theorem transportRecv_spec (s : Sys) (bytesToRecv : Nat) :
    ∃ recvs inbound, (transportRecv s bytesToRecv).2.2 = { s with recvs, inbound } ∧
      (transportRecv s bytesToRecv).1.toNat ≤ bytesToRecv := by
  unfold transportRecv
  split
  · rename_i hrecvs
    refine ⟨[], _, by rw [← hrecvs], ?_⟩
    dsimp only
    split
    · exact Nat.zero_le _
    · rw [Int.toNat_natCast, List.length_take]
      exact Nat.min_le_left _ _
  · dsimp only
    split
    · exact ⟨_, s.inbound, rfl, by omega⟩
    · refine ⟨_, _, rfl, ?_⟩
      rw [Int.toNat_natCast, List.length_take]
      omega

theorem bufferKept_preorder : ReadPreorder BufferKept where
  refl := .refl
  trans := .trans
  clock _ := ⟨rfl, rfl, rfl, .rfl⟩
  error := bufferKept_networkError
  recv s bytesToRecv := by
    obtain ⟨recvs, inbound, hrecv, -⟩ := transportRecv_spec s bytesToRecv
    rw [hrecv]
    exact ⟨rfl, rfl, rfl, .rfl⟩
  write _ _ _ := ⟨rfl, length_writeAt _ _ _, rfl, .rfl⟩

/-- The read keeps within the buffer. -/
theorem readIntoBuffer_bounds (c : Config) {s : Sys} (hindex : s.index ≤ s.networkBuffer.length)
    (hsize : s.networkBuffer.length < 2 ^ c.sizeBits) :
    let s' := (readIntoBuffer c s).2.2.2
    s'.index ≤ s'.networkBuffer.length ∧ s'.networkBuffer.length = s.networkBuffer.length ∧
      s'.callbacks = s.callbacks ∧
      (s'.connectStatus = .notConnected ↔ s.connectStatus = .notConnected) := by
  obtain ⟨recvs, inbound, hrecv, hcount⟩ :=
    transportRecv_spec s (c.sizeSub s.networkBuffer.length s.index)
  have hroom := c.sizeSub_eq hindex hsize
  unfold readIntoBuffer
  dsimp only
  rw [hrecv]
  dsimp only
  split
  · exact ⟨by simpa [networkError, length_writeAt] using hindex, length_writeAt _ _ _, rfl,
      (bufferKept_networkError _).status⟩
  split
  · exact ⟨by rw [length_writeAt]; exact hindex, length_writeAt _ _ _, rfl, .rfl⟩
  · refine ⟨?_, length_writeAt _ _ _, rfl, .rfl⟩
    rw [length_writeAt]
    dsimp only
    omega

theorem checkKeepAlive_bufferKept (c : Config) (recvBytes : Int) (manageKeepAlive : Bool)
    (status : Status) (s : Sys) :
    BufferKept s (checkKeepAlive c recvBytes manageKeepAlive status s).2 :=
  bufferKept_sendPreorder.checkKeepAlive c (mqttPing_bufferKept c) recvBytes manageKeepAlive status s

/-- A packet that is dispatched is complete in the buffer. -/
theorem checkComplete_bounds (c : Config) (status : Status) (packet : PacketInfo) {s : Sys}
    (hindex : s.index ≤ s.networkBuffer.length) :
    let complete := checkComplete c status packet s
    complete.2.index ≤ complete.2.networkBuffer.length ∧
      (complete.1 = .success → status = .success ∧ complete.2 = s ∧
        packet.remainingLength + packet.headerLength ≤ s.index) := by
  unfold checkComplete
  dsimp only
  split
  · rename_i hstatus
    exact ⟨hindex, fun h => absurd h hstatus⟩
  rename_i hstatus
  split
  · unfold discardStoredPacket
    dsimp only
    refine ⟨Nat.zero_le _, ?_⟩
    split <;> simp
  split
  · exact ⟨hindex, by simp⟩
  · rename_i hcomplete
    exact ⟨hindex, fun _ => ⟨not_not.1 hstatus, rfl, Nat.le_of_not_lt hcomplete⟩⟩

/-! ## One iteration -/

/-- `receiveSingleIteration` keeps within the buffer: what it subtracts from `index` is no more
than it, it moves bytes of the buffer, and `index` is within the buffer in the end. -/
structure KeepsBounds (c : Config) (s : Sys) (manageKeepAlive : Bool) : Prop where
  subtracted : ∀ packet s₁, dispatched c s manageKeepAlive = some (packet, s₁) →
    packet.totalLength ≤ (handlePacket c manageKeepAlive packet s₁).2.index
  moved : ∀ packet s₁, dispatched c s manageKeepAlive = some (packet, s₁) →
    let s' := (receiveSingleIteration c s manageKeepAlive).2
    packet.totalLength + s'.index ≤ s'.networkBuffer.length
  index_le : let s' := (receiveSingleIteration c s manageKeepAlive).2
    s'.index ≤ s'.networkBuffer.length

theorem readIntoBuffer_header (c : Config) (s : Sys)
    (h : (readIntoBuffer c s).2.1 = .success) : 2 ≤ (readIntoBuffer c s).2.2.1.headerLength := by
  have hheader : ∀ buffer index, (mqttProcessIncomingPacketTypeAndLength buffer index).1 =
      .success → 2 ≤ (mqttProcessIncomingPacketTypeAndLength buffer index).2.headerLength := by
    intro buffer index h
    unfold mqttProcessIncomingPacketTypeAndLength at h ⊢
    dsimp only at h ⊢
    split_ifs at h ⊢
    obtain ⟨-, hlen, -, -⟩ := encode_of_processRemainingLength (Prod.ext h rfl)
    dsimp only
    rw [hlen]
    unfold remainingLengthEncodedSize
    split_ifs <;> omega
  unfold readIntoBuffer at h ⊢
  dsimp only at h ⊢
  generalize (transportRecv s (c.sizeSub s.networkBuffer.length s.index)) = received at h ⊢
  split at h
  · exact absurd h (by simp)
  split at h
  · exact absurd h (by simp)
  · rename_i hneg hzero
    rw [if_neg hneg, if_neg hzero]
    exact hheader _ _ h

theorem checkKeepAlive_success {c : Config} {recvBytes : Int} {manageKeepAlive : Bool}
    {status : Status} {s : Sys}
    (h : (checkKeepAlive c recvBytes manageKeepAlive status s).1 = .success) :
    status = .success := by
  unfold checkKeepAlive at h
  dsimp only at h
  split at h
  · split at h
    · exact h
    · rename_i hne
      exact absurd h hne
  · exact h

/-- A packet that is dispatched lies within the buffer. -/
theorem dispatched_bounds {c : Config} {s : Sys} {manageKeepAlive : Bool} {packet : PacketInfo}
    {s₁ : Sys} (h : dispatched c s manageKeepAlive = some (packet, s₁))
    (hindex : s.index ≤ s.networkBuffer.length)
    (hsize : s.networkBuffer.length < 2 ^ c.sizeBits) :
    2 ≤ packet.totalLength ∧ packet.totalLength ≤ s₁.index ∧ s₁.index ≤ s₁.networkBuffer.length ∧
      s₁.networkBuffer.length = s.networkBuffer.length ∧ resetsBuffer s₁ = resetsBuffer s := by
  have hread := readIntoBuffer_bounds c hindex hsize
  have hheader := readIntoBuffer_header c s
  unfold dispatched at h
  dsimp only at h hread
  generalize readIntoBuffer c s = read at h hread hheader
  have hkept := checkKeepAlive_bufferKept c read.1 manageKeepAlive read.2.1 read.2.2.2
  have hstatus := @checkKeepAlive_success c read.1 manageKeepAlive read.2.1 read.2.2.2
  generalize checkKeepAlive c read.1 manageKeepAlive read.2.1 read.2.2.2 = kept at h hkept hstatus
  obtain ⟨hle, hlength, hcallbacks, hconn⟩ := hread
  obtain ⟨-, hcomplete⟩ := checkComplete_bounds c kept.1 read.2.2.1 (s := kept.2)
    (by rw [hkept.index, hkept.length]; exact hle)
  generalize checkComplete c kept.1 read.2.2.1 kept.2 = complete at h hcomplete
  split at h
  · rename_i hok
    cases h
    obtain ⟨hkeptOk, hsame, htotal⟩ := hcomplete hok
    have htwo := hheader (hstatus hkeptOk)
    rw [hsame]
    refine ⟨?_, htotal, ?_, hkept.length.trans hlength, hkept.resetsBuffer_eq.trans ?_⟩
    · unfold PacketInfo.totalLength
      dsimp only
      omega
    · rw [hkept.index, hkept.length]
      exact hle
    · unfold resetsBuffer
      simp only [hcallbacks, ne_eq, hconn]
  · cases h

theorem receiveSingleIteration_dispatched {c : Config} {s : Sys} {manageKeepAlive : Bool}
    {packet : PacketInfo} {s₁ : Sys} (h : dispatched c s manageKeepAlive = some (packet, s₁)) :
    let s' := (receiveSingleIteration c s manageKeepAlive).2
    let handled := (handlePacket c manageKeepAlive packet s₁).2
    s'.index = c.sizeSub handled.index packet.totalLength ∧
      s'.networkBuffer.length = handled.networkBuffer.length := by
  unfold dispatched at h
  unfold receiveSingleIteration
  dsimp only at h ⊢
  split at h
  · rename_i hok
    cases h
    rw [if_pos hok]
    unfold dispatchPacket
    dsimp only
    split
    · exact ⟨rfl, length_writeAt _ _ _⟩
    · exact ⟨rfl, length_writeAt _ _ _⟩
  · cases h

theorem receiveSingleIteration_undispatched {c : Config} {s : Sys} {manageKeepAlive : Bool}
    (h : dispatched c s manageKeepAlive = none) (hindex : s.index ≤ s.networkBuffer.length)
    (hsize : s.networkBuffer.length < 2 ^ c.sizeBits) :
    let s' := (receiveSingleIteration c s manageKeepAlive).2
    s'.index ≤ s'.networkBuffer.length := by
  have hread := readIntoBuffer_bounds c hindex hsize
  unfold dispatched at h
  unfold receiveSingleIteration
  dsimp only at h hread ⊢
  generalize readIntoBuffer c s = read at h hread ⊢
  have hkept := checkKeepAlive_bufferKept c read.1 manageKeepAlive read.2.1 read.2.2.2
  generalize checkKeepAlive c read.1 manageKeepAlive read.2.1 read.2.2.2 = kept at h hkept ⊢
  have hcomplete := checkComplete_bounds c kept.1 read.2.2.1 (s := kept.2)
    (by rw [hkept.index, hkept.length]; exact hread.1)
  generalize checkComplete c kept.1 read.2.2.1 kept.2 = complete at h hcomplete ⊢
  split at h
  · cases h
  · rename_i hok
    rw [if_neg hok]
    exact hcomplete.1

/-! ## Exactly when the bounds are kept -/

/-- Whether the callback that the next packet is given to resets the buffer: the packet is
dispatched, its handler invokes the callback, and the callback calls `MQTT_Disconnect` before there
is nothing left to disconnect. -/
def disconnectsInCallback (c : Config) (s : Sys) (manageKeepAlive : Bool) : Bool :=
  resetsBuffer s && (dispatched c s manageKeepAlive).any fun (packet, s₁) =>
    (callbackFrame (s₁.dispatching packet) packet manageKeepAlive).isSome

theorem keepsBounds_iff (c : Config) {s : Sys} (manageKeepAlive : Bool)
    (hindex : s.index ≤ s.networkBuffer.length)
    (hsize : s.networkBuffer.length < 2 ^ c.sizeBits) :
    KeepsBounds c s manageKeepAlive ↔ disconnectsInCallback c s manageKeepAlive = false := by
  unfold disconnectsInCallback
  cases hdispatched : dispatched c s manageKeepAlive with
  | none =>
    have hle := receiveSingleIteration_undispatched hdispatched hindex hsize
    refine ⟨fun _ => by simp, fun _ => ⟨?_, ?_, hle⟩⟩
    · rw [hdispatched]
      exact fun _ _ h => nomatch h
    · rw [hdispatched]
      exact fun _ _ h => nomatch h
  | some next =>
    obtain ⟨packet, s₁⟩ := next
    obtain ⟨htwo, htotal, hle, hlength, hresets⟩ := dispatched_bounds hdispatched hindex hsize
    obtain ⟨hindex', hlength'⟩ := receiveSingleIteration_dispatched hdispatched
    obtain ⟨hhandledLength, hhandled⟩ := handlePacket_index c manageKeepAlive packet s₁
    have hcond : handlerResets s₁ packet manageKeepAlive =
        (resetsBuffer s && (callbackFrame (s₁.dispatching packet) packet manageKeepAlive).isSome) := by
      rw [← hresets, Bool.and_comm]
      rfl
    rw [Option.any_some, ← hcond]
    constructor
    · intro h
      have hsubtracted := h.subtracted packet s₁ hdispatched
      by_contra hreset
      rw [hhandled, if_pos (Bool.eq_true_of_not_eq_false hreset)] at hsubtracted
      omega
    · intro hreset
      rw [hreset, if_neg Bool.false_ne_true] at hhandled
      rw [hhandled, c.sizeSub_eq htotal (by omega)] at hindex'
      refine ⟨?_, ?_, ?_⟩
      · intro packet' s' h
        rw [hdispatched] at h
        cases h
        rw [hhandled]
        exact htotal
      · intro packet' s' h
        rw [hdispatched] at h
        cases h
        dsimp only
        omega
      · dsimp only
        omega

/-- `MQTT_ProcessLoop` and `MQTT_ReceiveLoop` keep within the buffer unless the callback that they
invoke disconnects. -/
theorem loops_keepBounds_iff (c : Config) (s : Sys) (hindex : s.index ≤ s.networkBuffer.length)
    (hsize : s.networkBuffer.length < 2 ^ c.sizeBits) :
    (KeepsBounds c { s with controlPacketSent := false } true ↔
      disconnectsInCallback c { s with controlPacketSent := false } true = false) ∧
    (KeepsBounds c s false ↔ disconnectsInCallback c s false = false) :=
  ⟨keepsBounds_iff c true hindex hsize, keepsBounds_iff c false hindex hsize⟩

/-- A connected context with a buffer of ten bytes: a QoS 0 publish of five bytes arrives, and the
application disconnects in its callback. -/
def disconnectingCallback : Sys :=
  { Sys.initialized (.still [0x30, 3, 0, 1, 97]) 10 1 with
    connectStatus := .connected
    callbacks := [[.disconnect]] }

theorem loops_keepBounds_iff_samples :
    (¬ KeepsBounds .default { disconnectingCallback with controlPacketSent := false } true ∧
      ¬ KeepsBounds .default disconnectingCallback false) ∧
    KeepsBounds .default { disconnectingCallback with callbacks := [[.ping]] } false := by
  refine ⟨⟨?_, ?_⟩, ?_⟩
  · rw [(loops_keepBounds_iff .default disconnectingCallback (by decide) (by decide)).1]
    decide +kernel
  · rw [(loops_keepBounds_iff .default disconnectingCallback (by decide) (by decide)).2]
    decide +kernel
  · rw [(loops_keepBounds_iff .default { disconnectingCallback with callbacks := [[.ping]] }
      (by decide) (by decide)).2]
    decide +kernel

/-- `MQTT_ReceiveLoop` with a callback that disconnects: `index` wraps around. -/
theorem not_keepBounds : disconnectingCallback.index ≤ disconnectingCallback.networkBuffer.length ∧
    (mqttReceiveLoop .default disconnectingCallback).2.index = 2 ^ 32 - 5 ∧
    ¬ KeepsBounds .default disconnectingCallback false := by
  refine ⟨by decide, by decide +kernel, fun h => ?_⟩
  have hle := h.index_le
  revert hle
  decide +kernel

end FreeMqtt
