import FreeMqtt.Core.Framing
import FreeMqtt.Core.Operations

/-!
# Drains that are cut short

A packet that is longer than the buffer is drained in pieces. When the transport delivers nothing for
the polling timeout, `recvExact` gives up, and the connection stays: the rest of the packet is then
taken for packets of their own. In a run without such a drain, every call looks for a packet where one
begins (`run_firstBytes`).
-/

namespace FreeMqtt

open Framing Moments Relation

/-! ## Polling timeouts -/

/-- Whether `recvExact` gives up: a read returns no byte, and the last one came too long ago. -/
def pollsOutLoop (c : Config) : (fuel offset bytesRemaining : Nat) → (lastDataRecvTimeMs : UInt32) →
    Sys → Bool
  | 0, _, _, _, _ => false
  | fuel + 1, offset, bytesRemaining, lastDataRecvTimeMs, s =>
      if 0 < bytesRemaining then
        let received := transportRecv s bytesRemaining
        let now := getTime { received.2.2 with
          networkBuffer := writeAt received.2.2.networkBuffer offset received.2.1 }
        if received.1 < 0 then false
        else if received.1 > 0 then
          pollsOutLoop c fuel (offset + received.1.toNat) (bytesRemaining - received.1.toNat) now.1
            now.2
        else if c.recvPollingTimeoutMs ≤ (calculateElapsedTime now.1 lastDataRecvTimeMs).toNat then
          true
        else pollsOutLoop c fuel offset bytesRemaining lastDataRecvTimeMs now.2
      else false

/-- Whether `recvExact` gives up. -/
def pollsOut (c : Config) (s : Sys) (bytesToRecv : Nat) : Bool :=
  let now := getTime s
  pollsOutLoop c (s.recvs.length + bytesToRecv + 1) 0 bytesToRecv now.1 now.2

/-- Whether a call of `recvExact` in `discardStoredPacket` gives up. -/
def drainPollsOutLoop (c : Config) (remainingLength : Nat) :
    (fuel : Nat) → (bytesToReceive totalBytesReceived : Nat) → Sys → Bool
  | 0, _, _, _ => false
  | fuel + 1, bytesToReceive, totalBytesReceived, s =>
      if totalBytesReceived < remainingLength then
        let bytesToReceive := min bytesToReceive (remainingLength - totalBytesReceived)
        let received := recvExact c s bytesToReceive
        if received.1 = bytesToReceive then
          drainPollsOutLoop c remainingLength fuel bytesToReceive
            (totalBytesReceived + bytesToReceive) received.2
        else pollsOut c s bytesToReceive
      else false

/-- Whether the drain of a packet that is longer than the buffer runs into the polling timeout. -/
def drainPollsOut (c : Config) (s : Sys) (packet : PacketInfo) : Bool :=
  let remainingLength := c.sizeSub packet.totalLength s.index
  drainPollsOutLoop c remainingLength (remainingLength + 1) s.networkBuffer.length 0 s

section Timeouts

variable {c : Config} {s : Sys}

/-- A transport that is used up does not return zero. -/
theorem recvs_ne_nil_of_zero {bytesToRecv : Nat} (hpos : 0 < bytesToRecv)
    (h : (transportRecv s bytesToRecv).1 = 0) : s.recvs ≠ [] := by
  intro hrecvs
  unfold transportRecv at h
  rw [hrecvs] at h
  dsimp only at h
  split at h
  · exact absurd h (by decide)
  · rename_i hsome
    have hnone := List.eq_nil_of_length_eq_zero (Int.ofNat_eq_zero.1 h)
    exact hsome ⟨hnone, hpos⟩

/-- `recvExact` gets all bytes, or the connection fails, or it gives up. -/
theorem recvExactLoop_outcome {fuel offset bytesRemaining : Nat} {total : Int} {last : UInt32}
    (hfuel : s.recvs.length + bytesRemaining < fuel)
    (hconn : (recvExactLoop c fuel offset bytesRemaining total last s).2.connectStatus = .connected) :
    (recvExactLoop c fuel offset bytesRemaining total last s).1 = total + bytesRemaining ∨
      pollsOutLoop c fuel offset bytesRemaining last s = true := by
  induction fuel generalizing offset bytesRemaining total last s with
  | zero => exact absurd hfuel (Nat.not_lt_zero _)
  | succ fuel ih =>
    have hzero := @recvs_ne_nil_of_zero s bytesRemaining
    obtain ⟨count, hcount, hbytes, hstate, hresult⟩ := transportRecv_stream s bytesRemaining
    unfold recvExactLoop at hconn ⊢
    unfold pollsOutLoop
    dsimp only at hconn hbytes hstate hresult ⊢
    by_cases hpos : 0 < bytesRemaining
    swap
    · rw [if_neg hpos, show bytesRemaining = 0 by omega]
      exact .inl (Int.add_zero _).symm
    rw [if_pos hpos] at hconn ⊢
    rw [if_pos hpos]
    generalize transportRecv s bytesRemaining = received at *
    obtain ⟨result, bytes, s₁⟩ := received
    dsimp only at hconn hbytes hstate hresult hzero ⊢
    subst hbytes hstate
    by_cases hneg : result < 0
    · rw [if_pos hneg] at hconn
      exact absurd hconn (networkError_not_connected _)
    rw [if_neg hneg] at hconn ⊢
    rw [if_neg hneg]
    obtain hresult := hresult.resolve_left fun h => hneg h.1
    have htail : s.recvs.tail.length ≤ s.recvs.length := by
      rw [List.length_tail]
      omega
    by_cases hdata : result > 0
    · rw [if_pos hdata] at hconn ⊢
      rw [if_pos hdata]
      refine (ih ?_ hconn).imp_left fun h => h.trans (by omega)
      show s.recvs.tail.length + (bytesRemaining - result.toNat) < fuel
      omega
    rw [if_neg hdata] at hconn ⊢
    rw [if_neg hdata]
    split at hconn
    · rename_i htimeout
      exact .inr (if_pos htimeout)
    · rename_i htimeout
      rw [if_neg htimeout, if_neg htimeout]
      refine ih ?_ hconn
      have hsome := List.length_pos_of_ne_nil (hzero hpos (by omega))
      show s.recvs.tail.length + bytesRemaining < fuel
      rw [List.length_tail]
      omega

theorem recvExact_outcome {bytesToRecv : Nat}
    (hconn : (recvExact c s bytesToRecv).2.connectStatus = .connected) :
    (recvExact c s bytesToRecv).1 = bytesToRecv ∨ pollsOut c s bytesToRecv = true :=
  (recvExactLoop_outcome (s := (getTime s).2) (Nat.lt_succ_self _) hconn).imp_left fun h =>
    h.trans (Int.zero_add _)

theorem discardStoredLoop_outcome {remainingLength fuel bytesToReceive total : Nat}
    (hfuel : remainingLength - total < fuel) (hle : total ≤ remainingLength) (hpos : 0 < bytesToReceive)
    (hsmall : bytesToReceive < 2 ^ 31)
    (hconn : (discardStoredLoop c remainingLength fuel bytesToReceive total s).2.connectStatus =
      .connected) :
    (discardStoredLoop c remainingLength fuel bytesToReceive total s).1 = remainingLength ∨
      drainPollsOutLoop c remainingLength fuel bytesToReceive total s = true := by
  induction fuel generalizing bytesToReceive total s with
  | zero => exact absurd hfuel (Nat.not_lt_zero _)
  | succ fuel ih =>
    have hexact := @recvExact_outcome c s (min bytesToReceive (remainingLength - total))
    unfold discardStoredLoop at hconn ⊢
    unfold drainPollsOutLoop
    dsimp only at hconn ⊢
    by_cases hmore : total < remainingLength
    swap
    · rw [if_neg hmore]
      exact .inl (Nat.le_antisymm hle (Nat.not_lt.1 hmore))
    rw [if_pos hmore] at hconn ⊢
    rw [if_pos hmore]
    rw [int32Cast_eq (by omega)] at hconn ⊢
    split at hconn
    · rename_i hshort
      rw [if_pos hshort, if_neg hshort]
      exact .inr ((hexact hconn).resolve_left hshort)
    · rename_i hall
      rw [not_not] at hall
      rw [if_neg (not_not_intro hall), if_pos hall]
      rw [hall, Int.toNat_natCast] at hconn ⊢
      exact ih (by omega) (by omega) (by omega) (by omega) hconn

end Timeouts

/-! ## One call -/

/-- The iteration that a call makes: where it starts, and whether it manages the keep-alive. -/
def ApiCall.iteration (s : Sys) : ApiCall → Option (Sys × Bool)
  | .processLoop => some ({ s with controlPacketSent := false }, true)
  | .receiveLoop => some (s, false)
  | _ => none

theorem ApiCall.run_iteration (c : Config) {s s₁ : Sys} {manageKeepAlive : Bool} {call : ApiCall}
    (h : call.iteration s = some (s₁, manageKeepAlive)) :
    call.run c s = (receiveSingleIteration c s₁ manageKeepAlive).2 := by
  cases call <;> cases h <;> rfl

/-- The context behind the read of a call, which comes before anything that the call sends. -/
def ApiCall.afterRead (c : Config) (s : Sys) (call : ApiCall) : Sys :=
  match call.iteration s with
  | some i => (readIntoBuffer c i.1).2.2.2
  | none => s

/-- The packet that a call hands to its handler. -/
def ApiCall.dispatches (c : Config) (s : Sys) (call : ApiCall) : Option (PacketInfo × Sys) :=
  (call.iteration s).bind fun i => dispatched c i.1 i.2

/-- `MQTT_Init`, which sets another buffer. -/
def ApiCall.IsInit : ApiCall → Prop
  | .init .. => True
  | _ => False

/-- The iteration drains a packet, and the drain runs into the polling timeout. -/
def givesUpDrain (c : Config) (s : Sys) (manageKeepAlive : Bool) : Bool :=
  (draining c s manageKeepAlive).any fun drain => drainPollsOut c drain.2 drain.1

/-- The context in which an iteration takes the first byte of the buffer for that of a packet. -/
def interpreting (c : Config) (s : Sys) : Option Sys :=
  let read := readIntoBuffer c s
  if read.1 < 0 ∨ read.2.2.2.index = 0 then none else some read.2.2.2

/-- What is in the buffer and what is to come are the last ones of these packets. -/
def AtBoundary (packets : List (List UInt8)) (s : Sys) : Prop :=
  ∃ rest, rest <:+ packets ∧ s.networkBuffer.take s.index ++ s.inbound = rest.flatten

section Iteration

variable {c : Config} {base : List Event} {s : Sys} {r : Receiver UInt8}
  {packets : List (List UInt8)}

/-- An iteration of a receiver that is in step looks for a packet where one begins. -/
theorem Tracks.atBoundary (h : Tracks base s r) (hsize : s.networkBuffer.length < 2 ^ c.sizeBits)
    {bound : Nat} (horder : InOrder bound packets r) {s₁ : Sys} (hs₁ : interpreting c s = some s₁) :
    AtBoundary packets s₁ := by
  obtain ⟨consumed, rest, rfl, hrest, -⟩ := horder
  obtain ⟨r', -, hread, hsame, -⟩ := h.read hsize
  unfold interpreting at hs₁
  dsimp only at hread hs₁
  split at hs₁
  · cases hs₁
  · cases hs₁
    refine ⟨rest, List.suffix_append _ _, ?_⟩
    rw [hread.pending, hread.stream, hsame, hrest]

theorem receiveSingleIteration_draining {manageKeepAlive : Bool} {packet : PacketInfo} {s₁ : Sys}
    (h : draining c s manageKeepAlive = some (packet, s₁)) :
    (receiveSingleIteration c s manageKeepAlive).2 = (discardStoredPacket c s₁ packet).2 ∧
      s₁.networkBuffer.length < packet.totalLength ∧
      (readIntoBuffer c s).2.1 = .success ∧ (readIntoBuffer c s).2.2.1 = packet ∧
      StreamKept (readIntoBuffer c s).2.2.2 s₁ := by
  unfold draining at h
  unfold receiveSingleIteration
  dsimp only at h ⊢
  generalize readIntoBuffer c s = read at *
  have hkept := checkKeepAlive_streamKept c read.1 manageKeepAlive read.2.1 read.2.2.2
  have hstatus := @checkKeepAlive_success c read.1 manageKeepAlive read.2.1 read.2.2.2
  generalize checkKeepAlive c read.1 manageKeepAlive read.2.1 read.2.2.2 = kept at *
  split at h
  swap
  · cases h
  rename_i hlong
  cases h
  obtain ⟨hok, hlong⟩ := hlong
  refine ⟨?_, hlong, hstatus hok, rfl, hkept⟩
  have hcomplete : checkComplete c kept.1 read.2.2.1 kept.2 =
      discardStoredPacket c kept.2 read.2.2.1 := by
    unfold checkComplete
    rw [if_neg (not_not_intro hok)]
    exact if_pos hlong
  rw [hcomplete]
  have hdiscarded : (discardStoredPacket c kept.2 read.2.2.1).1 ≠ .success := by
    unfold discardStoredPacket
    dsimp only
    split <;> simp
  rw [if_neg hdiscarded]

/-- A drain that keeps the connection, and does not give up, gets the whole packet. -/
theorem Tracks.drained (h : Tracks base s r) (hsize : s.networkBuffer.length < 2 ^ c.sizeBits)
    {manageKeepAlive : Bool} (hpolls : givesUpDrain c s manageKeepAlive = false)
    (hconn : (receiveSingleIteration c s manageKeepAlive).2.connectStatus = .connected)
    {packet : PacketInfo} {s₁ : Sys} (hdraining : draining c s manageKeepAlive = some (packet, s₁)) :
    (discardStoredPacket c s₁ packet).1 = .noDataAvailable := by
  obtain ⟨hafter, hlong, hstatus, rfl, hkept⟩ := receiveSingleIteration_draining hdraining
  obtain ⟨r', -, hread, -, -, -, hheader⟩ := h.read hsize
  have hpacket := hheader hstatus
  have htotal := totalLength_lt hpacket
  obtain ⟨-, -, -, -, rest, htake⟩ := typeAndLength_success hpacket
  have hpos : 0 < s₁.networkBuffer.length := by
    have hcount := congrArg List.length htake
    rw [← hkept.networkBuffer, ← hkept.index, List.length_cons, List.length_take] at hcount
    omega
  have hnot : drainPollsOut c s₁ (readIntoBuffer c s).2.2.1 = false := by
    unfold givesUpDrain at hpolls
    rw [hdraining] at hpolls
    exact hpolls
  rw [hafter] at hconn
  unfold drainPollsOut PacketInfo.totalLength at hnot
  unfold PacketInfo.totalLength at hlong htotal
  unfold discardStoredPacket at hconn ⊢
  dsimp only at hconn hnot ⊢
  refine if_pos ((discardStoredLoop_outcome (Nat.lt_succ_of_le (Nat.sub_le _ _)) (Nat.zero_le _) hpos
    (by omega) hconn).resolve_right fun hgives => ?_)
  rw [hnot] at hgives
  exact absurd hgives (by simp)

/-- What a call that keeps the connection reads and takes off the stream, unless it gives up a
drain. -/
theorem Tracks.takes (h : Tracks base s r) (hsize : s.networkBuffer.length < 2 ^ c.sizeBits)
    {call : ApiCall} (hpolls : ∀ i ∈ call.iteration s, givesUpDrain c i.1 i.2 = false)
    (hinit : ¬ call.IsInit) (hconn : (call.run c s).connectStatus = .connected) :
    ∃ r₁ r', ReflTransGen (ReceiverStep Framed s.networkBuffer.length) r r₁ ∧
      r₁.pending ++ r₁.stream = r.pending ++ r.stream ∧ Tracks base (call.afterRead c s) r₁ ∧
      TakesPacket (call.dispatches c s) s.networkBuffer.length r₁ r' ∧
      Tracks base (call.run c s) r' ∧
      (call.run c s).networkBuffer.length = s.networkBuffer.length := by
  unfold ApiCall.afterRead ApiCall.dispatches
  cases hiteration : call.iteration s with
  | some i =>
    obtain ⟨s₁, manageKeepAlive⟩ := i
    have h₁ : Tracks base s₁ r ∧ s₁.networkBuffer = s.networkBuffer := by
      cases call <;> cases hiteration <;> exact ⟨⟨h.pending, h.stream, h.delivered, h.index_le⟩, rfl⟩
    have hpolls₁ := hpolls _ hiteration
    obtain ⟨htracks, hbuffer⟩ := h₁
    rw [call.run_iteration c hiteration] at hconn ⊢
    rw [← hbuffer] at hsize ⊢
    obtain ⟨r₁, r', hstep, hsame, hread, htakes, htracks', hlength⟩ :=
      htracks.iteration hsize manageKeepAlive
        (fun packet s₂ hdraining => htracks.drained hsize hpolls₁ hconn hdraining) (.inr hconn)
    exact ⟨r₁, r', .single hstep, hsame, hread, htakes, htracks', hlength⟩
  | none =>
    have hkept : StreamKept s (call.run c s) := by
      cases call with
      | init => exact absurd trivial hinit
      | initStatefulQoS outgoing outgoingCount incoming incomingCount =>
        show StreamKept s (mqttInitStatefulQoS s outgoing outgoingCount incoming incomingCount).2
        unfold mqttInitStatefulQoS
        split_ifs <;> exact ⟨rfl, rfl, rfl, rfl, rfl, id⟩
      | initRetransmits storeFunction retrieveFunction clearFunction =>
        show StreamKept s (mqttInitRetransmits s storeFunction retrieveFunction clearFunction).2
        unfold mqttInitRetransmits
        split_ifs <;> exact ⟨rfl, rfl, rfl, rfl, rfl, id⟩
      | request request =>
        refine request.streamKept c s ?_
        rintro rfl
        exact mqttDisconnect_not_connected c s hconn
      | processLoop => cases hiteration
      | receiveLoop => cases hiteration
      | checkConnectStatus => exact .refl s
    exact ⟨r, r, .refl, rfl, h, .nothing r, h.of_streamKept hkept,
      congrArg List.length hkept.networkBuffer⟩

/-- A call that keeps the connection keeps the receiver in step, unless it gives up a drain. -/
theorem Tracks.call (h : Tracks base s r) (hsize : s.networkBuffer.length < 2 ^ c.sizeBits)
    (hpackets : ∀ p ∈ packets, Framed p) (horder : InOrder s.networkBuffer.length packets r)
    {call : ApiCall} (hpolls : ∀ i ∈ call.iteration s, givesUpDrain c i.1 i.2 = false)
    (hinit : ¬ call.IsInit) (hconn : (call.run c s).connectStatus = .connected) :
    ∃ r', Tracks base (call.run c s) r' ∧ InOrder s.networkBuffer.length packets r' ∧
      (call.run c s).networkBuffer.length = s.networkBuffer.length := by
  obtain ⟨r₁, r', hread, -, -, htakes, htracks, hlength⟩ := h.takes hsize hpolls hinit hconn
  exact ⟨r', htracks, inOrder_of_steps (hread.trans htakes.steps) prefixFree_framed not_framed_nil
    hpackets horder, hlength⟩

end Iteration

/-! ## Runs -/

/-- In a run on a stream of packets whose drains do not give up, every call that is made on the
connection takes the first byte of a packet for one. -/
theorem run_firstBytes (c : Config) {s : Sys} {packets : List (List UInt8)}
    (hsize : s.networkBuffer.length < 2 ^ c.sizeBits) (hindex : s.index = 0)
    (hstream : s.inbound = packets.flatten) (hpackets : ∀ p ∈ packets, Framed p)
    {calls : List ApiCall} (hinit : ∀ call ∈ calls, ¬ call.IsInit)
    (hdrains : ∀ m ∈ moments (ApiCall.run c) s calls, m.before.connectStatus = .connected →
      ∀ i ∈ m.operation.iteration m.before, givesUpDrain c i.1 i.2 = false) :
    ∀ m ∈ moments (ApiCall.run c) s calls, m.before.connectStatus = .connected →
      ∀ i ∈ m.operation.iteration m.before, ∀ s₁ ∈ interpreting c i.1, AtBoundary packets s₁ := by
  have hstart := Tracks.of_index_eq_zero hindex
  -- the receiver is in step as long as the connection stays
  have hinvariant : ∀ m ∈ moments (ApiCall.run c) s calls, m.before.connectStatus = .connected →
      m.before.networkBuffer.length = s.networkBuffer.length ∧
        ∃ r, Tracks s.dispatches m.before r ∧ InOrder s.networkBuffer.length packets r := by
    refine (invariant_moments (p := fun s' : Sys => s'.connectStatus = .connected →
      s'.networkBuffer.length = s.networkBuffer.length ∧ ∃ r, Tracks s.dispatches s' r ∧
        InOrder s.networkBuffer.length packets r) ?_ ?_).1
    · exact fun _ => ⟨rfl, _, hstart, [], packets, rfl, hstream, rfl⟩
    intro m hm hbefore hafter
    have hconn : m.before.connectStatus = .connected := by
      by_contra hne
      exact ne_connected_of_level_le (m.operation.library c m.before).level_le hne hafter
    obtain ⟨hlength, r, htracks, horder⟩ := hbefore hconn
    obtain ⟨front, rest, hcalls, -⟩ := exists_split hm
    rw [← hlength] at hsize horder
    obtain ⟨r', htracks', horder', hlength'⟩ := htracks.call hsize hpackets horder
      (hdrains m hm hconn) (hinit _ (by rw [hcalls]; simp)) hafter
    rw [hlength] at horder'
    exact ⟨hlength'.trans hlength, r', htracks', horder'⟩
  intro m hm hconn i hi s₁ hs₁
  obtain ⟨hlength, r, htracks, horder⟩ := hinvariant m hm hconn
  rw [← hlength] at hsize
  have hbefore : Tracks s.dispatches i.1 r ∧ i.1.networkBuffer = m.before.networkBuffer := by
    obtain ⟨before, call⟩ := m
    cases call <;> cases hi <;>
      exact ⟨⟨htracks.pending, htracks.stream, htracks.delivered, htracks.index_le⟩, rfl⟩
  exact hbefore.1.atBoundary (by rw [hbefore.2]; exact hsize) horder hs₁

/-- A PUBLISH of nine bytes, for a buffer of five. -/
def longPublish : List UInt8 := [0x30, 7, 0, 1, 0x74, 1, 2, 0xD0, 0]

/-- A transport that delivers it with these results. -/
def longStream (recvs : List Int) : Sys :=
  { Sys.initialized { World.still longPublish with recvs } 5 1 with connectStatus := .connected }

/-- `run_firstBytes` on a drain that gets the whole packet. -/
theorem run_firstBytes_drained : givesUpDrain .default (longStream [5, 2, 2]) false = false ∧
    ∀ m ∈ moments (ApiCall.run .default) (longStream [5, 2, 2]) [.receiveLoop, .processLoop],
      m.before.connectStatus = .connected → ∀ i ∈ m.operation.iteration m.before,
        ∀ s₁ ∈ interpreting .default i.1, AtBoundary [longPublish] s₁ :=
  ⟨by decide +kernel, run_firstBytes .default (by decide) rfl (List.append_nil _).symm (by decide)
    (by simp [ApiCall.IsInit]) (by decide +kernel)⟩

/-- When the transport delivers nothing in between, the drain gives up, and the next call takes the
last bytes of the payload for a PINGRESP. -/
theorem not_run_firstBytes :
    let failed := mqttReceiveLoop .default (longStream [5, 2, 0])
    failed.1 = .recvFailed ∧ failed.2.connectStatus = .connected ∧
      (mqttReceiveLoop .default failed.2).1 = .success ∧
      ¬ ∀ s₁ ∈ interpreting .default failed.2, AtBoundary [longPublish] s₁ := by
  intro failed
  refine ⟨by decide +kernel, by decide +kernel, by decide +kernel, fun h => ?_⟩
  have hreads : (interpreting .default failed.2).map
      (fun s => s.networkBuffer.take s.index ++ s.inbound) = some [0xD0, 0] := by decide +kernel
  obtain ⟨s₁, hs₁, hbytes⟩ := Option.map_eq_some_iff.1 hreads
  obtain ⟨rest, hrest, hflat⟩ := h s₁ hs₁
  rw [hbytes] at hflat
  rcases List.suffix_cons_iff.1 hrest with rfl | hnil
  · exact absurd hflat (by decide)
  · rw [List.suffix_nil.1 hnil] at hflat
    exact absurd hflat (by decide)

end FreeMqtt
