import FreeMqtt.Core.Stream
import FreeMqtt.Lib.Framing
import FreeMqtt.Serializer.RoundTrip

/-!
# Framing

`MQTT_ReceiveLoop` takes the packets of the stream off the network buffer as they are, whatever the
pieces in which the transport delivers it: each call is a few steps of the receiver of
`FreeMqtt.Lib.Framing` (`receiveLoop_steps`), which delivers them in order
(`receiveLoops_inOrder`).
-/

namespace FreeMqtt

open Framing Relation

/-! ## Framed packets -/

/-- A packet whose type and length are accepted, and that is as long as they say. -/
def Framed (packet : List UInt8) : Prop :=
  let decoded := mqttProcessIncomingPacketTypeAndLength packet packet.length
  decoded.1 = .success ∧ decoded.2.totalLength = packet.length

instance (packet : List UInt8) : Decidable (Framed packet) := inferInstanceAs (Decidable (_ ∧ _))

/-- What is accepted as type and length is a valid type and the encoding of the length. -/
theorem typeAndLength_success {buffer : List UInt8} {index : Nat} {packet : PacketInfo}
    (h : mqttProcessIncomingPacketTypeAndLength buffer index = (.success, packet)) :
    incomingPacketValid packet.type = true ∧ packet.remainingLength ≤ maxRemainingLength ∧
      packet.headerLength = 1 + remainingLengthEncodedSize packet.remainingLength ∧
      packet.pRemainingData = none ∧ ∃ rest, buffer.take index =
        packet.type :: (encodeRemainingLength packet.remainingLength ++ rest) := by
  unfold mqttProcessIncomingPacketTypeAndLength at h
  dsimp only at h
  split at h
  · exact absurd h (by simp)
  rename_i hindex
  split at h
  swap
  · exact absurd h (by simp)
  rename_i hvalid
  obtain ⟨hstatus, rfl⟩ := Prod.ext_iff.1 h
  obtain ⟨hmax, hheader, hle, rest, hrest⟩ :=
    encode_of_processRemainingLength (Prod.ext hstatus rfl)
  refine ⟨hvalid, hmax, hheader, rfl, rest, ?_⟩
  dsimp only
  rw [← hrest]
  cases buffer with
  | nil =>
    rw [List.take_nil, List.drop_nil] at hrest
    have hlength := length_encodeRemainingLength hmax
    rw [(List.append_eq_nil_iff.1 hrest.symm).1] at hlength
    exact absurd hlength.symm (remainingLengthEncodedSize_pos _).ne'
  | cons b buffer =>
    obtain ⟨index, rfl⟩ : ∃ i, index = i + 1 := ⟨index - 1, by omega⟩
    rfl

theorem totalLength_lt {buffer : List UInt8} {index : Nat} {packet : PacketInfo}
    (h : mqttProcessIncomingPacketTypeAndLength buffer index = (.success, packet)) :
    packet.totalLength < 2 ^ 31 := by
  obtain ⟨-, hmax, hheader, -⟩ := typeAndLength_success h
  have hfour : remainingLengthEncodedSize packet.remainingLength ≤ 4 := by
    unfold remainingLengthEncodedSize
    split_ifs <;> omega
  have hmaximum : maxRemainingLength = 268435455 := rfl
  unfold PacketInfo.totalLength
  omega

theorem typeAndLength_encode {buffer rest : List UInt8} {index n : Nat} {type : UInt8}
    (hvalid : incomingPacketValid type = true) (hmax : n ≤ maxRemainingLength)
    (h : buffer.take index = type :: (encodeRemainingLength n ++ rest)) :
    mqttProcessIncomingPacketTypeAndLength buffer index =
      (.success, ⟨type, none, n, 1 + remainingLengthEncodedSize n⟩) := by
  have hlength := congrArg List.length h
  rw [List.length_cons, List.length_append, length_encodeRemainingLength hmax,
    List.length_take] at hlength
  have hfirst : buffer.getD 0 0 = type := by
    cases buffer with
    | nil => simp at h
    | cons b buffer =>
      obtain ⟨index, rfl⟩ : ∃ i, index = i + 1 := ⟨index - 1, by omega⟩
      exact (List.cons.inj h).1
  have hremaining : processRemainingLength buffer index =
      (.success, n, 1 + remainingLengthEncodedSize n) := by
    have htake : (buffer.take index).take index = buffer.take index := by
      rw [List.take_take, Nat.min_self]
    rw [← @processRemainingLength_encode n hmax type rest index (by omega), ← h]
    unfold processRemainingLength
    rw [htake]
  unfold mqttProcessIncomingPacketTypeAndLength
  dsimp only
  rw [if_neg (by omega), hfirst, if_pos hvalid, hremaining]

/-- A framed packet: its type, the encoding of a length, and so many bytes. -/
theorem framed_iff {packet : List UInt8} : Framed packet ↔ ∃ type body,
    incomingPacketValid type = true ∧ body.length ≤ maxRemainingLength ∧
      packet = type :: (encodeRemainingLength body.length ++ body) := by
  constructor
  · intro h
    unfold Framed at h
    generalize hdecoded : mqttProcessIncomingPacketTypeAndLength packet packet.length = decoded at h
    obtain ⟨status, info⟩ := decoded
    obtain ⟨rfl, htotal⟩ := h
    obtain ⟨hvalid, hmax, hheader, -, rest, hrest⟩ := typeAndLength_success hdecoded
    rw [List.take_length] at hrest
    have hlength := congrArg List.length hrest
    rw [List.length_cons, List.length_append, length_encodeRemainingLength hmax] at hlength
    have hbody : rest.length = info.remainingLength := by
      unfold PacketInfo.totalLength at htotal
      dsimp only at htotal
      omega
    rw [← hbody] at hmax hrest
    exact ⟨info.type, rest, hvalid, hmax, hrest⟩
  · rintro ⟨type, body, hvalid, hmax, rfl⟩
    unfold Framed
    dsimp only
    rw [typeAndLength_encode hvalid hmax (List.take_length)]
    refine ⟨rfl, ?_⟩
    unfold PacketInfo.totalLength
    rw [List.length_cons, List.length_append, length_encodeRemainingLength hmax]
    dsimp only
    omega

theorem encodeRemainingLength_inj {m n : Nat} (hm : m ≤ maxRemainingLength)
    (hn : n ≤ maxRemainingLength) {rest rest' : List UInt8}
    (h : encodeRemainingLength m ++ rest = encodeRemainingLength n ++ rest') :
    m = n ∧ rest = rest' := by
  have hdecode : ∀ {n : Nat}, n ≤ maxRemainingLength → ∀ rest,
      (processRemainingLengthLoop (encodeRemainingLength n ++ rest) 0 0).2.1 = n := by
    intro n hn rest
    rw [processRemainingLengthLoop_encode (j := 3) (by omega) (Nat.lt_of_le_of_lt hn (by decide))]
    simp
  obtain rfl : m = n := by
    rw [← hdecode hm rest, h, hdecode hn rest']
  exact ⟨rfl, List.append_cancel_left h⟩

/-- The length of a packet is found in its first bytes. -/
theorem prefixFree_framed : PrefixFree Framed := by
  intro p q hp hq hpre
  obtain ⟨type, body, -, hmax, rfl⟩ := framed_iff.1 hp
  obtain ⟨type', body', -, hmax', rfl⟩ := framed_iff.1 hq
  obtain ⟨more, heq⟩ := hpre
  rw [List.cons_append, List.append_assoc] at heq
  obtain ⟨rfl, hrest⟩ := List.cons.inj heq
  obtain ⟨hlength, rfl⟩ := encodeRemainingLength_inj hmax hmax' hrest
  rw [List.length_append] at hlength
  obtain rfl : more = [] := List.eq_nil_of_length_eq_zero (by omega)
  rw [List.append_nil]

theorem not_framed_nil : ¬ Framed [] := fun h => absurd h.1 (by decide)

/-- The first packet of a stream that starts with this type and length. -/
theorem head_of_framed {type : UInt8} {n : Nat} (hmax : n ≤ maxRemainingLength)
    {rest : List UInt8} {packets : List (List UInt8)} (hpackets : ∀ p ∈ packets, Framed p)
    (h : type :: (encodeRemainingLength n ++ rest) = packets.flatten) :
    ∃ p more, Framed p ∧ p.length = n + (1 + remainingLengthEncodedSize n) ∧
      packets.flatten = p ++ more := by
  cases packets with
  | nil => exact absurd h (by simp)
  | cons p packets =>
    have hp := hpackets p List.mem_cons_self
    obtain ⟨type', body, -, hmax', heq⟩ := framed_iff.1 hp
    rw [List.flatten_cons, heq, List.cons_append, List.append_assoc] at h
    obtain ⟨rfl, -⟩ := encodeRemainingLength_inj hmax hmax' (List.cons.inj h).2
    refine ⟨p, packets.flatten, hp, ?_, rfl⟩
    rw [heq, List.length_cons, List.length_append, length_encodeRemainingLength hmax]
    omega

/-- The event of a packet that is handed to its handler. -/
def dispatchEvent (packet : List UInt8) : Event :=
  let decoded := (mqttProcessIncomingPacketTypeAndLength packet packet.length).2
  .dispatched decoded.type (packet.drop decoded.headerLength)

/-! ## An iteration -/

/-- The context holds what the receiver does: the bytes in the buffer, and those to come. -/
structure Tracks (base : List Event) (s : Sys) (r : Receiver UInt8) : Prop where
  pending : s.networkBuffer.take s.index = r.pending
  stream : s.inbound = r.stream
  delivered : s.dispatches = base ++ r.delivered.map dispatchEvent
  index_le : s.index ≤ s.networkBuffer.length

/-- The packet that an iteration drains, and the context in which it does. -/
def draining (c : Config) (s : Sys) (manageKeepAlive : Bool) : Option (PacketInfo × Sys) :=
  let read := readIntoBuffer c s
  let kept := checkKeepAlive c read.1 manageKeepAlive read.2.1 read.2.2.2
  if kept.1 = .success ∧ kept.2.networkBuffer.length < read.2.2.1.totalLength then
    some (read.2.2.1, kept.2)
  else none

/-- How an iteration ends after its read and its keep-alive check, which leave `kept`: it stops there,
drains the packet, waits for the rest of it, or hands it to its handler. Between `kept` and the result
stand the packets that it dispatches and drains. -/
inductive IterationOutcome (c : Config) (manageKeepAlive : Bool) (kept : Status × Sys) :
    Option (PacketInfo × Sys) → Option (PacketInfo × Sys) → Status × Sys → Prop
  | stopped (hkept : kept.1 ≠ .success) : IterationOutcome c manageKeepAlive kept none none
      (if kept.1 = .noDataAvailable then .success else kept.1, kept.2)
  | drained {packet : PacketInfo} {discarded : Status × Sys} (hkept : kept.1 = .success)
      (hdiscarded : discardStoredPacket c kept.2 packet = discarded) :
      IterationOutcome c manageKeepAlive kept none (some (packet, kept.2))
        (if discarded.1 = .noDataAvailable then .success else discarded.1, discarded.2)
  | incomplete (hkept : kept.1 = .success) :
      IterationOutcome c manageKeepAlive kept none none (.needMoreBytes, kept.2)
  | handled {packet : PacketInfo} {handled : Status × Sys} (hkept : kept.1 = .success)
      (hhandled : handlePacket c manageKeepAlive packet kept.2 = handled) (ticks index : Nat)
      (networkBuffer : List UInt8) (lastPacketRxTime : UInt32) :
      IterationOutcome c manageKeepAlive kept (some (packet, kept.2)) none
        (handled.1, { handled.2 with ticks, index, networkBuffer, lastPacketRxTime })

/-- After the handler of a packet only the buffer and the clock change. -/
theorem dispatchPacket_eq (c : Config) (manageKeepAlive : Bool) (packet : PacketInfo) (s : Sys) :
    let handled := handlePacket c manageKeepAlive
      { packet with pRemainingData := some (s.networkBuffer.drop packet.headerLength) } s
    ∃ ticks index networkBuffer lastPacketRxTime, dispatchPacket c manageKeepAlive packet s =
      (handled.1, { handled.2 with ticks, index, networkBuffer, lastPacketRxTime }) := by
  unfold dispatchPacket
  dsimp only
  generalize handlePacket c manageKeepAlive { packet with
    pRemainingData := some (s.networkBuffer.drop packet.headerLength) } s = handled
  obtain ⟨status, s'⟩ := handled
  split
  · rename_i hsuccess
    exact ⟨s'.ticks + 1, _, _, s'.clock s'.ticks, Prod.ext hsuccess.symm rfl⟩
  · exact ⟨_, _, _, _, rfl⟩

theorem receiveSingleIteration_outcome (c : Config) (s : Sys) (manageKeepAlive : Bool) :
    let read := readIntoBuffer c s
    IterationOutcome c manageKeepAlive
      (checkKeepAlive c read.1 manageKeepAlive read.2.1 read.2.2.2)
      (dispatched c s manageKeepAlive) (draining c s manageKeepAlive)
      (receiveSingleIteration c s manageKeepAlive) := by
  unfold receiveSingleIteration dispatched draining
  dsimp only
  generalize readIntoBuffer c s = read
  generalize checkKeepAlive c read.1 manageKeepAlive read.2.1 read.2.2.2 = kept
  unfold checkComplete PacketInfo.totalLength
  dsimp only
  by_cases hok : kept.1 = .success
  swap
  · rw [if_pos hok, if_neg hok, if_neg fun h => hok h.1, if_neg hok]
    exact .stopped hok
  rw [if_neg (not_not_intro hok)]
  by_cases hlong : kept.2.networkBuffer.length < read.2.2.1.remainingLength + read.2.2.1.headerLength
  · have hdiscarded : (discardStoredPacket c kept.2 read.2.2.1).1 ≠ .success := by
      unfold discardStoredPacket
      dsimp only
      split <;> simp
    rw [if_pos hlong, if_neg hdiscarded, if_pos ⟨hok, hlong⟩, if_neg hdiscarded]
    exact .drained hok rfl
  have hdraining : ¬ (kept.1 = .success ∧
      kept.2.networkBuffer.length < read.2.2.1.remainingLength + read.2.2.1.headerLength) :=
    fun h => hlong h.2
  rw [if_neg hlong, if_neg hdraining]
  by_cases hmore : kept.2.index < read.2.2.1.remainingLength + read.2.2.1.headerLength
  · rw [if_pos hmore]
    exact .incomplete hok
  rw [if_neg hmore]
  obtain ⟨ticks, index, networkBuffer, lastPacketRxTime, heq⟩ :=
    dispatchPacket_eq c manageKeepAlive read.2.2.1 kept.2
  have hstatus : (dispatchPacket c manageKeepAlive read.2.2.1 kept.2).1 ≠ .noDataAvailable := by
    rw [heq]
    exact ne_of_mem_of_not_mem (handlePacket_status c manageKeepAlive _ kept.2) (by decide)
  simp only [if_true]
  rw [if_neg hstatus, heq]
  exact .handled hok rfl ticks index networkBuffer lastPacketRxTime

/-- An iteration keeps to what its parts keep to. -/
theorem SendPreorder.receiveSingleIteration {r : Sys → Sys → Prop} (h : SendPreorder r) (c : Config)
    (manageKeepAlive : Bool) (hping : ∀ s, r s (FreeMqtt.mqttPing c s).2)
    (hread : ∀ s, r s (readIntoBuffer c s).2.2.2)
    (hdiscard : ∀ s packet, r s (discardStoredPacket c s packet).2)
    (hhandle : ∀ packet s, r s (FreeMqtt.handlePacket c manageKeepAlive packet s).2)
    (hbuffer : ∀ (s : Sys) ticks index networkBuffer lastPacketRxTime,
      r s { s with ticks, index, networkBuffer, lastPacketRxTime }) (s : Sys) :
    r s (FreeMqtt.receiveSingleIteration c s manageKeepAlive).2 := by
  have houtcome := receiveSingleIteration_outcome c s manageKeepAlive
  have hstart := hread s
  dsimp only at houtcome
  generalize dispatched c s manageKeepAlive = next at houtcome
  generalize draining c s manageKeepAlive = drain at houtcome
  generalize readIntoBuffer c s = read at *
  have hkept := h.trans hstart
    (h.checkKeepAlive c hping read.1 manageKeepAlive read.2.1 read.2.2.2)
  generalize FreeMqtt.checkKeepAlive c read.1 manageKeepAlive read.2.1 read.2.2.2 = kept at *
  generalize FreeMqtt.receiveSingleIteration c s manageKeepAlive = result at *
  cases houtcome with
  | stopped => exact hkept
  | drained _ hdiscarded =>
    rw [← hdiscarded]
    exact h.trans hkept (hdiscard ..)
  | incomplete => exact hkept
  | @handled packet handled _ hhandled ticks index networkBuffer lastPacketRxTime =>
    have hafter := h.trans hkept (hhandle packet kept.2)
    rw [hhandled] at hafter
    exact h.trans hafter (hbuffer ..)

/-- What an iteration takes off the stream behind its read: nothing, the packet that it dispatches
(`next`), or one that is longer than the buffer. -/
inductive TakesPacket (next : Option (PacketInfo × Sys)) (bound : Nat) :
    Receiver UInt8 → Receiver UInt8 → Prop
  | nothing (r : Receiver UInt8) : TakesPacket next bound r r
  | deliver {p pending stream : List UInt8} {delivered : List (List UInt8)} {packet : PacketInfo}
      {data : Pointer} {s : Sys} (hp : Framed p) (hle : p.length ≤ bound)
      (hnext : next = some ({ packet with pRemainingData := data }, s))
      (hpacket : mqttProcessIncomingPacketTypeAndLength p p.length = (.success, packet)) :
      TakesPacket next bound ⟨p ++ pending, stream, delivered⟩ ⟨pending, stream, delivered ++ [p]⟩
  | skip {p rest : List UInt8} {r : Receiver UInt8} (hp : Framed p) (hlong : bound < p.length)
      (htwo : 2 ≤ bound) (heq : r.pending ++ r.stream = p ++ rest) :
      TakesPacket next bound r ⟨[], rest, r.delivered⟩

theorem TakesPacket.steps {next : Option (PacketInfo × Sys)} {bound : Nat} {r r' : Receiver UInt8}
    (h : TakesPacket next bound r r') : ReflTransGen (ReceiverStep Framed bound) r r' := by
  cases h with
  | nothing => exact .refl
  | deliver hp hle _ _ => exact .single (.deliver hp hle)
  | skip hp hlong _ heq => exact .single (.skip hp hlong heq)

section Iteration

variable {c : Config} {base : List Event} {s s' : Sys} {r : Receiver UInt8}

/-- A receiver that starts with what the context holds. -/
theorem Tracks.of_index_le (h : s.index ≤ s.networkBuffer.length) :
    Tracks s.dispatches s ⟨s.networkBuffer.take s.index, s.inbound, []⟩ :=
  ⟨rfl, rfl, (List.append_nil _).symm, h⟩

theorem Tracks.of_index_eq_zero (h : s.index = 0) : Tracks s.dispatches s ⟨[], s.inbound, []⟩ := by
  have hstart := Tracks.of_index_le (s := s) (by omega)
  rw [h, List.take_zero] at hstart
  exact hstart

theorem Tracks.of_streamKept (h : Tracks base s r) (hkept : StreamKept s s') :
    Tracks base s' r := by
  refine ⟨?_, hkept.inbound.trans h.stream, hkept.dispatches.trans h.delivered, ?_⟩
  · rw [hkept.networkBuffer, hkept.index]
    exact h.pending
  · rw [hkept.networkBuffer, hkept.index]
    exact h.index_le

theorem Tracks.read (h : Tracks base s r) (hsize : s.networkBuffer.length < 2 ^ c.sizeBits) :
    let read := readIntoBuffer c s
    ∃ r', ReceiverStep Framed s.networkBuffer.length r r' ∧ Tracks base read.2.2.2 r' ∧
      r'.pending ++ r'.stream = r.pending ++ r.stream ∧ read.2.2.2.recvs = s.recvs.tail ∧
      read.2.2.2.networkBuffer.length = s.networkBuffer.length ∧
      (read.2.1 = .success → mqttProcessIncomingPacketTypeAndLength read.2.2.2.networkBuffer
        read.2.2.2.index = (.success, read.2.2.1)) := by
  obtain ⟨count, hpending, hinbound, hrecvs, hlength, hindex, -, hheader⟩ :=
    readIntoBuffer_stream c h.index_le hsize
  obtain ⟨pending, stream, delivered⟩ := r
  have hr := h.pending
  have hs := h.stream
  dsimp only at hr hs
  subst hr hs
  refine ⟨_, .read count, ⟨hpending, hinbound, ?_, hindex⟩, ?_, hrecvs, hlength,
    hheader⟩
  · exact (reads_readIntoBuffer c s).dispatches.trans h.delivered
  · dsimp only
    rw [List.append_assoc, List.take_append_drop]

theorem take_moveToFront {buffer : List UInt8} {offset length : Nat}
    (h : offset + length ≤ buffer.length) :
    (moveToFront buffer offset length).take length = (buffer.drop offset).take length := by
  have hlength : ((buffer.drop offset).take length).length = length :=
    List.length_take_of_le (by rw [List.length_drop]; omega)
  unfold moveToFront
  rw [writeAt_eq (by omega), List.take_zero, List.nil_append]
  exact List.take_left' hlength

theorem dispatches_dispatching (s : Sys) (packet : PacketInfo) : (s.dispatching packet).dispatches =
    s.dispatches ++
      [.dispatched packet.type (readBytes packet.pRemainingData packet.remainingLength)] := by
  unfold Sys.dispatches Sys.dispatching Sys.record
  rw [List.filter_append]
  rfl

/-- A packet that is complete in front of the buffer. Its event is that of its handler. -/
theorem framed_front {buffer : List UInt8} {index : Nat} {packet : PacketInfo}
    (hindex : index ≤ buffer.length)
    (hheader : mqttProcessIncomingPacketTypeAndLength buffer index = (.success, packet))
    (hall : packet.totalLength ≤ index) :
    ∃ p pending, Framed p ∧ p.length = packet.totalLength ∧ buffer.take index = p ++ pending ∧
      mqttProcessIncomingPacketTypeAndLength p p.length = (.success, packet) ∧
      dispatchEvent p = .dispatched packet.type
        (readBytes (some (buffer.drop packet.headerLength)) packet.remainingLength) := by
  obtain ⟨hvalid, hmax, hlength, hdata, rest, htake⟩ := typeAndLength_success hheader
  have hencoded := length_encodeRemainingLength hmax
  have htotal : packet.totalLength = packet.remainingLength + packet.headerLength := rfl
  have hrest : index = 1 + remainingLengthEncodedSize packet.remainingLength + rest.length := by
    have hcount := congrArg List.length htake
    rw [List.length_take_of_le hindex, List.length_cons, List.length_append, hencoded] at hcount
    omega
  have hbody : (rest.take packet.remainingLength).length = packet.remainingLength :=
    List.length_take_of_le (by omega)
  let p := packet.type :: (encodeRemainingLength packet.remainingLength ++
    rest.take packet.remainingLength)
  have hfront : ∀ bytes : List UInt8, (packet.type ::
      (encodeRemainingLength packet.remainingLength ++ bytes)).drop packet.headerLength = bytes := by
    intro bytes
    rw [← List.cons_append]
    exact List.drop_left' (by rw [List.length_cons, hencoded, hlength, Nat.add_comm])
  have hbytes : readBytes (some (buffer.drop packet.headerLength)) packet.remainingLength =
      rest.take packet.remainingLength := by
    rw [readBytes_take (by rw [List.length_drop]; omega), ← hfront rest, ← htake, List.drop_take,
      List.take_take, Nat.min_eq_left (by omega)]
  refine ⟨p, rest.drop packet.remainingLength, ?_, ?_, ?_, ?_, ?_⟩
  · refine framed_iff.2 ⟨packet.type, rest.take packet.remainingLength, hvalid, ?_, ?_⟩
    · rw [hbody]
      exact hmax
    · rw [hbody]
  · simp only [p, List.length_cons, List.length_append, hencoded, hbody]
    omega
  · rw [htake]
    simp [p]
  · rw [typeAndLength_encode hvalid hmax (List.take_length (l := p)), ← hlength, ← hdata]
  · unfold dispatchEvent
    rw [typeAndLength_encode hvalid hmax (List.take_length (l := p)), hbytes]
    dsimp only
    rw [← hlength, hfront]

/-- The packet in front of the buffer is handed to its handler, and taken out. -/
theorem Tracks.dispatch (h : Tracks base s r) (hbuffer : s.networkBuffer.length < 2 ^ c.sizeBits)
    {packet : PacketInfo} (hheader : mqttProcessIncomingPacketTypeAndLength s.networkBuffer s.index =
      (.success, packet)) (hall : packet.totalLength ≤ s.index) (manageKeepAlive : Bool)
    (hcallback : .disconnect ∉ s.callbacks.headD [] ∨
      (dispatchPacket c manageKeepAlive packet s).2.connectStatus = .connected) :
    ∃ p pending, Framed p ∧ p.length ≤ s.networkBuffer.length ∧
      mqttProcessIncomingPacketTypeAndLength p p.length = (.success, packet) ∧
      r.pending = p ++ pending ∧
      Tracks base (dispatchPacket c manageKeepAlive packet s).2
        ⟨pending, r.stream, r.delivered ++ [p]⟩ ∧
      (dispatchPacket c manageKeepAlive packet s).2.networkBuffer.length = s.networkBuffer.length := by
  have hindex := h.index_le
  have hsize : s.index < 2 ^ c.sizeBits := Nat.lt_of_le_of_lt hindex hbuffer
  have htotal : packet.totalLength = packet.remainingLength + packet.headerLength := rfl
  obtain ⟨p, pending, hp, hp_length, htake, hparsed, hevent⟩ := framed_front hindex hheader hall
  -- the handler leaves the buffer alone
  unfold dispatchPacket at hcallback ⊢
  dsimp only at hcallback ⊢
  have hhandled := handlePacket_streamKept c manageKeepAlive
    { packet with pRemainingData := some (s.networkBuffer.drop packet.headerLength) } s
    (hcallback.imp_right fun hconn => by split at hconn <;> exact hconn)
  generalize handlePacket c manageKeepAlive
    { packet with pRemainingData := some (s.networkBuffer.drop packet.headerLength) } s = handled at *
  have hsame : handled.2.networkBuffer = s.networkBuffer := hhandled.networkBuffer
  have hremoved : c.sizeSub handled.2.index (packet.remainingLength + packet.headerLength) =
      s.index - packet.totalLength := by
    rw [show handled.2.index = s.index from hhandled.index]
    exact c.sizeSub_eq hall hsize
  have hmoved : (moveToFront s.networkBuffer (packet.remainingLength + packet.headerLength)
      (s.index - packet.totalLength)).take (s.index - packet.totalLength) =
        pending := by
    rw [take_moveToFront (by omega), ← htotal, ← List.drop_take, htake]
    exact List.drop_left' hp_length
  have hdispatches : handled.2.dispatches =
      base ++ (r.delivered ++ [p]).map dispatchEvent := by
    rw [hhandled.dispatches, dispatches_dispatching, h.delivered, List.map_append, List.append_assoc]
    dsimp only
    rw [← hevent]
    rfl
  rw [hremoved, hsame]
  have htracks : Tracks base { handled.2 with
      index := s.index - packet.totalLength
      networkBuffer := moveToFront s.networkBuffer
        (packet.remainingLength + packet.headerLength) (s.index - packet.totalLength) }
      ⟨pending, r.stream, r.delivered ++ [p]⟩ := by
    refine ⟨hmoved, hhandled.inbound.trans h.stream, hdispatches, ?_⟩
    dsimp only [moveToFront]
    rw [length_writeAt]
    omega
  refine ⟨p, pending, hp, by omega, hparsed, h.pending.symm.trans htake, ?_, ?_⟩
  · split
    · exact htracks.of_streamKept ⟨rfl, rfl, rfl, rfl, rfl, id⟩
    · exact htracks
  · split
    · exact length_writeAt _ _ _
    · exact length_writeAt _ _ _

/-- A packet that is longer than the buffer is drained. -/
theorem Tracks.drain (h : Tracks base s r) {packet : PacketInfo}
    (hheader : mqttProcessIncomingPacketTypeAndLength s.networkBuffer s.index = (.success, packet))
    (hlong : s.networkBuffer.length < packet.totalLength)
    (hok : (discardStoredPacket c s packet).1 = .noDataAvailable) :
    ∃ p rest, Framed p ∧ s.networkBuffer.length < p.length ∧ 2 ≤ s.networkBuffer.length ∧
      r.pending ++ r.stream = p ++ rest ∧
      Tracks base (discardStoredPacket c s packet).2 ⟨[], rest, r.delivered⟩ ∧
      (discardStoredPacket c s packet).2.networkBuffer.length = s.networkBuffer.length := by
  obtain ⟨hvalid, hmax, hlength, -, rest, htake⟩ := typeAndLength_success hheader
  have hindex := h.index_le
  have hencoded := length_encodeRemainingLength hmax
  have hpos := remainingLengthEncodedSize_pos packet.remainingLength
  have htotal : packet.totalLength = packet.remainingLength + packet.headerLength := rfl
  have hsize := totalLength_lt hheader
  have hcount := congrArg List.length htake
  rw [List.length_take_of_le hindex, List.length_cons, List.length_append, hencoded] at hcount
  obtain ⟨hzero, hkept, -, hdrained⟩ :=
    discardStoredPacket_stream c (Nat.le_trans hindex (Nat.le_of_lt hlong))
      (Nat.lt_trans hsize (by decide)) (Nat.lt_trans hlong hsize)
  obtain ⟨bytes, hbytes, hinbound⟩ := hdrained hok
  -- the bytes in the buffer and those of the drain are the packet
  have hbody : (rest ++ bytes).length = packet.remainingLength := by
    rw [List.length_append]
    omega
  refine ⟨packet.type :: (encodeRemainingLength packet.remainingLength ++ (rest ++ bytes)),
    (discardStoredPacket c s packet).2.inbound, ?_, ?_, by omega, ?_, ?_, hkept⟩
  · refine framed_iff.2 ⟨packet.type, rest ++ bytes, hvalid, ?_, ?_⟩
    · rw [hbody]
      exact hmax
    · rw [hbody]
  · rw [List.length_cons, List.length_append, hencoded, hbody]
    omega
  · rw [← h.pending, ← h.stream, htake, hinbound]
    simp
  · refine ⟨?_, rfl, (reads_discardStoredPacket c s packet).dispatches.trans h.delivered, ?_⟩
    · rw [hzero]
      rfl
    · rw [hzero]
      exact Nat.zero_le _

/-- An iteration reads and consumes at most one packet, when a drain that is in it is not cut short
and the callback does not disconnect. -/
theorem Tracks.iteration (h : Tracks base s r) (hsize : s.networkBuffer.length < 2 ^ c.sizeBits)
    (manageKeepAlive : Bool)
    (hdrain : ∀ packet s₁, draining c s manageKeepAlive = some (packet, s₁) →
      (discardStoredPacket c s₁ packet).1 = .noDataAvailable)
    (hcallback : .disconnect ∉ s.callbacks.headD [] ∨
      (receiveSingleIteration c s manageKeepAlive).2.connectStatus = .connected) :
    ∃ r₁ r', ReceiverStep Framed s.networkBuffer.length r r₁ ∧
      r₁.pending ++ r₁.stream = r.pending ++ r.stream ∧ Tracks base (readIntoBuffer c s).2.2.2 r₁ ∧
      TakesPacket (dispatched c s manageKeepAlive) s.networkBuffer.length r₁ r' ∧
      Tracks base (receiveSingleIteration c s manageKeepAlive).2 r' ∧
      (receiveSingleIteration c s manageKeepAlive).2.networkBuffer.length = s.networkBuffer.length := by
  obtain ⟨r₁, hstep, hread, hsame, -, hlength, hheader⟩ := h.read hsize
  have hreads := reads_readIntoBuffer c s
  refine ⟨r₁, ?_⟩
  unfold draining at hdrain
  unfold dispatched
  unfold receiveSingleIteration at hcallback ⊢
  dsimp only at hread hlength hheader hdrain hcallback ⊢
  generalize readIntoBuffer c s = read at *
  have hkept := checkKeepAlive_streamKept c read.1 manageKeepAlive read.2.1 read.2.2.2
  have hkeptBuffer := checkKeepAlive_bufferKept c read.1 manageKeepAlive read.2.1 read.2.2.2
  have hstatus := @checkKeepAlive_success c read.1 manageKeepAlive read.2.1 read.2.2.2
  generalize checkKeepAlive c read.1 manageKeepAlive read.2.1 read.2.2.2 = kept at *
  have htracks := hread.of_streamKept hkept
  have hcallbacks : kept.2.callbacks = s.callbacks :=
    hkeptBuffer.callbacks.trans hreads.callbacks
  have hlength' : kept.2.networkBuffer.length = s.networkBuffer.length :=
    hkeptBuffer.length.trans hlength
  rw [← hlength'] at hstep hsize ⊢
  unfold checkComplete at hcallback ⊢
  dsimp only at hcallback ⊢
  by_cases hok : kept.1 = .success
  swap
  · rw [if_pos hok, if_neg hok, if_neg hok]
    exact ⟨r₁, hstep, hsame, hread, .nothing r₁, htracks, rfl⟩
  have hpacket : mqttProcessIncomingPacketTypeAndLength kept.2.networkBuffer kept.2.index =
      (.success, read.2.2.1) := by
    rw [hkept.networkBuffer, hkept.index]
    exact hheader (hstatus hok)
  rw [if_neg (not_not_intro hok)] at hcallback ⊢
  by_cases hlong : kept.2.networkBuffer.length < read.2.2.1.remainingLength + read.2.2.1.headerLength
  · have hdrained := hdrain _ _ (if_pos ⟨hok, hlong⟩)
    have hne : (discardStoredPacket c kept.2 read.2.2.1).1 ≠ .success := by
      rw [hdrained]
      simp
    rw [if_pos hlong, if_neg hne, if_neg hne]
    obtain ⟨p, rest, hp, hp_long, htwo, heq, htracks', hkeptLength⟩ :=
      htracks.drain hpacket hlong hdrained
    exact ⟨_, hstep, hsame, hread, .skip hp hp_long htwo heq, htracks', hkeptLength⟩
  rw [if_neg hlong] at hcallback ⊢
  by_cases hmore : kept.2.index < read.2.2.1.remainingLength + read.2.2.1.headerLength
  · rw [if_pos hmore, if_neg (by simp), if_neg (by simp)]
    exact ⟨r₁, hstep, hsame, hread, .nothing r₁, htracks, rfl⟩
  rw [if_neg hmore, if_pos rfl] at hcallback ⊢
  rw [if_pos rfl]
  rw [← hcallbacks] at hcallback
  obtain ⟨p, pending, hp, hle, hparsed, heq, htracks', hkeptLength⟩ :=
    htracks.dispatch hsize hpacket (Nat.le_of_not_lt hmore) manageKeepAlive hcallback
  refine ⟨_, hstep, hsame, hread, ?_, htracks', hkeptLength⟩
  obtain ⟨_, stream, delivered⟩ := r₁
  dsimp only at heq
  subst heq
  exact .deliver hp hle rfl hparsed

/-- An iteration is a few steps of the receiver. -/
theorem Tracks.iteration_steps (h : Tracks base s r) (hsize : s.networkBuffer.length < 2 ^ c.sizeBits)
    (manageKeepAlive : Bool)
    (hdrain : ∀ packet s₁, draining c s manageKeepAlive = some (packet, s₁) →
      (discardStoredPacket c s₁ packet).1 = .noDataAvailable)
    (hcallback : .disconnect ∉ s.callbacks.headD [] ∨
      (receiveSingleIteration c s manageKeepAlive).2.connectStatus = .connected) :
    ∃ r', ReflTransGen (ReceiverStep Framed s.networkBuffer.length) r r' ∧
      Tracks base (receiveSingleIteration c s manageKeepAlive).2 r' ∧
      (receiveSingleIteration c s manageKeepAlive).2.networkBuffer.length = s.networkBuffer.length := by
  obtain ⟨r₁, r', hstep, -, -, htakes, htracks, hlength⟩ :=
    h.iteration hsize manageKeepAlive hdrain hcallback
  exact ⟨r', (ReflTransGen.single hstep).trans htakes.steps, htracks, hlength⟩

/-- A drain from a transport that does not return zero gets the whole packet. -/
theorem Tracks.drains (h : Tracks base s r) (hsize : s.networkBuffer.length < 2 ^ c.sizeBits)
    {packets : List (List UInt8)} (hpackets : ∀ p ∈ packets, Framed p)
    (hstream : r.pending ++ r.stream = packets.flatten) (hrecvs : ∀ result ∈ s.recvs.tail, 0 < result)
    {packet : PacketInfo} {s₁ : Sys} (hdraining : draining c s false = some (packet, s₁)) :
    (discardStoredPacket c s₁ packet).1 = .noDataAvailable := by
  obtain ⟨r₁, -, hread, hsame, htail, hlength, hheader⟩ := h.read hsize
  unfold draining at hdraining
  dsimp only at hread htail hlength hheader hdraining
  generalize readIntoBuffer c s = read at *
  have hnoCheck : checkKeepAlive c read.1 false read.2.1 read.2.2.2 = (read.2.1, read.2.2.2) :=
    if_neg (by simp)
  rw [hnoCheck] at hdraining
  split at hdraining
  swap
  · cases hdraining
  rename_i hok
  cases hdraining
  obtain ⟨hstatus, hlong⟩ := hok
  dsimp only at hstatus hlong ⊢
  obtain ⟨-, hmax, hheaderLength, -, rest, htake⟩ := typeAndLength_success (hheader hstatus)
  have hindex := hread.index_le
  have htotal : read.2.2.1.totalLength = read.2.2.1.remainingLength + read.2.2.1.headerLength := rfl
  have hfirst : read.2.2.1.type :: (encodeRemainingLength read.2.2.1.remainingLength ++
      (rest ++ r₁.stream)) = packets.flatten := by
    rw [← hstream, ← hsame, ← hread.pending, htake, List.cons_append, List.append_assoc]
  obtain ⟨p, more, hp, hp_length, hp_eq⟩ := head_of_framed hmax hpackets hfirst
  have hcount : read.2.2.2.index + read.2.2.2.inbound.length = p.length + more.length := by
    rw [← List.length_append, ← hp_eq, ← hstream, ← hsame, ← hread.pending, hread.stream,
      List.length_append, List.length_take_of_le hindex]
  have hshort := totalLength_lt (hheader hstatus)
  refine discardStoredPacket_delivering c ?_ (by omega) (by omega) ?_ (by omega) (by omega)
  · unfold Delivering
    rw [htail]
    exact hrecvs
  · have hpos := congrArg List.length htake
    rw [List.length_take_of_le hindex, List.length_cons] at hpos
    omega

end Iteration

/-! ## Calls of `MQTT_ReceiveLoop` -/

/-- The results of the transport in a call: of its read, and of the reads that drain a packet, which
are not zero. A result counts no more bytes than are requested. -/
structure RecvSchedule where
  first : Nat
  drain : List Nat
  drain_pos : ∀ count ∈ drain, 0 < count

/-- `MQTT_ReceiveLoop` with these results of the transport. -/
def receiveLoop (c : Config) (s : Sys) (schedule : RecvSchedule) : Sys :=
  (mqttReceiveLoop c { s with
    recvs := (schedule.first :: schedule.drain).map Int.ofNat }).2

/-- A call of `MQTT_ReceiveLoop` is a few steps of the receiver. -/
theorem receiveLoop_steps (c : Config) {base : List Event} {s : Sys} {r : Receiver UInt8}
    (h : Tracks base s r) (hsmall : s.networkBuffer.length < 2 ^ 31) (hquiet : NoReentry s)
    {packets : List (List UInt8)} (hpackets : ∀ p ∈ packets, Framed p)
    (hstream : r.pending ++ r.stream = packets.flatten) (schedule : RecvSchedule) :
    ∃ r', ReflTransGen (ReceiverStep Framed s.networkBuffer.length) r r' ∧
      Tracks base (receiveLoop c s schedule) r' ∧
      (receiveLoop c s schedule).networkBuffer.length = s.networkBuffer.length ∧
      NoReentry (receiveLoop c s schedule) := by
  let s₁ : Sys := { s with
    recvs := (schedule.first :: schedule.drain).map Int.ofNat }
  have h₁ : Tracks base s₁ r := ⟨h.pending, h.stream, h.delivered, h.index_le⟩
  have hquiet₁ : NoReentry s₁ := hquiet
  have hpositive : ∀ result ∈ s₁.recvs.tail, 0 < result := by
    intro result hresult
    obtain ⟨count, hcount, rfl⟩ := List.mem_map.1 hresult
    exact Int.natCast_pos.2 (schedule.drain_pos count hcount)
  have hsize : s₁.networkBuffer.length < 2 ^ c.sizeBits :=
    Nat.lt_of_lt_of_le hsmall (Nat.pow_le_pow_right (by decide) (by have := c.sizeBits_eq; omega))
  obtain ⟨r', hsteps, htracks, hlength⟩ := h₁.iteration_steps hsize false
    (fun packet s₂ hdraining => h₁.drains hsize hpackets hstream hpositive hdraining)
    (.inl hquiet₁.not_disconnect)
  exact ⟨r', hsteps, htracks, hlength, hquiet₁.receiveSingleIteration c false⟩

/-- Calls of `MQTT_ReceiveLoop` hand the packets of a stream to their handlers in order, however the
transport cuts it, but for those that are longer than the buffer. The buffer holds what was read and
is still to be handled. -/
theorem receiveLoops_inOrder (c : Config) {s : Sys} {packets : List (List UInt8)}
    (hsmall : s.networkBuffer.length < 2 ^ 31) (hindex : s.index = 0)
    (hstream : s.inbound = packets.flatten) (hpackets : ∀ p ∈ packets, Framed p) (hquiet : NoReentry s)
    (schedules : List RecvSchedule) :
    let s' := schedules.foldl (receiveLoop c) s
    ∃ consumed rest, packets = consumed ++ rest ∧ s'.index ≤ s'.networkBuffer.length ∧
      s'.networkBuffer.length = s.networkBuffer.length ∧
      s'.networkBuffer.take s'.index ++ s'.inbound = rest.flatten ∧
      s'.dispatches = s.dispatches ++
        (consumed.filter fun p => p.length ≤ s.networkBuffer.length).map dispatchEvent := by
  have hstart := Tracks.of_index_eq_zero hindex
  have hrun : ∀ (schedules : List RecvSchedule) {s' : Sys} {r : Receiver UInt8},
      Tracks s.dispatches s' r → s'.networkBuffer.length = s.networkBuffer.length → NoReentry s' →
      InOrder s.networkBuffer.length packets r →
      ∃ r', Tracks s.dispatches (schedules.foldl (receiveLoop c) s') r' ∧
        (schedules.foldl (receiveLoop c) s').networkBuffer.length = s.networkBuffer.length ∧
        InOrder s.networkBuffer.length packets r' := by
    intro schedules
    induction schedules with
    | nil => exact fun {s' r} htracks hlength _ horder => ⟨r, htracks, hlength, horder⟩
    | cons schedule schedules ih =>
      intro s' r htracks hlength hquiet horder
      obtain ⟨consumed, rest, heq, hrest, -⟩ := id horder
      have hframed : ∀ p ∈ rest, Framed p := fun p hp => hpackets p (by rw [heq]; simp [hp])
      obtain ⟨r', hsteps, htracks', hlength', hquiet'⟩ :=
        receiveLoop_steps c htracks (by rw [hlength]; exact hsmall) hquiet hframed hrest schedule
      rw [hlength] at hsteps
      exact ih htracks' (hlength'.trans hlength) hquiet'
        (inOrder_of_steps hsteps prefixFree_framed not_framed_nil hpackets horder)
  obtain ⟨r, htracks, hlength, consumed, rest, heq, hrest, hdelivered⟩ :=
    hrun schedules hstart rfl hquiet ⟨[], packets, rfl, hstream, rfl⟩
  refine ⟨consumed, rest, heq, htracks.index_le, hlength, ?_, ?_⟩
  · rw [htracks.pending, htracks.stream, hrest]
  · rw [htracks.delivered, hdelivered]

/-- A PINGRESP, a PUBLISH of nine bytes and a PINGRESP, with a buffer of six bytes. -/
def streamPackets : List (List UInt8) :=
  [[0xD0, 0], [0x30, 7, 0, 1, 0x74, 1, 2, 3, 4], [0xD0, 0]]

/-- The transport delivers one byte, four bytes, and three; the rest of the PUBLISH is then drained,
two bytes and one. -/
def streamSchedules : List RecvSchedule :=
  [⟨1, [], by simp⟩, ⟨4, [], by simp⟩, ⟨3, [2, 1], by simp⟩, ⟨2, [], by simp⟩]

/-- `receiveLoops_inOrder` on this stream: all of it is consumed, both PINGRESPs are handed to their
handler, and the PUBLISH between them is skipped. -/
theorem receiveLoops_inOrder_pieces :
    let s : Sys := { Sys.initialized (.still streamPackets.flatten) 6 1 with
      connectStatus := .connected }
    let s' := streamSchedules.foldl (receiveLoop .default) s
    s'.index = 0 ∧ s'.inbound = [] ∧
      s'.dispatches = [dispatchEvent [0xD0, 0], dispatchEvent [0xD0, 0]] := by
  intro s
  have hrun := @receiveLoops_inOrder .default s streamPackets (by decide) rfl rfl (by decide)
    (by simp [NoReentry, s, Sys.initialized, World.still]) streamSchedules
  dsimp only at hrun ⊢
  generalize hs' : streamSchedules.foldl (receiveLoop .default) s = s' at hrun ⊢
  have hread : s'.index = 0 ∧ s'.inbound = [] := by
    rw [← hs']
    decide
  obtain ⟨consumed, rest, hpackets, -, -, hrest, hdispatches⟩ := hrun
  rw [hread.1, hread.2] at hrest
  -- nothing is left of the stream, so no packet is left
  have hempty : ∀ p ∈ rest, p = [] := List.flatten_eq_nil_iff.1 hrest.symm
  have hconsumed : rest = [] := by
    refine List.eq_nil_iff_forall_not_mem.2 fun p hp => ?_
    have hmem : p ∈ streamPackets := hpackets ▸ List.mem_append_right _ hp
    exact absurd (hempty p hp ▸ hmem) (by decide)
  rw [hconsumed, List.append_nil] at hpackets
  refine ⟨hread.1, hread.2, hdispatches.trans ?_⟩
  rw [← hpackets]
  decide

end FreeMqtt
