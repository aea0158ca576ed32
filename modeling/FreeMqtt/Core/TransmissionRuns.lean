import FreeMqtt.Core.Transmissions
import FreeMqtt.Core.UplinkRuns

/-!
# What a server reads on a connection

In every run, each packet that is handed to the transport says what was asked for
(`transmission_asked`): a request of the application, an acknowledgement that is due, or the
duplicate of a publish that is kept in the store. A server that takes the bytes of a connection
apart finds these packets in order, up to the first one that is cut off (`stream_read`).
-/

namespace FreeMqtt

open Moments

/-! ## What is asked for in a run -/

/-- The publish whose duplicate is in the store. -/
def LastStored (c : Config) (earlier : List (Moment Sys Operation)) (info : PublishInfo)
    (packetId : UInt16) : Prop :=
  ∃ front m rest, earlier = front ++ m :: rest ∧
    m.operation = .request (.publish (some info) packetId) ∧ info.qos ≠ .qos0 ∧
    ∀ m' ∈ rest, (m'.after (Operation.run c)).store packetId = m'.before.store packetId

/-- What a moment of a run may send. -/
inductive Asked (c : Config) (earlier : List (Moment Sys Operation)) (m : Moment Sys Operation) :
    ClientPacket → Prop
  | now {packet : ClientPacket} (hasks : Asks m.operation packet)
      (hsolicited : SolicitedAt earlier m) : Asked c earlier m packet
  | again {info : PublishInfo} {packetId : UInt16} (hoperation : m.operation = .resend packetId)
      (hstored : LastStored c earlier info packetId) :
      Asked c earlier m ({ info with dup := true }.clientPacket packetId)

/-- The packets that a moment hands to the transport. -/
def transmissions (c : Config) (m : Moment Sys Operation) : List Transmission :=
  (eventsOf c m).filterMap Event.transmission

theorem Transmitted.transmissions_eq {c : Config} {m : Moment Sys Operation}
    {sent : List Transmission} (h : Transmitted m.before (m.after (Operation.run c)) sent) :
    transmissions c m = sent := by
  obtain ⟨events, hemitted, rfl⟩ := h
  unfold transmissions eventsOf
  rw [hemitted.log, List.drop_left]

section Run

variable {c : Config} {s : Sys} {calls : List Call}

/-- What a moment does, with the packets that it hands to the transport. -/
theorem moment_transmits (hsound : ∀ m ∈ runMoments c s calls, m.operation.Sound c) :
    ∀ m ∈ runMoments c s calls, Transmitted m.before (m.after (Operation.run c)) (transmissions c m) ∧
      (transmissions c m).length ≤ 1 ∧ ∀ t ∈ transmissions c m,
        t.accepted ≤ t.packet.length ∧ Writes m.before m.operation t.packet := by
  intro m hm
  have hsized := runMoments_operation (p := Operation.Sized) (fun _ _ _ => Call.sized) m hm
  obtain ⟨sent, hsent, hone, hwrites⟩ := m.operation.transmits c m.before hsized (hsound m hm)
  rw [hsent.transmissions_eq]
  exact ⟨hsent, hone, hwrites⟩

/-- A copy in a store that was empty at the start. -/
theorem lastStored_of_store (hstore : ∀ id, s.store id = none)
    {earlier later : List (Moment Sys Operation)} {m : Moment Sys Operation}
    (hsplit : runMoments c s calls = earlier ++ m :: later) {packetId : UInt16} {copy : List UInt8}
    (hcopy : m.before.store packetId = some copy) :
    ∃ info, LastStored c earlier info packetId ∧ DuplicatePacket info packetId copy := by
  obtain ⟨operations, hoperations⟩ := runMoments_eq c s calls
  rw [hoperations] at hsplit
  obtain ⟨first, second, -, hearlier, hlater⟩ := exists_of_moments_eq_append hsplit
  have hbefore : m.before = first.foldl (Operation.run c) s := by
    cases second with
    | nil => cases hlater
    | cons operation second => rw [(List.cons.inj hlater).1]
  rw [hbefore] at hcopy
  have hchanged : (first.foldl (Operation.run c) s).store packetId ≠ s.store packetId := by
    rw [hcopy, hstore packetId]
    exact Option.some_ne_none copy
  obtain ⟨front, m', rest, heq, hchange, hafter, hrest⟩ :=
    exists_last_change (fun s : Sys => s.store packetId) hchanged
  rw [hcopy] at hafter
  rcases m'.operation.storesRequested c m'.before packetId copy hafter with
    hsame | ⟨info, hoperation, hqos, hduplicate⟩
  · exact absurd (hafter.trans hsame.symm) hchange
  · exact ⟨info, ⟨front, m', rest, hearlier.trans heq, hoperation, hqos, hrest⟩, hduplicate⟩

theorem writes_asked (hstore : ∀ id, s.store id = none)
    {earlier later : List (Moment Sys Operation)} {m : Moment Sys Operation}
    (hsplit : runMoments c s calls = earlier ++ m :: later) {bytes : List UInt8}
    (h : Writes m.before m.operation bytes) :
    WholePacket bytes ∧ ∃ packet, Asked c earlier m packet ∧ readClientPacket bytes = some packet := by
  have hsolicited : SolicitedAt earlier m := by
    have hall := @solicited_runMoments c s [] calls
    rw [hsplit] at hall
    exact hall.split
  generalize hoperation : m.operation = operation at h
  cases h with
  | asked hasks hwhole hread =>
    exact ⟨hwhole, _, .now (hoperation ▸ hasks) hsolicited, hread⟩
  | stored hcopy =>
    obtain ⟨info, hlast, hwhole, hread⟩ := lastStored_of_store hstore hsplit hcopy
    exact ⟨hwhole, _, .again hoperation hlast, hread⟩

end Run

/-! ## The bytes of a connection -/

/-- The packets of which the server gets something. -/
def begun (sent : List Transmission) : List Transmission := sent.filter (0 < ·.accepted)

theorem flatMap_begun (sent : List Transmission) :
    (begun sent).flatMap Transmission.bytes = sent.flatMap Transmission.bytes := by
  induction sent with
  | nil => rfl
  | cons t sent ih =>
    unfold begun at ih ⊢
    rw [List.filter_cons, List.flatMap_cons, ← ih]
    split
    · rw [List.flatMap_cons]
    · rename_i hzero
      have hnil : t.bytes = [] := by
        have heq : t.accepted = 0 := by simpa using hzero
        rw [Transmission.bytes, heq, List.take_zero]
      rw [hnil, List.nil_append]

/-- Whole packets are read in order, and one that is cut off behind them is not read. -/
theorem readStream_begun {sent : List Transmission}
    (h : ∀ t ∈ sent, WholePacket t.packet ∧ t.accepted ≤ t.packet.length) :
    ∃ more, readStream (sent.flatMap Transmission.bytes) =
        ((begun sent).takeWhile (·.Complete)).map (fun t => readClientPacket t.packet) ++ more ∧
      (((begun sent).dropWhile (·.Complete)).length ≤ 1 → more = []) := by
  have hbegun : ∀ t ∈ begun sent, WholePacket t.packet ∧ t.accepted ≤ t.packet.length :=
    fun t ht => h t (List.mem_of_mem_filter ht)
  rw [← flatMap_begun]
  generalize begun sent = l at hbegun ⊢
  refine ⟨readStream ((l.dropWhile (·.Complete)).flatMap Transmission.bytes), ?_, fun hone => ?_⟩
  · have hfront : (l.takeWhile (·.Complete)).flatMap Transmission.bytes =
        ((l.takeWhile (·.Complete)).map Transmission.packet).flatten := by
      rw [List.flatMap_def]
      congr 1
      refine List.map_congr_left fun t ht => ?_
      have hcomplete := List.mem_takeWhile_imp ht
      rw [Transmission.bytes, of_decide_eq_true hcomplete, List.take_length]
    conv_lhs => rw [← List.takeWhile_append_dropWhile (p := (·.Complete)) (l := l)]
    rw [List.flatMap_append, hfront, readStream_flatten, List.map_map]
    · rfl
    · intro bytes hbytes
      obtain ⟨t, ht, rfl⟩ := List.mem_map.1 hbytes
      exact (hbegun t (List.takeWhile_subset _ ht)).1
  · have hhead := List.head?_dropWhile_not (·.Complete) l
    have hsubset := List.dropWhile_subset (·.Complete) (l := l)
    generalize l.dropWhile (·.Complete) = cut at hone hhead hsubset ⊢
    match cut, hone with
    | [], _ => rfl
    | [t], _ =>
      obtain ⟨hwhole, hle⟩ := hbegun t (hsubset List.mem_cons_self)
      rw [List.flatMap_cons, List.flatMap_nil, List.append_nil]
      exact readStream_take hwhole (Nat.lt_of_le_of_ne hle (of_decide_eq_false hhead))
    | _ :: _ :: _, hone => exact absurd hone (by simp)

/-- The packets between the ends of a run. -/
theorem runMoments_transmitted {c : Config} {s : Sys} {calls : List Call}
    (h : ∀ m ∈ runMoments c s calls,
      Transmitted m.before (m.after (Operation.run c)) (transmissions c m)) :
    Transmitted s (runAll c s calls) ((runMoments c s calls).flatMap (transmissions c)) := by
  have hmoments : ∀ {s : Sys} {operations : List Operation},
      (∀ m ∈ moments (Operation.run c) s operations,
        Transmitted m.before (m.after (Operation.run c)) (transmissions c m)) →
      Transmitted s (operations.foldl (Operation.run c) s)
        ((moments (Operation.run c) s operations).flatMap (transmissions c)) := by
    intro s operations h
    induction operations generalizing s with
    | nil => exact .refl s
    | cons operation operations ih =>
      exact (h _ List.mem_cons_self).trans (ih fun m hm => h m (List.mem_cons_of_mem _ hm))
  induction calls generalizing s with
  | nil => exact .refl s
  | cons call calls ih =>
    have hcall := hmoments fun m hm => h m (List.mem_append_left _ hm)
    rw [call.operations_run] at hcall
    rw [runMoments, List.flatMap_append]
    exact hcall.trans (ih fun m hm => h m (List.mem_append_right _ hm))

theorem runMoments_append (c : Config) (s : Sys) (calls more : List Call) :
    runMoments c s (calls ++ more) =
      runMoments c s calls ++ runMoments c (runAll c s calls) more := by
  induction calls generalizing s with
  | nil => rfl
  | cons call calls ih =>
    rw [List.cons_append, runMoments, runMoments, ih, List.append_assoc]
    rfl

/-! ## Main results -/

/-- In every run, an operation hands at most one packet to the transport, and this packet says what
was asked for. -/
theorem transmission_asked {c : Config} {s : Sys} (hstore : ∀ id, s.store id = none)
    {calls : List Call} (hsound : ∀ m ∈ runMoments c s calls, m.operation.Sound c)
    {earlier later : List (Moment Sys Operation)} {m : Moment Sys Operation}
    (hsplit : runMoments c s calls = earlier ++ m :: later) :
    (transmissions c m).length ≤ 1 ∧ ∀ t ∈ transmissions c m, ∃ packet,
      Asked c earlier m packet ∧ readClientPacket t.packet = some packet := by
  have hm : m ∈ runMoments c s calls := by
    rw [hsplit]
    exact List.mem_append_right _ List.mem_cons_self
  obtain ⟨-, hone, hwrites⟩ := moment_transmits hsound m hm
  exact ⟨hone, fun t ht => (writes_asked hstore hsplit (hwrites t ht).2).2⟩

/-- A publish of QoS 2 whose connection is closed before its PUBREC arrives. -/
def closedCalls : List Call :=
  [.connect (some resumingInfo) none 1000, .api (.request (.publish (some publishInfoTwo) 1)),
    .api (.request .disconnect)]

/-- The session is resumed, and the handshake ends. -/
def resumedCalls : List Call :=
  [.connect (some resumingInfo) none 1000, .api .receiveLoop, .api .receiveLoop]

/-- The packet id of a publish that is sent again. -/
def Operation.resent : Operation → Option UInt16
  | .resend packetId => some packetId
  | _ => none

theorem eq_resend_of_resent {operation : Operation} {packetId : UInt16}
    (h : operation.resent = some packetId) : operation = .resend packetId := by
  cases operation with
  | resend id => rw [Option.some.inj h]
  | _ => cases h

theorem sound_resumed : ∀ m ∈ runMoments .default interruptedClient (closedCalls ++ resumedCalls),
    m.operation.Sound .default := by
  decide +kernel

/-- `transmission_asked` for the publish that is sent again. -/
theorem transmission_asked_resumed :
    ∃ earlier later m, runMoments .default interruptedClient (closedCalls ++ resumedCalls) =
        earlier ++ m :: later ∧ m.operation = .resend 1 ∧ (transmissions .default m).length ≤ 1 ∧
      ∀ t ∈ transmissions .default m, ∃ packet, Asked .default earlier m packet ∧
        readClientPacket t.packet = some packet := by
  have hresend : ∃ m ∈ runMoments .default interruptedClient (closedCalls ++ resumedCalls),
      m.operation.resent = some 1 := by
    decide +kernel
  obtain ⟨m, hm, hresent⟩ := hresend
  obtain ⟨earlier, later, hsplit⟩ := List.append_of_mem hm
  exact ⟨earlier, later, m, hsplit, eq_resend_of_resent hresent,
    transmission_asked (fun _ => rfl) sound_resumed hsplit⟩

/-- A server that takes the bytes of any part of a run apart finds the packets that were handed to
the transport, in order, up to the first one that is cut off, and nothing else when that one is the
last. -/
theorem stream_read {c : Config} {s : Sys} (hstore : ∀ id, s.store id = none)
    {calls during : List Call}
    (hsound : ∀ m ∈ runMoments c s (calls ++ during), m.operation.Sound c) :
    let start := runAll c s calls
    let sent := begun ((runMoments c start during).flatMap (transmissions c))
    ∃ stream more, (runAll c start during).wire = start.wire ++ stream ∧
      readStream stream =
        (sent.takeWhile (·.Complete)).map (fun t => readClientPacket t.packet) ++ more ∧
      ((sent.dropWhile (·.Complete)).length ≤ 1 → more = []) := by
  have htransmits := moment_transmits hsound
  have hwrites : ∀ t ∈ (runMoments c s (calls ++ during)).flatMap (transmissions c),
      WholePacket t.packet ∧ t.accepted ≤ t.packet.length := by
    intro t ht
    obtain ⟨m, hm, ht⟩ := List.mem_flatMap.1 ht
    obtain ⟨earlier, later, hsplit⟩ := List.append_of_mem hm
    obtain ⟨-, -, hwrites⟩ := htransmits m hm
    exact ⟨(writes_asked hstore hsplit (hwrites t ht).2).1, (hwrites t ht).1⟩
  rw [runMoments_append] at htransmits hwrites
  have hsent := runMoments_transmitted fun m hm => (htransmits m (List.mem_append_right _ hm)).1
  obtain ⟨more, hread, hmore⟩ := readStream_begun fun t ht => hwrites t (by
    rw [List.flatMap_append]
    exact List.mem_append_right _ ht)
  exact ⟨_, more, hsent.wire, hread, hmore⟩

/-- `stream_read` on the second connection: the CONNECT, the publish again, and its PUBREL. -/
theorem stream_read_resumed :
    let start := runAll .default interruptedClient closedCalls
    ∃ stream, (runAll .default start resumedCalls).wire = start.wire ++ stream ∧
      readStream stream = [some (.connect (resumingInfo.packet none)),
        some (.publish (some 1) true publishInfoTwo.message), some (.ack .pubrel 1)] := by
  obtain ⟨stream, more, hwire, hread, hmore⟩ :=
    stream_read (s := interruptedClient) (fun _ => rfl) sound_resumed
  refine ⟨stream, hwire, ?_⟩
  rw [hread, hmore (by decide +kernel), List.append_nil]
  decide +kernel

end FreeMqtt
