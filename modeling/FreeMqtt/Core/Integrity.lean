import FreeMqtt.Core.ConnectSpec

/-!
# The outgoing byte stream

What a connection carries from one `MQTT_Connect` to the next. A packet of which the
transport took some bytes and not all must be the last one but for a DISCONNECT
(`Event.Before`, between any two events of the log); then the bytes are whole packets, a part
of one, and a DISCONNECT (`Intact`).

The library keeps to this as long as it never gives up on a packet because
`MQTT_SEND_TIMEOUT_MS` has elapsed: a negative result of the transport leaves
`MQTTConnected`, but the elapsed time does not (`not_intact_timeout`).
-/

namespace FreeMqtt

/-! ## Events of a connection -/

/-- The bytes of an event that the transport accepted. -/
def Event.handed : Event → List UInt8
  | .sent _ packet n _ => packet.take n
  | _ => []

/-- A packet that was begun and not finished. -/
def Event.Truncated : Event → Prop
  | .sent _ packet n _ => 0 < n ∧ n < packet.length
  | _ => False

def Event.IsDisconnect : Event → Prop
  | .sent kind _ _ _ => kind = .disconnect
  | _ => False

instance : DecidablePred Event.Truncated
  | .sent _ packet n _ => inferInstanceAs (Decidable (0 < n ∧ n < packet.length))
  | .dispatched _ _ | .callback _ _ => inferInstanceAs (Decidable False)

instance : DecidablePred Event.IsDisconnect
  | .sent kind _ _ _ => inferInstanceAs (Decidable (kind = .disconnect))
  | .dispatched _ _ | .callback _ _ => inferInstanceAs (Decidable False)

/-- A packet other than DISCONNECT is left unfinished only after a negative result of the
transport, not because the time has elapsed. -/
def Event.EndedByTransport : Event → Prop
  | .sent kind packet n stop =>
      0 < n → n < packet.length → kind ≠ .disconnect → stop = .networkError
  | _ => True

instance : DecidablePred Event.EndedByTransport
  | .sent kind packet n stop => inferInstanceAs
      (Decidable (0 < n → n < packet.length → kind ≠ .disconnect → stop = .networkError))
  | .dispatched _ _ | .callback _ _ => inferInstanceAs (Decidable True)

/-- What holds of an event and any later one on a connection: no byte but of DISCONNECT
follows an unfinished packet, and none at all follows a DISCONNECT. -/
def Event.Before (e e' : Event) : Prop :=
  (e.Truncated → e'.handed = [] ∨ e'.IsDisconnect) ∧ (e.IsDisconnect → e'.handed = [])

instance (e e' : Event) : Decidable (e.Before e') := inferInstanceAs (Decidable (_ ∧ _))

theorem Event.Before.of_handed_eq_nil {e e' : Event} (h : e'.handed = []) : e.Before e' :=
  ⟨fun _ => .inl h, fun _ => h⟩

/-- Any event may follow one that leaves nothing open. -/
theorem Event.Before.of_whole {e : Event} (h : ¬ e.Truncated ∧ ¬ e.IsDisconnect) (e' : Event) :
    e.Before e' :=
  ⟨fun ht => absurd ht h.1, fun hd => absurd hd h.2⟩

/-- The events and the bytes between two states. -/
structure Emitted (s₀ s : Sys) (events : List Event) : Prop where
  log : s.log = s₀.log ++ events
  wire : s.wire = s₀.wire ++ (events.map Event.handed).flatten

theorem Emitted.refl (s : Sys) : Emitted s s [] := ⟨by simp, by simp⟩

theorem Emitted.trans {s₀ s s' : Sys} {events more : List Event} (h : Emitted s₀ s events)
    (h' : Emitted s s' more) : Emitted s₀ s' (events ++ more) :=
  ⟨by rw [h'.log, h.log, List.append_assoc], by rw [h'.wire, h.wire]; simp⟩

theorem Sent.emitted {s s' : Sys} {kind : PacketKind} {packet : List UInt8} {n : Nat}
    {stop : Stop} (h : Sent s s' kind packet n stop) :
    Emitted s s' [.sent kind packet n stop] := by
  obtain ⟨-, -, ticks, sends, lastTx, rfl⟩ := h
  exact ⟨rfl, by simp [Event.handed]⟩

theorem Silent.emitted {s s' : Sys} (h : Silent s s') :
    ∃ events, Emitted s s' events ∧ ∀ e ∈ events, ¬ e.IsSent := by
  obtain ⟨events, hlog, hsent⟩ := h.log
  refine ⟨events, ⟨hlog, ?_⟩, hsent⟩
  have hnil : (events.map Event.handed).flatten = [] := by
    rw [List.flatten_eq_nil_iff]
    intro bytes hbytes
    obtain ⟨e, he, rfl⟩ := List.mem_map.1 hbytes
    cases e with
    | sent => exact absurd trivial (hsent _ he)
    | dispatched => rfl
    | callback => rfl
  rw [h.wire, hnil, List.append_nil]

/-! ## The invariant of a connection -/

/-- The events of a connection are in order, and the connection status shows what they leave
open. -/
structure Calm (s₀ s : Sys) (events : List Event) : Prop extends Emitted s₀ s events where
  ordered : events.Pairwise Event.Before
  truncated : (∃ e ∈ events, e.Truncated) → s.connectStatus ≠ .connected
  disconnected : (∃ e ∈ events, e.IsDisconnect) → s.connectStatus = .notConnected
  disconnect : ∀ kind packet n stop, Event.sent kind packet n stop ∈ events →
    kind = .disconnect → packet = mqttSerializeDisconnect

theorem not_truncated_of_not_isSent {e : Event} (h : ¬ e.IsSent) : ¬ e.Truncated := by
  cases e with
  | sent => exact absurd trivial h
  | dispatched => exact id
  | callback => exact id

theorem not_isDisconnect_of_not_isSent {e : Event} (h : ¬ e.IsSent) : ¬ e.IsDisconnect := by
  cases e with
  | sent => exact absurd trivial h
  | dispatched => exact id
  | callback => exact id

theorem handed_of_not_isSent {e : Event} (h : ¬ e.IsSent) : e.handed = [] := by
  cases e with
  | sent => exact absurd trivial h
  | dispatched => rfl
  | callback => rfl

/-- More events at the end of a connection. -/
theorem Calm.append {s₀ s s' : Sys} {events more : List Event} (h : Calm s₀ s events)
    (hemitted : Emitted s s' more) (hstatus : s'.connectStatus.level ≤ s.connectStatus.level)
    (hordered : more.Pairwise Event.Before) (hbefore : ∀ e ∈ events, ∀ e' ∈ more, e.Before e')
    (htruncated : ∀ e ∈ more, e.Truncated → s'.connectStatus ≠ .connected)
    (hdisconnected : ∀ e ∈ more, e.IsDisconnect → s'.connectStatus = .notConnected)
    (hdisconnect : ∀ kind packet n stop, Event.sent kind packet n stop ∈ more →
      kind = .disconnect → packet = mqttSerializeDisconnect) : Calm s₀ s' (events ++ more) where
  toEmitted := h.toEmitted.trans hemitted
  ordered := List.pairwise_append.2 ⟨h.ordered, hordered, hbefore⟩
  truncated := by
    rintro ⟨e, he, htrunc⟩
    rcases List.mem_append.1 he with he | he
    · exact ne_connected_of_level_le hstatus (h.truncated ⟨e, he, htrunc⟩)
    · exact htruncated e he htrunc
  disconnected := by
    rintro ⟨e, he, hdis⟩
    rcases List.mem_append.1 he with he | he
    · exact eq_notConnected_of_level_le hstatus (h.disconnected ⟨e, he, hdis⟩)
    · exact hdisconnected e he hdis
  disconnect kind packet n stop he hkind := by
    rcases List.mem_append.1 he with he | he
    · exact h.disconnect kind packet n stop he hkind
    · exact hdisconnect kind packet n stop he hkind

/-- Events without a packet, on a connection of any state. -/
theorem Calm.silent {s₀ s s' : Sys} {events more : List Event} (h : Calm s₀ s events)
    (hemitted : Emitted s s' more) (hsent : ∀ e ∈ more, ¬ e.IsSent)
    (hstatus : s'.connectStatus.level ≤ s.connectStatus.level) : Calm s₀ s' (events ++ more) := by
  have hbefore : ∀ e, ∀ e' ∈ more, Event.Before e e' :=
    fun e e' he' => .of_handed_eq_nil (handed_of_not_isSent (hsent e' he'))
  exact h.append hemitted hstatus
    (List.pairwise_of_forall_mem_list fun e _ e' he' => hbefore e e' he')
    (fun e _ e' he' => hbefore e e' he')
    (fun e he ht => absurd ht (not_truncated_of_not_isSent (hsent e he)))
    (fun e he hd => absurd hd (not_isDisconnect_of_not_isSent (hsent e he)))
    fun kind packet n stop he => absurd trivial (hsent _ he)

/-- A packet on a connection in which none is unfinished. -/
theorem Calm.send {s₀ s s' : Sys} {events : List Event} (h : Calm s₀ s events)
    (hconn : s.connectStatus = .connected) {kind : PacketKind} (hkind : kind ≠ .disconnect)
    {packet : List UInt8} {n : Nat} {stop : Stop} (hsent : Sent s s' kind packet n stop)
    (hended : Event.EndedByTransport (.sent kind packet n stop)) :
    Calm s₀ s' (events ++ [.sent kind packet n stop]) := by
  have hwhole : ∀ e ∈ events, ¬ e.Truncated ∧ ¬ e.IsDisconnect := by
    refine fun e he => ⟨fun ht => h.truncated ⟨e, he, ht⟩ hconn, fun hd => ?_⟩
    rw [h.disconnected ⟨e, he, hd⟩] at hconn
    exact absurd hconn (by decide)
  have hstatus := hsent.connectStatus_eq
  refine h.append hsent.emitted ?_ (List.pairwise_singleton _ _)
    (fun e he e' _ => .of_whole (hwhole e he) e') ?_ ?_ ?_
  · rw [hstatus]
    exact level_statusAfter_le _ _
  · intro e he htrunc
    rw [List.mem_singleton.1 he] at htrunc
    obtain ⟨hpos, hlt⟩ := htrunc
    rw [hstatus, hconn, hended hpos hlt hkind]
    decide
  · intro e he hdis
    rw [List.mem_singleton.1 he] at hdis
    exact absurd hdis hkind
  · intro kind' packet' n' stop' he hdis
    cases List.mem_singleton.1 he
    exact absurd hdis hkind

/-- DISCONNECT, which may follow an unfinished packet. -/
theorem Calm.disconnect_step {s₀ s s' : Sys} {events : List Event} (h : Calm s₀ s events)
    (hconn : s.connectStatus ≠ .notConnected) {n : Nat} {stop : Stop}
    (hsent : Sent { s with connectStatus := .notConnected }.clearBuffer s' .disconnect
      mqttSerializeDisconnect n stop) :
    Emitted s s' [.sent .disconnect mqttSerializeDisconnect n stop] ∧
      Calm s₀ s' (events ++ [.sent .disconnect mqttSerializeDisconnect n stop]) := by
  have hstatus : s'.connectStatus = .notConnected := by
    rw [hsent.connectStatus_eq]
    exact if_neg fun h => absurd h.2 (by simp [Sys.clearBuffer])
  obtain ⟨hlog, hwire⟩ := hsent.emitted
  have hemitted : Emitted s s' [.sent .disconnect mqttSerializeDisconnect n stop] := ⟨hlog, hwire⟩
  refine ⟨hemitted, h.append hemitted ?_ (List.pairwise_singleton _ _) ?_ ?_ ?_ ?_⟩
  · rw [hstatus]
    exact Nat.zero_le _
  · intro e he e' he'
    rw [List.mem_singleton.1 he']
    exact ⟨fun _ => .inr rfl, fun hd => absurd (h.disconnected ⟨e, he, hd⟩) hconn⟩
  · intro e _ _
    rw [hstatus]
    decide
  · exact fun _ _ _ => hstatus
  · intro kind packet n' stop' he _
    cases List.mem_singleton.1 he
    rfl

/-- One step of the library. -/
theorem calm_step {s s' : Sys} (hstep : Step Silent (· ≠ .disconnect) s s') :
    ∃ more, Emitted s s' more ∧ ∀ s₀ events, Calm s₀ s events →
      (∀ e ∈ more, e.EndedByTransport) → Calm s₀ s' (events ++ more) := by
  cases hstep with
  | quiet hsilent =>
    obtain ⟨more, hemitted, hsent⟩ := hsilent.emitted
    exact ⟨more, hemitted, fun _ _ h _ => h.silent hemitted hsent hsilent.status⟩
  | send kind packet n stop hkind hconn hsent =>
    exact ⟨_, hsent.emitted, fun _ _ h hended => h.send hconn hkind hsent (hended _ (by simp))⟩
  | disconnect n stop hconn hsent =>
    refine ⟨[.sent .disconnect mqttSerializeDisconnect n stop], ?_, fun _ _ h _ =>
      (h.disconnect_step hconn hsent).2⟩
    obtain ⟨hlog, hwire⟩ := hsent.emitted
    exact ⟨hlog, hwire⟩

/-- A sequence of steps of the library. -/
theorem Library.calm {s s' : Sys} (h : Library s s') :
    ∃ more, Emitted s s' more ∧ ∀ s₀ events, Calm s₀ s events →
      (∀ e ∈ more, e.EndedByTransport) → Calm s₀ s' (events ++ more) := by
  induction h with
  | refl => exact ⟨[], .refl s, fun _ _ hcalm _ => by simpa using hcalm⟩
  | tail _ hstep ih =>
    obtain ⟨more, hemitted, hcalm⟩ := ih
    obtain ⟨more', hemitted', hcalm'⟩ := calm_step hstep
    refine ⟨more ++ more', hemitted.trans hemitted', fun s₀ events h hended => ?_⟩
    rw [← List.append_assoc]
    exact hcalm' s₀ _ (hcalm s₀ events h fun e he => hended e (List.mem_append_left _ he))
      fun e he => hended e (List.mem_append_right _ he)

/-! ## `MQTT_Connect` -/

/-- What the resumption of a session puts on the wire: whole packets, and a last one that may
be unfinished when it does not succeed. -/
structure Resent (s s' : Sys) (ok : Prop) : Prop where
  emitted : ∃ whole last, Emitted s s' (whole ++ last) ∧
    (∀ e ∈ whole, ¬ e.Truncated ∧ ¬ e.IsDisconnect) ∧ last.length ≤ 1 ∧
    (∀ e ∈ last, ¬ e.IsDisconnect) ∧ (ok → last = [])
  store : s'.store = s.store
  retrieve : s'.retrieveFunction = s.retrieveFunction

theorem Resent.refl (s : Sys) (ok : Prop) : Resent s s ok :=
  ⟨⟨[], [], .refl s, by simp⟩, rfl, rfl⟩

theorem Resent.of_eq {s s' : Sys} (hlog : s'.log = s.log) (hwire : s'.wire = s.wire)
    (hstore : s'.store = s.store) (hretrieve : s'.retrieveFunction = s.retrieveFunction)
    (ok : Prop) : Resent s s' ok :=
  ⟨⟨[], [], ⟨by simp [hlog], by simp [hwire]⟩, by simp⟩, hstore, hretrieve⟩

theorem Resent.mono {s s' : Sys} {ok ok' : Prop} (h : Resent s s' ok) (himp : ok' → ok) :
    Resent s s' ok' := by
  obtain ⟨whole, last, hemitted, hwhole, hlength, hdis, hlast⟩ := h.emitted
  exact ⟨⟨whole, last, hemitted, hwhole, hlength, hdis, fun hok => hlast (himp hok)⟩,
    h.store, h.retrieve⟩

theorem Resent.trans {s s' s'' : Sys} {ok ok' : Prop} (h : Resent s s' ok) (hok : ok)
    (h' : Resent s' s'' ok') : Resent s s'' ok' := by
  obtain ⟨whole, last, hemitted, hwhole, -, -, hlast⟩ := h.emitted
  obtain ⟨whole', last', hemitted', hwhole', hlength', hdis', hlast'⟩ := h'.emitted
  obtain rfl := hlast hok
  refine ⟨⟨whole ++ whole', last', ?_, ?_, hlength', hdis', hlast'⟩,
    h'.store.trans h.store, h'.retrieve.trans h.retrieve⟩
  · rw [List.append_nil] at hemitted
    rw [List.append_assoc]
    exact hemitted.trans hemitted'
  · exact fun e he => (List.mem_append.1 he).elim (hwhole e) (hwhole' e)

/-- One packet. -/
theorem Resent.of_sent {s s' : Sys} {kind : PacketKind} (hkind : kind ≠ .disconnect)
    {packet : List UInt8} {n : Nat} {stop : Stop} (h : Sent s s' kind packet n stop) :
    Resent s s' (stop = .complete) := by
  have hemitted := h.emitted
  obtain ⟨-, hcomplete, ticks, sends, lastTx, rfl⟩ := h
  by_cases hstop : stop = .complete
  · refine ⟨⟨[.sent kind packet n stop], [], by simpa using hemitted, ?_, by simp⟩, rfl, rfl⟩
    intro e he
    rw [List.mem_singleton.1 he]
    exact ⟨fun ht => absurd (hcomplete.1 hstop) ht.2.ne, hkind⟩
  · refine ⟨⟨[], [.sent kind packet n stop], by simpa using hemitted, by simp, by simp, ?_,
      fun h => absurd h hstop⟩, rfl, rfl⟩
    intro e he
    rw [List.mem_singleton.1 he]
    exact hkind

theorem sendPublishAcks_resent (c : Config) (s : Sys) (packetId : UInt16) (state : PublishState) :
    Resent s (sendPublishAcks c s packetId state).2
      ((sendPublishAcks c s packetId state).1 = .success) := by
  by_cases hsend : packetId = 0 ∨ s.connectStatus ≠ .connected
  · rw [sendPublishAcks_unsent c state hsend]
    exact .refl s _
  · obtain ⟨hid, hconn⟩ := not_or.1 hsend
    rw [not_not] at hconn
    cases hack : ackToSend state with
    | none =>
      rw [sendPublishAcks_none c s packetId hack]
      exact .refl s _
    | some packetType =>
      obtain ⟨s₁, n, stop, hsent, heq⟩ := sendPublishAcks_connected c hack hid hconn
      have hresent := Resent.of_sent (by simp) hsent
      rw [heq]
      split
      · rename_i hstop
        exact hresent.trans hstop (.of_eq (by rfl) (by rfl) (by rfl) (by rfl) _)
      · exact hresent.mono fun hok => absurd hok (by simp)

theorem resendPubrels_resent (c : Config) (fuel : Nat) (packetId : UInt16) (cursor : Nat)
    (s : Sys) : Resent s (resendPubrels c fuel packetId cursor s).2
      ((resendPubrels c fuel packetId cursor s).1 = .success) := by
  induction fuel generalizing packetId cursor s with
  | zero => exact .refl s _
  | succ fuel ih =>
    have hsent := sendPublishAcks_resent c s packetId .pubRelSend
    unfold resendPubrels
    dsimp only
    split
    · exact .refl s _
    split
    · rename_i hok
      exact hsent.trans hok (ih ..)
    · exact hsent

/-- The stored packets are MQTT packets: they are not longer than their remaining length can
say. -/
def StoresPackets (s : Sys) : Prop :=
  ∀ packetId packet, s.store packetId = some packet → packet.length ≤ 5 + maxRemainingLength

theorem resendPublishes_resent (c : Config) (fuel cursor : Nat) (s : Sys) (h : StoresPackets s) :
    Resent s (resendPublishes c fuel cursor s).2
      ((resendPublishes c fuel cursor s).1 = .success) := by
  induction fuel generalizing cursor s with
  | zero => exact .refl s _
  | succ fuel ih =>
    unfold resendPublishes
    dsimp only
    generalize (mqttPublishToResend s.toPublishRecords cursor).1 = packetId
    split
    · exact .refl s _
    obtain ⟨hpacket, retrieveResults, hs⟩ := callRetrieve_spec s packetId
    generalize callRetrieve s packetId = retrieved at hpacket hs
    obtain ⟨packet, s₁⟩ := retrieved
    dsimp only at hpacket hs ⊢
    subst hs
    have hretrieved : ∀ ok, Resent s { s with retrieveResults } ok := .of_eq rfl rfl rfl rfl
    cases packet with
    | none => exact hretrieved _
    | some packet =>
      have hstored : s.store packetId = some packet := by simpa [eq_comm] using hpacket
      have hlength : packet.length < 2 ^ 31 :=
        Nat.lt_of_le_of_lt (h packetId packet hstored) (by decide)
      obtain ⟨n, stop, hsent, hreturned⟩ :=
        sendPacket_spec c { s with retrieveResults } (.resend packetId) packet
      have hresent := (hretrieved True).trans trivial (.of_sent (by simp) hsent)
      have hresult := hsent.result_eq_length hreturned
      dsimp only
      rw [int32Cast_eq hlength]
      split
      · exact hresent.mono fun hok => absurd hok (by simp)
      · rename_i hall
        refine hresent.trans (hresult.1 (not_not.1 hall)) (ih _ _ ?_)
        rw [StoresPackets, hresent.store]
        exact h

theorem handleUncleanSessionResumption_resent (c : Config) (s : Sys) (h : StoresPackets s) :
    Resent s (handleUncleanSessionResumption c s).2
      ((handleUncleanSessionResumption c s).1 = .success) := by
  have hpubrels := resendPubrels_resent c (s.outgoingPublishRecords.length + 1)
    (mqttPubrelToResend s.toPublishRecords 0).1 (mqttPubrelToResend s.toPublishRecords 0).2.1 s
  unfold handleUncleanSessionResumption
  dsimp only
  split
  · rename_i hok
    refine hpubrels.trans hok.1 (resendPublishes_resent c _ 0 _ ?_)
    rw [StoresPackets, hpubrels.store]
    exact h
  · exact hpubrels

/-- A first part of a connection: a last packet may be unfinished when the connection is not
established. -/
theorem Calm.of_last {s₀ s : Sys} {whole last : List Event} (hemitted : Emitted s₀ s (whole ++ last))
    (hwhole : ∀ e ∈ whole, ¬ e.Truncated ∧ ¬ e.IsDisconnect) (hlength : last.length ≤ 1)
    (hdis : ∀ e ∈ last, ¬ e.IsDisconnect) (hlast : last = [] ∨ s.connectStatus ≠ .connected) :
    Calm s₀ s (whole ++ last) where
  toEmitted := hemitted
  ordered := by
    refine List.pairwise_append.2 ⟨List.pairwise_of_forall_mem_list fun e he e' _ =>
      .of_whole (hwhole e he) e', ?_, fun e he e' _ => .of_whole (hwhole e he) e'⟩
    rcases last with _ | ⟨e, _ | ⟨e', last⟩⟩
    · exact List.Pairwise.nil
    · exact List.pairwise_singleton _ _
    · exact absurd hlength (by simp)
  truncated := by
    rintro ⟨e, he, htrunc⟩
    rcases List.mem_append.1 he with he | he
    · exact absurd htrunc (hwhole e he).1
    · exact hlast.resolve_left (List.ne_nil_of_mem he)
  disconnected := by
    rintro ⟨e, he, hd⟩
    exact absurd hd ((List.mem_append.1 he).elim (fun he => (hwhole e he).2) (hdis e))
  disconnect kind packet n stop he hkind :=
    absurd hkind ((List.mem_append.1 he).elim (fun he => (hwhole _ he).2) (hdis _))

theorem Calm.refl (s : Sys) : Calm s s [] :=
  @Calm.of_last s s [] [] (.refl s) (by simp) (by simp) (by simp) (.inl rfl)

/-- A packet of which not all may have been accepted, on no connection. -/
theorem Calm.of_sent {s₀ s : Sys} {kind : PacketKind} (hkind : kind ≠ .disconnect)
    {packet : List UInt8} {n : Nat} {stop : Stop} (hlog : s.log = s₀.log ++ [.sent kind packet n stop])
    (hwire : s.wire = s₀.wire ++ packet.take n) (hstatus : s.connectStatus ≠ .connected) :
    Calm s₀ s [.sent kind packet n stop] :=
  @Calm.of_last s₀ s [] [_] ⟨hlog, by simp [hwire, Event.handed]⟩ (by simp) (by simp)
    (by simpa [Event.IsDisconnect] using hkind) (.inr hstatus)

/-- The events of `MQTT_Connect` itself. -/
theorem mqttConnect_calm (c : Config) {s₀ : Sys} (h : StoresPackets s₀)
    (pConnectInfo : Option ConnectInfo) (pWillInfo : Option PublishInfo) (timeoutMs : UInt32) :
    ∃ events, Calm s₀ (mqttConnect c s₀ pConnectInfo pWillInfo timeoutMs).2.2 events := by
  have hstate : ∀ s : Sys, (if s.connectStatus = .connected then ConnectionStatus.disconnectPending
      else s.connectStatus) ≠ .connected := by
    intro s
    split
    · decide
    · assumption
  have hunsent : ∃ events, Calm s₀ { s₀ with connectStatus :=
      if s₀.connectStatus = .connected then .disconnectPending else s₀.connectStatus } events :=
    ⟨[], @Calm.of_last _ _ [] [] ⟨by simp, by simp⟩ (by simp) (by simp) (by simp) (.inl rfl)⟩
  unfold mqttConnect
  cases pConnectInfo with
  | none => exact hunsent
  | some info =>
    dsimp only
    split
    · exact hunsent
    split
    · exact ⟨[], .refl s₀⟩
    have houtcome := establish_outcome c s₀ info pWillInfo
      (connectPacketSize_le (some info) pWillInfo) timeoutMs
    generalize establish c s₀ info pWillInfo _ timeoutMs = established at houtcome
    cases houtcome with
    | unsent hstatus =>
      rw [if_pos hstatus]
      exact hunsent
    | refused hsent hreceived hstatus =>
      rw [if_pos hstatus]
      obtain ⟨-, -, ticks, sends, lastTx, rfl⟩ := hsent
      exact ⟨_, .of_sent (by simp) hreceived.log hreceived.wire (hstate _)⟩
    | @accepted packet s₁ s sessionPresent hsent hwire hlog hconnected hresumed =>
      have hemitted : Emitted s₀ s [.sent .connect packet packet.length .complete] :=
        ⟨hlog.trans hsent.emitted.log, hwire.trans hsent.emitted.wire⟩
      have hwhole : ∀ e ∈ [Event.sent .connect packet packet.length .complete],
          ¬ e.Truncated ∧ ¬ e.IsDisconnect := by
        intro e he
        rw [List.mem_singleton.1 he]
        exact ⟨fun ht => Nat.lt_irrefl _ ht.2, by simp [Event.IsDisconnect]⟩
      rw [if_neg (by simp)]
      by_cases hpresent : sessionPresent = some true
      · rw [if_pos hpresent]
        have hresent := handleUncleanSessionResumption_resent c s (by
          rw [StoresPackets, (hresumed hpresent).1]
          exact h)
        generalize handleUncleanSessionResumption c s = resumed at hresent
        obtain ⟨whole, last, hmore, hwhole', hlength, hdis, hlast⟩ := hresent.emitted
        obtain ⟨hlog', hwire'⟩ := hemitted.trans hmore
        rw [← List.append_assoc [_]] at hlog' hwire'
        have hwhole'' := fun e he => (List.mem_append.1 he).elim (hwhole e) (hwhole' e)
        split
        · rename_i hok
          exact ⟨_, .of_last ⟨hlog', hwire'⟩ hwhole'' hlength hdis (.inl (hlast hok))⟩
        · exact ⟨_, .of_last ⟨hlog', hwire'⟩ hwhole'' hlength hdis (.inr (hstate _))⟩
      · rw [if_neg hpresent]
        exact ⟨_, @Calm.of_last _ _ _ [] (by simpa using hemitted) hwhole (by simp) (by simp)
          (.inl rfl)⟩

/-! ## The byte stream -/

/-- What a connection carries: whole packets, a part of one, a DISCONNECT, and in the log no
byte of another packet behind an unfinished one. -/
structure Intact (s₀ s : Sys) : Prop where
  ordered : ∃ events, s.log = s₀.log ++ events ∧ events.Pairwise Event.Before
  bytes : ∃ (whole : List (List UInt8)) (part last : List UInt8),
    s.wire = s₀.wire ++ (whole.flatten ++ part ++ last) ∧
    (∀ packet ∈ whole, ∃ kind n stop, .sent kind packet n stop ∈ s.log ∧ packet.length ≤ n) ∧
    (part = [] ∨ ∃ kind packet n stop, .sent kind packet n stop ∈ s.log ∧
      part = packet.take n ∧ n < packet.length) ∧
    last <+: mqttSerializeDisconnect

/-- Behind an unfinished packet there is at most a DISCONNECT. -/
theorem flatten_handed_of_truncated {events : List Event} (hordered : events.Pairwise Event.Before)
    (hdisconnect : ∀ kind packet n stop, Event.sent kind packet n stop ∈ events →
      kind = .disconnect → packet = mqttSerializeDisconnect)
    (hafter : ∀ e ∈ events, e.handed = [] ∨ e.IsDisconnect) :
    (events.map Event.handed).flatten <+: mqttSerializeDisconnect := by
  induction events with
  | nil => exact List.nil_prefix
  | cons e events ih =>
    obtain ⟨hbefore, hordered⟩ := List.pairwise_cons.1 hordered
    rw [List.map_cons, List.flatten_cons]
    rcases hafter e (by simp) with hnil | hdis
    · rw [hnil]
      exact ih hordered (fun kind packet n stop he => hdisconnect kind packet n stop (by simp [he]))
        fun e he => hafter e (by simp [he])
    · have hrest : (events.map Event.handed).flatten = [] := by
        rw [List.flatten_eq_nil_iff]
        intro bytes hbytes
        obtain ⟨e', he', rfl⟩ := List.mem_map.1 hbytes
        exact (hbefore e' he').2 hdis
      rw [hrest, List.append_nil]
      cases e with
      | sent kind packet n stop =>
        rw [Event.handed, hdisconnect kind packet n stop (by simp) hdis]
        exact List.take_prefix ..
      | dispatched => exact absurd hdis id
      | callback => exact absurd hdis id

/-- Events in order carry whole packets, a part of one, and a DISCONNECT. -/
theorem flatten_handed_of_ordered {events : List Event} (hordered : events.Pairwise Event.Before)
    (hdisconnect : ∀ kind packet n stop, Event.sent kind packet n stop ∈ events →
      kind = .disconnect → packet = mqttSerializeDisconnect) :
    ∃ (whole : List (List UInt8)) (part last : List UInt8),
      (events.map Event.handed).flatten = whole.flatten ++ part ++ last ∧
      (∀ packet ∈ whole, ∃ kind n stop, .sent kind packet n stop ∈ events ∧
        packet.length ≤ n) ∧
      (part = [] ∨ ∃ kind packet n stop, .sent kind packet n stop ∈ events ∧
        part = packet.take n ∧ n < packet.length) ∧
      last <+: mqttSerializeDisconnect := by
  induction events with
  | nil => exact ⟨[], [], [], rfl, by simp, .inl rfl, List.nil_prefix⟩
  | cons e events ih =>
    obtain ⟨hbefore, hrest⟩ := List.pairwise_cons.1 hordered
    have hdisconnect' := fun kind packet n stop he =>
      hdisconnect kind packet n stop (List.mem_cons_of_mem e he)
    rw [List.map_cons, List.flatten_cons]
    by_cases htrunc : e.Truncated
    · -- the part is this packet, and what follows is a DISCONNECT
      have hlast := flatten_handed_of_truncated hrest hdisconnect'
        fun e' he' => (hbefore e' he').1 htrunc
      cases e with
      | sent kind packet n stop =>
        exact ⟨[], packet.take n, _, rfl, by simp,
          .inr ⟨kind, packet, n, stop, by simp, rfl, htrunc.2⟩, hlast⟩
      | dispatched => exact absurd htrunc id
      | callback => exact absurd htrunc id
    · obtain ⟨whole, part, last, hbytes, hwhole, hpart, hlast⟩ := ih hrest hdisconnect'
      have hwhole' : ∀ packet ∈ whole, ∃ kind n stop, Event.sent kind packet n stop ∈ e :: events ∧
          packet.length ≤ n := fun packet hp =>
        let ⟨kind, n, stop, hmem, hle⟩ := hwhole packet hp
        ⟨kind, n, stop, List.mem_cons_of_mem e hmem, hle⟩
      have hpart' : part = [] ∨ ∃ kind packet n stop, Event.sent kind packet n stop ∈ e :: events ∧
          part = packet.take n ∧ n < packet.length := hpart.imp_right
        fun ⟨kind, packet, n, stop, hmem, h⟩ =>
          ⟨kind, packet, n, stop, List.mem_cons_of_mem e hmem, h⟩
      by_cases hnil : e.handed = []
      · exact ⟨whole, part, last, by rw [hnil, hbytes, List.nil_append], hwhole', hpart', hlast⟩
      · cases e with
        | sent kind packet n stop =>
          have hall : packet.length ≤ n := by
            by_contra hlt
            refine htrunc ⟨Nat.pos_of_ne_zero ?_, Nat.not_le.1 hlt⟩
            rintro rfl
            exact hnil rfl
          refine ⟨packet :: whole, part, last, ?_, ?_, hpart', hlast⟩
          · rw [hbytes, Event.handed, List.take_of_length_le hall]
            simp
          · intro packet' hp
            rcases List.mem_cons.1 hp with rfl | hp
            · exact ⟨kind, n, stop, by simp, hall⟩
            · exact hwhole' packet' hp
        | dispatched => exact absurd rfl hnil
        | callback => exact absurd rfl hnil

theorem Calm.intact {s₀ s : Sys} {events : List Event} (h : Calm s₀ s events) : Intact s₀ s := by
  obtain ⟨whole, part, last, hbytes, hwhole, hpart, hlast⟩ :=
    flatten_handed_of_ordered h.ordered h.disconnect
  have hmem : ∀ {e}, e ∈ events → e ∈ s.log := fun he => by
    rw [h.log]
    exact List.mem_append_right _ he
  refine ⟨⟨events, h.log, h.ordered⟩, whole, part, last, by rw [h.wire, hbytes], ?_, ?_, hlast⟩
  · intro packet hp
    obtain ⟨kind, n, stop, he, hle⟩ := hwhole packet hp
    exact ⟨kind, n, stop, hmem he, hle⟩
  · rcases hpart with hnil | ⟨kind, packet, n, stop, he, hpart⟩
    · exact .inl hnil
    · exact .inr ⟨kind, packet, n, stop, hmem he, hpart⟩

/-- The byte stream of a connection, from `MQTT_Connect` on and over any run of other calls,
when no packet but a DISCONNECT is given up because the time has elapsed. -/
theorem runApi_intact (c : Config) {s₀ : Sys} (hstore : StoresPackets s₀)
    (pConnectInfo : Option ConnectInfo) (pWillInfo : Option PublishInfo) (timeoutMs : UInt32)
    (calls : List ApiCall) {s₁ s : Sys}
    (hs₁ : s₁ = (mqttConnect c s₀ pConnectInfo pWillInfo timeoutMs).2.2)
    (hs : s = runApi c s₁ calls)
    (hended : ∀ e ∈ s.log.drop s₁.log.length, e.EndedByTransport) : Intact s₀ s := by
  subst hs₁ hs
  obtain ⟨events, hcalm⟩ := mqttConnect_calm c hstore pConnectInfo pWillInfo timeoutMs
  obtain ⟨more, hemitted, hrun⟩ := (runApi_library c _ calls).calm
  refine (hrun s₀ events hcalm fun e he => hended e ?_).intact
  rw [hemitted.log, List.drop_left]
  exact he

/-- A context for a client `c`, a CONNACK on its way, and results of the transport and readings
of the clock for what the client sends. -/
def clientStart (sends : List Int) (clock : Nat → UInt32) : Sys :=
  .initialized { World.still [0x20, 2, 0, 0] with sends, clock } 16 2

def clientInfo : ConnectInfo where
  cleanSession := true
  keepAliveSeconds := 60
  pClientIdentifier := some [0x63]
  clientIdentifierLength := 1
  pUserName := none
  userNameLength := 0
  pPassword := none
  passwordLength := 0

/-- `runApi_intact` on a connection whose transport fails in the middle of a PINGREQ: the next
PINGREQ is refused, and only a DISCONNECT follows. -/
theorem runApi_intact_pings :
    let s₀ := clientStart [100, 100, 100, 1, -1] fun _ => 0
    let s₁ := (mqttConnect .default s₀ (some clientInfo) none 1000).2.2
    let s := runApi .default s₁ [.request .ping, .request .ping, .request .disconnect]
    Intact s₀ s ∧ s.wire.drop s₁.wire.length = [packetTypePingreq] ++ mqttSerializeDisconnect :=
  ⟨runApi_intact .default (by intro _ _ h; cases h) (some clientInfo) none 1000
    [.request .ping, .request .ping, .request .disconnect] rfl rfl (by decide), by decide⟩

/-- `MQTT_SEND_TIMEOUT_MS` elapses in the middle of a PINGREQ: the connection stays
`MQTTConnected`, and the next PINGREQ is handed over behind its first byte. -/
theorem not_intact_timeout :
    let s₀ := clientStart [100, 100, 100, 1] fun n => if n = 14 then 20000 else 0
    let s₁ := (mqttConnect .default s₀ (some clientInfo) none 1000).2.2
    ¬ Intact s₀ (runApi .default s₁ [.request .ping, .request .ping]) := by
  intro s₀ s₁ h
  obtain ⟨events, hlog, hordered⟩ := h.ordered
  obtain rfl : (runApi .default s₁ [.request .ping, .request .ping]).log = events := hlog
  exact absurd hordered (by decide)

end FreeMqtt
