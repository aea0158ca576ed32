import FreeMqtt.Core.Operations

/-!
# Inside a call

An iteration of a receive function handles at most one packet, between operations that only read and
keep the connection alive (`iterationOperations_cases`). `connectOperations_cases` says the same of
`MQTT_Connect` and the packets of a resumed session.
-/

namespace FreeMqtt

/-- An operation around the handler of a packet. -/
def Operation.IsHousekeeping : Operation → Prop
  | .request .ping | .read | .readClock | .discard _ | .remove _ | .setLastPacketRxTime => True
  | _ => False

/-! ## Iterations -/

theorem checkComplete_success {c : Config} {status : Status} {packet : PacketInfo} {s : Sys}
    (h : (checkComplete c status packet s).1 = .success) :
    (checkComplete c status packet s).2 = s := by
  revert h
  unfold checkComplete
  dsimp only
  split
  · exact fun _ => rfl
  split
  · intro h
    unfold discardStoredPacket at h
    dsimp only at h
    split at h
    · cases h
    · cases h
  split
  · exact fun _ => rfl
  · exact fun _ => rfl

/-- A packet is dispatched in the context after the keep-alive. -/
theorem dispatched_client {c : Config} {s : Sys} {manageKeepAlive : Bool} {packet : PacketInfo}
    {s₁ : Sys} (h : dispatched c s manageKeepAlive = some (packet, s₁)) :
    let read := readIntoBuffer c s
    s₁ = (checkKeepAlive c read.1 manageKeepAlive read.2.1 read.2.2.2).2 := by
  unfold dispatched at h
  dsimp only at h ⊢
  split at h
  · rename_i hcomplete
    obtain ⟨-, rfl⟩ := Prod.mk.inj (Option.some.inj h)
    exact checkComplete_success hcomplete
  · cases h

theorem housekeeping_keepAlive (c : Config) (s : Sys) :
    ∀ operation ∈ keepAliveOperations c s, operation.IsHousekeeping := by
  intro operation hmem
  unfold keepAliveOperations at hmem
  rcases List.mem_cons.1 hmem with rfl | hmem
  · trivial
  split at hmem
  · rw [List.mem_singleton.1 hmem]
    trivial
  · exact absurd hmem List.not_mem_nil

/-- An iteration handles one packet, or none. -/
theorem iterationOperations_cases (c : Config) (s : Sys) (manageKeepAlive : Bool) :
    (∀ operation ∈ iterationOperations c s manageKeepAlive, operation.IsHousekeeping) ∨
      ∃ front packet back, iterationOperations c s manageKeepAlive = front ++
          (handlerOperations (front.foldl (Operation.run c) s) packet manageKeepAlive ++ back) ∧
        (∀ operation ∈ front, operation.IsHousekeeping) ∧
        ∀ operation ∈ back, operation.IsHousekeeping := by
  unfold iterationOperations
  dsimp only
  generalize hread : readIntoBuffer c s = read
  rw [← List.cons_append]
  generalize hfront : Operation.read :: (if read.1 = 0 ∧ manageKeepAlive = true then
    keepAliveOperations c read.2.2.2 else []) = front
  have hhousekeeping : ∀ operation ∈ front, operation.IsHousekeeping := by
    intro operation hmem
    rw [← hfront] at hmem
    rcases List.mem_cons.1 hmem with rfl | hmem
    · trivial
    split at hmem
    · exact housekeeping_keepAlive c _ operation hmem
    · exact absurd hmem List.not_mem_nil
  cases hdispatched : dispatched c s manageKeepAlive with
  | none =>
    refine .inl fun operation hmem => ?_
    rcases List.mem_append.1 hmem with hmem | hmem
    · exact hhousekeeping operation hmem
    dsimp only at hmem
    split at hmem
    · rw [List.mem_singleton.1 hmem]
      trivial
    · exact absurd hmem List.not_mem_nil
  | some next =>
    obtain ⟨packet, s₁⟩ := next
    have hs₁ : s₁ = front.foldl (Operation.run c) s := by
      have hclient := dispatched_client hdispatched
      have hrun : Operation.run c s .read = read.2.2.2 := by rw [← hread]; rfl
      rw [hread] at hclient
      rw [hclient, ← hfront, List.foldl_cons, hrun]
      unfold checkKeepAlive
      split
      · exact (keepAliveOperations_run c read.2.2.2).symm
      · rfl
    rw [hs₁]
    refine .inr ⟨front, packet, _, rfl, hhousekeeping, fun operation hmem => ?_⟩
    rcases List.mem_cons.1 hmem with rfl | hmem
    · trivial
    split at hmem
    · rw [List.mem_singleton.1 hmem]
      trivial
    · exact absurd hmem List.not_mem_nil

/-! ## Connecting -/

/-- A call of `MQTT_Connect` connects, resumes and gives up. -/
theorem connectOperations_cases {c : Config} {s : Sys} {info : Option ConnectInfo}
    {will : Option PublishInfo} {timeoutMs : UInt32} :
    ∀ operation ∈ connectOperations c s info will timeoutMs, operation = .giveUp ∨
      (∃ info will timeoutMs, operation = .establish info will timeoutMs) ∨
      ∃ packetId, operation = .acknowledge packetId .pubRelSend ∨ operation = .resend packetId := by
  have hgiveUp : ∀ operation ∈ [Operation.giveUp], operation = .giveUp := fun operation =>
    List.mem_singleton.1
  intro operation hmem
  unfold connectOperations at hmem
  cases info with
  | none => exact .inl (hgiveUp operation hmem)
  | some info =>
    dsimp only at hmem
    split at hmem
    · exact .inl (hgiveUp operation hmem)
    split at hmem
    · exact absurd hmem List.not_mem_nil
    rcases List.mem_cons.1 hmem with rfl | hmem
    · exact .inr (.inl ⟨_, _, _, rfl⟩)
    split at hmem
    · exact .inl (hgiveUp operation hmem)
    split at hmem
    · rcases List.mem_append.1 hmem with hmem | hmem
      · exact .inr (.inr (resumptionOperations_cases operation hmem))
      · split at hmem
        · exact absurd hmem List.not_mem_nil
        · exact .inl (hgiveUp operation hmem)
    · exact absurd hmem List.not_mem_nil

end FreeMqtt
