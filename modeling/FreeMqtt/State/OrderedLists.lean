import FreeMqtt.State.Handshake
import FreeMqtt.Lib.KeyedList
import Mathlib.Logic.Function.Basic

/-!
# Bounded ordered lists

What the publish state engine is meant to keep: for each direction an ordered list of at
most as many records as the array has slots, with pairwise different packet ids. A
reservation or a received publish appends a record, a completed handshake and a removal
delete one, a received PUBREC moves one to the end, and every other packet changes a
record where it stands. The lists have no holes, no cursor and no compaction.
-/

namespace FreeMqtt

open KeyedList

/-- The live records of one direction, oldest first. -/
abbrev OrderedList (n : Nat) := Bounded PubAckInfo.packetId n

/-- The lists of both directions, for arrays of `count d` slots. -/
structure OrderedRecords (count : Direction → Nat) where
  list : (d : Direction) → OrderedList (count d)

variable {count : Direction → Nat}

def OrderedRecords.empty : OrderedRecords count := ⟨fun _ => .empty⟩

/-- The lists with the list of one direction replaced. -/
def OrderedRecords.set (a : OrderedRecords count) (d : Direction)
    (b : OrderedList (count d)) : OrderedRecords count :=
  ⟨Function.update a.list d b⟩

@[simp] theorem OrderedRecords.list_set (a : OrderedRecords count) (d : Direction)
    (b : OrderedList (count d)) : (a.set d b).list d = b :=
  Function.update_self ..

theorem OrderedRecords.list_set_of_ne (a : OrderedRecords count) {d d' : Direction}
    (h : d' ≠ d) (b : OrderedList (count d)) : (a.set d b).list d' = a.list d' :=
  Function.update_of_ne h ..

theorem OrderedRecords.set_self (a : OrderedRecords count) (d : Direction) :
    a.set d (a.list d) = a := by
  rw [OrderedRecords.set, Function.update_eq_self]

/-! ## One list -/

/-- A new record goes to the end, unless its packet id is live or the list is full. -/
def OrderedList.add {n : Nat} (b : OrderedList n) (r : PubAckInfo) : Status × OrderedList n :=
  if hid : r.packetId ∈ b.entries.map PubAckInfo.packetId then (.stateCollision, b)
  else if hn : b.entries.length < n then (.success, b.push r hid hn)
  else (.noMemory, b)

theorem OrderedList.add_unchanged {n : Nat} {b : OrderedList n} {r : PubAckInfo}
    (h : (b.add r).1 ≠ .success) : (b.add r).2 = b := by
  unfold OrderedList.add at h ⊢
  split
  · rfl
  · split
    · rename_i hid hn
      rw [dif_neg hid, dif_pos hn] at h
      exact absurd rfl h
    · rfl

/-- The entries after a packet of the handshake of the entry `r`. -/
def handleEntry (d : Direction) (packet : Packet) (r : PubAckInfo) (l : List PubAckInfo) :
    Status × List PubAckInfo :=
  match react d r packet with
  | .illegal => (.illegalState, l)
  | .keep => (.success, l)
  | .complete => (.success, remove PubAckInfo.packetId r.packetId l)
  | .advance state =>
      if state = .pubRelSend then
        (.success,
          remove PubAckInfo.packetId r.packetId l ++ [{ r with publishState := state }])
      else
        (.success,
          modify PubAckInfo.packetId r.packetId (fun x => { x with publishState := state }) l)

theorem nodup_handleEntry (d : Direction) (packet : Packet) (r : PubAckInfo)
    {l : List PubAckInfo} (hl : (l.map PubAckInfo.packetId).Nodup) :
    ((handleEntry d packet r l).2.map PubAckInfo.packetId).Nodup := by
  unfold handleEntry
  split
  · exact hl
  · exact hl
  · exact nodup_remove hl
  · split
    · exact nodup_append_singleton (nodup_remove hl) notMem_keys_remove
    · exact nodup_modify (by intro _; rfl) hl

theorem length_handleEntry_le (d : Direction) (packet : Packet) {r : PubAckInfo}
    {l : List PubAckInfo} (hr : r.packetId ∈ l.map PubAckInfo.packetId) :
    (handleEntry d packet r l).2.length ≤ l.length := by
  unfold handleEntry
  split
  · exact Nat.le_refl _
  · exact Nat.le_refl _
  · exact length_remove_le _
  · split
    · exact length_remove_append_le hr _
    · exact Nat.le_of_eq (length_modify _)

/-- A packet for `packetId`; `missing` is the status when no entry has this packet id and
`accepts` the check of the entry that is made before the transition. -/
def OrderedList.handle {n : Nat} (b : OrderedList n) (d : Direction) (packetId : UInt16)
    (packet : Packet) (missing : Status) (accepts : PubAckInfo → Bool) :
    Status × OrderedList n :=
  match h : lookup PubAckInfo.packetId packetId b.entries with
  | none => (missing, b)
  | some r =>
      if accepts r then
        ((handleEntry d packet r b.entries).1,
          ⟨(handleEntry d packet r b.entries).2, nodup_handleEntry d packet r b.nodup,
            Nat.le_trans
              (length_handleEntry_le d packet
                (by rw [lookup_key h]; exact mem_keys_of_lookup h))
              b.length_le⟩)
      else (missing, b)

/-- The record after a reaction. -/
def Reaction.apply (r : PubAckInfo) : Reaction → Option PubAckInfo
  | .illegal | .keep => some r
  | .advance state => some { r with publishState := state }
  | .complete => none

/-- Only the entry of the packet id changes. -/
theorem lookup_handleEntry (d : Direction) (packet : Packet) {r : PubAckInfo}
    {l : List PubAckInfo} (hr : lookup PubAckInfo.packetId r.packetId l = some r)
    (packetId : UInt16) :
    lookup PubAckInfo.packetId packetId (handleEntry d packet r l).2 =
      if packetId = r.packetId then (react d r packet).apply r
      else lookup PubAckInfo.packetId packetId l := by
  have same : lookup PubAckInfo.packetId packetId l =
      if packetId = r.packetId then some r else lookup PubAckInfo.packetId packetId l := by
    split
    · rename_i hp
      rw [hp, hr]
    · rfl
  unfold handleEntry
  cases react d r packet with
  | illegal => exact same
  | keep => exact same
  | complete => exact lookup_remove
  | advance state =>
    dsimp only
    split
    · rw [lookup_append, lookup_singleton, lookup_remove]
      by_cases hp : packetId = r.packetId
      · rw [if_pos hp, if_pos hp, if_pos hp.symm]
        rfl
      · rw [if_neg hp, if_neg hp, if_neg (Ne.symm hp), Option.or_none]
    · rw [lookup_modify (by intro _; rfl), hr]
      rfl

theorem handleEntry_status (d : Direction) (packet : Packet) (r : PubAckInfo)
    (l : List PubAckInfo) : (handleEntry d packet r l).1 =
      if react d r packet = .illegal then .illegalState else .success := by
  unfold handleEntry
  cases react d r packet with
  | illegal => rfl
  | keep => rfl
  | complete => rfl
  | advance state =>
    rw [if_neg (show ¬ Reaction.advance state = .illegal from Reaction.noConfusion)]
    dsimp only
    split <;> rfl

theorem handleEntry_cases (d : Direction) (packet : Packet) (r : PubAckInfo)
    (l : List PubAckInfo) :
    handleEntry d packet r l = (.illegalState, l) ∨ (handleEntry d packet r l).1 = .success := by
  unfold handleEntry
  split
  · exact .inl rfl
  · exact .inr rfl
  · exact .inr rfl
  · split
    · exact .inr rfl
    · exact .inr rfl

/-- A packet that is not accepted changes nothing, and its status says why: no record
to handle, or a record in another phase. -/
theorem OrderedList.handle_cases {n : Nat} (b : OrderedList n) (d : Direction)
    (packetId : UInt16) (packet : Packet) (missing : Status) (accepts : PubAckInfo → Bool) :
    b.handle d packetId packet missing accepts = (missing, b) ∨
      b.handle d packetId packet missing accepts = (.illegalState, b) ∨
      (b.handle d packetId packet missing accepts).1 = .success := by
  unfold OrderedList.handle
  split
  · exact .inl rfl
  · split
    · rename_i r _ _
      rcases handleEntry_cases d packet r b.entries with heq | heq
      · have hs : (handleEntry d packet r b.entries).1 = .illegalState := by rw [heq]
        have hl : (handleEntry d packet r b.entries).2 = b.entries := by rw [heq]
        exact .inr (.inl (Prod.ext hs (Bounded.ext hl)))
      · exact .inr (.inr heq)
    · exact .inl rfl

/-! ## The engine on lists -/

/-- `MQTT_ReserveState` on lists. -/
def OrderedRecords.reserveState (a : OrderedRecords count) (packetId : UInt16) (qos : QoS) :
    Status × OrderedRecords count :=
  let added := (a.list .outgoing).add (firstRecord .outgoing packetId qos)
  (added.1, a.set .outgoing added.2)

/-- `MQTT_UpdateStatePublish` on lists: a sent publish must have been reserved with its
QoS, a received one starts a record. -/
def OrderedRecords.updateStatePublish (a : OrderedRecords count) (packetId : UInt16)
    (opType : StateOperation) (qos : QoS) : Status × OrderedRecords count :=
  match opType with
  | .send =>
      let handled := (a.list .outgoing).handle .outgoing packetId .publish .badParameter
        fun r => r.qos == qos
      (handled.1, a.set .outgoing handled.2)
  | .receive =>
      let added := (a.list .incoming).add (firstRecord .incoming packetId qos)
      (added.1, a.set .incoming added.2)

/-- `MQTT_UpdateStateAck` on lists. -/
def OrderedRecords.updateStateAck (a : OrderedRecords count) (packetId : UInt16)
    (packetType : PubAckType) (opType : StateOperation) : Status × OrderedRecords count :=
  let d := ackDirection packetType opType
  let handled := (a.list d).handle d packetId (.ack packetType) .badResponse fun _ => true
  (handled.1, a.set d handled.2)

/-- `MQTT_RemoveStateRecord` on lists. -/
def OrderedRecords.removeStateRecord (a : OrderedRecords count) (packetId : UInt16) :
    Status × OrderedRecords count :=
  if packetId ∈ (a.list .outgoing).entries.map PubAckInfo.packetId then
    (.success, a.set .outgoing ((a.list .outgoing).remove packetId))
  else (.badParameter, a)

/-- A call on lists, for a packet id other than `packetIdInvalid` and QoS 1 or 2. -/
def OrderedRecords.run (a : OrderedRecords count) :
    EngineCall → Status × OrderedRecords count
  | .reserveState packetId qos => a.reserveState packetId qos
  | .updateStatePublish packetId opType qos => a.updateStatePublish packetId opType qos
  | .updateStateAck packetId packetType opType => a.updateStateAck packetId packetType opType
  | .removeStateRecord packetId => a.removeStateRecord packetId

def OrderedRecords.runCalls (a : OrderedRecords count) :
    List EngineCall → List Status × OrderedRecords count
  | [] => ([], a)
  | call :: calls =>
      let first := a.run call
      let rest := first.2.runCalls calls
      (first.1 :: rest.1, rest.2)

/-- A call that does not succeed leaves the lists alone. -/
theorem OrderedRecords.run_unchanged {a : OrderedRecords count} {call : EngineCall}
    (h : (a.run call).1 ≠ .success) : (a.run call).2 = a := by
  have handled : ∀ (d : Direction) (packetId : UInt16) (packet : Packet) (missing : Status)
      (accepts : PubAckInfo → Bool),
      ((a.list d).handle d packetId packet missing accepts).1 ≠ .success →
        a.set d ((a.list d).handle d packetId packet missing accepts).2 = a := by
    intro d packetId packet missing accepts hne
    rcases (a.list d).handle_cases d packetId packet missing accepts with heq | heq | heq
    · rw [heq, a.set_self]
    · rw [heq, a.set_self]
    · exact absurd heq hne
  have added : ∀ (d : Direction) (r : PubAckInfo), ((a.list d).add r).1 ≠ .success →
      a.set d ((a.list d).add r).2 = a := by
    intro d r hne
    rw [OrderedList.add_unchanged hne, a.set_self]
  cases call with
  | reserveState packetId qos => exact added _ _ h
  | updateStatePublish packetId opType qos =>
    cases opType with
    | send => exact handled _ _ _ _ _ h
    | receive => exact added _ _ h
  | updateStateAck packetId packetType opType => exact handled _ _ _ _ _ h
  | removeStateRecord packetId =>
    change (a.removeStateRecord packetId).1 ≠ .success at h
    change (a.removeStateRecord packetId).2 = a
    unfold OrderedRecords.removeStateRecord at h ⊢
    split
    · rename_i hmem
      rw [if_pos hmem] at h
      exact absurd rfl h
    · rfl

/-- An acknowledgement fails only for lack of a record or in a wrong phase. -/
theorem OrderedRecords.updateStateAck_status (a : OrderedRecords count) (packetId : UInt16)
    (packetType : PubAckType) (opType : StateOperation) :
    (a.updateStateAck packetId packetType opType).1 ∈
      [Status.badResponse, .illegalState, .success] := by
  rcases (a.list (ackDirection packetType opType)).handle_cases
    (ackDirection packetType opType) packetId (.ack packetType) .badResponse (fun _ => true)
    with heq | heq | heq
  · simp [OrderedRecords.updateStateAck, heq]
  · simp [OrderedRecords.updateStateAck, heq]
  · simp [OrderedRecords.updateStateAck, heq]

end FreeMqtt
