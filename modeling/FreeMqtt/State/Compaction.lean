import FreeMqtt.State.Engine
import FreeMqtt.Lib.KeyedList
import Mathlib.Data.List.DropRight
import Mathlib.Tactic.Common

/-!
# The record array as a list of live records

`live` forgets the empty slots of a record array. `compactRecords` moves the live
records to the front and keeps their order, by an invariant of its loop
(`compactTo_eq`); `addRecord` appends to the live records or leaves them alone
(`addRecord_cases`), whatever the holes of the array are.
-/

namespace FreeMqtt

/-- The live records of an array, in array order. -/
def live (records : List PubAckInfo) : List PubAckInfo :=
  records.filter fun r => r.packetId ≠ packetIdInvalid

/-- `n` empty slots. -/
def holes (n : Nat) : List PubAckInfo := List.replicate n .zero

/-- The number of slots that the loop of `addRecord` visits. -/
def scanBound (records : List PubAckInfo) : Nat := (int32Cast records.length).toNat

/-- The representation invariant of a record array: empty slots are zero, live records
have different packet ids, and none lies beyond the slots that `addRecord` visits. -/
structure Slots (records : List PubAckInfo) : Prop where
  zero : ∀ r ∈ records, r.packetId = packetIdInvalid → r = .zero
  nodup : ((live records).map PubAckInfo.packetId).Nodup
  scanned : ∀ r ∈ records.drop (scanBound records), r.packetId = packetIdInvalid

/-! ## Live records -/

@[simp] theorem live_nil : live [] = [] := rfl

@[simp] theorem live_append (a b : List PubAckInfo) : live (a ++ b) = live a ++ live b :=
  List.filter_append ..

theorem live_cons_of_ne {r : PubAckInfo} (h : r.packetId ≠ packetIdInvalid)
    (l : List PubAckInfo) : live (r :: l) = r :: live l :=
  List.filter_cons_of_pos (by simpa using h)

theorem live_cons_of_eq {r : PubAckInfo} (h : r.packetId = packetIdInvalid)
    (l : List PubAckInfo) : live (r :: l) = live l :=
  List.filter_cons_of_neg (by simpa using h)

theorem mem_live {r : PubAckInfo} {l : List PubAckInfo} :
    r ∈ live l ↔ r ∈ l ∧ r.packetId ≠ packetIdInvalid := by
  simp [live]

theorem live_eq_nil {l : List PubAckInfo} :
    live l = [] ↔ ∀ r ∈ l, r.packetId = packetIdInvalid := by
  simp [live]

theorem live_eq_self {l : List PubAckInfo} :
    live l = l ↔ ∀ r ∈ l, r.packetId ≠ packetIdInvalid := by
  simp [live, List.filter_eq_self]

theorem length_live_le (l : List PubAckInfo) : (live l).length ≤ l.length :=
  List.length_filter_le ..

@[simp] theorem live_holes (n : Nat) : live (holes n) = [] := by
  rw [live_eq_nil]
  intro r hr
  rw [List.eq_of_mem_replicate hr]
  rfl

@[simp] theorem length_holes (n : Nat) : (holes n).length = n := List.length_replicate

theorem holes_succ (n : Nat) : holes (n + 1) = .zero :: holes n := List.replicate_succ

theorem holes_succ' (n : Nat) : holes (n + 1) = holes n ++ [.zero] := List.replicate_succ'

theorem live_live (l : List PubAckInfo) : live (live l) = live l := by
  rw [live_eq_self]
  exact fun r hr => (mem_live.1 hr).2

/-! ## `compactRecords` -/

/-- One iteration at the slot `r` behind `front` and `k` holes. -/
theorem compactStep_split (front : List PubAckInfo) (k : Nat) (r : PubAckInfo)
    (rest : List PubAckInfo) :
    compactStep (front ++ holes k ++ r :: rest)
        (if k = 0 then none else some front.length) (front.length + k) =
      if r.packetId = packetIdInvalid then
        (front ++ holes k ++ r :: rest, some front.length)
      else (front ++ [r] ++ holes k ++ rest,
        if k = 0 then none else some (front.length + 1)) := by
  have hget : (front ++ holes k ++ r :: rest).getD (front.length + k) default = r := by
    simp [List.getD_eq_getElem?_getD]
  unfold compactStep
  rw [hget]
  by_cases hid : r.packetId = packetIdInvalid
  · rw [if_pos hid, if_pos hid]
    cases k <;> simp [holes]
  · rw [if_neg hid, if_neg hid]
    cases k with
    | zero => simp [holes]
    | succ k =>
      have hfill : (front ++ holes (k + 1) ++ r :: rest).set front.length r =
          (front ++ [r] ++ holes k) ++ r :: rest := by
        simp [holes_succ]
      have hclear : ((front ++ [r] ++ holes k) ++ r :: rest).set
          (front.length + (k + 1)) .zero =
            front ++ [r] ++ holes (k + 1) ++ rest := by
        rw [List.set_append_right _ _ (by simp), holes_succ']
        have h0 : front.length + (k + 1) -
            (front ++ [r] ++ holes k).length = 0 := by simp
        rw [h0]
        simp
      simp only [Nat.add_one_ne_zero, if_false]
      rw [hfill, hclear]

/-- The array after `n` iterations of `compactRecords`: the live records of the first `n`
slots, then holes, then the slots not yet visited. `emptyIndex` is the first hole. -/
theorem compactTo_eq {records : List PubAckInfo}
    (hz : ∀ r ∈ records, r.packetId = packetIdInvalid → r = .zero) {n : Nat}
    (hn : n ≤ records.length) :
    ∃ k, (live (records.take n)).length + k = n ∧
      compactTo records n =
        (live (records.take n) ++ holes k ++ records.drop n,
          if k = 0 then none else some (live (records.take n)).length) := by
  induction n with
  | zero => exact ⟨0, by simp, by simp [compactTo, holes]⟩
  | succ n ih =>
    obtain ⟨k, hk, heq⟩ := ih (by omega)
    have hlt : n < records.length := hn
    rw [List.drop_eq_getElem_cons hlt] at heq
    rw [compactTo, heq, ← List.take_append_getElem hlt, live_append]
    dsimp only
    generalize live (records.take n) = front at hk ⊢
    have hstep := compactStep_split front k records[n] (records.drop (n + 1))
    rw [hk] at hstep
    rw [hstep]
    by_cases hid : records[n].packetId = packetIdInvalid
    · refine ⟨k + 1, by rw [live_cons_of_eq hid]; simp; omega, ?_⟩
      rw [if_pos hid, live_cons_of_eq hid, hz _ (List.getElem_mem hlt) hid]
      simp [holes_succ']
    · refine ⟨k, by rw [live_cons_of_ne hid]; simp; omega, ?_⟩
      rw [if_neg hid, live_cons_of_ne hid]
      simp

theorem compactRecords_eq {records : List PubAckInfo}
    (hz : ∀ r ∈ records, r.packetId = packetIdInvalid → r = .zero) :
    compactRecords records =
      live records ++ holes (records.length - (live records).length) := by
  obtain ⟨k, hk, heq⟩ := compactTo_eq hz (Nat.le_refl _)
  rw [List.take_length] at hk heq
  have hsub : records.length - (live records).length = k := by omega
  rw [compactRecords, heq, hsub]
  simp

/-! ## `addRecord` -/

theorem scanBound_congr {records records' : List PubAckInfo}
    (h : records.length = records'.length) : scanBound records = scanBound records' := by
  unfold scanBound
  rw [h]

theorem scanBound_le (records : List PubAckInfo) : scanBound records ≤ records.length := by
  unfold scanBound int32Cast
  split <;> omega

theorem scanBound_eq {records : List PubAckInfo} (h : records.length < 2 ^ 31) :
    scanBound records = records.length := by
  unfold scanBound int32Cast
  split <;> omega

/-- Every array ends in its trailing run of holes. -/
theorem exists_trailing_holes {records : List PubAckInfo}
    (hz : ∀ r ∈ records, r.packetId = packetIdInvalid → r = .zero) :
    ∃ front k, records = front ++ holes k ∧
      ∀ r, front.getLast? = some r → r.packetId ≠ packetIdInvalid := by
  induction records using List.reverseRecOn with
  | nil => exact ⟨[], 0, rfl, by simp⟩
  | append_singleton l r ih =>
    by_cases hid : r.packetId = packetIdInvalid
    · obtain ⟨front, k, hl, hlast⟩ := ih fun x hx => hz x (List.mem_append_left _ hx)
      refine ⟨front, k + 1, ?_, hlast⟩
      rw [hz r (by simp) hid, hl, holes_succ', List.append_assoc]
    · refine ⟨l ++ [r], 0, by simp [holes], ?_⟩
      intro x hx
      rw [List.getLast?_concat] at hx
      rwa [← Option.some.inj hx]

/-- The loop of `addRecord` below a live record: only a collision is still possible. -/
theorem addRecordScan_true (records : List PubAckInfo) (packetId : UInt16)
    (availableIndex : Nat) {n : Nat}
    (hn : n ≤ records.length) :
    addRecordScan records packetId n availableIndex true =
      if packetId ∈ (live (records.take n)).map PubAckInfo.packetId then
        (.stateCollision, records.length)
      else (.noMemory, availableIndex) := by
  induction n with
  | zero => simp [addRecordScan]
  | succ n ih =>
    have hlt : n < records.length := hn
    have hget : records.getD n default = records[n] := by
      simp [List.getD_eq_getElem?_getD, List.getElem?_eq_getElem hlt]
    rw [addRecordScan, hget, if_pos rfl, ih (by omega), ← List.take_append_getElem hlt,
      live_append]
    by_cases he : records[n].packetId = packetIdInvalid
    · rw [if_pos he, live_cons_of_eq he, live_nil, List.append_nil]
    · rw [if_neg he, live_cons_of_ne he]
      by_cases heq : records[n].packetId = packetId
      · simp [heq]
      · simp [heq, Ne.symm heq]

/-- The loop of `addRecord` through `j` of the trailing holes. -/
theorem addRecordScan_holes (front : List PubAckInfo) (packetId : UInt16) {j k : Nat}
    (hj : j ≤ k) (availableIndex : Nat) :
    addRecordScan (front ++ holes k) packetId (front.length + j) availableIndex false =
      addRecordScan (front ++ holes k) packetId front.length
        (if j = 0 then availableIndex else front.length) false := by
  induction j generalizing availableIndex with
  | zero => simp
  | succ j ih =>
    have hget : (front ++ holes k).getD (front.length + j) default = .zero := by
      rw [List.getD_eq_getElem?_getD, List.getElem?_append_right (by omega)]
      simp [holes, show j < k by omega]
    rw [← Nat.add_assoc, addRecordScan, hget,
      if_pos (show PubAckInfo.zero.packetId = packetIdInvalid from rfl), ih (by omega)]
    cases j <;> simp

/-- The loop of `addRecord`, started `j` slots behind the last live record. -/
theorem addRecordScan_eq {front : List PubAckInfo}
    (hlast : ∀ r, front.getLast? = some r → r.packetId ≠ packetIdInvalid) (packetId : UInt16)
    {j k : Nat} (hj : j ≤ k) (availableIndex : Nat) :
    addRecordScan (front ++ holes k) packetId (front.length + j) availableIndex false =
      if packetId ∈ (live front).map PubAckInfo.packetId then
        (.stateCollision, (front ++ holes k).length)
      else (.noMemory, if j = 0 then availableIndex else front.length) := by
  rw [addRecordScan_holes front packetId hj]
  generalize (if j = 0 then availableIndex else front.length) = available
  rcases List.eq_nil_or_concat' front with rfl | ⟨l, r, rfl⟩
  · simp [addRecordScan]
  · have hr : r.packetId ≠ packetIdInvalid := hlast r (by simp)
    have hget : (l ++ [r] ++ holes k).getD l.length default = r := by
      simp [List.getD_eq_getElem?_getD]
    have htake : (l ++ [r] ++ holes k).take l.length = l := by simp
    rw [List.length_append, List.length_singleton, addRecordScan, hget, if_neg hr,
      addRecordScan_true _ _ _ (by simp), htake, live_append, live_cons_of_ne hr]
    by_cases heq : r.packetId = packetId
    · simp [heq]
    · simp [heq, Ne.symm heq]

theorem getD_last_mem_drop {l : List PubAckInfo} {n : Nat} (h : n < l.length) :
    l.getD (l.length - 1) default ∈ l.drop n := by
  rw [List.getD_eq_getElem?_getD, List.getElem?_eq_getElem (by omega), Option.getD_some]
  exact List.mem_drop_iff_getElem.2 ⟨l.length - 1 - n, by omega, getElem_congr_idx (by omega)⟩

/-- The array on which `addRecord` looks for a free slot: the records with their holes
behind them when the last slot is live, unchanged otherwise. -/
def compacted (records : List PubAckInfo) : List PubAckInfo :=
  if (records.getD (records.length - 1) default).packetId ≠ packetIdInvalid then
    compactRecords records
  else records

theorem slots_compacted {records : List PubAckInfo} (h : Slots records) :
    Slots (compacted records) ∧ (compacted records).length = records.length ∧
      live (compacted records) = live records ∧
      ∃ front k, compacted records = front ++ holes k ∧
        (∀ r, front.getLast? = some r → r.packetId ≠ packetIdInvalid) ∧
        (front.length = records.length → live front = front) := by
  by_cases hlast : (records.getD (records.length - 1) default).packetId ≠ packetIdInvalid
  · have hc : compacted records =
        live records ++ holes (records.length - (live records).length) := by
      rw [← compactRecords_eq h.zero]
      exact if_pos hlast
    have hlen : (compacted records).length = records.length := by
      have := length_live_le records
      rw [hc, List.length_append, length_holes]
      omega
    have hlive : live (compacted records) = live records := by
      rw [hc, live_append, live_holes, List.append_nil, live_live]
    have hbound : scanBound records = records.length := by
      by_contra hne
      have hlt := Nat.lt_of_le_of_ne (scanBound_le records) hne
      exact hlast (h.scanned _ (getD_last_mem_drop hlt))
    refine ⟨⟨?_, by rw [hlive]; exact h.nodup, ?_⟩, hlen, hlive,
      live records, _, hc, ?_, fun _ => live_live records⟩
    · intro r hr hid
      rw [hc, List.mem_append] at hr
      rcases hr with hr | hr
      · exact absurd hid (mem_live.1 hr).2
      · exact List.eq_of_mem_replicate hr
    · intro r hr
      have hd : (compacted records).drop (scanBound (compacted records)) = [] := by
        rw [List.drop_eq_nil_iff, scanBound_congr hlen, hbound, hlen]
      rw [hd] at hr
      exact absurd hr List.not_mem_nil
    · intro r hr
      exact (mem_live.1 (List.mem_of_getLast? hr)).2
  · have hc : compacted records = records := if_neg hlast
    rw [hc]
    obtain ⟨front, k, heq, hf⟩ := exists_trailing_holes h.zero
    refine ⟨h, rfl, rfl, front, k, heq, hf, fun hlen => ?_⟩
    -- the last slot is empty, so the array is all front only when it has no slots
    rcases List.eq_nil_or_concat' front with rfl | ⟨l, r, rfl⟩
    · rfl
    · have hk : k = 0 := by
        have := congrArg List.length heq
        rw [List.length_append, length_holes] at this
        omega
      refine absurd ?_ hlast
      have hr := hf r (by simp)
      have hget : (l ++ [r] ++ holes k).getD ((l ++ [r] ++ holes k).length - 1) default = r := by
        simp [hk, holes, List.getD_eq_getElem?_getD]
      rw [heq, hget]
      exact hr

/-- The end of `addRecord`: the record goes to the slot found by the loop, if any. -/
def addAt (recordCount : Nat) (records : List PubAckInfo) (scan : Status × Nat)
    (r : PubAckInfo) : Status × List PubAckInfo :=
  if scan.2 < recordCount then (.success, records.set scan.2 r) else (scan.1, records)

theorem addAt_of_lt {recordCount n : Nat} {records : List PubAckInfo} {status : Status}
    {r : PubAckInfo} (h : n < recordCount) :
    addAt recordCount records (status, n) r = (.success, records.set n r) :=
  if_pos h

theorem addAt_of_ge {recordCount n : Nat} {records : List PubAckInfo} {status : Status}
    {r : PubAckInfo} (h : recordCount ≤ n) :
    addAt recordCount records (status, n) r = (status, records) :=
  if_neg (Nat.not_lt.2 h)

/-- The outcomes of `addRecord` for a new record `r`, with the slots `records'` after it. -/
inductive AddOutcome (records : List PubAckInfo) (r : PubAckInfo) (records' : List PubAckInfo) :
    Status → Prop
  | collision (hmem : r.packetId ∈ (live records).map PubAckInfo.packetId)
      (hlive : live records' = live records) : AddOutcome records r records' .stateCollision
  | full (hmem : r.packetId ∉ (live records).map PubAckInfo.packetId)
      (hlive : live records' = live records)
      (hfull : scanBound records = records.length → (live records).length = records.length)
      (hempty : live records = [] → scanBound records = 0) :
      AddOutcome records r records' .noMemory
  | added (hmem : r.packetId ∉ (live records).map PubAckInfo.packetId)
      (hlive : live records' = live records ++ [r])
      (hlt : (live records).length < records.length) : AddOutcome records r records' .success

/-- The loop of `addRecord` and what follows it, when the last live record lies in `front`
and the loop starts at or behind it. -/
theorem addAt_scan {front : List PubAckInfo}
    (hlast : ∀ r, front.getLast? = some r → r.packetId ≠ packetIdInvalid) {k bound : Nat}
    (hle : front.length ≤ bound) (hb : bound ≤ front.length + k) (r : PubAckInfo) :
    addAt (front.length + k) (front ++ holes k)
        (addRecordScan (front ++ holes k) r.packetId bound (front.length + k) false) r =
      if r.packetId ∈ (live front).map PubAckInfo.packetId then
        (.stateCollision, front ++ holes k)
      else if bound = front.length then (.noMemory, front ++ holes k)
      else (.success, front ++ r :: holes (k - 1)) := by
  have hscan := addRecordScan_eq hlast r.packetId (j := bound - front.length) (k := k)
    (by omega) (front.length + k)
  rw [Nat.add_sub_cancel' hle] at hscan
  rw [hscan]
  by_cases hmem : r.packetId ∈ (live front).map PubAckInfo.packetId
  · rw [if_pos hmem, if_pos hmem]
    exact addAt_of_ge (by simp)
  · rw [if_neg hmem, if_neg hmem]
    by_cases hj : bound = front.length
    · rw [if_pos hj, if_pos (by omega)]
      exact addAt_of_ge (Nat.le_refl _)
    · rw [if_neg hj, if_neg (by omega), addAt_of_lt (by omega)]
      obtain ⟨k, rfl⟩ : ∃ j, k = j + 1 := ⟨k - 1, by omega⟩
      rw [List.set_append_right _ _ (Nat.le_refl _), Nat.sub_self, holes_succ,
        List.set_cons_zero, Nat.add_sub_cancel]

/-- `addRecord` on an array whose last slot is empty. -/
theorem addRecord_holes {front : List PubAckInfo}
    (hlast : ∀ r, front.getLast? = some r → r.packetId ≠ packetIdInvalid) {k : Nat}
    (hle : front.length ≤ scanBound (front ++ holes (k + 1))) (r : PubAckInfo) :
    addRecord (front ++ holes (k + 1)) r.packetId r.qos r.publishState =
      if r.packetId ∈ (live front).map PubAckInfo.packetId then
        (.stateCollision, front ++ holes (k + 1))
      else if scanBound (front ++ holes (k + 1)) = front.length then
        (.noMemory, front ++ holes (k + 1))
      else (.success, front ++ r :: holes k) := by
  have hempty : ((front ++ holes (k + 1)).getD ((front ++ holes (k + 1)).length - 1)
      default).packetId = packetIdInvalid := by
    rw [holes_succ', ← List.append_assoc]
    simp [List.getD_eq_getElem?_getD, PubAckInfo.zero]
  have hadd : addRecord (front ++ holes (k + 1)) r.packetId r.qos r.publishState =
      addAt (front ++ holes (k + 1)).length _ (addRecordScan _ r.packetId
        (scanBound (front ++ holes (k + 1))) (front ++ holes (k + 1)).length false) r := rfl
  have hsb := scanBound_le (front ++ holes (k + 1))
  rw [hadd, if_neg (not_not_intro hempty)]
  rw [List.length_append, length_holes] at hsb ⊢
  exact addAt_scan hlast hle hsb r

/-- A new record behind the last live one keeps the invariant. -/
theorem Slots.append {front : List PubAckInfo} {k : Nat} (h : Slots (front ++ holes (k + 1)))
    {r : PubAckInfo} (hid : r.packetId ≠ packetIdInvalid)
    (hmem : r.packetId ∉ (live front).map PubAckInfo.packetId)
    (hlt : front.length < scanBound (front ++ holes (k + 1))) :
    Slots (front ++ r :: holes k) where
  zero x hx he := by
    rcases List.mem_append.1 hx with hx | hx
    · exact h.zero x (List.mem_append_left _ hx) he
    · rcases List.mem_cons.1 hx with rfl | hx
      · exact absurd he hid
      · exact List.eq_of_mem_replicate hx
  nodup := by
    have hnd := h.nodup
    rw [live_append, live_holes, List.append_nil] at hnd
    rw [live_append, live_cons_of_ne hid, live_holes]
    exact KeyedList.nodup_append_singleton hnd hmem
  scanned x hx := by
    have hb : scanBound (front ++ r :: holes k) = scanBound (front ++ holes (k + 1)) :=
      scanBound_congr (by simp)
    obtain ⟨j, hj⟩ : ∃ j, scanBound (front ++ holes (k + 1)) - front.length = j + 1 :=
      ⟨scanBound (front ++ holes (k + 1)) - front.length - 1, by omega⟩
    rw [hb, List.drop_append, List.drop_eq_nil_of_le (by omega), List.nil_append, hj,
      List.drop_succ_cons] at hx
    rw [List.eq_of_mem_replicate (List.mem_of_mem_drop hx)]
    rfl

/-- The last live record lies in the slots that `addRecord` visits. -/
theorem Slots.length_front_le {front : List PubAckInfo} {k : Nat}
    (h : Slots (front ++ holes k))
    (hlast : ∀ r, front.getLast? = some r → r.packetId ≠ packetIdInvalid) :
    front.length ≤ scanBound (front ++ holes k) := by
  rcases List.eq_nil_or_concat' front with rfl | ⟨l, r, rfl⟩
  · exact Nat.zero_le _
  · by_contra hlt
    refine hlast r (by simp) (h.scanned r ?_)
    have hle : scanBound (l ++ [r] ++ holes k) ≤ l.length := by
      rw [List.length_append, List.length_singleton] at hlt
      omega
    rw [List.append_assoc] at hle ⊢
    rw [List.drop_append_of_le_length hle]
    simp

/-- `addRecord` on the compacted array. -/
theorem addRecord_eq {records : List PubAckInfo} (h : Slots records) (r : PubAckInfo) :
    ∃ front k, compacted records = front ++ holes k ∧
      (∀ x, front.getLast? = some x → x.packetId ≠ packetIdInvalid) ∧
      (front.length = records.length → live front = front) ∧
      addRecord records r.packetId r.qos r.publishState =
        if r.packetId ∈ (live records).map PubAckInfo.packetId then
          (.stateCollision, compacted records)
        else if scanBound records = front.length then (.noMemory, compacted records)
        else (.success, front ++ r :: holes (k - 1)) := by
  obtain ⟨hs, hlen, hlive, front, k, hc, hlast, hfull⟩ := slots_compacted h
  have hadd : addRecord records r.packetId r.qos r.publishState =
      addAt records.length (compacted records)
        (addRecordScan (compacted records) r.packetId (scanBound records) records.length false)
        r := rfl
  refine ⟨front, k, hc, hlast, hfull, ?_⟩
  have hbound := scanBound_congr hlen
  have hsb := scanBound_le records
  rw [hc] at hs hlen hlive hbound hadd ⊢
  have hle := hs.length_front_le hlast
  rw [live_append, live_holes, List.append_nil] at hlive
  rw [List.length_append, length_holes] at hlen
  rw [hadd, ← hlen, addAt_scan hlast (hbound ▸ hle) (by omega), hlive]

/-- `addRecord` keeps the capacity of the array and its invariant, and a new record goes
behind all live ones. -/
theorem addRecord_cases {records : List PubAckInfo} (h : Slots records) {packetId : UInt16}
    (hid : packetId ≠ packetIdInvalid) (qos : QoS) (publishState : PublishState) :
    ∃ status records', addRecord records packetId qos publishState = (status, records') ∧
      Slots records' ∧ records'.length = records.length ∧
      AddOutcome records ⟨packetId, qos, publishState⟩ records' status := by
  obtain ⟨front, k, hc, hlast, hfull, hadd⟩ := addRecord_eq h ⟨packetId, qos, publishState⟩
  obtain ⟨hs, hlen, hlive, -⟩ := slots_compacted h
  dsimp only at hadd
  by_cases hmem : packetId ∈ (live records).map PubAckInfo.packetId
  · rw [if_pos hmem] at hadd
    exact ⟨_, _, hadd, hs, hlen, .collision hmem hlive⟩
  rw [if_neg hmem] at hadd
  have hlive' : live front = live records := by
    rw [← hlive, hc, live_append, live_holes, List.append_nil]
  have hlen' : front.length + k = records.length := by
    rw [← hlen, hc, List.length_append, length_holes]
  have hbound := scanBound_congr hlen
  have hsb := scanBound_le records
  by_cases hj : scanBound records = front.length
  · rw [if_pos hj] at hadd
    refine ⟨_, _, hadd, hs, hlen, .full hmem hlive (fun hb => ?_) fun hnil => ?_⟩
    · have hfl : front.length = records.length := by omega
      rw [← hlive', hfull hfl, hfl]
    · rcases List.eq_nil_or_concat' front with rfl | ⟨l, x, rfl⟩
      · exact hj
      · rw [← hlive', live_append, live_cons_of_ne (hlast x (by simp))] at hnil
        simp at hnil
  · rw [if_neg hj] at hadd
    rw [hc] at hs hbound
    have hle := hs.length_front_le hlast
    obtain ⟨k, rfl⟩ : ∃ j, k = j + 1 := ⟨k - 1, by omega⟩
    rw [← hlive'] at hmem
    refine ⟨_, _, hadd, hs.append hid hmem (by omega), ?_, .added (hlive' ▸ hmem) ?_ ?_⟩
    · rw [Nat.add_sub_cancel, List.length_append, List.length_cons, length_holes]
      omega
    · rw [Nat.add_sub_cancel, live_append, live_cons_of_ne hid, live_holes, hlive']
    · have := length_live_le front
      rw [hlive'] at this
      omega

/-- When `addRecord` does not visit all slots, a new record fits if the last slot that it visits
is empty. -/
theorem addRecord_success_iff {records : List PubAckInfo} (h : Slots records)
    (hlt : scanBound records < records.length) {packetId : UInt16}
    (hmem : packetId ∉ (live records).map PubAckInfo.packetId) (qos : QoS)
    (publishState : PublishState) :
    (addRecord records packetId qos publishState).1 = .success ↔ 0 < scanBound records ∧
      (records.getD (scanBound records - 1) default).packetId = packetIdInvalid := by
  obtain ⟨front, k, rfl, hlast⟩ := exists_trailing_holes h.zero
  have hle := h.length_front_le hlast
  rw [live_append, live_holes, List.append_nil] at hmem
  obtain ⟨k, rfl⟩ : ∃ j, k = j + 1 := by
    rw [List.length_append, length_holes] at hlt
    exact ⟨k - 1, by omega⟩
  have hadd := addRecord_holes hlast hle ⟨packetId, qos, publishState⟩
  dsimp only at hadd
  rw [hadd, if_neg hmem]
  by_cases hfull : scanBound (front ++ holes (k + 1)) = front.length
  · rw [if_pos hfull, hfull]
    refine ⟨fun h => absurd h (by simp), fun ⟨hpos, hid⟩ => ?_⟩
    rcases List.eq_nil_or_concat' front with rfl | ⟨l, r, rfl⟩
    · exact absurd hpos (by simp)
    · refine absurd ?_ (hlast r (by simp))
      simpa [List.getD_eq_getElem?_getD] using hid
  · rw [if_neg hfull]
    refine ⟨fun _ => ⟨by omega, ?_⟩, fun _ => rfl⟩
    have hsb := scanBound_le (front ++ holes (k + 1))
    rw [List.length_append, length_holes] at hsb
    generalize scanBound (front ++ holes (k + 1)) = bound at *
    rw [List.getD_eq_getElem?_getD, List.getElem?_append_right (by omega), holes,
      List.getElem?_replicate_of_lt (by omega)]
    rfl

/-- Among the slots that `addRecord` visits there is one for a new record. -/
def FreeSlot (records : List PubAckInfo) : Prop :=
  (live records).length < records.length ∧ (scanBound records = records.length ∨
    0 < scanBound records ∧
      (records.getD (scanBound records - 1) default).packetId = packetIdInvalid)

instance (records : List PubAckInfo) : Decidable (FreeSlot records) :=
  inferInstanceAs (Decidable (_ ∧ _))

theorem addRecord_success_of_free {records : List PubAckInfo} (h : Slots records)
    (hfree : FreeSlot records) {packetId : UInt16} (hid : packetId ≠ packetIdInvalid)
    (hmem : packetId ∉ (live records).map PubAckInfo.packetId) (qos : QoS)
    (publishState : PublishState) :
    (addRecord records packetId qos publishState).1 = .success := by
  obtain ⟨hlt, hfree⟩ := hfree
  by_cases hall : scanBound records = records.length
  · obtain ⟨status, records', hadd, -, -, ho⟩ := addRecord_cases h hid qos publishState
    rw [hadd]
    cases ho with
    | collision hin => exact absurd hin hmem
    | full _ _ hfull => exact absurd (hfull hall) hlt.ne
    | added => rfl
  · exact (addRecord_success_iff h (Nat.lt_of_le_of_ne (scanBound_le _) hall) hmem qos
      publishState).2 (hfree.resolve_left hall)

end FreeMqtt
