import FreeMqtt.Core.RecordSteps

/-!
# The records over the calls of the library

Every public function but the initializers changes the records of a context by calls of the
engine only, and a clean session zeroes them. The records of a context are therefore those
that a run of the engine leaves of zeroed arrays (`reachable_of_steps`).
-/

namespace FreeMqtt

open Moments

/-! ## Records -/

/-- The arrays that a run of the engine leaves of zeroed ones. -/
def Reachable (t : PublishRecords) : Prop :=
  ∃ n m calls, t = (runCalls (.zeroed n m) calls).2

theorem runCalls_concat (t : PublishRecords) (calls : List EngineCall) (call : EngineCall) :
    (runCalls t (calls ++ [call])).2 = (call.run (runCalls t calls).2).2 := by
  induction calls generalizing t with
  | nil => rfl
  | cons first calls ih => exact ih (first.run t).2

theorem reachable_zeroed (n m : Nat) : Reachable (.zeroed n m) := ⟨n, m, [], rfl⟩

theorem Reachable.run {t : PublishRecords} (h : Reachable t) (call : EngineCall) :
    Reachable (call.run t).2 := by
  obtain ⟨n, m, calls, rfl⟩ := h
  exact ⟨n, m, calls ++ [call], (runCalls_concat ..).symm⟩

theorem Reachable.table {t : PublishRecords} (h : Reachable t) :
    Table .outgoing t.outgoingPublishRecords := by
  obtain ⟨n, m, calls, rfl⟩ := h
  exact (runCalls_ordered n m calls).1

/-! ## Operations -/

/-- From `s` to `s'` only the engine changed the records. -/
structure Engine (s s' : Sys) : Prop where
  reachable : Reachable s.toPublishRecords → Reachable s'.toPublishRecords

theorem Engine.of_eq {s s' : Sys} (h : s'.toPublishRecords = s.toPublishRecords) : Engine s s' :=
  ⟨fun hr => h ▸ hr⟩

theorem Engine.trans {s s' s'' : Sys} (h : Engine s s') (h' : Engine s' s'') : Engine s s'' :=
  ⟨h'.reachable ∘ h.reachable⟩

/-- The engine keeps to what the records can be, whatever packet ids it reserves. -/
theorem recordPreorder_engine : RecordPreorder Engine fun _ => True where
  trans := Engine.trans
  frame := fun hrecords _ => .of_eq hrecords
  call := fun _ call _ => ⟨fun hr => hr.run call⟩
  clean := fun _ n m => ⟨fun _ => reachable_zeroed n m⟩

theorem Operation.engine (c : Config) (s : Sys) {operation : Operation}
    (h : ¬ operation.SetsRecords) : Engine s (operation.run c s) := by
  by_cases hid : operation = .request .getPacketId
  · subst hid
    exact .of_eq rfl
  · exact recordPreorder_engine.operation c s h hid fun _ _ => trivial

theorem engine_operations (c : Config) (s : Sys) {operations : List Operation}
    (h : ∀ operation ∈ operations, ¬ operation.SetsRecords) :
    Engine s (operations.foldl (Operation.run c) s) := by
  refine foldl_rel (r := Engine) (fun _ => .of_eq rfl) Engine.trans fun m hm => ?_
  exact m.operation.engine c m.before (h m.operation (operation_mem hm))

theorem handleUncleanSessionResumption_engine (c : Config) (s : Sys) :
    Engine s (handleUncleanSessionResumption c s).2 := by
  rw [← resumptionOperations_run]
  exact engine_operations c s not_setsRecords_resumption

/-! ## Runs -/

/-- A step of an application: a public function other than an initializer. -/
inductive ClientStep (c : Config) (s : Sys) : Sys → Prop
  | connect (pConnectInfo : Option ConnectInfo) (pWillInfo : Option PublishInfo)
      (timeoutMs : UInt32) :
      ClientStep c s (mqttConnect c s pConnectInfo pWillInfo timeoutMs).2.2
  | request (call : SendCall) : ClientStep c s (call.run c s)
  | processLoop : ClientStep c s (mqttProcessLoop c s).2
  | receiveLoop : ClientStep c s (mqttReceiveLoop c s).2

theorem ClientStep.exists_call {c : Config} {s s' : Sys} (h : ClientStep c s s') :
    ∃ call : Call, ¬ call.SetsRecords ∧ s' = call.run c s := by
  cases h with
  | connect info will timeoutMs => exact ⟨.connect info will timeoutMs, id, rfl⟩
  | request call => exact ⟨.api (.request call), id, rfl⟩
  | processLoop => exact ⟨.api .processLoop, id, rfl⟩
  | receiveLoop => exact ⟨.api .receiveLoop, id, rfl⟩

theorem ClientStep.engine {c : Config} {s s' : Sys} (h : ClientStep c s s') : Engine s s' := by
  obtain ⟨call, hsets, rfl⟩ := h.exists_call
  rw [← call.operations_run]
  exact engine_operations c s (call.not_setsRecords hsets)

/-- The records of a context that an application reaches from zeroed records. -/
theorem reachable_of_steps {c : Config} {s₀ s : Sys} {n m : Nat}
    (hzeroed : s₀.toPublishRecords = .zeroed n m)
    (h : Relation.ReflTransGen (ClientStep c) s₀ s) : Reachable s.toPublishRecords := by
  induction h with
  | refl => exact hzeroed ▸ reachable_zeroed n m
  | tail _ hstep ih => exact hstep.engine.reachable ih

end FreeMqtt
