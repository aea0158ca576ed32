import FreeMqtt.Client.Reconnect
import FreeMqtt.Core.ClosedConnection

/-!
# A run of the task on connections that the broker closes

`mqttClientTask` learns of a closed connection from `MQTT_ProcessLoop` only. In a run every call of it
behind the last byte of a closed connection reports the loss exactly when the context of each of
these calls has something else to fail on (`runContexts_reportsLoss_iff`). On a connection that is
closed behind its CONNACK it has nothing (`runContexts_closedOnce`).
-/

namespace FreeMqtt.Reconnect

/-! ## The calls of a run -/

/-- The contexts in which the inner loop of `mqttClientTask` calls `MQTT_ProcessLoop`. -/
def loopContexts (c : Config) : List (List OtherCall) → Sys → List Sys
  | [], _ => []
  | others :: rest, s =>
      let s := runOthers c s others
      let looped := mqttProcessLoop c s
      if looped.1 ≠ .success ∧ looped.1 ≠ .needMoreBytes then [s]
      else s :: loopContexts c rest looped.2

/-- The contexts of the calls of a round. -/
def Round.loopContexts (r : Round) (c : Config) (d : ClientConfig) (x : State) : List Sys :=
  let connected := mqttConnect c d r ⟨x.task.closeIfOpen, x.context⟩
  if connected.1 ≠ .success then []
  else Reconnect.loopContexts c r.beforeProcessLoop connected.2.context

/-- The contexts of the calls of a run. -/
def runContexts (c : Config) (d : ClientConfig) : List Round → State → List Sys
  | [], _ => []
  | r :: rounds, x =>
      let ran := runRound c d r x
      r.loopContexts c d x ++ if ran.1 then runContexts c d rounds ran.2 else []

/-- The inner loop ends behind the first of its calls that fails. -/
theorem processLoop_ended_iff (c : Config) (beforeDisconnect : List OtherCall)
    (calls : List (List OtherCall)) (x : State) :
    (processLoop c beforeDisconnect calls x).1 = true ↔
      ∃ s ∈ loopContexts c calls x.context,
        (mqttProcessLoop c s).1 ≠ .success ∧ (mqttProcessLoop c s).1 ≠ .needMoreBytes := by
  induction calls generalizing x with
  | nil => simp [processLoop, loopContexts]
  | cons others rest ih =>
    unfold processLoop loopContexts
    dsimp only
    split
    · rename_i hfail
      exact iff_of_true rfl ⟨_, List.mem_cons_self, hfail⟩
    · rename_i hok
      rw [ih, List.exists_mem_cons_iff, or_iff_right hok]

/-! ## The losses that a run reports -/

/-- The calls of a run on closed connections report the loss of the connection exactly when all of
them notice it. -/
theorem runContexts_reportsLoss_iff (c : Config) (d : ClientConfig) (s : Sys) (rounds : List Round) :
    (∀ s' ∈ runContexts c d rounds (start d s), Closed c s' → ReportsLoss (mqttProcessLoop c s')) ↔
      ∀ s' ∈ runContexts c d rounds (start d s), Closed c s' → NoticesLoss c s' := by
  constructor
  · intro h s' hcall hclosed
    exact (mqttProcessLoop_reportsLoss_iff c hclosed).1 (h s' hcall hclosed)
  · intro h s' hcall hclosed
    exact (mqttProcessLoop_reportsLoss_iff c hclosed).2 (h s' hcall hclosed)

/-- A round whose connection is closed behind the CONNACK: `recv()` returns the four bytes of it, and
then `0`. -/
def closedOnce : Round :=
  { acceptedOnce with
    recvs := [1, 1, 2, 0, 0]
    beforeConnect := []
    beforeProcessLoop := [[]] }

/-- The call behind the CONNACK reports no failure, and the context stays connected. -/
theorem runContexts_closedOnce :
    ∃ s ∈ runContexts .default .default [closedOnce] (start .default (.initialized (.still []) 0 0)),
      Closed .default s ∧ (mqttProcessLoop .default s).1 = .success ∧
        (mqttProcessLoop .default s).2.connectStatus = .connected := by
  decide +kernel

end FreeMqtt.Reconnect
