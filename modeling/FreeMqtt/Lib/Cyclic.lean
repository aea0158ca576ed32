import Mathlib.Data.List.Iterate
import Mathlib.Dynamics.PeriodicPts.Defs

/-!
# Cyclic counters

A counter hands out the iterates of a step on a periodic point. So many results in a row as its
period are distinct (`nodup_of_infix_iterate`), and a result that comes back comes no earlier than
after a period (`add_minimalPeriod_le`).
-/

namespace Cyclic

open Function

variable {α : Type*} {step : α → α} {start : α}

/-- The results behind the first ones are those of the counter that goes on. -/
theorem eq_iterate_of_append {n : ℕ} {front rest : List α}
    (h : front ++ rest = List.iterate step start n) :
    rest = List.iterate step (step^[front.length] start) rest.length := by
  have hlength : n = front.length + rest.length := by
    rw [← List.length_append, h, List.length_iterate]
  rw [hlength, List.iterate_add] at h
  exact List.append_inj_right h (List.length_iterate ..).symm

theorem nodup_iterate {n : ℕ} (h : n ≤ minimalPeriod step start) :
    (List.iterate step start n).Nodup := by
  rw [← List.range_map_iterate]
  refine List.Nodup.map_on ?_ List.nodup_range
  intro i hi j hj heq
  have hi' := Nat.lt_of_lt_of_le (List.mem_range.1 hi) h
  have hj' := Nat.lt_of_lt_of_le (List.mem_range.1 hj) h
  exact (iterate_eq_iterate_iff_of_lt_minimalPeriod hi' hj').1 heq

/-- As many results in a row as the period are distinct. -/
theorem nodup_of_infix_iterate (hstart : start ∈ periodicPts step) {n : ℕ} {window : List α}
    (h : window <:+: List.iterate step start n)
    (hlength : window.length ≤ minimalPeriod step start) : window.Nodup := by
  obtain ⟨front, rest, heq⟩ := h
  rw [List.append_assoc] at heq
  have hrest := eq_iterate_of_append heq
  rw [List.length_append, List.iterate_add] at hrest
  have hwindow := List.append_inj_left hrest (List.length_iterate ..).symm
  rw [hwindow]
  apply nodup_iterate
  rwa [minimalPeriod_apply_iterate hstart]

/-- A result comes back no earlier than after a period. -/
theorem add_minimalPeriod_le (hstart : start ∈ periodicPts step) {i j : ℕ} (hij : i < j)
    (h : step^[i] start = step^[j] start) : i + minimalPeriod step start ≤ j := by
  have hback : IsPeriodicPt step (j - i) (step^[i] start) := by
    show step^[j - i] (step^[i] start) = step^[i] start
    rw [← iterate_add_apply, Nat.sub_add_cancel hij.le, h]
  have hle := hback.minimalPeriod_le (Nat.sub_pos_of_lt hij)
  rw [minimalPeriod_apply_iterate hstart] at hle
  exact Nat.add_le_of_le_sub' hij.le hle

end Cyclic
