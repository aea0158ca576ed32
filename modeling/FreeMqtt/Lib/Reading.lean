import Mathlib.Data.List.Basic

/-!
# Reading a stream item by item

A reader takes an item off the front of a stream. `readAll` applies it until it finds none.
Pieces that a reader takes off any stream are read one after the other, whatever follows them
(`readAll_flatMap`).
-/

namespace Reading

variable {α β γ : Type*}

/-- The items that are read one after the other, and what is left of the stream. -/
def readAll (read : List α → Option (β × List α)) : (fuel : Nat) → List α → List β × List α
  | 0, stream => ([], stream)
  | fuel + 1, stream =>
      match read stream with
      | none => ([], stream)
      | some (item, rest) =>
          let more := readAll read fuel rest
          (item :: more.1, more.2)

variable {read : List α → Option (β × List α)} {stream rest : List α}

/-- An item takes up at least one symbol. -/
def Shortens (read : List α → Option (β × List α)) : Prop :=
  ∀ {stream rest : List α} {item : β}, read stream = some (item, rest) → rest.length < stream.length

/-- In front of any stream, `piece` is read as `item`. -/
def ReadsAs (read : List α → Option (β × List α)) (piece : List α) (item : β) : Prop :=
  ∀ rest, read (piece ++ rest) = some (item, rest)

theorem readAll_none (h : read stream = none) (fuel : Nat) :
    readAll read fuel stream = ([], stream) := by
  cases fuel with
  | zero => rfl
  | succ fuel => rw [readAll, h]

/-- More fuel than there are symbols changes nothing. -/
theorem readAll_of_le (hread : Shortens read) {fuel : Nat} (h : stream.length ≤ fuel) :
    readAll read fuel stream = readAll read stream.length stream := by
  induction fuel using Nat.strongRecOn generalizing stream with
  | _ fuel ih =>
    cases hstep : read stream with
    | none => rw [readAll_none hstep, readAll_none hstep]
    | some step =>
      obtain ⟨item, rest⟩ := step
      have hlt := hread hstep
      obtain ⟨fuel, rfl⟩ := Nat.exists_eq_add_of_lt (Nat.lt_of_lt_of_le (Nat.zero_lt_of_lt hlt) h)
      obtain ⟨n, hn⟩ := Nat.exists_eq_add_of_lt (Nat.zero_lt_of_lt hlt)
      rw [hn, readAll, readAll, hstep]
      dsimp only
      rw [ih (0 + fuel) (by omega) (by omega), ih (0 + n) (by omega) (by omega)]

/-- Pieces in front of a stream are read in order. -/
theorem readAll_flatMap (hread : Shortens read) {piece : γ → List α} {item : γ → β} {l : List γ}
    (h : ∀ x ∈ l, ReadsAs read (piece x) (item x)) (rest : List α) :
    readAll read (l.flatMap piece ++ rest).length (l.flatMap piece ++ rest) =
      (l.map item ++ (readAll read rest.length rest).1, (readAll read rest.length rest).2) := by
  induction l with
  | nil => rfl
  | cons x l ih =>
    obtain ⟨hx, hl⟩ := List.forall_mem_cons.1 h
    have hstep := hx (l.flatMap piece ++ rest)
    rw [← List.append_assoc, ← List.flatMap_cons] at hstep
    have hlt := hread hstep
    obtain ⟨n, hn⟩ := Nat.exists_eq_add_of_lt (Nat.zero_lt_of_lt hlt)
    rw [hn, readAll, hstep]
    dsimp only
    rw [readAll_of_le hread (by omega), ih hl]
    rfl

end Reading
