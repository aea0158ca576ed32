import Mathlib.Data.List.Induction
import Mathlib.Data.List.Nodup

/-!
# Lists with keys

Ordered lists whose entries carry a key, for containers that address an entry by its
key and keep the order of insertion. `lookup`, `remove` and `modify` act on all entries
with a key; in a list without duplicate keys there is at most one, and the lemmas
`*_split` say what happens around it. `Bounded` is such a list with a capacity.
-/

namespace KeyedList

variable {κ α : Type*} [DecidableEq κ] (key : α → κ)

/-- The first entry with key `k`. -/
def lookup (k : κ) (l : List α) : Option α := l.find? fun a => key a = k

/-- The list without the entries with key `k`. -/
def remove (k : κ) (l : List α) : List α := l.filter fun a => key a ≠ k

/-- The list with `f` applied to the entries with key `k`, in place. -/
def modify (k : κ) (f : α → α) (l : List α) : List α :=
  l.map fun a => if key a = k then f a else a

variable {key}

/-! ## Around one entry -/

theorem lookup_eq_none {k : κ} {l : List α} :
    lookup key k l = none ↔ ∀ a ∈ l, key a ≠ k := by
  simp [lookup]

theorem lookup_key {k : κ} {l : List α} {a : α} (h : lookup key k l = some a) : key a = k := by
  simpa using List.find?_some h

theorem lookup_mem {k : κ} {l : List α} {a : α} (h : lookup key k l = some a) : a ∈ l :=
  List.mem_of_find?_eq_some h

theorem lookup_split {k : κ} {l₁ l₂ : List α} {a : α} (ha : key a = k)
    (h₁ : ∀ x ∈ l₁, key x ≠ k) : lookup key k (l₁ ++ a :: l₂) = some a := by
  rw [lookup, List.find?_append, List.find?_eq_none.2 (by simpa using h₁)]
  simp [ha]

theorem lookup_of_mem {l : List α} (hl : (l.map key).Nodup) {a : α} (ha : a ∈ l) :
    lookup key (key a) l = some a := by
  obtain ⟨l₁, l₂, rfl⟩ := List.append_of_mem ha
  rw [List.map_append, List.map_cons, List.nodup_append] at hl
  exact lookup_split rfl fun x hx heq =>
    hl.2.2 (key x) (List.mem_map_of_mem hx) (key a) (List.mem_cons_self ..) heq

theorem modify_of_forall_ne {k : κ} {f : α → α} {l : List α} (h : ∀ x ∈ l, key x ≠ k) :
    modify key k f l = l := by
  unfold modify
  calc l.map (fun a => if key a = k then f a else a) = l.map id :=
        List.map_congr_left fun a ha => if_neg (h a ha)
    _ = l := List.map_id l

theorem remove_of_forall_ne {k : κ} {l : List α} (h : ∀ x ∈ l, key x ≠ k) :
    remove key k l = l := by
  rw [remove, List.filter_eq_self]
  simpa using h

theorem modify_split {k : κ} {f : α → α} {l₁ l₂ : List α} {a : α} (ha : key a = k)
    (h₁ : ∀ x ∈ l₁, key x ≠ k) (h₂ : ∀ x ∈ l₂, key x ≠ k) :
    modify key k f (l₁ ++ a :: l₂) = l₁ ++ f a :: l₂ := by
  have e₁ := modify_of_forall_ne (f := f) h₁
  have e₂ := modify_of_forall_ne (f := f) h₂
  unfold modify at e₁ e₂ ⊢
  rw [List.map_append, List.map_cons, e₁, e₂, if_pos ha]

theorem remove_split {k : κ} {l₁ l₂ : List α} {a : α} (ha : key a = k)
    (h₁ : ∀ x ∈ l₁, key x ≠ k) (h₂ : ∀ x ∈ l₂, key x ≠ k) :
    remove key k (l₁ ++ a :: l₂) = l₁ ++ l₂ := by
  have e₁ := remove_of_forall_ne h₁
  have e₂ := remove_of_forall_ne h₂
  unfold remove at e₁ e₂ ⊢
  rw [List.filter_append, List.filter_cons_of_neg (by simp [ha]), e₁, e₂]

/-! ## Lookup after an update -/

theorem lookup_append {k : κ} {l₁ l₂ : List α} :
    lookup key k (l₁ ++ l₂) = (lookup key k l₁).or (lookup key k l₂) :=
  List.find?_append

theorem lookup_singleton {k : κ} {a : α} :
    lookup key k [a] = if key a = k then some a else none := by
  simp [lookup, List.find?_singleton]

theorem lookup_modify {k k' : κ} {f : α → α} (hf : ∀ a, key (f a) = key a) {l : List α} :
    lookup key k' (modify key k f l) =
      if k' = k then (lookup key k l).map f else lookup key k' l := by
  induction l with
  | nil => simp [lookup, modify]
  | cons a l ih =>
    unfold lookup modify at ih ⊢
    rw [List.map_cons, List.find?_cons, List.find?_cons, List.find?_cons, ih]
    by_cases ha : key a = k <;> by_cases hk : k' = k <;> simp_all
    grind

theorem lookup_remove {k k' : κ} {l : List α} :
    lookup key k' (remove key k l) = if k' = k then none else lookup key k' l := by
  induction l with
  | nil => simp [lookup, remove]
  | cons a l ih =>
    unfold lookup remove at ih ⊢
    by_cases ha : key a = k
    · rw [List.filter_cons_of_neg (by simp [ha]), ih, List.find?_cons]
      by_cases hk : k' = k
      · simp [hk]
      · simp [hk, ha, Ne.symm hk]
    · rw [List.filter_cons_of_pos (by simp [ha]), List.find?_cons, List.find?_cons, ih]
      by_cases hk : k' = k
      · simp [hk, ha]
      · simp [hk]

/-! ## Keys and lengths -/

theorem map_key_modify {k : κ} {f : α → α} (hf : ∀ a, key (f a) = key a) (l : List α) :
    (modify key k f l).map key = l.map key := by
  unfold modify
  rw [List.map_map]
  refine List.map_congr_left fun a _ => ?_
  simp only [Function.comp]
  split
  · exact hf a
  · rfl

theorem nodup_remove {k : κ} {l : List α} (hl : (l.map key).Nodup) :
    ((remove key k l).map key).Nodup :=
  (List.filter_sublist.map key).nodup hl

theorem length_modify {k : κ} {f : α → α} (l : List α) :
    (modify key k f l).length = l.length := by
  simp [modify]

theorem length_remove_le {k : κ} (l : List α) : (remove key k l).length ≤ l.length :=
  List.length_filter_le ..

theorem notMem_keys_remove {k : κ} {l : List α} : k ∉ (remove key k l).map key := by
  simp [remove]

omit [DecidableEq κ] in
theorem nodup_append_singleton {l : List α} {a : α} (hl : (l.map key).Nodup)
    (ha : key a ∉ l.map key) : ((l ++ [a]).map key).Nodup := by
  rw [List.map_append, List.map_singleton]
  exact List.Nodup.append hl (List.nodup_singleton _) (by simpa using ha)

theorem length_remove_lt {k : κ} {l : List α} (h : k ∈ l.map key) :
    (remove key k l).length < l.length := by
  obtain ⟨a, ha, hk⟩ := List.mem_map.1 h
  exact List.length_filter_lt_length_iff_exists.2 ⟨a, ha, by simp [hk]⟩

theorem nodup_modify {k : κ} {f : α → α} (hf : ∀ a, key (f a) = key a) {l : List α}
    (hl : (l.map key).Nodup) : ((modify key k f l).map key).Nodup := by
  rwa [map_key_modify hf]

/-- An entry taken out and put back at the end leaves room for itself. -/
theorem length_remove_append_le {k : κ} {l : List α} (h : k ∈ l.map key) (a : α) :
    (remove key k l ++ [a]).length ≤ l.length := by
  have hlt := length_remove_lt h
  rw [List.length_append, List.length_singleton]
  exact hlt

theorem mem_keys_of_lookup {k : κ} {l : List α} {a : α} (h : lookup key k l = some a) :
    k ∈ l.map key :=
  List.mem_map.2 ⟨a, lookup_mem h, lookup_key h⟩

theorem lookup_eq_none_iff_notMem {k : κ} {l : List α} :
    lookup key k l = none ↔ k ∉ l.map key := by
  simp [lookup_eq_none]

/-- Two lists have the same entries if they have them for the keys of both. -/
theorem lookup_eq_iff {l l' : List α} :
    (∀ k, lookup key k l = lookup key k l') ↔
      ∀ a ∈ l ++ l', lookup key (key a) l = lookup key (key a) l' := by
  refine ⟨fun h a _ => h (key a), fun h k => ?_⟩
  cases ha : lookup key k l with
  | some a => rw [← ha, ← lookup_key ha, h a (List.mem_append_left l' (lookup_mem ha))]
  | none =>
    cases ha' : lookup key k l' with
    | none => rfl
    | some a =>
      rw [← ha, ← ha', ← lookup_key ha', h a (List.mem_append_right l (lookup_mem ha'))]

/-! ## The order of latest occurrences -/

section Latest

variable [DecidableEq α]

/-- The elements of a list once each, in the order of their last occurrences. -/
def latest (l : List α) : List α := l.foldl (fun l a => remove id a l ++ [a]) []

theorem latest_concat (l : List α) (a : α) : latest (l ++ [a]) = remove id a (latest l) ++ [a] := by
  simp [latest]

theorem nodup_latest (l : List α) : (latest l).Nodup := by
  induction l using List.reverseRecOn with
  | nil => exact List.nodup_nil
  | append_singleton l a ih =>
    rw [latest_concat]
    have h : ((remove id a (latest l) ++ [a]).map id).Nodup :=
      nodup_append_singleton (nodup_remove (by rwa [List.map_id])) notMem_keys_remove
    rwa [List.map_id] at h

/-- A part of the latest elements that does not have `a` yet, with `a` behind it. -/
theorem sublist_latest_concat {l part : List α} {a : α} (h : List.Sublist part (latest l))
    (ha : a ∉ part) : List.Sublist (part ++ [a]) (latest (l ++ [a])) := by
  rw [latest_concat]
  refine List.Sublist.append ?_ (List.Sublist.refl _)
  have hself : remove id a part = part :=
    remove_of_forall_ne fun x hx => by rintro rfl; exact ha hx
  rw [← hself]
  exact h.filter _

omit [DecidableEq α] in
/-- A part of a list without duplicates is what is left of it by its own elements. -/
theorem eq_filter_of_sublist {l part : List α} (h : List.Sublist part l) (hl : l.Nodup)
    {p : α → Bool} (hp : ∀ a ∈ l, p a = true ↔ a ∈ part) : part = l.filter p := by
  induction h with
  | slnil => rfl
  | @cons part l a h ih =>
    obtain ⟨ha, hl⟩ := List.nodup_cons.1 hl
    rw [List.filter_cons_of_neg fun hpa => ha (h.subset ((hp a (by simp)).1 hpa))]
    exact ih hl fun x hx => hp x (List.mem_cons_of_mem a hx)
  | @cons_cons part l a h ih =>
    obtain ⟨ha, hl⟩ := List.nodup_cons.1 hl
    rw [List.filter_cons_of_pos ((hp a (by simp)).2 (by simp))]
    refine congrArg (a :: ·) (ih hl fun x hx => ?_)
    have hne : x ≠ a := fun heq => ha (heq ▸ hx)
    rw [hp x (List.mem_cons_of_mem a hx), List.mem_cons, or_iff_right hne]

end Latest

/-! ## Bounded lists -/

/-- An ordered list of at most `n` entries with pairwise different keys. -/
@[ext]
structure Bounded (key : α → κ) (n : Nat) where
  entries : List α
  nodup : (entries.map key).Nodup
  length_le : entries.length ≤ n

namespace Bounded

variable {n : Nat}

def empty : Bounded key n := ⟨[], List.nodup_nil, Nat.zero_le n⟩

/-- The list with one more entry at the end. -/
def push (b : Bounded key n) (a : α) (ha : key a ∉ b.entries.map key)
    (hn : b.entries.length < n) : Bounded key n :=
  ⟨b.entries ++ [a], nodup_append_singleton b.nodup ha, by
    rw [List.length_append, List.length_singleton]
    exact hn⟩

/-- The list without the entries with key `k`. -/
def remove (b : Bounded key n) (k : κ) : Bounded key n :=
  ⟨KeyedList.remove key k b.entries, nodup_remove b.nodup,
    Nat.le_trans (length_remove_le _) b.length_le⟩

end Bounded

end KeyedList
