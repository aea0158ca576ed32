import Mathlib.Data.List.Basic
import Mathlib.Tactic.Tauto

/-!
# Patterns of levels

A text is split into levels at a separator. A pattern is a text with two wildcards: one for exactly
one level, one for the parent level and any number of levels below it. `MatchLevels` compares the
levels. A matcher that goes over both texts one letter at a time, and stops at the last letter of the
name, finds the matches without `Overrun`; the lemmas here are its steps.
-/

namespace LevelPattern

/-- A separator of levels, the wildcard for one level and the wildcard for all that is left. -/
structure Symbols (α : Type*) where
  sep : α
  one : α
  rest : α
  one_ne_sep : one ≠ sep
  rest_ne_sep : rest ≠ sep
  rest_ne_one : rest ≠ one

variable {α : Type*} (w : Symbols α)

/-! ## Matching -/

/-- Neither wildcard occurs. -/
def Plain (text : List α) : Prop := w.one ∉ text ∧ w.rest ∉ text

/-- One level of a pattern accepts one level of a name. A wildcard that is not alone in its level
accepts nothing. -/
def Accepts (level pattern : List α) : Prop := pattern = [w.one] ∨ Plain w pattern ∧ pattern = level

/-- The levels of a name match those of a pattern. -/
def MatchLevels : (name pattern : List (List α)) → Prop
  | [], [] => True
  | _ :: _, [] => False
  | [], p :: ps => p = [w.rest] ∧ ps = []
  | n :: ns, p :: ps => (p = [w.rest] ∧ ps = []) ∨ Accepts w n p ∧ MatchLevels ns ps

/-- `MatchLevels` behind a first level that is the same. -/
def SameLevel : (name pattern : List (List α)) → Prop
  | n :: ns, p :: ps => p = n ∧ MatchLevels w ns ps
  | _, _ => False

/-- The wildcard for one level takes the last letter of the name, and the pattern goes on behind it. -/
def Overrun : (name pattern : List (List α)) → Prop
  | _ :: ns, p :: ps =>
      (p = [w.one] ∧ (ns = [] ∧ ps ≠ [] ∨ ns = [[]] ∧ ps ≠ [[]])) ∨ Overrun ns ps
  | _, _ => False

variable {w}

theorem plain_cons {a : α} {text : List α} :
    Plain w (a :: text) ↔ (a ≠ w.one ∧ a ≠ w.rest) ∧ Plain w text := by
  simp only [Plain, List.mem_cons, not_or, ne_comm (a := a)]
  tauto

theorem matchLevels_nil {ps : List (List α)} :
    MatchLevels w [] ps ↔ ps = [] ∨ ps = [[w.rest]] := by
  rcases ps with _ | ⟨p, ps⟩
  · simp [MatchLevels]
  · simp [MatchLevels]

theorem matchLevels_rest (ns : List (List α)) : MatchLevels w ns [[w.rest]] := by
  cases ns with
  | nil => exact ⟨rfl, rfl⟩
  | cons n ns => exact .inl ⟨rfl, rfl⟩

/-- A level that does not begin with a wildcard matches itself only. -/
theorem matchLevels_iff_sameLevel {ns ps : List (List α)} {p : List α} (hone : p ≠ [w.one])
    (hrest : p ≠ [w.rest]) (hplain : ∀ n ∈ ns, Plain w n) (hne : ns ≠ []) :
    MatchLevels w ns (p :: ps) ↔ SameLevel w ns (p :: ps) := by
  cases ns with
  | nil => exact absurd rfl hne
  | cons n ns =>
    constructor
    · rintro (⟨heq, -⟩ | ⟨heq | ⟨-, heq⟩, hmatch⟩)
      · exact absurd heq hrest
      · exact absurd heq hone
      · exact ⟨heq, hmatch⟩
    · rintro ⟨rfl, hmatch⟩
      exact .inr ⟨.inr ⟨hplain p List.mem_cons_self, rfl⟩, hmatch⟩

theorem overrun_iff_tail {ns ps : List (List α)} {p : List α} (hone : p ≠ [w.one]) :
    Overrun w ns (p :: ps) ↔ Overrun w ns.tail ps := by
  cases ns with
  | nil => rfl
  | cons n ns => exact or_iff_right fun h => hone h.1

/-- Plain levels match themselves. -/
theorem matchLevels_refl {ns : List (List α)} (hplain : ∀ n ∈ ns, Plain w n) :
    MatchLevels w ns ns := by
  induction ns with
  | nil => exact trivial
  | cons n ns ih =>
    exact .inr ⟨.inr ⟨hplain n List.mem_cons_self, rfl⟩,
      ih fun m hm => hplain m (List.mem_cons_of_mem _ hm)⟩

theorem not_overrun {ns ps : List (List α)} (hplain : ∀ p ∈ ps, Plain w p) : ¬ Overrun w ns ps := by
  induction ps generalizing ns with
  | nil => cases ns <;> exact id
  | cons p ps ih =>
    have hp : p ≠ [w.one] := by
      rintro rfl
      exact (hplain _ List.mem_cons_self).1 List.mem_cons_self
    rw [overrun_iff_tail hp]
    exact ih fun q hq => hplain q (List.mem_cons_of_mem _ hq)

variable (w) [DecidableEq α]

instance (text : List α) : Decidable (Plain w text) := inferInstanceAs (Decidable (_ ∧ _))

instance (level pattern : List α) : Decidable (Accepts w level pattern) :=
  inferInstanceAs (Decidable (_ ∨ _))

instance decidableMatchLevels : (name pattern : List (List α)) →
    Decidable (MatchLevels w name pattern)
  | [], [] => isTrue trivial
  | _ :: _, [] => isFalse id
  | [], p :: ps => inferInstanceAs (Decidable (p = [w.rest] ∧ ps = []))
  | n :: ns, p :: ps =>
      have := decidableMatchLevels ns ps
      inferInstanceAs (Decidable (_ ∨ Accepts w n p ∧ MatchLevels w ns ps))

instance decidableOverrun : (name pattern : List (List α)) → Decidable (Overrun w name pattern)
  | [], _ => isFalse id
  | _ :: _, [] => isFalse id
  | _ :: ns, p :: ps =>
      have := decidableOverrun ns ps
      inferInstanceAs (Decidable ((p = [w.one] ∧ (ns = [] ∧ ps ≠ [] ∨ ns = [[]] ∧ ps ≠ [[]])) ∨
        Overrun w ns ps))

/-! ## Levels of a text -/

/-- The levels of a text. -/
def levels (text : List α) : List (List α) := text.splitOn w.sep

/-- The match that is found letter by letter, at the beginning of a level. -/
def Found (name pattern : List α) : Prop :=
  MatchLevels w (levels w name) (levels w pattern) ∧ ¬ Overrun w (levels w name) (levels w pattern)

/-- The match that is found letter by letter, within a level that is the same so far. -/
def FoundWithin (name pattern : List α) : Prop :=
  SameLevel w (levels w name) (levels w pattern) ∧
    ¬ Overrun w (levels w name).tail (levels w pattern).tail

variable {w}

theorem levels_nil : levels w [] = [[]] := List.splitOn_nil _

theorem levels_ne_nil (text : List α) : levels w text ≠ [] := List.splitOn_ne_nil _ _

theorem levels_sep (text : List α) : levels w (w.sep :: text) = [] :: levels w text := by
  unfold levels
  rw [List.splitOn_cons_eq_if_modifyHead, if_pos (beq_self_eq_true _)]

theorem levels_cons {a : α} (h : a ≠ w.sep) (text : List α) :
    ∃ level more, levels w text = level :: more ∧ levels w (a :: text) = (a :: level) :: more := by
  obtain ⟨level, more, hsplit⟩ := List.exists_cons_of_ne_nil (List.splitOn_ne_nil w.sep text)
  refine ⟨level, more, hsplit, ?_⟩
  unfold levels
  rw [List.splitOn_cons_eq_if_modifyHead, if_neg (by simpa using h), hsplit]
  rfl

theorem levels_append {level : List α} (h : w.sep ∉ level) (text : List α) :
    levels w (level ++ w.sep :: text) = level :: levels w text :=
  List.splitOn_append_cons_self_of_not_mem h text

theorem levels_level {level : List α} (h : w.sep ∉ level) : levels w level = [level] :=
  List.splitOn_eq_singleton h

theorem levels_inj (text text' : List α) : levels w text = levels w text' ↔ text = text' := by
  refine ⟨fun h => ?_, congrArg _⟩
  calc text = [w.sep].intercalate (levels w text) := (List.intercalate_splitOn w.sep).symm
    _ = [w.sep].intercalate (levels w text') := congrArg _ h
    _ = text' := List.intercalate_splitOn w.sep

theorem levels_one : levels w [w.one] = [[w.one]] := levels_level (by simp [w.one_ne_sep.symm])

theorem levels_rest : levels w [w.rest] = [[w.rest]] := levels_level (by simp [w.rest_ne_sep.symm])

theorem levels_sep_rest : levels w [w.sep, w.rest] = [[], [w.rest]] := by
  rw [levels_sep, levels_rest]

/-- A text is one level, or a level and a text behind the separator. -/
theorem level_or_split (text : List α) : w.sep ∉ text ∨
    ∃ level more, w.sep ∉ level ∧ text = level ++ w.sep :: more := by
  by_cases hmem : w.sep ∈ text
  · obtain ⟨level, more, htext, hlevel⟩ := List.eq_append_cons_of_mem hmem
    exact .inr ⟨level, more, hlevel, htext⟩
  · exact .inl hmem

/-- Levels of plain text are plain. -/
theorem Plain.levels {text : List α} (h : Plain w text) : ∀ level ∈ levels w text, Plain w level := by
  induction text with
  | nil =>
    intro level hlevel
    rw [levels_nil, List.mem_singleton] at hlevel
    rw [hlevel]
    exact h
  | cons a text ih =>
    obtain ⟨⟨hone, hrest⟩, htext⟩ := plain_cons.1 h
    intro level hlevel
    by_cases ha : a = w.sep
    · rw [ha, levels_sep, List.mem_cons] at hlevel
      rcases hlevel with rfl | hlevel
      · exact ⟨List.not_mem_nil, List.not_mem_nil⟩
      · exact ih htext level hlevel
    · obtain ⟨first, more, hsplit, hcons⟩ := levels_cons ha text
      rw [hsplit] at ih
      rw [hcons, List.mem_cons] at hlevel
      rcases hlevel with rfl | hlevel
      · exact plain_cons.2 ⟨⟨hone, hrest⟩, ih htext first List.mem_cons_self⟩
      · exact ih htext level (List.mem_cons_of_mem _ hlevel)

/-! ## Within a level -/

theorem foundWithin_nil {pattern : List α} :
    FoundWithin w [] pattern ↔ pattern = [] ∨ pattern = [w.sep, w.rest] := by
  obtain ⟨p, ps, hsplit⟩ := List.exists_cons_of_ne_nil (levels_ne_nil (w := w) pattern)
  have hover : ¬ Overrun w [] ps := id
  rw [← levels_inj (w := w) pattern [], ← levels_inj pattern [w.sep, w.rest], levels_sep_rest,
    FoundWithin, hsplit, levels_nil]
  show (p = [] ∧ MatchLevels w [] ps) ∧ ¬ Overrun w [] ps ↔ _
  rw [matchLevels_nil, List.cons.injEq, List.cons.injEq]
  tauto

theorem foundWithin_cons {a : α} (h : a ≠ w.sep) (name pattern : List α) :
    FoundWithin w (a :: name) (a :: pattern) ↔ FoundWithin w name pattern := by
  obtain ⟨n, ns, hname, hconsName⟩ := levels_cons h name
  obtain ⟨p, ps, hpattern, hconsPattern⟩ := levels_cons h pattern
  rw [FoundWithin, FoundWithin, hconsName, hconsPattern, hname, hpattern]
  show (a :: p = a :: n ∧ _) ∧ _ ↔ (p = n ∧ _) ∧ _
  rw [List.cons_inj_right]
  rfl

theorem foundWithin_sep (name pattern : List α) :
    FoundWithin w (w.sep :: name) (w.sep :: pattern) ↔ Found w name pattern := by
  rw [FoundWithin, levels_sep, levels_sep]
  show ([] = [] ∧ _) ∧ _ ↔ _
  rw [eq_self_iff_true, true_and]
  rfl

/-- Different letters do not match. -/
theorem not_foundWithin {a b : α} (h : a ≠ b) (name pattern : List α) :
    ¬ FoundWithin w (a :: name) (b :: pattern) := by
  rintro ⟨hsame, -⟩
  by_cases ha : a = w.sep
  · obtain ⟨p, ps, -, hpattern⟩ := levels_cons (fun hb => h (ha.trans hb.symm)) pattern
    rw [ha, levels_sep, hpattern] at hsame
    exact absurd hsame.1 (List.cons_ne_nil _ _)
  obtain ⟨n, ns, -, hname⟩ := levels_cons ha name
  by_cases hb : b = w.sep
  · rw [hb, levels_sep, hname] at hsame
    exact absurd hsame.1 (List.cons_ne_nil _ _).symm
  · obtain ⟨p, ps, -, hpattern⟩ := levels_cons hb pattern
    rw [hname, hpattern] at hsame
    exact h (List.cons.inj hsame.1).1.symm

theorem not_foundWithin_nil (a : α) (name : List α) : ¬ FoundWithin w (a :: name) [] := by
  rintro ⟨hsame, -⟩
  rw [levels_nil] at hsame
  by_cases ha : a = w.sep
  · obtain ⟨n, ns, hname⟩ := List.exists_cons_of_ne_nil (levels_ne_nil (w := w) name)
    rw [ha, levels_sep, hname] at hsame
    exact hsame.2
  · obtain ⟨n, ns, -, hname⟩ := levels_cons ha name
    rw [hname] at hsame
    exact absurd hsame.1 (List.cons_ne_nil _ _).symm

/-! ## At the beginning of a level -/

/-- A pattern that does not begin with a wildcard is within a level from its first letter on. -/
theorem found_iff_foundWithin {name pattern : List α} (hname : Plain w name)
    (hone : ∀ more, pattern ≠ w.one :: more) (hrest : ∀ more, pattern ≠ w.rest :: more) :
    Found w name pattern ↔ FoundWithin w name pattern := by
  obtain ⟨p, ps, hsplit⟩ := List.exists_cons_of_ne_nil (levels_ne_nil (w := w) pattern)
  have hfirst (a : α) (ha : a ≠ w.sep) (hne : ∀ more, pattern ≠ a :: more) : p ≠ [a] := by
    rintro rfl
    cases pattern with
    | nil => exact absurd (hsplit.symm.trans levels_nil) (by simp)
    | cons b text =>
      by_cases hb : b = w.sep
      · rw [hb, levels_sep] at hsplit
        exact absurd (List.cons.inj hsplit).1 (by simp)
      · obtain ⟨q, qs, -, hcons⟩ := levels_cons hb text
        rw [hcons] at hsplit
        exact hne text (by rw [(List.cons.inj (List.cons.inj hsplit).1).1])
  have hpOne := hfirst w.one w.one_ne_sep hone
  have hpRest := hfirst w.rest w.rest_ne_sep hrest
  rw [Found, FoundWithin, hsplit,
    matchLevels_iff_sameLevel hpOne hpRest hname.levels (levels_ne_nil name),
    overrun_iff_tail hpOne, List.tail_cons]

theorem found_nil {pattern : List α} : Found w [] pattern ↔
    pattern = [] ∨ pattern = [w.one] ∨ pattern = [w.rest] ∨ pattern = [w.sep, w.rest] := by
  obtain ⟨p, ps, hsplit⟩ := List.exists_cons_of_ne_nil (levels_ne_nil (w := w) pattern)
  have hplain : Plain w [] := ⟨List.not_mem_nil, List.not_mem_nil⟩
  have hone : [] ≠ [w.one] := (List.cons_ne_nil _ _).symm
  have hrest : [w.rest] ≠ [w.one] := fun h => w.rest_ne_one (List.cons.inj h).1
  rw [← levels_inj (w := w) pattern [], ← levels_inj (w := w) pattern [w.one],
    ← levels_inj (w := w) pattern [w.rest], ← levels_inj pattern [w.sep, w.rest], levels_sep_rest,
    levels_one, levels_rest, Found, hsplit, levels_nil]
  show ((p = [w.rest] ∧ ps = []) ∨ (p = [w.one] ∨ Plain w p ∧ p = []) ∧ MatchLevels w [] ps) ∧
    ¬ ((p = [w.one] ∧ ([] = [] ∧ ps ≠ [] ∨ [] = [[]] ∧ ps ≠ [[]])) ∨ False) ↔ _
  rw [matchLevels_nil]
  simp only [List.cons.injEq]
  constructor
  · rintro ⟨⟨hp, hps⟩ | ⟨hp | ⟨-, hp⟩, hps⟩, hno⟩
    · exact .inr (.inr (.inl ⟨hp, hps⟩))
    · by_cases hempty : ps = []
      · exact .inr (.inl ⟨hp, hempty⟩)
      · exact absurd (.inl ⟨hp, .inl ⟨trivial, hempty⟩⟩) hno
    · rcases hps with hps | hps
      · exact .inl ⟨hp, hps⟩
      · exact .inr (.inr (.inr ⟨hp, hps⟩))
  · rintro (⟨rfl, rfl⟩ | ⟨rfl, rfl⟩ | ⟨rfl, rfl⟩ | ⟨rfl, rfl⟩)
    · exact ⟨.inr ⟨.inr ⟨hplain, rfl⟩, .inl rfl⟩, by simp⟩
    · exact ⟨.inr ⟨.inl rfl, .inl rfl⟩, by simp⟩
    · exact ⟨.inl ⟨rfl, rfl⟩, by simp [w.rest_ne_one]⟩
    · exact ⟨.inr ⟨.inr ⟨hplain, rfl⟩, .inr rfl⟩, by simp⟩

/-- The wildcard for all that is left has to be the last letter. -/
theorem found_rest {name pattern : List α} :
    Found w name (w.rest :: pattern) ↔ pattern = [] := by
  obtain ⟨n, ns, hsplit⟩ := List.exists_cons_of_ne_nil (levels_ne_nil (w := w) name)
  have hone : [w.rest] ≠ [w.one] := fun h => w.rest_ne_one (List.cons.inj h).1
  constructor
  · rintro ⟨hmatch, -⟩
    obtain ⟨p, ps, hpattern, hcons⟩ := levels_cons w.rest_ne_sep pattern
    rw [hcons, hsplit] at hmatch
    rcases hmatch with ⟨hp, rfl⟩ | ⟨hp | ⟨hp, -⟩, -⟩
    · rw [(List.cons.inj hp).2, ← levels_nil (w := w), levels_inj] at hpattern
      exact hpattern
    · exact absurd (List.cons.inj hp).1 w.rest_ne_one
    · exact absurd List.mem_cons_self hp.2
  · rintro rfl
    refine ⟨?_, ?_⟩
    · rw [levels_rest]
      exact matchLevels_rest _
    · rw [levels_rest, overrun_iff_tail hone]
      cases (levels w name).tail <;> exact id

/-- The wildcard for one level, at the last level of the name: the pattern has to end. -/
theorem found_one_level {name pattern : List α} (hlevel : w.sep ∉ name) :
    Found w name (w.one :: pattern) ↔ pattern = [] := by
  have hrest : [w.one] ≠ [w.rest] := fun h => w.rest_ne_one (List.cons.inj h).1.symm
  rw [Found, levels_level hlevel]
  constructor
  · rintro ⟨hmatch, hno⟩
    obtain ⟨p, ps, hpattern, hcons⟩ := levels_cons w.one_ne_sep pattern
    rw [hcons] at hmatch hno
    rcases hmatch with ⟨hp, -⟩ | ⟨hp | ⟨hp, -⟩, hps⟩
    · exact absurd (List.cons.inj hp).1.symm w.rest_ne_one
    · by_cases hempty : ps = []
      · rw [(List.cons.inj hp).2, hempty, ← levels_nil (w := w), levels_inj] at hpattern
        exact hpattern
      · exact absurd (.inl ⟨hp, .inl ⟨rfl, hempty⟩⟩) hno
    · exact absurd List.mem_cons_self hp.1
  · rintro rfl
    rw [levels_one]
    refine ⟨.inr ⟨.inl rfl, trivial⟩, ?_⟩
    rintro (⟨-, ⟨-, h⟩ | ⟨h, -⟩⟩ | h)
    · exact h rfl
    · exact absurd h (by simp)
    · exact h

/-- The wildcard for one level, at a level with another one behind it: the pattern goes on too, and
ends there if the name does. -/
theorem found_one_sep {level more pattern : List α} (hlevel : w.sep ∉ level) :
    Found w (level ++ w.sep :: more) (w.one :: pattern) ↔
      ∃ behind, pattern = w.sep :: behind ∧ Found w more behind ∧ (more = [] → behind = []) := by
  rw [Found, levels_append hlevel]
  constructor
  · rintro ⟨hmatch, hno⟩
    obtain ⟨p, ps, hpattern, hcons⟩ := levels_cons w.one_ne_sep pattern
    rw [hcons] at hmatch hno
    rcases hmatch with ⟨hp, -⟩ | ⟨hp | ⟨hp, -⟩, hps⟩
    · exact absurd (List.cons.inj hp).1.symm w.rest_ne_one
    · obtain rfl : p = [] := (List.cons.inj hp).2
      have hbehind : ∃ behind, pattern = w.sep :: behind ∧ levels w behind = ps := by
        cases pattern with
        | nil =>
          obtain rfl := (List.cons.inj (hpattern.symm.trans levels_nil)).2
          cases hmore : levels w more with
          | nil => exact absurd hmore (levels_ne_nil more)
          | cons n ns => rw [hmore] at hps; exact absurd hps id
        | cons a behind =>
          by_cases ha : a = w.sep
          · rw [ha, levels_sep] at hpattern
            exact ⟨behind, by rw [ha], (List.cons.inj hpattern).2⟩
          · obtain ⟨q, qs, -, hq⟩ := levels_cons ha behind
            rw [hq] at hpattern
            exact absurd (List.cons.inj hpattern).1 (by simp)
      obtain ⟨behind, rfl, rfl⟩ := hbehind
      refine ⟨behind, rfl, ⟨hps, fun h => hno (.inr h)⟩, ?_⟩
      rintro rfl
      by_contra hne
      rw [← levels_inj (w := w), levels_nil] at hne
      exact hno (.inl ⟨rfl, .inr ⟨levels_nil, hne⟩⟩)
    · exact absurd List.mem_cons_self hp.1
  · rintro ⟨behind, rfl, ⟨hmatch, hno⟩, hend⟩
    have hsplit : levels w (w.one :: w.sep :: behind) = [w.one] :: levels w behind :=
      @levels_append _ w _ [w.one] (by simp [w.one_ne_sep.symm]) behind
    rw [hsplit]
    refine ⟨.inr ⟨.inl rfl, hmatch⟩, ?_⟩
    rintro (⟨-, ⟨h, -⟩ | ⟨h, hne⟩⟩ | h)
    · exact levels_ne_nil more h
    · rw [← levels_nil (w := w), levels_inj] at h
      rw [hend h, levels_nil] at hne
      exact hne rfl
    · exact hno h

end LevelPattern
