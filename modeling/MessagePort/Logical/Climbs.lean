import Mathlib.Data.List.Nodup
import Mathlib.Data.List.Basic

/-!
# Walks on the integers and the levels they climb to

A walk takes one step up or down for each outcome. `Spaced` walks are those that
never climb to one level twice (`climbs_nodup_iff`): whoever hands out the levels
climbed to as names hands out each name once exactly along these walks.
-/

namespace MessagePort.Logical

/-- The level a walk ends at: up for `true`, down for `false`. -/
def level (start : Int) : List Bool → Int
  | [] => start
  | true :: rest => level (start + 1) rest
  | false :: rest => level (start - 1) rest

/-- The levels reached by the steps up, in order. -/
def climbs (start : Int) : List Bool → List Int
  | [] => []
  | true :: rest => (start + 1) :: climbs (start + 1) rest
  | false :: rest => climbs (start - 1) rest

/-- Between two groups of steps up there are at least as many steps down as the
two groups have steps together. -/
def Spaced (outcomes : List Bool) : Prop :=
  ∀ before first down second after, 0 < first → 0 < down → 0 < second →
    outcomes = before ++ List.replicate first true ++ List.replicate down false ++
      List.replicate second true ++ after → first + second ≤ down

theorem level_append (start : Int) (first second : List Bool) :
    level start (first ++ second) = level (level start first) second := by
  induction first generalizing start with
  | nil => rfl
  | cons outcome rest ih => cases outcome <;> simp [level, ih]

theorem climbs_append (start : Int) (first second : List Bool) :
    climbs start (first ++ second) = climbs start first ++ climbs (level start first) second := by
  induction first generalizing start with
  | nil => rfl
  | cons outcome rest ih => cases outcome <;> simp [climbs, level, ih]

@[simp] theorem level_up (start : Int) (count : Nat) :
    level start (List.replicate count true) = start + count := by
  induction count generalizing start with
  | zero => simp [level]
  | succ count ih =>
      simp only [List.replicate_succ, level, ih]
      omega

@[simp] theorem level_down (start : Int) (count : Nat) :
    level start (List.replicate count false) = start - count := by
  induction count generalizing start with
  | zero => simp [level]
  | succ count ih =>
      simp only [List.replicate_succ, level, ih]
      omega

@[simp] theorem climbs_down (start : Int) (count : Nat) :
    climbs start (List.replicate count false) = [] := by
  induction count generalizing start with
  | zero => rfl
  | succ count ih => simp only [List.replicate_succ, climbs, ih]

/-- A group of steps up climbs to every level on its way. -/
theorem mem_climbs_up {start reached : Int} {count : Nat} :
    reached ∈ climbs start (List.replicate count true) ↔
      start < reached ∧ reached ≤ start + count := by
  induction count generalizing start with
  | zero =>
      simp only [List.replicate_zero, climbs, List.not_mem_nil, false_iff]
      omega
  | succ count ih =>
      simp only [List.replicate_succ, climbs, List.mem_cons, ih]
      omega

/-- Every level climbed to lies between the deepest and the highest a walk could get. -/
theorem climbs_bounds {start reached : Int} {outcomes : List Bool}
    (climbed : reached ∈ climbs start outcomes) :
    start - outcomes.count false < reached ∧ reached ≤ start + outcomes.count true := by
  induction outcomes generalizing start with
  | nil => simp [climbs] at climbed
  | cons outcome rest ih =>
      cases outcome with
      | true =>
          simp only [climbs, List.mem_cons] at climbed
          simp only [List.count_cons_self, List.count_cons_of_ne (by decide : true ≠ false)]
          rcases climbed with rfl | later
          · omega
          · have bounds := ih later
            omega
      | false =>
          have bounds := ih climbed
          simp only [List.count_cons_self, List.count_cons_of_ne (by decide : false ≠ true)]
          omega

theorem Spaced.of_append {first second : List Bool} (spaced : Spaced (first ++ second)) :
    Spaced second := by
  intro before up down again after someUp someDown someAgain equal
  apply spaced (first ++ before) up down again after someUp someDown someAgain
  rw [equal]
  simp only [List.append_assoc]

/-- What a spaced walk can still climb to. After `up` steps up and no step down
it keeps out of the levels of this group, and stays below any `ceiling` that the
rest of the group respects; after a step down it stays below the whole group. -/
theorem climbs_of_spaced {rest : List Bool} {up : Nat} (some_ : 0 < up) (start : Int) :
    (Spaced (List.replicate up true ++ rest) → ∀ ceiling : Int,
      (∀ more after, rest = List.replicate more true ++ after → start + more ≤ ceiling) →
      (climbs start rest).Nodup ∧
        ∀ reached ∈ climbs start rest, (start < reached ∧ reached ≤ ceiling) ∨
          reached ≤ start - up) ∧
    ∀ down, 0 < down → Spaced (List.replicate up true ++ (List.replicate down false ++ rest)) →
      (climbs start rest).Nodup ∧ ∀ reached ∈ climbs start rest, reached ≤ start + down - up := by
  induction rest generalizing up start with
  | nil => simp [climbs]
  | cons outcome rest ih =>
      cases outcome with
      | true =>
          refine ⟨fun spaced ceiling bounded => ?_, fun down someDown spaced => ?_⟩
          · -- the group goes on
            have shape : List.replicate up true ++ true :: rest =
                List.replicate (up + 1) true ++ rest := by
              rw [List.replicate_succ', List.append_assoc, List.singleton_append]
            obtain ⟨nodup, within⟩ := (ih (Nat.succ_pos up) (start + 1)).1
                (shape ▸ spaced) ceiling (by
              intro more after equal
              have bound := bounded (more + 1) after (by rw [equal]; rfl)
              omega)
            have first := bounded 1 rest rfl
            simp only [climbs, List.nodup_cons, List.mem_cons, forall_eq_or_imp]
            refine ⟨⟨fun again => ?_, nodup⟩, .inl (by omega), fun reached later => ?_⟩
            · have := within _ again
              omega
            · have := within _ later
              omega
          · -- a new group starts, below the last one
            have room (more : Nat) (after : List Bool)
                (equal : rest = List.replicate more true ++ after) :
                up + (more + 1) ≤ down := by
              apply spaced [] up down (more + 1) after some_ someDown (Nat.succ_pos more)
              rw [equal, List.replicate_succ]
              simp only [List.nil_append, List.append_assoc, List.cons_append]
            have single : Spaced (List.replicate 1 true ++ rest) := by
              apply Spaced.of_append
              apply Spaced.of_append
              exact spaced
            obtain ⟨nodup, within⟩ := (ih Nat.one_pos (start + 1)).1 single (start + down - up) (by
              intro more after equal
              have := room more after equal
              omega)
            have first := room 0 rest rfl
            simp only [climbs, List.nodup_cons, List.mem_cons, forall_eq_or_imp]
            refine ⟨⟨fun again => ?_, nodup⟩, by omega, fun reached later => ?_⟩
            · have := within _ again
              omega
            · have := within _ later
              omega
      | false =>
          simp only [climbs]
          refine ⟨fun spaced ceiling _ => ?_, fun down someDown spaced => ?_⟩
          · obtain ⟨nodup, within⟩ := (ih some_ (start - 1)).2 1 Nat.one_pos spaced
            refine ⟨nodup, fun reached later => .inr ?_⟩
            have := within _ later
            omega
          · have shape : List.replicate down false ++ false :: rest =
                List.replicate (down + 1) false ++ rest := by
              rw [List.replicate_succ', List.append_assoc, List.singleton_append]
            obtain ⟨nodup, within⟩ := (ih some_ (start - 1)).2 (down + 1) (Nat.succ_pos down)
              (shape ▸ spaced)
            refine ⟨nodup, fun reached later => ?_⟩
            have := within _ later
            omega

/-- A walk climbs to no level twice exactly when it is spaced. -/
theorem climbs_nodup_iff {start : Int} {outcomes : List Bool} :
    (climbs start outcomes).Nodup ↔ Spaced outcomes := by
  constructor
  · rintro nodup before first down second after someFirst someDown someSecond rfl
    by_contra short
    simp only [climbs_append, level_append, level_up, level_down, climbs_down,
      List.append_nil] at nodup
    generalize level start before = base at nodup
    -- the highest level of the first group, or of the second if that ends below
    have early : min (base + first) (base + first - down + second) ∈
        climbs base (List.replicate first true) := by
      rw [mem_climbs_up]
      omega
    have late : min (base + first) (base + first - down + second) ∈
        climbs (base + first - down) (List.replicate second true) := by
      rw [mem_climbs_up]
      omega
    have apart := (List.nodup_append.mp nodup).1
    have apart := (List.nodup_append.mp apart).2.2
    exact apart _ (List.mem_append_right _ early) _ late rfl
  · intro spaced
    induction outcomes generalizing start with
    | nil => simp [climbs]
    | cons outcome rest ih =>
        cases outcome with
        | false => exact ih (@Spaced.of_append [false] rest spaced)
        | true =>
            obtain ⟨nodup, within⟩ := (climbs_of_spaced Nat.one_pos (start + 1)).1 spaced
              (start + 1 + rest.length) (by
                intro more after equal
                have := congrArg List.length equal
                simp only [List.length_append, List.length_replicate] at this
                omega)
            simp only [climbs, List.nodup_cons]
            refine ⟨fun again => ?_, nodup⟩
            have := within _ again
            omega

end MessagePort.Logical
