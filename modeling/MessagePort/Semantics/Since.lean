import Mathlib.Data.List.Basic

/-!
# The past-time operator `since`

`Since stops starts trace` says that some event of a finite trace satisfies
`starts` and no event after it satisfies `stops`. Histories that register and
revoke facts are stated with it, and `since_append` is the law by which one
more step of a run changes such a statement.
-/

namespace MessagePort.Semantics

variable {Event : Type} {stops starts : Event → Prop}

/-- Some event satisfies `starts` and no later event satisfies `stops`. -/
def Since (stops starts : Event → Prop) (trace : List Event) : Prop :=
  ∃ before event after, trace = before ++ event :: after ∧ starts event ∧
    ∀ later ∈ after, ¬ stops later

@[simp] theorem not_since_nil : ¬ Since stops starts [] := by
  rintro ⟨before, event, after, equal, _⟩
  simp at equal

/-- A later suffix either starts the fact itself or keeps an earlier one. -/
theorem since_append {first second : List Event} :
    Since stops starts (first ++ second) ↔
      Since stops starts second ∨ (Since stops starts first ∧ ∀ later ∈ second, ¬ stops later) := by
  constructor
  · rintro ⟨before, event, after, equal, start, quiet⟩
    rcases List.append_eq_append_iff.mp equal with ⟨middle, rfl, split⟩ | ⟨middle, rfl, split⟩
    · exact .inl ⟨middle, event, after, split, start, quiet⟩
    · cases middle with
      | nil => exact .inl ⟨[], event, after, by simpa using split.symm, start, quiet⟩
      | cons head middle =>
          simp only [List.cons_append, List.cons.injEq] at split
          obtain ⟨rfl, rfl⟩ := split
          refine .inr ⟨⟨before, event, middle, rfl, start, ?_⟩, ?_⟩
          · exact fun later member => quiet later (List.mem_append_left _ member)
          · exact fun later member => quiet later (List.mem_append_right _ member)
  · rintro (⟨before, event, after, rfl, start,
      quiet⟩ | ⟨⟨before, event, after, rfl, start, quiet⟩, still⟩)
    · exact ⟨first ++ before, event, after, by simp, start, quiet⟩
    · refine ⟨before, event, after ++ second, by simp, start, fun later member => ?_⟩
      rcases List.mem_append.mp member with early | late
      · exact quiet later early
      · exact still later late

@[simp] theorem since_singleton {event : Event} : Since stops starts [event] ↔ starts event := by
  constructor
  · rintro ⟨before, start, after, equal, holds, _⟩
    have member : start ∈ [event] := equal ▸ by simp
    rwa [List.mem_singleton.mp member] at holds
  · exact fun holds => ⟨[], event, [], rfl, holds, by simp⟩

/-- The last event starts the fact, or the fact held and the event keeps it. -/
theorem since_concat {trace : List Event} {event : Event} :
    Since stops starts (trace ++ [event]) ↔
      starts event ∨ (Since stops starts trace ∧ ¬ stops event) := by
  simp [since_append]

@[simp] theorem since_pair {first second : Event} :
    Since stops starts [first, second] ↔ starts second ∨ (starts first ∧ ¬ stops second) := by
  rw [← List.singleton_append, since_concat, since_singleton]

/-- The starting event occurs in the trace. -/
theorem Since.occurred {trace : List Event} (since : Since stops starts trace) :
    ∃ event ∈ trace, starts event := by
  obtain ⟨before, event, after, rfl, start, _⟩ := since
  exact ⟨event, by simp, start⟩

/-- A fact survives a suffix without a stopping event. -/
theorem Since.append {first second : List Event} (since : Since stops starts first)
    (quiet : ∀ later ∈ second, ¬ stops later) : Since stops starts (first ++ second) :=
  since_append.mpr (.inr ⟨since, quiet⟩)

end MessagePort.Semantics
