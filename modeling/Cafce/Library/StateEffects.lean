import Mathlib.Tactic.Common

/-! What a list of events does to a state, one event after another. An event may lead to
several states, and the events of one level may be runs of the level below.
-/

namespace StateEffects

variable {ω σ : Type*} {step : ω → σ → σ → Prop}

/-- The states that events lead to. -/
inductive Leads (step : ω → σ → σ → Prop) : List ω → σ → σ → Prop
  | nil {state} : Leads step [] state state
  | cons {event events before between after} (first : step event before between)
    (rest : Leads step events between after)
    : Leads step (event :: events) before after

theorem leads_nil_iff {before after : σ} : Leads step [] before after ↔ after = before := by
  constructor
  · intro leads
    cases leads
    rfl
  · intro same
    exact same ▸ .nil

theorem leads_cons_iff {event : ω} {events : List ω} {before after : σ}
    : Leads step (event :: events) before after
      ↔ ∃ between, step event before between ∧ Leads step events between after := by
  constructor
  · intro leads
    cases leads with
    | cons first rest => exact ⟨_, first, rest⟩
  · intro parts
    obtain ⟨between, first, rest⟩ := parts
    exact .cons first rest

/-- Events in two parts lead through a state in between. -/
theorem leads_append_iff {left right : List ω} {before after : σ}
    : Leads step (left ++ right) before after
      ↔ ∃ between, Leads step left before between ∧ Leads step right between after := by
  induction left generalizing before with
  | nil => simp [leads_nil_iff]
  | cons event left ih =>
      simp only [List.cons_append, leads_cons_iff, ih]
      constructor
      · intro parts
        obtain ⟨between, first, later, inner, outer⟩ := parts
        exact ⟨later, ⟨between, first, inner⟩, outer⟩
      · intro parts
        obtain ⟨later, ⟨between, first, inner⟩, outer⟩ := parts
        exact ⟨between, first, later, inner, outer⟩

/-- What every event keeps, the events keep, by induction on how they lead there. -/
theorem Leads.invariant {P : σ → Prop} {events : List ω} {before after : σ}
    (leads : Leads step events before after)
    (keeps : ∀ event ∈ events, ∀ state next, step event state next → P state → P next)
    (initial : P before)
    : P after := by
  induction leads with
  | nil => exact initial
  | cons first _ ih =>
      obtain ⟨here, later⟩ := List.forall_mem_cons.mp keeps
      exact ih later (here _ _ first initial)

/-- What no event changes stays as it was. -/
theorem Leads.unchanged {τ : Type*} {events : List ω} {before after : σ}
    (leads : Leads step events before after) (view : σ → τ)
    (idle : ∀ event ∈ events, ∀ state next, step event state next → view next = view state)
    : view after = view before := by
  apply leads.invariant (P := fun state => view state = view before) _ rfl
  intro event member state next taken same
  exact (idle event member state next taken).trans same

end StateEffects
