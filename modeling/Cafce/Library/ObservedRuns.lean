import Cafce.Library.Fallible

/-! What a viewer of some events of a run can tell: hidden parts, failures that leave no
trace, and pairs of runs that look the same.
-/

namespace Fallible

namespace Logged

variable {ε ε' α β γ δ ω ω' ν : Type}

/-- The events of a run that the viewer sees, in order. -/
def seen (view : ω → Option ν) (run : Logged ω ε α) : List ν :=
  run.log.filterMap view

@[simp] theorem seen_quiet (view : ω → Option ν) (outcome : Except ε α)
    : seen view (quiet outcome) = [] := rfl

@[simp] theorem seen_pure (view : ω → Option ν) (value : α)
    : seen view (pure value : Logged ω ε α) = [] := rfl

/-- An event that the viewer does not see leaves nothing. -/
theorem seen_perform_of_none {view : ω → Option ν} {event : ω} (unseen : view event = none)
    (outcome : Except ε α)
    : seen view (perform event outcome) = [] := by
  simp [seen, unseen]

/-- A viewer from outside sees the inner events through their labels. -/
theorem seen_relabel (view : ω' → Option ν) (event : ω → ω') (wrap : ε → ε')
    (run : Logged ω ε α)
    : seen view (run.relabel event wrap) = seen (view ∘ event) run := by
  simp [seen, List.filterMap_map]

/-- Labels that the viewer never sees hide the whole run. -/
theorem seen_relabel_of_none {view : ω' → Option ν} {event : ω → ω'}
    (unseen : ∀ inner, view (event inner) = none) (wrap : ε → ε') (run : Logged ω ε α)
    : seen view (run.relabel event wrap) = [] := by
  rw [seen_relabel, seen, List.filterMap_eq_nil_iff]
  exact fun inner _ => unseen inner

theorem seen_bind_of_ok {view : ω → Option ν} {first : Logged ω ε α}
    {next : α → Logged ω ε β} {value : α} (success : first.outcome = .ok value)
    : seen view (first >>= next) = seen view first ++ seen view (next value) := by
  rw [seen, log_bind_of_ok success, List.filterMap_append, seen, seen]

theorem seen_bind_of_error {view : ω → Option ν} {first : Logged ω ε α}
    {next : α → Logged ω ε β} {error : ε} (failure : first.outcome = .error error)
    : seen view (first >>= next) = seen view first := by
  rw [seen, log_bind_of_error failure, seen]

/-- After a hidden first part, whatever is seen comes from what followed its success. -/
theorem exists_of_seen_bind {view : ω → Option ν} {first : Logged ω ε α}
    {next : α → Logged ω ε β} (hidden : seen view first = [])
    (shown : seen view (first >>= next) ≠ [])
    : ∃ value, first.outcome = .ok value
      ∧ seen view (first >>= next) = seen view (next value) := by
  cases outcome : first.outcome with
  | error error => exact absurd ((seen_bind_of_error outcome).trans hidden) shown
  | ok value =>
      refine ⟨value, rfl, ?_⟩
      rw [seen_bind_of_ok outcome, hidden, List.nil_append]

/-- A hidden last part adds nothing. -/
theorem seen_bind_of_hidden_next {view : ω → Option ν} {first : Logged ω ε α}
    {next : α → Logged ω ε β} (hidden : ∀ value, seen view (next value) = [])
    : seen view (first >>= next) = seen view first := by
  cases outcome : first.outcome with
  | error error => exact seen_bind_of_error outcome
  | ok value => rw [seen_bind_of_ok outcome, hidden, List.append_nil]

/-- When the run fails, the viewer has seen nothing. -/
def CleanFailure (view : ω → Option ν) (run : Logged ω ε α) : Prop :=
  ∀ error, run.outcome = .error error → seen view run = []

theorem CleanFailure.of_ok {view : ω → Option ν} {run : Logged ω ε α} {value : α}
    (success : run.outcome = .ok value)
    : CleanFailure view run := by
  intro error failure
  rw [success] at failure
  cases failure

/-- Failures stay clean as long as what comes before is hidden. -/
theorem CleanFailure.bind {view : ω → Option ν} {first : Logged ω ε α}
    {next : α → Logged ω ε β} (hidden : seen view first = [])
    (clean : ∀ value, CleanFailure view (next value))
    : CleanFailure view (first >>= next) := by
  intro error failure
  rw [outcome_bind, bind_eq_error_iff] at failure
  rcases failure with here | ⟨value, success, later⟩
  · rw [seen_bind_of_error here, hidden]
  · rw [seen_bind_of_ok success, hidden, clean value error later, List.append_nil]

/-- Two runs that look the same to the viewer and end in related ways. -/
structure LookAlike (view : ω → Option ν) (E : ε → ε' → Prop) (V : α → β → Prop)
    (left : Logged ω ε α) (right : Logged ω ε' β)
    : Prop where
  seen_eq : seen view left = seen view right
  outcomes : Related E V left.outcome right.outcome

variable {view : ω → Option ν} {E : ε → ε' → Prop} {V : α → β → Prop} {W : γ → δ → Prop}

/-- Runs that look alike and go on alike look alike. -/
theorem LookAlike.bind {left : Logged ω ε α} {right : Logged ω ε' β}
    {leftNext : α → Logged ω ε γ} {rightNext : β → Logged ω ε' δ}
    (first : LookAlike view E V left right)
    (next : ∀ a b, V a b → LookAlike view E W (leftNext a) (rightNext b))
    : LookAlike view E W (left >>= leftNext) (right >>= rightNext) := by
  constructor
  · cases leftOutcome : left.outcome with
    | ok a =>
        obtain ⟨b, rightOutcome, related⟩ := first.outcomes.exists_of_ok leftOutcome
        rw [seen_bind_of_ok leftOutcome, seen_bind_of_ok rightOutcome, first.seen_eq,
          (next a b related).seen_eq]
    | error error =>
        obtain ⟨other, rightOutcome, _⟩ := first.outcomes.exists_of_error leftOutcome
        rw [seen_bind_of_error leftOutcome, seen_bind_of_error rightOutcome, first.seen_eq]
  · rw [outcome_bind, outcome_bind]
    exact first.outcomes.bind fun a b related => (next a b related).outcomes

/-- A run looks like itself. -/
theorem LookAlike.refl {E : ε → ε → Prop} {V : α → α → Prop} (run : Logged ω ε α)
    (errors : ∀ error, E error error) (values : ∀ value, V value value)
    : LookAlike view E V run run := by
  refine ⟨rfl, ?_⟩
  cases run.outcome with
  | error error => exact errors error
  | ok value => exact values value

/-- Hidden runs look alike when their outcomes are related. -/
theorem LookAlike.of_hidden {left : Logged ω ε α} {right : Logged ω ε' β}
    (leftHidden : seen view left = []) (rightHidden : seen view right = [])
    (outcomes : Related E V left.outcome right.outcome)
    : LookAlike view E V left right :=
  ⟨leftHidden.trans rightHidden.symm, outcomes⟩

end Logged

end Fallible
