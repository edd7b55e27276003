import Cafce.Library.StateEffects
import Mathlib.Data.List.Induction

/-! Several runs at once on one state: a schedule lists their events in the order in which
they happen, and each run does its own events in its own order.
-/

namespace Interleaving

open StateEffects

variable {ρ ω σ : Type*} [DecidableEq ρ]

/-- The events of one run in a schedule. -/
def own (run : ρ) (schedule : List (ρ × ω)) : List ω :=
  (schedule.filter fun entry => entry.1 = run).map Prod.snd

@[simp] theorem own_nil (run : ρ) : own run ([] : List (ρ × ω)) = [] := rfl

theorem own_append (run : ρ) (left right : List (ρ × ω))
    : own run (left ++ right) = own run left ++ own run right := by
  simp [own]

/-- A run's own event is its next one. -/
theorem own_concat_self (run : ρ) (before : List (ρ × ω)) (event : ω)
    : own run (before ++ [(run, event)]) = own run before ++ [event] := by
  rw [own_append]
  simp [own]

/-- An event of another run adds nothing. -/
theorem own_concat_other {run other : ρ} (apart : other ≠ run) (before : List (ρ × ω))
    (event : ω)
    : own run (before ++ [(other, event)]) = own run before := by
  rw [own_append]
  simp [own, apart]

/-- Every run does a first part of its log, in order. -/
def Interleaves (logs : ρ → List ω) (schedule : List (ρ × ω)) : Prop :=
  ∀ run, own run schedule <+: logs run

/-- Every run does all of its log. -/
def Completes (logs : ρ → List ω) (schedule : List (ρ × ω)) : Prop :=
  ∀ run, own run schedule = logs run

theorem Completes.interleaves {logs : ρ → List ω} {schedule : List (ρ × ω)}
    (completes : Completes logs schedule)
    : Interleaves logs schedule :=
  fun run => completes run ▸ List.prefix_refl _

/-- A first part of a schedule is a schedule. -/
theorem Interleaves.of_append {logs : ρ → List ω} {before after : List (ρ × ω)}
    (interleaves : Interleaves logs (before ++ after))
    : Interleaves logs before := by
  intro run
  apply List.IsPrefix.trans _ (interleaves run)
  rw [own_append]
  exact List.prefix_append _ _

/-- The event that a run does next stands in its log behind those that it has done. -/
theorem Interleaves.next {logs : ρ → List ω} {before : List (ρ × ω)} {run : ρ} {event : ω}
    (interleaves : Interleaves logs (before ++ [(run, event)]))
    : own run before ++ [event] <+: logs run := by
  have next := interleaves run
  rwa [own_concat_self] at next

/-- What holds of the schedule so far and the state at the start, and is kept by every event
that a run can do next, holds at the end. Witness: induction on the schedule from its end.
-/
theorem invariant {step : ρ × ω → σ → σ → Prop} {logs : ρ → List ω}
    {schedule : List (ρ × ω)} {start final : σ} {P : List (ρ × ω) → σ → Prop}
    (interleaves : Interleaves logs schedule) (leads : Leads step schedule start final)
    (initial : P [] start)
    (keeps : ∀ before run event state next, own run before ++ [event] <+: logs run
      → step (run, event) state next → P before state → P (before ++ [(run, event)]) next)
    : P schedule final := by
  induction schedule using List.reverseRecOn generalizing final with
  | nil =>
      obtain rfl := leads_nil_iff.mp leads
      exact initial
  | append_singleton before entry ih =>
      obtain ⟨run, event⟩ := entry
      obtain ⟨state, earlier, last⟩ := leads_append_iff.mp leads
      obtain ⟨next, taken, ended⟩ := leads_cons_iff.mp last
      obtain rfl := leads_nil_iff.mp ended
      exact keeps before run event state _ interleaves.next taken
        (ih interleaves.of_append earlier)

end Interleaving
