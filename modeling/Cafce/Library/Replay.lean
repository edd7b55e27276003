import Cafce.Library.Fallible

/-! Replaying a recorded run. What a computation learns about the outside, it learns from the
answers to its events; where these are repeated, the run is.
-/

namespace Fallible

namespace Logged

variable {ε ε' α β ω ω' : Type}

/-- Every event of a log is answered alike, each after the events before it. -/
def Agreed (alike : List ω → ω → Prop) : List ω → List ω → Prop
  | _, [] => True
  | history, event :: log => alike history event ∧ Agreed alike (history ++ [event]) log

variable {alike : List ω → ω → Prop} {history : List ω}

theorem agreed_append {left right : List ω}
    : Agreed alike history (left ++ right)
      ↔ Agreed alike history left ∧ Agreed alike (history ++ left) right := by
  induction left generalizing history with
  | nil => simp [Agreed]
  | cons event left ih =>
      rw [List.cons_append, Agreed, Agreed, ih, and_assoc, List.append_assoc]
      rfl

/-- Events that are answered alike after any of the events before them agree. Witness:
induction on the log, whose first event joins the history.
-/
theorem agreed_of_splits {log : List ω}
    (each : ∀ before event after, log = before ++ event :: after
      → alike (history ++ before) event)
    : Agreed alike history log := by
  induction log generalizing history with
  | nil => trivial
  | cons first log ih =>
      have here := each [] first log rfl
      rw [List.append_nil] at here
      refine ⟨here, ih ?_⟩
      intro before event after splits
      have later := each (first :: before) event after (congrArg (first :: ·) splits)
      rw [List.append_assoc]
      exact later

/-- Agreement on labelled events is agreement on what the labels stand for. -/
theorem agreed_map {event : ω' → ω} {inner log : List ω'}
    : Agreed alike (history ++ inner.map event) (log.map event)
      ↔ Agreed (fun past next => alike (history ++ past.map event) (event next)) inner log := by
  induction log generalizing inner with
  | nil => exact Iff.rfl
  | cons first log ih =>
      rw [List.map_cons, Agreed, Agreed, ← ih, List.map_append, List.append_assoc]
      rfl

/-- Agreement by a weaker relation. -/
theorem Agreed.imp {weaker : List ω → ω → Prop} {log : List ω}
    (agreed : Agreed alike history log)
    (implies : ∀ past event, alike past event → weaker past event)
    : Agreed weaker history log := by
  induction log generalizing history with
  | nil => trivial
  | cons event log ih => exact ⟨implies _ _ agreed.1, ih agreed.2⟩

/-- The replay is the recorded run, as soon as the recorded events are answered alike. -/
def Replays (alike : List ω → ω → Prop) (history : List ω) (recorded replay : Logged ω ε α)
    : Prop :=
  Agreed alike history recorded.log → replay = recorded

theorem Replays.refl (run : Logged ω ε α) : Replays alike history run run :=
  fun _ => rfl

theorem Replays.perform {event : ω} {recorded replay : Except ε α}
    (answers : alike history event → replay = recorded)
    : Replays alike history (Logged.perform event recorded) (Logged.perform event replay) := by
  intro agreed
  rw [answers agreed.1]

/-- A sequence is replayed part by part, the second after the events of the first. -/
theorem Replays.bind {recorded replay : Logged ω ε α}
    {recordedNext replayNext : α → Logged ω ε β}
    (first : Replays alike history recorded replay)
    (later : ∀ value, recorded.outcome = .ok value
      → Replays alike (history ++ recorded.log) (recordedNext value) (replayNext value))
    : Replays alike history (recorded >>= recordedNext) (replay >>= replayNext) := by
  intro agreed
  cases outcome : recorded.outcome with
  | error error =>
      rw [log_bind_of_error outcome] at agreed
      rw [first agreed, bind_of_error outcome, bind_of_error outcome]
  | ok value =>
      rw [log_bind_of_ok outcome, agreed_append] at agreed
      have rest := later value outcome agreed.2
      rw [first agreed.1, bind_of_ok outcome, bind_of_ok outcome, rest]

/-- A labelled run is replayed when the run is. -/
theorem Replays.relabel {inside : List ω' → ω' → Prop} {recorded replay : Logged ω' ε' α}
    {event : ω' → ω} {wrap : ε' → ε} (run : Replays inside [] recorded replay)
    (answers : ∀ past next, alike (history ++ past.map event) (event next) → inside past next)
    : Replays alike history (recorded.relabel event wrap) (replay.relabel event wrap) := by
  intro agreed
  rw [log_relabel, ← List.append_nil history] at agreed
  rw [run ((agreed_map.mp agreed).imp answers)]

/-- Wrapping the errors changes nothing about the events. -/
theorem Replays.relabel_id {recorded replay : Logged ω ε' α} {wrap : ε' → ε}
    (run : Replays alike history recorded replay)
    : Replays alike history (recorded.relabel id wrap) (replay.relabel id wrap) := by
  intro agreed
  rw [log_relabel, List.map_id] at agreed
  rw [run agreed]

/-- A traversal is replayed element by element, by induction on the list. -/
theorem Replays.traverse {recorded replay : α → Logged ω ε β} {values : List α}
    (each : ∀ value ∈ values, ∀ history, Replays alike history (recorded value) (replay value))
    : Replays alike history (Logged.traverse recorded values)
        (Logged.traverse replay values) := by
  induction values generalizing history with
  | nil => exact Replays.refl _
  | cons value values ih =>
      obtain ⟨here, later⟩ := List.forall_mem_cons.mp each
      apply (here history).bind
      intro result _
      apply (ih later).bind
      exact fun results _ => Replays.refl _

end Logged

end Fallible
