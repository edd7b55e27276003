import Mathlib.Data.List.Forall2

/-! Computations that may fail, one after another and over lists, and computations that
also keep a log of what they did. The log survives a failure.
-/

namespace Fallible

variable {ε ε' α β γ δ ω ω' : Type}

@[simp] theorem ok_bind (value : α) (next : α → Except ε β)
    : (Except.ok value >>= next) = next value := rfl

@[simp] theorem error_bind (error : ε) (next : α → Except ε β)
    : (Except.error error >>= next) = .error error := rfl

@[simp] theorem pure_eq (value : α) : (pure value : Except ε α) = .ok value := rfl

@[simp] theorem throw_eq (error : ε) : (throw error : Except ε α) = .error error := rfl

/-- A sequence succeeds when both of its parts do. -/
theorem bind_eq_ok_iff {first : Except ε α} {next : α → Except ε β} {result : β}
    : (first >>= next) = .ok result ↔ ∃ value, first = .ok value ∧ next value = .ok result := by
  cases first <;> simp

/-- A sequence fails where its first failing part does. -/
theorem bind_eq_error_iff {first : Except ε α} {next : α → Except ε β} {error : ε}
    : (first >>= next) = .error error
      ↔ first = .error error ∨ ∃ value, first = .ok value ∧ next value = .error error := by
  cases first <;> simp

@[simp] theorem mapError_eq_ok_iff {wrap : ε → ε'} {first : Except ε α} {value : α}
    : first.mapError wrap = .ok value ↔ first = .ok value := by
  cases first <;> simp [Except.mapError]

theorem mapError_eq_error_iff {wrap : ε → ε'} {first : Except ε α} {error : ε'}
    : first.mapError wrap = .error error ↔ ∃ inner, first = .error inner ∧ wrap inner = error := by
  cases first <;> simp [Except.mapError]

/-- A traversal succeeds with the results of its elements, position by position. -/
theorem mapM_eq_ok_iff {f : α → Except ε β} {values : List α} {results : List β}
    : values.mapM f = .ok results
      ↔ List.Forall₂ (fun value result => f value = .ok result) values results := by
  induction values generalizing results with
  | nil => cases results <;> simp
  | cons value values ih =>
      rw [List.mapM_cons, bind_eq_ok_iff]
      cases results with
      | nil => simp [bind_eq_ok_iff]
      | cons result results =>
          simp only [bind_eq_ok_iff, pure_eq, Except.ok.injEq, List.cons.injEq,
            List.forall₂_cons, ← ih]
          constructor
          · intro success
            obtain ⟨first, found, rest, later, rfl, rfl⟩ := success
            exact ⟨found, later⟩
          · intro success
            exact ⟨result, success.1, results, success.2, rfl, rfl⟩

/-- Every element on the right of related lists has its counterpart on the left. -/
theorem exists_left_of_mem {R : α → β → Prop} {lefts : List α} {rights : List β} {right : β}
    (lists : List.Forall₂ R lefts rights) (member : right ∈ rights)
    : ∃ left ∈ lefts, R left right := by
  induction lists with
  | nil => cases member
  | cons here _ ih =>
      rcases List.mem_cons.mp member with rfl | later
      · exact ⟨_, List.mem_cons_self, here⟩
      · obtain ⟨left, inside, related⟩ := ih later
        exact ⟨left, List.mem_cons_of_mem _ inside, related⟩

/-- Every element on the left of related lists has its counterpart on the right. -/
theorem exists_right_of_mem {R : α → β → Prop} {lefts : List α} {rights : List β} {left : α}
    (lists : List.Forall₂ R lefts rights) (member : left ∈ lefts)
    : ∃ right ∈ rights, R left right := by
  have flipped : List.Forall₂ (flip R) rights lefts := List.Forall₂.flip lists
  exact exists_left_of_mem flipped member

/-- Every result of a traversal is the result of one of its elements. -/
theorem exists_of_mem_mapM {f : α → Except ε β} {values : List α} {results : List β}
    {result : β} (success : values.mapM f = .ok results) (member : result ∈ results)
    : ∃ value ∈ values, f value = .ok result := by
  have found := exists_left_of_mem (mapM_eq_ok_iff.mp success) member
  exact found

/-- Every element of a successful traversal has its result among the results. -/
theorem exists_mem_of_mapM {f : α → Except ε β} {values : List α} {results : List β}
    {value : α} (success : values.mapM f = .ok results) (member : value ∈ values)
    : ∃ result ∈ results, f value = .ok result := by
  have found := exists_right_of_mem (mapM_eq_ok_iff.mp success) member
  exact found

/-- A computation succeeds or fails. -/
theorem exists_ok_iff {first : Except ε α}
    : (∃ value, first = .ok value) ↔ ¬ ∃ error, first = .error error := by
  cases first <;> simp

/-- A traversal succeeds exactly when every element does, by induction on the list. -/
theorem exists_mapM_eq_ok_iff {f : α → Except ε β} {values : List α}
    : (∃ results, values.mapM f = .ok results)
      ↔ ∀ value ∈ values, ∃ result, f value = .ok result := by
  constructor
  · intro success value member
    obtain ⟨results, traversed⟩ := success
    obtain ⟨result, _, found⟩ := exists_mem_of_mapM traversed member
    exact ⟨result, found⟩
  · intro each
    induction values with
    | nil => exact ⟨[], rfl⟩
    | cons value values ih =>
        obtain ⟨⟨result, found⟩, later⟩ := List.forall_mem_cons.mp each
        obtain ⟨results, rest⟩ := ih later
        exact ⟨result :: results, by rw [List.mapM_cons, found, rest]; rfl⟩

/-- A traversal fails at the first failing element, after successes only.
Witness: induction on the list; a failure past the head keeps the head among the successes.
-/
theorem mapM_eq_error_iff {f : α → Except ε β} {values : List α} {error : ε}
    : values.mapM f = .error error
      ↔ ∃ before value after,
          values = before ++ value :: after
          ∧ (∀ earlier ∈ before, ∃ result, f earlier = .ok result)
          ∧ f value = .error error := by
  induction values with
  | nil => simp
  | cons value values ih =>
      rw [List.mapM_cons, bind_eq_error_iff]
      constructor
      · intro failure
        rcases failure with here | ⟨result, found, later⟩
        · exact ⟨[], value, values, rfl, by simp, here⟩
        · have rest : values.mapM f = .error error := by
            cases tail : values.mapM f <;> simp_all
          obtain ⟨before, failing, after, rfl, successes, failed⟩ := ih.mp rest
          exact ⟨value :: before, failing, after, rfl,
            List.forall_mem_cons.mpr ⟨⟨result, found⟩, successes⟩, failed⟩
      · intro failure
        obtain ⟨before, failing, after, same, successes, failed⟩ := failure
        cases before with
        | nil =>
            obtain ⟨rfl, rfl⟩ := List.cons.inj same
            exact Or.inl failed
        | cons first before =>
            obtain ⟨rfl, rfl⟩ := List.cons.inj same
            obtain ⟨⟨result, found⟩, later⟩ := List.forall_mem_cons.mp successes
            have rest := ih.mpr ⟨before, failing, after, rfl, later, failed⟩
            exact Or.inr ⟨result, found, by rw [rest, error_bind]⟩

/-- The error of a computation, if any. -/
def failures : Except ε α → List ε
  | .ok _ => []
  | .error error => [error]

/-- A traversal fails with the first of its elements' errors. -/
theorem mapM_eq_error_iff_head? {f : α → Except ε β} {values : List α} {error : ε}
    : values.mapM f = .error error
      ↔ (values.flatMap fun value => failures (f value)).head? = some error := by
  induction values with
  | nil => simp
  | cons value values ih =>
      rw [List.mapM_cons, List.flatMap_cons]
      cases f value with
      | error first => simp [failures]
      | ok result =>
          rw [failures, List.nil_append, ← ih]
          cases values.mapM f <;> simp

/-- A traversal depends on its elements' computations only. -/
theorem mapM_congr {f g : α → Except ε β} {values : List α}
    (agree : ∀ value ∈ values, f value = g value)
    : values.mapM f = values.mapM g := by
  induction values with
  | nil => rfl
  | cons value values ih =>
      obtain ⟨here, later⟩ := List.forall_mem_cons.mp agree
      rw [List.mapM_cons, List.mapM_cons, here, ih later]

/-- Traversals whose elements have the same results have the same results. -/
theorem mapM_eq_ok_congr {f : α → Except ε β} {g : α → Except ε' β} {values : List α}
    {results : List β}
    (agree : ∀ value ∈ values, ∀ result, f value = .ok result ↔ g value = .ok result)
    : values.mapM f = .ok results ↔ values.mapM g = .ok results := by
  induction values generalizing results with
  | nil => cases results <;> simp
  | cons value values ih =>
      obtain ⟨here, later⟩ := List.forall_mem_cons.mp agree
      simp only [List.mapM_cons, bind_eq_ok_iff, here, ih later, pure_eq, Except.ok.injEq]

/-- A function of the results can be applied after the traversal. -/
theorem mapM_map_outcome (f : α → Except ε β) (g : β → γ) (values : List α)
    : (values.mapM fun value => (f value).map g) = (values.mapM f).map (List.map g) := by
  induction values with
  | nil => rfl
  | cons value values ih =>
      rw [List.mapM_cons, List.mapM_cons, ih]
      cases f value with
      | error error => rfl
      | ok result => cases values.mapM f <;> rfl

/-- A loop whose steps fail or not whatever was accumulated is a traversal and then a fold. -/
theorem foldlM_eq_mapM {merge : γ → β → γ} {select : α → Except ε β} (known : γ)
    (values : List α)
    : values.foldlM (fun known value => (select value).map (merge known)) known
      = (values.mapM select).map fun found => found.foldl merge known := by
  induction values generalizing known with
  | nil => rfl
  | cons value values ih =>
      rw [List.foldlM_cons, List.mapM_cons]
      cases select value with
      | error error => rfl
      | ok found =>
          rw [ok_bind, Except.map, ok_bind, ih (merge known found)]
          cases values.mapM select <;> rfl

/-- Two computations that fail with related errors or succeed with related values. -/
def Related (E : ε → ε' → Prop) (V : α → β → Prop) : Except ε α → Except ε' β → Prop
  | .ok left, .ok right => V left right
  | .error left, .error right => E left right
  | _, _ => False

variable {E : ε → ε' → Prop} {V : α → β → Prop} {W : γ → δ → Prop}

/-- What is related to a success is a success. -/
theorem Related.exists_of_ok {left : Except ε α} {right : Except ε' β} {a : α}
    (related : Related E V left right) (success : left = .ok a)
    : ∃ b, right = .ok b ∧ V a b := by
  subst success
  cases right with
  | error error => exact False.elim related
  | ok b => exact ⟨b, rfl, related⟩

/-- What is related to a failure is a failure. -/
theorem Related.exists_of_error {left : Except ε α} {right : Except ε' β} {error : ε}
    (related : Related E V left right) (failure : left = .error error)
    : ∃ other, right = .error other ∧ E error other := by
  subst failure
  cases right with
  | error other => exact ⟨other, rfl, related⟩
  | ok b => exact False.elim related

theorem related_ok_iff {a : α} {right : Except ε' β}
    : Related E V (.ok a) right ↔ ∃ b, right = .ok b ∧ V a b :=
  ⟨fun related => related.exists_of_ok rfl, fun ⟨_, success, values⟩ => success ▸ values⟩

/-- Related first parts and related continuations give related sequences. -/
theorem Related.bind {left : Except ε α} {right : Except ε' β} {leftNext : α → Except ε γ}
    {rightNext : β → Except ε' δ} (first : Related E V left right)
    (next : ∀ a b, V a b → Related E W (leftNext a) (rightNext b))
    : Related E W (left >>= leftNext) (right >>= rightNext) := by
  cases left <;> cases right
  · exact first
  · exact False.elim first
  · exact False.elim first
  · exact next _ _ first

theorem Related.mapError {D : γ → δ → Prop} {left : Except ε α} {right : Except ε' β}
    {f : ε → γ} {g : ε' → δ} (related : Related E V left right)
    (wrapped : ∀ a b, E a b → D (f a) (g b))
    : Related D V (left.mapError f) (right.mapError g) := by
  cases left <;> cases right
  · exact wrapped _ _ related
  · exact related
  · exact related
  · exact related

/-- Traversals of related lists are related, by induction on the lists. -/
theorem Related.mapM {U : α → β → Prop} {f : α → Except ε γ} {g : β → Except ε' δ}
    {lefts : List α} {rights : List β} (lists : List.Forall₂ U lefts rights)
    (each : ∀ a b, U a b → Related E W (f a) (g b))
    : Related E (List.Forall₂ W) (lefts.mapM f) (rights.mapM g) := by
  induction lists with
  | nil => exact List.Forall₂.nil
  | cons first _ ih =>
      rw [List.mapM_cons, List.mapM_cons]
      apply (each _ _ first).bind
      intro a b here
      exact ih.bind fun _ _ rest => List.Forall₂.cons here rest

-----------------------------------------------------------------------------------------
-- Computations with a log
-----------------------------------------------------------------------------------------

/-- A fallible computation and the log of its events, in order. -/
structure Logged (ω ε α : Type) where
  outcome : Except ε α
  log : List ω

namespace Logged

/-- A computation without events. -/
def quiet (outcome : Except ε α) : Logged ω ε α :=
  { outcome, log := [] }

/-- One event and what comes of it. -/
def perform (event : ω) (outcome : Except ε α) : Logged ω ε α :=
  { outcome, log := [event] }

/-- The second computation runs after the first succeeded; its events come after. -/
def bind (first : Logged ω ε α) (next : α → Logged ω ε β) : Logged ω ε β :=
  match first.outcome with
  | .ok value => { outcome := (next value).outcome, log := first.log ++ (next value).log }
  | .error error => { outcome := .error error, log := first.log }

/-- The same computation, with its events and its error seen from outside. -/
def relabel (event : ω → ω') (wrap : ε → ε') (first : Logged ω ε α) : Logged ω' ε' α :=
  { outcome := first.outcome.mapError wrap, log := first.log.map event }

instance : Monad (Logged ω ε) where
  pure value := quiet (.ok value)
  bind := bind

@[simp] theorem outcome_quiet (outcome : Except ε α)
    : (quiet outcome : Logged ω ε α).outcome = outcome := rfl

@[simp] theorem log_quiet (outcome : Except ε α)
    : (quiet outcome : Logged ω ε α).log = [] := rfl

@[simp] theorem outcome_perform (event : ω) (outcome : Except ε α)
    : (perform event outcome).outcome = outcome := rfl

@[simp] theorem log_perform (event : ω) (outcome : Except ε α)
    : (perform event outcome).log = [event] := rfl

@[simp] theorem outcome_pure (value : α)
    : (pure value : Logged ω ε α).outcome = .ok value := rfl

@[simp] theorem log_pure (value : α) : (pure value : Logged ω ε α).log = [] := rfl

theorem perform_ok_bind (event : ω) (value : α) (next : α → Logged ω ε β)
    : (perform event (.ok value) >>= next)
      = { outcome := (next value).outcome, log := event :: (next value).log } := rfl

@[simp] theorem outcome_relabel (event : ω → ω') (wrap : ε → ε') (first : Logged ω ε α)
    : (first.relabel event wrap).outcome = first.outcome.mapError wrap := rfl

@[simp] theorem log_relabel (event : ω → ω') (wrap : ε → ε') (first : Logged ω ε α)
    : (first.relabel event wrap).log = first.log.map event := rfl

@[simp] theorem outcome_bind (first : Logged ω ε α) (next : α → Logged ω ε β)
    : (first >>= next).outcome = first.outcome >>= fun value => (next value).outcome := by
  change (Logged.bind first next).outcome = _
  rw [Logged.bind]
  cases first.outcome <;> rfl

/-- What follows a success, after its events. -/
theorem bind_of_ok {first : Logged ω ε α} {next : α → Logged ω ε β} {value : α}
    (success : first.outcome = .ok value)
    : (first >>= next)
      = { outcome := (next value).outcome, log := first.log ++ (next value).log } := by
  change Logged.bind first next = _
  rw [Logged.bind, success]

/-- Nothing follows a failure. -/
theorem bind_of_error {first : Logged ω ε α} {next : α → Logged ω ε β} {error : ε}
    (failure : first.outcome = .error error)
    : (first >>= next) = { outcome := .error error, log := first.log } := by
  change Logged.bind first next = _
  rw [Logged.bind, failure]

/-- After a success the log goes on with the events of what follows. -/
theorem log_bind_of_ok {first : Logged ω ε α} {next : α → Logged ω ε β} {value : α}
    (success : first.outcome = .ok value)
    : (first >>= next).log = first.log ++ (next value).log := by
  change (Logged.bind first next).log = _
  rw [Logged.bind, success]

/-- After a failure nothing is logged. -/
theorem log_bind_of_error {first : Logged ω ε α} {next : α → Logged ω ε β} {error : ε}
    (failure : first.outcome = .error error)
    : (first >>= next).log = first.log := by
  change (Logged.bind first next).log = _
  rw [Logged.bind, failure]

/-- What logs nothing leaves the log of what comes before. -/
theorem log_bind_of_silent {first : Logged ω ε α} {next : α → Logged ω ε β}
    (silent : ∀ value, (next value).log = [])
    : (first >>= next).log = first.log := by
  cases outcome : first.outcome with
  | error error => exact log_bind_of_error outcome
  | ok value => rw [log_bind_of_ok outcome, silent, List.append_nil]

/-- The events of a sequence are those of its first part and those of what ran after it. -/
theorem mem_log_bind {first : Logged ω ε α} {next : α → Logged ω ε β} {event : ω}
    : event ∈ (first >>= next).log
      ↔ event ∈ first.log ∨ ∃ value, first.outcome = .ok value ∧ event ∈ (next value).log := by
  change event ∈ (Logged.bind first next).log ↔ _
  rw [Logged.bind]
  cases first.outcome <;> simp

/-- One computation after another over a list. -/
def traverse (f : α → Logged ω ε β) : List α → Logged ω ε (List β)
  | [] => pure []
  | value :: values => do
      let result ← f value
      let results ← traverse f values
      return result :: results

@[simp] theorem outcome_traverse (f : α → Logged ω ε β) (values : List α)
    : (traverse f values).outcome = values.mapM fun value => (f value).outcome := by
  induction values with
  | nil => rfl
  | cons value values ih => simp [traverse, ih, List.mapM_cons]

/-- What a traversal logs: the events of elements that succeed, and then those of the rest. -/
theorem log_traverse_append {f : α → Logged ω ε β} {before : List α}
    (successes : ∀ value ∈ before, ∃ result, (f value).outcome = .ok result) (rest : List α)
    : (traverse f (before ++ rest)).log
      = (before.flatMap fun value => (f value).log) ++ (traverse f rest).log := by
  induction before with
  | nil => rfl
  | cons value before ih =>
      obtain ⟨⟨result, success⟩, later⟩ := List.forall_mem_cons.mp successes
      rw [List.cons_append, traverse, log_bind_of_ok success,
        log_bind_of_silent fun _ => log_pure _, ih later, List.flatMap_cons, List.append_assoc]

/-- Every event of a traversal belongs to one of its elements. -/
theorem mem_log_traverse {f : α → Logged ω ε β} {values : List α} {event : ω}
    (member : event ∈ (traverse f values).log)
    : ∃ value ∈ values, event ∈ (f value).log := by
  induction values with
  | nil => simp [traverse] at member
  | cons value values ih =>
      rw [traverse, mem_log_bind] at member
      rcases member with here | ⟨result, _, later⟩
      · exact ⟨value, List.mem_cons_self, here⟩
      · rw [mem_log_bind] at later
        rcases later with rest | ⟨results, _, none⟩
        · obtain ⟨found, inside, logged⟩ := ih rest
          exact ⟨found, List.mem_cons_of_mem _ inside, logged⟩
        · simp at none

end Logged

end Fallible
