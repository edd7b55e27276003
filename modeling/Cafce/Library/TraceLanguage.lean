import Cafce.Library.Fallible
import Mathlib

/-! Logs as words: the languages of what a computation logs when it succeeds and when it
fails, composed as the computation is.
-/

namespace Fallible

namespace Logged

variable {ε ε' α β ι ω ω' : Type}

/-- The word of one event. -/
def just (event : ω) : Language ω :=
  {[event]}

/-- The words of one event of a kind. -/
def anyOf (kind : ι → ω) : Language ω :=
  Set.range fun index => [kind index]

/-- At most `count` words of a language, one after another. -/
def atMost (count : Nat) (L : Language ω) : Language ω :=
  (1 + L) ^ count

theorem mem_just {event : ω} {word : List ω} : word ∈ just event ↔ word = [event] :=
  Iff.rfl

theorem just_le_anyOf (kind : ι → ω) (index : ι) : just (kind index) ≤ anyOf kind := by
  intro word member
  exact ⟨index, (mem_just.mp member).symm⟩

theorem one_le_one_add (L : Language ω) : 1 ≤ 1 + L := by
  intro word member
  exact (Language.mem_add _ _ _).mpr (Or.inl member)

theorem le_one_add (L : Language ω) : L ≤ 1 + L := by
  intro word member
  exact (Language.mem_add _ _ _).mpr (Or.inr member)

theorem atMost_succ (count : Nat) (L : Language ω)
    : atMost (count + 1) L = (1 + L) * atMost count L :=
  pow_succ' _ _

theorem one_le_atMost (count : Nat) (L : Language ω) : 1 ≤ atMost count L :=
  one_le_pow_of_one_le' (one_le_one_add L) count

theorem atMost_mono {fewer more : Nat} (bound : fewer ≤ more) (L : Language ω)
    : atMost fewer L ≤ atMost more L :=
  pow_le_pow_right' (one_le_one_add L) bound

theorem pow_le_atMost (count : Nat) (L : Language ω) : L ^ count ≤ atMost count L :=
  pow_le_pow_left' (le_one_add L) count

theorem le_atMost_one (L : Language ω) : L ≤ atMost 1 L := by
  calc L = L ^ 1 := (pow_one L).symm
    _ ≤ atMost 1 L := pow_le_atMost 1 L

/-- Words of at most so many events of a kind, seen from outside. -/
theorem map_mem_atMost {event : ω → ω'} {kind : ι → ω} {count : Nat} {word : List ω}
    (member : word ∈ atMost count (anyOf kind))
    : word.map event ∈ atMost count (anyOf (event ∘ kind)) := by
  have kinds : Language.map event (anyOf kind) = anyOf (event ∘ kind) := by
    change Set.image (List.map event) (Set.range _) = Set.range _
    rw [← Set.range_comp]
    rfl
  rw [atMost, ← kinds, ← map_one (Language.map event), ← map_add, ← map_pow]
  exact ⟨word, member, rfl⟩

/-- The log is a word of one language after a success and of another after a failure, which
the error picks.
-/
structure Speaks (run : Logged ω ε α) (success : Language ω) (failure : ε → Language ω)
    : Prop where
  onSuccess : ∀ value, run.outcome = .ok value → run.log ∈ success
  onFailure : ∀ error, run.outcome = .error error → run.log ∈ failure error

variable {S T : Language ω} {F G : ε → Language ω}

theorem Speaks.mono {run : Logged ω ε α} (speaks : Speaks run S F) (success : S ≤ T)
    (failure : ∀ error, F error ≤ G error)
    : Speaks run T G where
  onSuccess := fun value outcome => success (speaks.onSuccess value outcome)
  onFailure := fun error outcome => failure error (speaks.onFailure error outcome)

/-- A computation without events. -/
theorem Speaks.quiet {outcome : Except ε α}
    (failure : ∀ error, outcome = .error error → 1 ≤ F error)
    : Speaks (Logged.quiet outcome) 1 F where
  onSuccess := fun _ _ => Language.nil_mem_one
  onFailure := fun error failed => failure error failed Language.nil_mem_one

/-- One event. -/
theorem Speaks.perform {event : ω} {outcome : Except ε α} (success : just event ≤ S)
    (failure : ∀ error, outcome = .error error → S ≤ F error)
    : Speaks (Logged.perform event outcome) S F where
  onSuccess := fun _ _ => success rfl
  onFailure := fun error failed => failure error failed (success rfl)

/-- A computation without events whose errors are all wrapped. -/
theorem Speaks.quiet_mapError {F : ε' → Language ω} {outcome : Except ε α} {wrap : ε → ε'}
    (failure : ∀ error, 1 ≤ F (wrap error))
    : Speaks (Logged.quiet (outcome.mapError wrap)) 1 F := by
  apply Speaks.quiet
  intro error failed
  obtain ⟨inner, _, rfl⟩ := mapError_eq_error_iff.mp failed
  exact failure inner

/-- One event whose errors are all wrapped. -/
theorem Speaks.perform_mapError {F : ε' → Language ω} {event : ω} {outcome : Except ε α}
    {wrap : ε → ε'} (success : just event ≤ S) (failure : ∀ error, S ≤ F (wrap error))
    : Speaks (Logged.perform event (outcome.mapError wrap)) S F := by
  apply Speaks.perform success
  intro error failed
  obtain ⟨inner, _, rfl⟩ := mapError_eq_error_iff.mp failed
  exact failure inner

/-- A sequence speaks both languages in turn; where it fails, the first alone or both. -/
theorem Speaks.bind {first : Logged ω ε α} {next : α → Logged ω ε β}
    (speaks : Speaks first S F)
    (later : ∀ value, first.outcome = .ok value → Speaks (next value) T G)
    : Speaks (first >>= next) (S * T) (fun error => F error + S * G error) := by
  cases outcome : first.outcome with
  | error error =>
      have logged := speaks.onFailure error outcome
      refine ⟨?_, ?_⟩
      · intro value success
        rw [outcome_bind, outcome] at success
        cases success
      · intro other failure
        rw [outcome_bind, outcome] at failure
        obtain rfl := Except.error.inj failure
        rw [log_bind_of_error outcome]
        exact (Language.mem_add _ _ _).mpr (Or.inl logged)
  | ok value =>
      have logged := speaks.onSuccess value outcome
      refine ⟨?_, ?_⟩
      · intro result success
        rw [outcome_bind, outcome] at success
        rw [log_bind_of_ok outcome]
        exact Language.append_mem_mul logged ((later value outcome).onSuccess result success)
      · intro error failure
        rw [outcome_bind, outcome] at failure
        rw [log_bind_of_ok outcome]
        exact (Language.mem_add _ _ _).mpr
          (Or.inr (Language.append_mem_mul logged
            ((later value outcome).onFailure error failure)))

/-- A run whose log, seen from outside, is in one language anyhow. -/
theorem Speaks.relabel_of_log {run : Logged ω ε α} {S : Language ω'} {F : ε' → Language ω'}
    {event : ω → ω'} {wrap : ε → ε'} (logged : run.log.map event ∈ S)
    (failure : ∀ error, S ≤ F (wrap error))
    : Speaks (run.relabel event wrap) S F where
  onSuccess := fun _ _ => logged
  onFailure := by
    intro error failed
    obtain ⟨inner, _, rfl⟩ := mapError_eq_error_iff.mp failed
    exact failure inner logged

/-- Wrapping the errors of a run. -/
theorem Speaks.relabel_id {run : Logged ω ε α} {G : ε' → Language ω} {wrap : ε → ε'}
    (speaks : Speaks run S F) (failure : ∀ error, F error ≤ G (wrap error))
    : Speaks (run.relabel id wrap) S G where
  onSuccess := by
    intro value success
    rw [outcome_relabel, mapError_eq_ok_iff] at success
    rw [log_relabel, List.map_id]
    exact speaks.onSuccess value success
  onFailure := by
    intro error failed
    obtain ⟨inner, outcome, rfl⟩ := mapError_eq_error_iff.mp failed
    rw [log_relabel, List.map_id]
    exact failure inner (speaks.onFailure inner outcome)

/-- A log goes on as long as the parts succeed, so what may come last may be missing. -/
theorem log_bind_mem {first : Logged ω ε α} {next : α → Logged ω ε β}
    (logged : first.log ∈ S) (empty : 1 ≤ T)
    (later : ∀ value, first.outcome = .ok value → (next value).log ∈ T)
    : (first >>= next).log ∈ S * T := by
  cases outcome : first.outcome with
  | error error =>
      rw [log_bind_of_error outcome, ← List.append_nil first.log]
      exact Language.append_mem_mul logged (empty Language.nil_mem_one)
  | ok value =>
      rw [log_bind_of_ok outcome]
      exact Language.append_mem_mul logged (later value outcome)

/-- A traversal logs at most a word for each element, by induction on the list. -/
theorem log_traverse_mem {f : α → Logged ω ε β} {values : List α}
    (each : ∀ value ∈ values, (f value).log ∈ S)
    : (traverse f values).log ∈ atMost values.length S := by
  induction values with
  | nil => exact Language.nil_mem_one
  | cons value values ih =>
      obtain ⟨here, later⟩ := List.forall_mem_cons.mp each
      rw [traverse, List.length_cons, atMost_succ]
      apply log_bind_mem (le_one_add S here) (one_le_atMost _ S)
      intro result _
      rw [log_bind_of_silent fun _ => log_pure _]
      exact ih later

-----------------------------------------------------------------------------------------
-- Words of harmless events
-----------------------------------------------------------------------------------------

/-- The words whose events all have a property. -/
def within (p : ω → Prop) : Language ω :=
  {word | ∀ event ∈ word, p event}

section Within

variable {p : ω → Prop} {L M : Language ω}

theorem one_le_within : 1 ≤ within p := by
  intro word member
  rw [(Language.mem_one word).mp member]
  simp [within]

theorem just_le_within {event : ω} (here : p event) : just event ≤ within p := by
  intro word member other inside
  rw [mem_just.mp member] at inside
  rw [List.mem_singleton.mp inside]
  exact here

theorem anyOf_le_within {kind : ι → ω} (each : ∀ index, p (kind index))
    : anyOf kind ≤ within p := by
  intro word member event inside
  obtain ⟨index, rfl⟩ := member
  rw [List.mem_singleton.mp inside]
  exact each index

theorem mul_le_within (left : L ≤ within p) (right : M ≤ within p) : L * M ≤ within p := by
  intro word member event inside
  obtain ⟨first, inLeft, second, inRight, rfl⟩ := Language.mem_mul.mp member
  rcases List.mem_append.mp inside with here | later
  · exact left inLeft event here
  · exact right inRight event later

theorem pow_le_within (count : Nat) (each : L ≤ within p) : L ^ count ≤ within p := by
  induction count with
  | zero =>
      rw [pow_zero]
      exact one_le_within
  | succ count ih =>
      rw [pow_succ]
      exact mul_le_within ih each

theorem atMost_le_within (count : Nat) (each : L ≤ within p) : atMost count L ≤ within p :=
  pow_le_within count (sup_le one_le_within each)

theorem kstar_le_within (each : L ≤ within p) : KStar.kstar L ≤ within p := by
  intro word member event inside
  obtain ⟨words, rfl, parts⟩ := Language.mem_kstar.mp member
  obtain ⟨part, member, here⟩ := List.mem_flatten.mp inside
  exact each (parts part member) event here

end Within

-----------------------------------------------------------------------------------------
-- Words cut off before an event
-----------------------------------------------------------------------------------------

/-- What stands before an event with a property in the words of a language. -/
def cutBefore (p : ω → Prop) (L : Language ω) : Language ω :=
  {word | ∃ event later, p event ∧ word ++ event :: later ∈ L}

section CutBefore

variable {p : ω → Prop} {L M : Language ω}

theorem cutBefore_of_le_within (free : L ≤ within fun event => ¬ p event)
    : cutBefore p L = 0 := by
  ext word
  constructor
  · intro cut
    obtain ⟨event, later, here, member⟩ := cut
    exact absurd here (free member event (by simp))
  · intro member
    exact absurd member (Language.notMem_zero word)

theorem cutBefore_anyOf_le (kind : ι → ω) : cutBefore p (anyOf kind) ≤ 1 := by
  intro word cut
  obtain ⟨event, later, _, index, single⟩ := cut
  have length := congrArg List.length single
  simp only [List.length_append, List.length_cons, List.length_nil] at length
  exact (Language.mem_one word).mpr (List.length_eq_zero_iff.mp (by omega))

/-- A word of a product is cut in its first part, or in its second part after the first. -/
theorem cutBefore_mul_le : cutBefore p (L * M) ≤ cutBefore p L + L * cutBefore p M := by
  intro word cut
  obtain ⟨event, later, here, member⟩ := cut
  obtain ⟨left, inLeft, right, inRight, joined⟩ := Language.mem_mul.mp member
  rcases List.append_eq_append_iff.mp joined with ⟨between, rfl, rest⟩ | ⟨between, rfl, rest⟩
  · exact (Language.mem_add _ _ _).mpr (Or.inr
      (Language.append_mem_mul inLeft ⟨event, later, here, rest ▸ inRight⟩))
  · cases between with
    | nil =>
        refine (Language.mem_add _ _ _).mpr (Or.inr ?_)
        rw [List.append_nil] at inLeft
        rw [← List.append_nil word]
        exact Language.append_mem_mul inLeft ⟨event, later, here, rest ▸ inRight⟩
    | cons first between =>
        obtain ⟨rfl, _⟩ := List.cons.inj rest
        exact (Language.mem_add _ _ _).mpr (Or.inl ⟨event, between, here, inLeft⟩)

theorem cutBefore_mul_le_of_free (free : L ≤ within fun event => ¬ p event)
    : cutBefore p (L * M) ≤ L * cutBefore p M := by
  have parts := @cutBefore_mul_le ω p L M
  rwa [cutBefore_of_le_within free, zero_add] at parts

/-- All but the last factor may stand before the cut, by induction on their number. -/
theorem cutBefore_pow_le (count : Nat) (single : cutBefore p L ≤ 1)
    : cutBefore p (L ^ (count + 1)) ≤ atMost count L := by
  induction count with
  | zero =>
      rw [zero_add, pow_one]
      exact single
  | succ count ih =>
      calc cutBefore p (L ^ (count + 1 + 1))
          ≤ cutBefore p L + L * cutBefore p (L ^ (count + 1)) := by
            rw [pow_succ' L (count + 1)]
            exact cutBefore_mul_le
        _ ≤ atMost count L + L * atMost count L :=
            add_le_add (single.trans (one_le_atMost count L)) (mul_le_mul_right ih L)
        _ = atMost (count + 1) L := by
            rw [atMost_succ, add_mul, one_mul]

end CutBefore

end Logged

end Fallible
