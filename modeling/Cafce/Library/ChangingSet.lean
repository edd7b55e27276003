import Mathlib.Data.Nat.Find
import Mathlib.Data.Set.Insert

/-! Looking keys up one after another in a set that others change meanwhile. Each lookup sees
the set of its own moment; the lookups end at the first key that is there.
-/

namespace ChangingSet

variable {κ : Type*}

/-- Some lookup finds its key. -/
def Found (state : Nat → Set κ) (keys : List κ) : Prop :=
  ∃ index, ∃ key ∈ keys[index]?, key ∈ state index

/-- The lookup of a position finds its key, and no lookup before it does. -/
structure FoundAt (state : Nat → Set κ) (keys : List κ) (index : Nat) (key : κ) : Prop where
  here : keys[index]? = some key
  present : key ∈ state index
  earlier : ∀ before < index, ∀ k ∈ keys[before]?, k ∉ state before

/-- Where some lookup finds its key, one is the first. -/
theorem found_iff_exists_foundAt {state : Nat → Set κ} {keys : List κ}
    : Found state keys ↔ ∃ index key, FoundAt state keys index key := by
  classical
  constructor
  · intro found
    obtain ⟨key, here, present⟩ := Nat.find_spec found
    refine ⟨Nat.find found, key, here, present, ?_⟩
    intro before below k placed there
    exact Nat.find_min found below ⟨k, placed, there⟩
  · intro found
    obtain ⟨index, key, foundAt⟩ := found
    exact ⟨index, key, foundAt.here, foundAt.present⟩

theorem not_found_iff {state : Nat → Set κ} {keys : List κ}
    : ¬ Found state keys ↔ ∀ index, ∀ key ∈ keys[index]?, key ∉ state index := by
  simp [Found]

/-- In a set that nobody changes, a lookup finds its key when one of the keys is there. -/
theorem found_const_iff {set : Set κ} {keys : List κ}
    : Found (fun _ => set) keys ↔ ∃ key ∈ keys, key ∈ set := by
  constructor
  · intro found
    obtain ⟨index, key, here, present⟩ := found
    exact ⟨key, List.mem_of_getElem? here, present⟩
  · intro there
    obtain ⟨key, member, present⟩ := there
    obtain ⟨index, here⟩ := List.mem_iff_getElem?.mp member
    exact ⟨index, key, here, present⟩

/-- A key that is there at every lookup is found. -/
theorem found_of_throughout {state : Nat → Set κ} {keys : List κ} {key : κ}
    (member : key ∈ keys) (throughout : ∀ index < keys.length, key ∈ state index)
    : Found state keys := by
  obtain ⟨index, here⟩ := List.mem_iff_getElem?.mp member
  exact ⟨index, key, here, throughout index (List.getElem?_eq_some_iff.mp here).1⟩

/-- That some key is there at every lookup is not enough: one that moves from a later key to
an earlier one in between is missed.
-/
example : ¬ Found (fun index => if index = 0 then {"b"} else {"a"}) ["a", "b"] := by
  rw [not_found_iff]
  intro index key here
  rcases index with _ | _ | index
  · obtain rfl : "a" = key := by simpa using here
    simp
  · obtain rfl : "b" = key := by simpa using here
    simp
  · simp at here

-----------------------------------------------------------------------------------------
-- What others do between the lookups
-----------------------------------------------------------------------------------------

/-- What another client does to the set. -/
inductive Change (κ : Type*)
  | add (key : κ)
  | remove (key : κ)

/-- The set after a change. -/
def Change.apply (set : Set κ) : Change κ → Set κ
  | .add key => insert key set
  | .remove key => set \ {key}

/-- The set at each lookup, after the changes that others made before it. -/
def during (start : Set κ) (others : Nat → List (Change κ)) : Nat → Set κ
  | 0 => (others 0).foldl Change.apply start
  | index + 1 => (others (index + 1)).foldl Change.apply (during start others index)

/-- What every change keeps, a run of changes keeps. -/
theorem foldl_apply_induction {P : Set κ → Prop} {changes : List (Change κ)} {set : Set κ}
    (initial : P set) (keeps : ∀ change ∈ changes, ∀ set, P set → P (change.apply set))
    : P (changes.foldl Change.apply set) := by
  induction changes generalizing set with
  | nil => exact initial
  | cons change changes ih =>
      obtain ⟨here, later⟩ := List.forall_mem_cons.mp keeps
      exact ih (here set initial) later

/-- What every change up to a lookup keeps holds at it. -/
theorem during_induction {P : Set κ → Prop} {start : Set κ} {others : Nat → List (Change κ)}
    {index : Nat} (initial : P start)
    (keeps : ∀ moment ≤ index, ∀ change ∈ others moment, ∀ set, P set → P (change.apply set))
    : P (during start others index) := by
  induction index with
  | zero => exact foldl_apply_induction initial (keeps 0 (Nat.le_refl 0))
  | succ index ih =>
      apply foldl_apply_induction _ (keeps (index + 1) (Nat.le_refl _))
      exact ih fun moment bound => keeps moment (Nat.le_succ_of_le bound)

/-- A key that was there stays, as long as nobody removes it. -/
theorem mem_during {start : Set κ} {others : Nat → List (Change κ)} {key : κ} {index : Nat}
    (there : key ∈ start) (kept : ∀ moment ≤ index, .remove key ∉ others moment)
    : key ∈ during start others index := by
  apply during_induction (P := fun set => key ∈ set) there
  intro moment bound change made set present
  cases change with
  | add other => exact Set.mem_insert_of_mem other present
  | remove other =>
      refine ⟨present, ?_⟩
      intro same
      obtain rfl : key = other := same
      exact kept moment bound made

/-- A key that is there was there at the start, or somebody added it. -/
theorem start_or_added {start : Set κ} {others : Nat → List (Change κ)} {key : κ}
    {index : Nat} (present : key ∈ during start others index)
    : key ∈ start ∨ ∃ moment ≤ index, .add key ∈ others moment := by
  apply during_induction
    (P := fun set => key ∈ set → key ∈ start ∨ ∃ moment ≤ index, .add key ∈ others moment)
    Or.inl _ present
  intro moment bound change made set before
  cases change with
  | add other =>
      intro after
      rcases after with rfl | old
      · exact Or.inr ⟨moment, bound, made⟩
      · exact before old
  | remove other => exact fun after => before after.1

end ChangingSet
