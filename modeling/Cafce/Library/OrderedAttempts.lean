import Mathlib.Tactic.Common

/-! Trying keys in order until one answer decides.
A miss moves on to the next key; a hit or a failure ends the attempts.
-/

namespace OrderedAttempts

variable {κ ε : Type*}

/-- What the answer to one attempt means. -/
inductive Verdict (ε : Type*)
  | hit
  | miss
  | failed (error : ε)
deriving DecidableEq

/-- The keys tried and the outcome. An answer may depend on how many were asked before. -/
def attempt (answer : Nat → κ → Verdict ε) : Nat → List κ → List κ × Except ε Bool
  | _, [] => ([], .ok false)
  | asked, key :: rest =>
      match answer asked key with
      | .hit => ([key], .ok true)
      | .failed error => ([key], .error error)
      | .miss =>
          let later := attempt answer (asked + 1) rest
          (key :: later.1, later.2)

/-- The attempt at `index` decides: it is no miss and every earlier one is. -/
structure Decides (answer : Nat → κ → Verdict ε) (asked : Nat) (keys : List κ)
    (index : Nat) (key : κ)
    : Prop where
  here : keys[index]? = some key
  earlier : ∀ before < index, ∀ k ∈ keys[before]?, answer (asked + before) k = .miss
  decisive : answer (asked + index) key ≠ .miss

/-- No attempt decides. -/
def AllMiss (answer : Nat → κ → Verdict ε) (asked : Nat) (keys : List κ) : Prop :=
  ∀ index, ∀ key ∈ keys[index]?, answer (asked + index) key = .miss

theorem Decides.cons {answer : Nat → κ → Verdict ε} {asked : Nat} {first : κ}
    {keys : List κ} {index : Nat} {key : κ}
    (decides : Decides answer (asked + 1) keys index key)
    (miss : answer asked first = .miss)
    : Decides answer asked (first :: keys) (index + 1) key where
  here := by simpa using decides.here
  earlier := by
    intro before below k found
    cases before with
    | zero => simp_all
    | succ before =>
        have later := decides.earlier before (by omega) k (by simpa using found)
        simpa only [Nat.add_assoc, Nat.add_comm 1] using later
  decisive := by simpa only [Nat.add_assoc, Nat.add_comm 1] using decides.decisive

/-- Either one attempt decides and is the last, or all keys are tried and missed.
Witness: induction on the keys.
-/
theorem attempt_cases (answer : Nat → κ → Verdict ε) (asked : Nat) (keys : List κ)
    : (∃ index key,
        Decides answer asked keys index key
        ∧ attempt answer asked keys
          = (keys.take (index + 1),
              match answer (asked + index) key with
              | .hit => .ok true
              | .failed error => .error error
              | .miss => .ok false))
      ∨ (AllMiss answer asked keys ∧ attempt answer asked keys = (keys, .ok false)) := by
  induction keys generalizing asked with
  | nil => exact Or.inr ⟨by simp [AllMiss], rfl⟩
  | cons first keys ih =>
      by_cases miss : answer asked first = .miss
      · rcases ih (asked + 1) with ⟨index, key, decides, result⟩ | ⟨missed, result⟩
        · refine Or.inl ⟨index + 1, key, decides.cons miss, ?_⟩
          have shift : asked + 1 + index = asked + (index + 1) := by omega
          simp only [attempt, miss, result, shift, List.take_succ_cons]
        · refine Or.inr ⟨?_, by simp only [attempt, miss, result]⟩
          intro index key found
          cases index with
          | zero => simp_all
          | succ index =>
              have later := missed index key (by simpa using found)
              simpa only [Nat.add_assoc, Nat.add_comm 1] using later
      · refine Or.inl ⟨0, first, ⟨rfl, by simp, miss⟩, ?_⟩
        cases decision : answer asked first with
        | miss => exact absurd decision miss
        | hit => simp [attempt, decision]
        | failed error => simp [attempt, decision]

/-- At most one attempt decides. -/
theorem Decides.unique {answer : Nat → κ → Verdict ε} {asked : Nat} {keys : List κ}
    {left right : Nat} {leftKey rightKey : κ}
    (first : Decides answer asked keys left leftKey)
    (second : Decides answer asked keys right rightKey)
    : left = right ∧ leftKey = rightKey := by
  have same : left = right := by
    rcases Nat.lt_trichotomy left right with below | same | above
    · exact absurd (second.earlier left below leftKey first.here) first.decisive
    · exact same
    · exact absurd (first.earlier right above rightKey second.here) second.decisive
  subst same
  exact ⟨rfl, Option.some.inj (first.here.symm.trans second.here)⟩

theorem Decides.not_allMiss {answer : Nat → κ → Verdict ε} {asked : Nat} {keys : List κ}
    {index : Nat} {key : κ} (decides : Decides answer asked keys index key)
    : ¬ AllMiss answer asked keys :=
  fun missed => decides.decisive (missed index key decides.here)

end OrderedAttempts
