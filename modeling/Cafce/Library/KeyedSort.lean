import Mathlib.Data.List.Lex
import Mathlib.Data.List.Sort

/-! Lists of values compared through a key: collecting one value per key and sorting.
Values with equal keys count as equal, whatever else tells them apart.
-/

namespace KeyedSort

variable {α β κ : Type*} [LinearOrder κ]

/-- No two values share a key. -/
def Distinct (key : α → κ) (values : List α) : Prop :=
  (values.map key).Nodup

/-- Adds a value unless one of its key is already there; the earlier value stays. -/
def insertNew (key : α → κ) (known : List α) (value : α) : List α :=
  if key value ∈ known.map key then known else known ++ [value]

/-- Adds values from left to right. -/
def collect (key : α → κ) (known values : List α) : List α :=
  values.foldl (insertNew key) known

@[simp] theorem collect_nil (key : α → κ) (known : List α) : collect key known [] = known :=
  rfl

@[simp] theorem collect_cons (key : α → κ) (known : List α) (value : α) (values : List α)
    : collect key known (value :: values)
      = collect key (insertNew key known value) values := rfl

theorem insertNew_distinct {key : α → κ} {known : List α} (distinct : Distinct key known)
    (value : α)
    : Distinct key (insertNew key known value) := by
  rw [insertNew]
  split
  case isTrue => exact distinct
  case isFalse fresh =>
    rw [Distinct, List.map_append, List.nodup_append]
    refine ⟨distinct, List.nodup_singleton _, ?_⟩
    intro known member other single same
    rw [List.map_singleton, List.mem_singleton] at single
    exact fresh (single ▸ same ▸ member)

/-- Collecting keeps keys distinct, by induction on the values. -/
theorem collect_distinct {key : α → κ} {known : List α} (distinct : Distinct key known)
    (values : List α)
    : Distinct key (collect key known values) := by
  induction values generalizing known with
  | nil => exact distinct
  | cons value values ih => exact ih (insertNew_distinct distinct value)

theorem mem_insertNew {key : α → κ} {known : List α} {value found : α}
    (member : found ∈ insertNew key known value)
    : found ∈ known ∨ found = value := by
  rw [insertNew] at member
  split at member
  · exact Or.inl member
  · exact (List.mem_append.mp member).imp_right List.mem_singleton.mp

/-- Everything collected was known before or is one of the values. -/
theorem mem_collect {key : α → κ} {known values : List α} {found : α}
    (member : found ∈ collect key known values)
    : found ∈ known ∨ found ∈ values := by
  induction values generalizing known with
  | nil => exact Or.inl member
  | cons value values ih =>
      rcases ih member with earlier | later
      · exact (mem_insertNew earlier).imp_right (fun same => by simp [same])
      · exact Or.inr (List.mem_cons_of_mem _ later)

theorem keys_insertNew (key : α → κ) (known : List α) (value : α) (k : κ)
    : k ∈ (insertNew key known value).map key ↔ k ∈ known.map key ∨ k = key value := by
  rw [insertNew]
  split
  case isTrue present =>
    exact ⟨Or.inl, fun found => found.elim id (fun same => same ▸ present)⟩
  case isFalse => simp [eq_comm]

/-- The collected keys are the known keys and the keys of the values. -/
theorem keys_collect (key : α → κ) (known values : List α) (k : κ)
    : k ∈ (collect key known values).map key ↔ k ∈ known.map key ∨ k ∈ values.map key := by
  induction values generalizing known with
  | nil => simp
  | cons value values ih =>
      rw [collect_cons, ih, keys_insertNew, List.map_cons, List.mem_cons, or_assoc]

/-- Stable ascending sort by key. -/
def sortBy (key : α → κ) (values : List α) : List α :=
  values.insertionSort (fun left right => key left ≤ key right)

theorem sortBy_perm (key : α → κ) (values : List α) : (sortBy key values).Perm values :=
  List.perm_insertionSort _ _

@[simp] theorem mem_sortBy {key : α → κ} {values : List α} {found : α}
    : found ∈ sortBy key values ↔ found ∈ values :=
  List.mem_insertionSort _

@[simp] theorem sortBy_eq_nil_iff {key : α → κ} {values : List α}
    : sortBy key values = [] ↔ values = [] := by
  rw [← List.length_eq_zero_iff, ← List.length_eq_zero_iff, (sortBy_perm key values).length_eq]

theorem sortBy_ascending (key : α → κ) (values : List α)
    : (sortBy key values).Pairwise (fun left right => key left ≤ key right) :=
  have : Std.Total (fun left right : α => key left ≤ key right) := ⟨fun _ _ => le_total _ _⟩
  have : IsTrans α (fun left right => key left ≤ key right) := ⟨fun _ _ _ => le_trans⟩
  List.pairwise_insertionSort _ _

/-- A sorted list stays as it is. -/
theorem sortBy_sortBy (key : α → κ) (values : List α)
    : sortBy key (sortBy key values) = sortBy key values :=
  (sortBy_ascending key values).insertionSort_eq

theorem sortBy_distinct {key : α → κ} {values : List α} (distinct : Distinct key values)
    : Distinct key (sortBy key values) :=
  (((sortBy_perm key values).map key).nodup_iff).mpr distinct

/-- Distinct keys come out in strictly ascending order. -/
theorem sortBy_strict {key : α → κ} {values : List α} (distinct : Distinct key values)
    : (sortBy key values).Pairwise (fun left right => key left < key right) := by
  have apart := List.pairwise_map.mp (sortBy_distinct distinct)
  exact ((sortBy_ascending key values).and apart).imp
    (fun ordered => lt_of_le_of_ne ordered.1 ordered.2)

/-- The sorted list does not depend on the order in which distinct keys arrive.
Witness: strictly ascending permutations of each other are equal.
-/
theorem sortBy_eq_of_perm {key : α → κ} {left right : List α} (distinct : Distinct key left)
    (perm : left.Perm right)
    : sortBy key left = sortBy key right := by
  have distinctRight : Distinct key right := ((perm.map key).nodup_iff).mp distinct
  have permSorted := (sortBy_perm key left).trans (perm.trans (sortBy_perm key right).symm)
  apply permSorted.eq_of_pairwise ?_ (sortBy_strict distinct) (sortBy_strict distinctRight)
  intro a b _ _ below above
  exact absurd (below.trans above) (lt_irrefl _)

/-- Ascending permutations of each other have the same keys in the same order. -/
theorem keys_eq_of_ascending {key : α → κ} {left right : List α} (perm : left.Perm right)
    (leftAscending : left.Pairwise (fun a b => key a ≤ key b))
    (rightAscending : right.Pairwise (fun a b => key a ≤ key b))
    : left.map key = right.map key := by
  apply (perm.map key).eq_of_pairwise ?_ (List.pairwise_map.mpr leftAscending)
    (List.pairwise_map.mpr rightAscending)
  exact fun _ _ _ _ below above => le_antisymm below above

/-- Strictly ascending lists with the same keys have them in the same order.
Witness: without repetition, the same members make a permutation.
-/
theorem keys_eq_of_strict {key : α → κ} {left right : List α}
    (leftStrict : left.Pairwise (fun a b => key a < key b))
    (rightStrict : right.Pairwise (fun a b => key a < key b))
    (members : ∀ k, k ∈ left.map key ↔ k ∈ right.map key)
    : left.map key = right.map key := by
  have leftKeys := List.pairwise_map.mpr leftStrict
  have rightKeys := List.pairwise_map.mpr rightStrict
  have perm : (left.map key).Perm (right.map key) :=
    (List.perm_ext_iff_of_nodup (leftKeys.imp ne_of_lt) (rightKeys.imp ne_of_lt)).mpr members
  apply perm.eq_of_pairwise ?_ leftKeys rightKeys
  intro a b _ _ below above
  exact absurd (below.trans above) (lt_irrefl _)

/-- A renaming that keeps the comparison of keys commutes with sorting. -/
theorem map_sortBy {κ' : Type*} [LinearOrder κ'] {key : α → κ} {key' : β → κ'} {f : α → β}
    {values : List α}
    (compare : ∀ a ∈ values, ∀ b ∈ values, key a ≤ key b ↔ key' (f a) ≤ key' (f b))
    : (sortBy key values).map f = sortBy key' (values.map f) :=
  List.map_insertionSort _ _ f values compare

/-- A renaming that keeps equality of keys commutes with collecting. -/
theorem map_collect {κ' : Type*} [LinearOrder κ'] {key : α → κ} {key' : β → κ'} {f : α → β}
    (compare : ∀ a b, key a = key b ↔ key' (f a) = key' (f b)) (known values : List α)
    : (collect key known values).map f = collect key' (known.map f) (values.map f) := by
  induction values generalizing known with
  | nil => rfl
  | cons value values ih =>
      have present : key value ∈ known.map key ↔ key' (f value) ∈ (known.map f).map key' := by
        simp only [List.mem_map, exists_exists_and_eq_and, compare]
      have step : (insertNew key known value).map f
          = insertNew key' (known.map f) (f value) := by
        rw [insertNew, insertNew]
        split <;> simp_all
      rw [collect_cons, ih, step, List.map_cons, collect_cons]

end KeyedSort
