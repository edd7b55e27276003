import Mathlib.Data.List.Infix

/-! Directory trees without symbolic links, and where a path with `.` and `..` leads.
Locations are lists of names from the root. Following a path through the tree agrees with
cancelling each `..` against the name before it whenever the path exists.
-/

namespace DirectoryTree

variable {ν β : Type*}

/-- What a location holds. -/
inductive Entry (β : Type*)
  | dir
  | file (content : β)
deriving DecidableEq

def Entry.isDir : Entry β → Bool
  | .dir => true
  | .file _ => false

def Entry.content? : Entry β → Option β
  | .dir => none
  | .file content => some content

/-- A tree assigns entries to locations; only directories have entries below them. -/
structure Tree (ν β : Type*) where
  entry : List ν → Option (Entry β)
  root_dir : entry [] = some .dir
  parent_dir : ∀ here name, (entry (here ++ [name])).isSome → entry here = some .dir

/-- The tree that holds the given files and the directories above them. -/
def Tree.ofFiles [DecidableEq ν] (files : List (List ν × β)) : Tree ν β where
  entry here :=
    if here = [] ∨ ∃ file ∈ files, here <+: file.1 ∧ here ≠ file.1 then some .dir
    else (files.find? (fun file => file.1 = here)).map fun file => .file file.2
  root_dir := by simp
  parent_dir := by
    intro here name present
    have above : here <+: here ++ [name] := List.prefix_append _ _
    have other : here ≠ here ++ [name] := by simp
    apply if_pos
    by_cases nested : ∃ file ∈ files, here ++ [name] <+: file.1 ∧ here ++ [name] ≠ file.1
    · obtain ⟨file, member, below, _⟩ := nested
      refine Or.inr ⟨file, member, above.trans below, ?_⟩
      rintro rfl
      have lengths := below.length_le
      simp only [List.length_append, List.length_singleton] at lengths
      omega
    · rw [if_neg (by simpa using nested), Option.isSome_map] at present
      obtain ⟨file, found⟩ := Option.isSome_iff_exists.mp present
      have same : file.1 = here ++ [name] := by simpa using List.find?_some found
      exact Or.inr ⟨file, List.mem_of_find?_eq_some found, same ▸ above, same ▸ other⟩

/-- One component of a path. -/
inductive Component (ν : Type*)
  | rootDir
  | curDir
  | parentDir
  | normal (name : ν)
deriving DecidableEq

def Tree.isDir (tree : Tree ν β) (here : List ν) : Bool :=
  (tree.entry here).any Entry.isDir

/-- One component followed from an existing location. The parent of the root is the root. -/
def Tree.step (tree : Tree ν β) (here : List ν) : Component ν → Option (List ν)
  | .rootDir => some []
  | .curDir => if tree.isDir here then some here else none
  | .parentDir => if tree.isDir here then some here.dropLast else none
  | .normal name =>
      if (tree.entry (here ++ [name])).isSome then some (here ++ [name]) else none

/-- The location a path leads to. -/
def Tree.walk (tree : Tree ν β) (here : List ν) (path : List (Component ν))
    : Option (List ν) :=
  path.foldlM tree.step here

/-- One component read without a tree. -/
def lexicalStep (here : List ν) : Component ν → List ν
  | .rootDir => []
  | .curDir => here
  | .parentDir => here.dropLast
  | .normal name => here ++ [name]

/-- The location a path spells when each `..` cancels the name before it. -/
def lexical (here : List ν) (path : List (Component ν)) : List ν :=
  path.foldl lexicalStep here

@[simp] theorem Tree.walk_nil (tree : Tree ν β) (here : List ν) : tree.walk here [] = some here :=
  rfl

@[simp] theorem Tree.walk_cons (tree : Tree ν β) (here : List ν) (component : Component ν)
    (path : List (Component ν))
    : tree.walk here (component :: path)
      = (tree.step here component).bind fun next => tree.walk next path := by
  simp [walk, List.foldlM_cons, Option.bind_eq_bind]

theorem Tree.walk_append (tree : Tree ν β) (here : List ν) (left right : List (Component ν))
    : tree.walk here (left ++ right)
      = (tree.walk here left).bind fun next => tree.walk next right := by
  simp [walk, List.foldlM_append, Option.bind_eq_bind]

@[simp] theorem lexical_nil (here : List ν) : lexical here [] = here := rfl

@[simp] theorem lexical_cons (here : List ν) (component : Component ν)
    (path : List (Component ν))
    : lexical here (component :: path) = lexical (lexicalStep here component) path := rfl

theorem Tree.step_eq_some {tree : Tree ν β} {here next : List ν} {component : Component ν}
    (step : tree.step here component = some next)
    : next = lexicalStep here component := by
  cases component <;> simp [Tree.step] at step <;> simp [lexicalStep, ← step]

/-- An existing path leads where it spells, by induction on the path. -/
theorem Tree.walk_eq_lexical {tree : Tree ν β} {here next : List ν}
    {path : List (Component ν)} (walk : tree.walk here path = some next)
    : next = lexical here path := by
  induction path generalizing here with
  | nil => simpa using walk.symm
  | cons component path ih =>
      rw [walk_cons] at walk
      obtain ⟨middle, step, rest⟩ := Option.bind_eq_some_iff.mp walk
      rw [lexical_cons, ← step_eq_some step]
      exact ih rest

/-- What precedes an existing path exists too. -/
theorem Tree.walk_prefix {tree : Tree ν β} {here next : List ν}
    {before path : List (Component ν)} (walk : tree.walk here path = some next)
    (leading : before <+: path)
    : ∃ middle, tree.walk here before = some middle := by
  obtain ⟨after, rfl⟩ := leading
  rw [walk_append] at walk
  obtain ⟨middle, first, _⟩ := Option.bind_eq_some_iff.mp walk
  exact ⟨middle, first⟩

/-- From `depth` levels below a directory the path never leaves that directory: every `..`
comes after a name for it to cancel.
-/
def staysBelow : Nat → List (Component ν) → Bool
  | _, [] => true
  | _, .rootDir :: _ => false
  | depth, .curDir :: path => staysBelow depth path
  | 0, .parentDir :: _ => false
  | depth + 1, .parentDir :: path => staysBelow depth path
  | depth, .normal _ :: path => staysBelow (depth + 1) path

/-- The subtree at `place` is a copy of `sub`. -/
def Tree.Placed (tree : Tree ν β) (place : List ν) (sub : Tree ν β) : Prop :=
  ∀ below, tree.entry (place ++ below) = sub.entry below

/-- Files moved below a place form a copy of the tree they formed before. -/
theorem Tree.ofFiles_placed [DecidableEq ν] (place : List ν) (files : List (List ν × β))
    (named : ∃ file ∈ files, file.1 ≠ [])
    : (Tree.ofFiles (files.map fun file => (place ++ file.1, file.2))).Placed place
        (Tree.ofFiles files) := by
  intro below
  have directory : (place ++ below = []
        ∨ ∃ file ∈ files.map fun file => (place ++ file.1, file.2),
          place ++ below <+: file.1 ∧ place ++ below ≠ file.1)
      ↔ below = [] ∨ ∃ file ∈ files, below <+: file.1 ∧ below ≠ file.1 := by
    simp only [List.mem_map, exists_exists_and_eq_and, List.prefix_append_right_inj, ne_eq,
      List.append_cancel_left_eq, List.append_eq_nil_iff]
    constructor
    · intro here
      exact here.imp_left And.right
    · intro here
      rcases here with rfl | nested
      · obtain ⟨file, member, name⟩ := named
        exact Or.inr ⟨file, member, List.nil_prefix, fun empty => name empty.symm⟩
      · exact Or.inr nested
  have held : (files.map fun file => (place ++ file.1, file.2)).find?
        (fun file => decide (file.1 = place ++ below))
      = (files.find? fun file => decide (file.1 = below)).map
        fun file => (place ++ file.1, file.2) := by
    rw [List.find?_map]
    congr 2
    funext file
    simp
  simp only [ofFiles, directory, held, Option.map_map]
  rfl

/-- A path that stays below the root of the subtree leads to the same place in every copy, by
induction on the path.
-/
theorem Tree.Placed.walk {tree sub : Tree ν β} {place : List ν}
    (placed : tree.Placed place sub) {path : List (Component ν)} (here : List ν)
    (stays : staysBelow here.length path)
    : tree.walk (place ++ here) path = (sub.walk here path).map (place ++ ·) := by
  induction path generalizing here with
  | nil => rfl
  | cons component path ih =>
      cases component with
      | rootDir => simp [staysBelow] at stays
      | curDir =>
          by_cases dir : (sub.entry here).any Entry.isDir
          · simpa [step, isDir, placed here, dir] using ih here stays
          · simp [step, isDir, placed here, dir]
      | parentDir =>
          cases here using List.reverseRecOn with
          | nil => simp [staysBelow] at stays
          | append_singleton above name =>
              have later := ih above (by simpa [staysBelow] using stays)
              have parent : (place ++ (above ++ [name])).dropLast = place ++ above := by
                rw [← List.append_assoc, List.dropLast_concat]
              by_cases dir : (sub.entry (above ++ [name])).any Entry.isDir
              · simpa [step, isDir, placed (above ++ [name]), dir, parent] using later
              · simp [step, isDir, placed (above ++ [name]), dir]
      | normal name =>
          have later := ih (here ++ [name]) (by simpa [staysBelow] using stays)
          by_cases present : (sub.entry (here ++ [name])).isSome
          · simpa [step, placed (here ++ [name]), present] using later
          · simp [step, placed (here ++ [name]), present]

example : staysBelow 0 [.normal 1, .parentDir, .normal 2] = true
    ∧ staysBelow 0 [.parentDir, .normal 1, .normal 2] = false :=
  ⟨rfl, rfl⟩

end DirectoryTree
