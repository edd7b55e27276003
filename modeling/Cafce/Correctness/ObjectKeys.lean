import Cafce.Library.SeparatedText
import Cafce.Model.Probe

/-! When the object keys of two projects can coincide. Prefix, project and cache key are
joined by `/`, which may also occur inside each of them.
-/

namespace Cafce

/-- A key that a probe with this setting can ask for. -/
def CanProbe (sha256 : List UInt8 → Digest) (setting : Setting) (cacheKey : String) : Prop :=
  cacheKey ∈ setting.fallbackKeys
  ∨ ∃ files basePath, (setting.resolvePrimaryKey sha256 files basePath).outcome = .ok cacheKey

/-- No probe of one setting asks for an object that a probe of the other asks for. -/
def NamespacesApart (sha256 : List UInt8 → Digest) (s3Prefix : Option String)
    (left right : Setting)
    : Prop :=
  ∀ leftKey rightKey, CanProbe sha256 left leftKey → CanProbe sha256 right rightKey
    → buildObjectKey s3Prefix left.project leftKey
      ≠ buildObjectKey s3Prefix right.project rightKey

/-- The project continues the other project by segments with which the other key begins,
and that key ends in this key.
-/
def Spills (project cacheKey otherProject otherKey : String) : Prop :=
  ∃ segments,
    project = otherProject ++ "/" ++ segments ∧ otherKey = segments ++ "/" ++ cacheKey

theorem slash_append_toList (left right : String)
    : (left ++ "/" ++ right).toList = left.toList ++ '/' :: right.toList := by
  simp

theorem spills_iff {project cacheKey otherProject otherKey : String}
    : Spills project cacheKey otherProject otherKey
      ↔ ∃ segments : List Char,
        project.toList = otherProject.toList ++ '/' :: segments
        ∧ otherKey.toList = segments ++ '/' :: cacheKey.toList := by
  constructor
  · intro spills
    obtain ⟨segments, rfl, rfl⟩ := spills
    exact ⟨segments.toList, slash_append_toList _ _, slash_append_toList _ _⟩
  · intro spelled
    obtain ⟨segments, longer, shorter⟩ := spelled
    refine ⟨String.ofList segments, String.toList_inj.mp ?_, String.toList_inj.mp ?_⟩
    · rw [slash_append_toList, String.toList_ofList, longer]
    · rw [slash_append_toList, String.toList_ofList, shorter]

/-- Two object keys coincide when their parts do, or when one project spills into the other
cache key.
-/
theorem buildObjectKey_eq_iff {s3Prefix : Option String}
    {project cacheKey otherProject otherKey : String}
    : buildObjectKey s3Prefix project cacheKey = buildObjectKey s3Prefix otherProject otherKey
      ↔ (project = otherProject ∧ cacheKey = otherKey)
        ∨ Spills otherProject otherKey project cacheKey
        ∨ Spills project cacheKey otherProject otherKey := by
  have bare : (project ++ "/" ++ cacheKey = otherProject ++ "/" ++ otherKey)
      ↔ (project = otherProject ∧ cacheKey = otherKey)
        ∨ Spills otherProject otherKey project cacheKey
        ∨ Spills project cacheKey otherProject otherKey := by
    rw [← String.toList_inj, slash_append_toList, slash_append_toList,
      SeparatedText.append_separator_eq_iff, String.toList_inj, String.toList_inj, spills_iff,
      spills_iff]
  cases s3Prefix with
  | none => exact bare
  | some s3Prefix =>
      have front : ∀ project cacheKey : String,
          buildObjectKey (some s3Prefix) project cacheKey
            = (s3Prefix ++ "/") ++ (project ++ "/" ++ cacheKey) := by
        intro project cacheKey
        simp [buildObjectKey, String.append_assoc]
      rw [front, front, String.append_right_inj, bare]

/-- Settings of different projects never meet in an object key exactly when no probed key of
one begins with the segments by which the other project continues its project and ends in a
key of that other project.
Witness: object keys coincide only where a project spills over a separator.
-/
theorem namespacesApart_iff {sha256 : List UInt8 → Digest} {s3Prefix : Option String}
    {left right : Setting} (different : left.project ≠ right.project)
    : NamespacesApart sha256 s3Prefix left right
      ↔ ∀ leftKey rightKey, CanProbe sha256 left leftKey → CanProbe sha256 right rightKey
        → ¬ Spills left.project leftKey right.project rightKey
          ∧ ¬ Spills right.project rightKey left.project leftKey := by
  apply forall₂_congr
  intro leftKey rightKey
  apply imp_congr_right
  intro _
  apply imp_congr_right
  intro _
  rw [ne_eq, buildObjectKey_eq_iff]
  constructor
  · intro apart
    exact ⟨fun spills => apart (Or.inr (Or.inr spills)),
      fun spills => apart (Or.inr (Or.inl spills))⟩
  · intro neither same
    rcases same with ⟨projects, _⟩ | spills | spills
    · exact different projects
    · exact neither.2 spills
    · exact neither.1 spills

/-- A configuration with a literal key and nothing else. -/
def literalSetting (project literal : String) : Setting where
  project
  paths := []
  key := .string literal
  fallbackKeys := []

theorem canProbe_literalSetting {sha256 : List UInt8 → Digest}
    {project literal cacheKey : String}
    : CanProbe sha256 (literalSetting project literal) cacheKey ↔ cacheKey = literal := by
  constructor
  · intro probes
    rcases probes with fallback | ⟨files, basePath, primary⟩
    · cases fallback
    · exact (Except.ok.inj primary).symm
  · intro same
    subst same
    exact Or.inr ⟨⟨fun _ => .ok [], fun _ => false, fun _ => .ok []⟩, PathBuf.ofStr ".", rfl⟩

/-- Projects `a` and `b` with the same key stay apart. -/
theorem namespacesApart_a_b
    : NamespacesApart (fun _ => Vector.replicate 32 0) (some "ci") (literalSetting "a" "k")
        (literalSetting "b" "k") := by
  have different : (literalSetting "a" "k").project ≠ (literalSetting "b" "k").project := by
    decide
  apply (namespacesApart_iff different).mpr
  intro leftKey rightKey _ _
  constructor
  · intro spills
    obtain ⟨segments, longer, _⟩ := spills_iff.mp spills
    cases (List.cons.inj longer).1
  · intro spills
    obtain ⟨segments, longer, _⟩ := spills_iff.mp spills
    cases (List.cons.inj longer).1

/-- Two configurations, read as TOML. -/
def slashToml (text : String) : Except ForeignError Setting :=
  if text = "project = \"a/b\"\nkey = \"c\"\n" then .ok (literalSetting "a/b" "c")
  else if text = "project = \"a\"\nkey = \"b/c\"\n" then .ok (literalSetting "a" "b/c")
  else .error { message := "expected an equals, found a newline" }

/-- Project `a/b` with key `c` and project `a` with key `b/c` ask for the same object. -/
theorem slash_projects_share_object
    : Setting.newFromStr slashToml (fun _ => none) "project = \"a/b\"\nkey = \"c\"\n"
        = .ok (literalSetting "a/b" "c")
      ∧ Setting.newFromStr slashToml (fun _ => none) "project = \"a\"\nkey = \"b/c\"\n"
        = .ok (literalSetting "a" "b/c")
      ∧ (literalSetting "a/b" "c").project ≠ (literalSetting "a" "b/c").project
      ∧ buildObjectKey none "a/b" "c" = buildObjectKey none "a" "b/c"
      ∧ ∀ sha256 s3Prefix,
        ¬ NamespacesApart sha256 s3Prefix (literalSetting "a/b" "c")
          (literalSetting "a" "b/c") := by
  have loads (project literal text : String)
      (read : slashToml text = .ok (literalSetting project literal))
      (projectFree : ¬ references.opening <:+: project.toList)
      (literalFree : ¬ references.opening <:+: literal.toList) (filled : project ≠ "")
      : Setting.newFromStr slashToml (fun _ => none) text
        = .ok (literalSetting project literal) := by
    apply Setting.newFromStr_eq_ok_iff.mpr
    refine ⟨_, read, expandEnvVars_of_free projectFree, filled, ?_, rfl, rfl⟩
    simp only [literalSetting, Setting.expandKey, expandEnvVars_of_free literalFree]
    rfl
  refine ⟨loads _ _ _ (by decide) (by decide) (by decide) (by decide),
    loads _ _ _ (by decide) (by decide) (by decide) (by decide), by decide, by decide, ?_⟩
  intro sha256 s3Prefix apart
  apply apart "c" "b/c" (canProbe_literalSetting.mpr rfl) (canProbe_literalSetting.mpr rfl)
  exact buildObjectKey_eq_iff.mpr (Or.inr (Or.inr ⟨"b", by decide, by decide⟩))

end Cafce
