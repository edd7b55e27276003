import Cafce.Model.FileMatcher
import Cafce.Model.HashCalculator
import Cafce.Model.Setting

/-! The cache key of a configuration: a literal, a fallback, or a hash of the matched files. -/

namespace Cafce

open Fallible KeyedSort

/-- `cache_key::CacheKeyGenerator` -/
structure CacheKeyGenerator where
  maxFiles : Nat
  basePath : PathBuf
deriving DecidableEq, Repr

namespace CacheKeyGenerator

/-- `CacheKeyGenerator::generate_key` -/
def generateKey (generator : CacheKeyGenerator) (sha256 : List UInt8 → Digest)
    (files : FileView) (keyConfig : Key)
    : Reading String := do
  let fileMatcher : FileMatcher := { maxFiles := generator.maxFiles }
  let matchedFiles ← Logged.quiet
    (fileMatcher.resolvePatterns files keyConfig.files generator.basePath)
  if matchedFiles.isEmpty then
    -- no match falls back to a fixed key, as GitLab CI does
    match keyConfig.keyPrefix with
    | some keyPrefix => return keyPrefix ++ "-default"
    | none => return "default"
  else
    let filesHash ← HashCalculator.calculateFilesHash sha256 files matchedFiles
    match keyConfig.keyPrefix with
    | some keyPrefix => return keyPrefix ++ "-" ++ filesHash
    | none => return filesHash

/-- The key made of the contents of the matched files, in path order. -/
def keyOfContents (sha256 : List UInt8 → Digest) (keyPrefix : Option String)
    (contents : List (List UInt8))
    : String :=
  if contents.isEmpty then
    match keyPrefix with
    | some keyPrefix => keyPrefix ++ "-default"
    | none => "default"
  else
    let filesHash := lowerHex ((hashScheme sha256).listHash contents)
    match keyPrefix with
    | some keyPrefix => keyPrefix ++ "-" ++ filesHash
    | none => filesHash

/-- A prefix is put in front of the key without one. -/
theorem keyOfContents_some (sha256 : List UInt8 → Digest) (keyPrefix : String)
    (contents : List (List UInt8))
    : keyOfContents sha256 (some keyPrefix) contents
      = keyPrefix ++ "-" ++ keyOfContents sha256 none contents := by
  rw [keyOfContents, keyOfContents]
  split
  · rw [String.append_assoc]
    rfl
  · rfl

/-- The key without a prefix, as characters: the fallback or a printed digest. -/
theorem bareKey_cases (sha256 : List UInt8 → Digest) (contents : List (List UInt8))
    : (contents = []
        ∧ (keyOfContents sha256 none contents).toList = "default".toList)
      ∨ (contents ≠ []
        ∧ (keyOfContents sha256 none contents).toList
          = hexChars ((hashScheme sha256).listHash contents)) := by
  cases contents with
  | nil => exact Or.inl ⟨rfl, rfl⟩
  | cons content contents =>
      refine Or.inr ⟨by simp, ?_⟩
      simp [keyOfContents, lowerHex]

theorem toList_prefixedKey (sha256 : List UInt8 → Digest) (keyPrefix : String)
    (contents : List (List UInt8))
    : (keyOfContents sha256 (some keyPrefix) contents).toList
      = keyPrefix.toList
        ++ '-' :: (keyOfContents sha256 none contents).toList := by
  rw [keyOfContents_some, String.toList_append, String.toList_append,
    List.append_assoc]
  rfl

/-- The outcome: patterns are resolved, then every matched file is read. -/
theorem outcome_generateKey (generator : CacheKeyGenerator) (sha256 : List UInt8 → Digest)
    (files : FileView) (keyConfig : Key)
    : (generator.generateKey sha256 files keyConfig).outcome
      = (FileMatcher.mk generator.maxFiles).resolvePatterns files keyConfig.files
          generator.basePath
        >>= fun matched => (matched.mapM (readFile files)).map
          (keyOfContents sha256 keyConfig.keyPrefix) := by
  rw [generateKey, Logged.outcome_bind, Logged.outcome_quiet]
  cases resolution : (FileMatcher.mk generator.maxFiles).resolvePatterns files
      keyConfig.files generator.basePath with
  | error error => rfl
  | ok matched =>
      simp only [ok_bind]
      cases matched with
      | nil => cases keyConfig.keyPrefix <;> rfl
      | cons path paths =>
          have sorted : sortBy PathBuf.key (path :: paths) = path :: paths := by
            rw [FileMatcher.resolvePatterns_eq] at resolution
            obtain ⟨_, _, merged⟩ := bind_eq_ok_iff.mp resolution
            rw [(FileMatcher.resolved_eq_ok_iff.mp merged).2, sortBy_sortBy]
          simp only [List.isEmpty_cons, Bool.false_eq_true, if_false, Logged.outcome_bind,
            HashCalculator.outcome_calculateFilesHash, sorted]
          cases read : (path :: paths).mapM (readFile files) with
          | error error => rfl
          | ok contents =>
              cases contents with
              | nil => cases mapM_eq_ok_iff.mp read
              | cons content contents => cases keyConfig.keyPrefix <;> rfl

/-- The contents of the files a key was made of. -/
theorem generateKey_eq_ok_iff {generator : CacheKeyGenerator} {sha256 : List UInt8 → Digest}
    {files : FileView} {keyConfig : Key} {key : String}
    : (generator.generateKey sha256 files keyConfig).outcome = .ok key
      ↔ ∃ matched contents,
        (FileMatcher.mk generator.maxFiles).resolvePatterns files keyConfig.files
          generator.basePath = .ok matched
        ∧ matched.mapM (readFile files) = .ok contents
        ∧ keyOfContents sha256 keyConfig.keyPrefix contents = key := by
  rw [outcome_generateKey, bind_eq_ok_iff]
  apply exists_congr
  intro matched
  cases matched.mapM (readFile files) <;> simp [Except.map]

/-- Only resolved paths are opened. -/
theorem mem_of_opened {generator : CacheKeyGenerator} {sha256 : List UInt8 → Digest}
    {files : FileView} {keyConfig : Key} {path : PathBuf}
    (opened : path ∈ (generator.generateKey sha256 files keyConfig).log)
    : ∃ matched,
        (FileMatcher.mk generator.maxFiles).resolvePatterns files keyConfig.files
          generator.basePath = .ok matched
        ∧ path ∈ matched := by
  rcases Logged.mem_log_bind.mp opened with none | ⟨matched, resolution, later⟩
  · simp at none
  · refine ⟨matched, resolution, ?_⟩
    split at later
    · split at later <;> simp at later
    · rcases Logged.mem_log_bind.mp later with hashing | ⟨_, _, none⟩
      · exact HashCalculator.mem_of_opened hashing
      · split at none <;> simp at none

end CacheKeyGenerator

/-- `Setting::resolve_primary_key` -/
def Setting.resolvePrimaryKey (setting : Setting) (sha256 : List UInt8 → Digest)
    (files : FileView) (basePath : PathBuf)
    : Reading String :=
  match setting.key with
  | .string s => return s
  | .struct k =>
      let generator : CacheKeyGenerator := { maxFiles := 50, basePath }
      generator.generateKey sha256 files k

end Cafce
