import Cafce.Correctness.LossyText
import Cafce.Correctness.OpenedFiles
import Cafce.Correctness.PartialView
import Cafce.Correctness.SharedBucket

/-! Runs in a directory whose path is not UTF-8. Glob is given the lossy text of the path, and
nothing that it yields below that starts with the path itself, so that no file is ever hashed.
-/

namespace Cafce

open DirectoryTree EncodedText Fallible FileMatcher

-----------------------------------------------------------------------------------------
-- Keys of such directories
-----------------------------------------------------------------------------------------

/-- What the glob crate yields for one of the patterns starts with the text of the directory,
which every full pattern begins with.
-/
def YieldsBelowText (files : FileView) (cwd : PathBuf) (patterns : List String) : Prop :=
  ∀ pattern ∈ patterns, (PathBuf.ofStr pattern).isAbsolute = false
    → ∀ items path, files.glob (fullPattern cwd pattern) = .ok items → .ok path ∈ items
    → path.startsWith (PathBuf.ofStr cwd.toStringLossy)

/-- The key of a configuration whose patterns match no file. -/
def fallbackKey : Option String → String
  | some keyPrefix => keyPrefix ++ "-default"
  | none => "default"

section Hashing

variable {crates : Crates} {world : World} {config cwd : PathBuf} {setting : Setting}
  {keyConfig : Key}

/-- Accepted patterns select nothing below the directory. -/
theorem resolvePatterns_undecodable {files : FileView} (matcher : FileMatcher)
    {patterns : List String} (yields : YieldsBelowText files cwd patterns)
    (undecodable : cwd.toStr = none)
    (accepted : ∀ pattern ∈ patterns, ¬ Rejected files cwd pattern)
    : matcher.resolvePatterns files patterns cwd = .ok [] := by
  have never (path : PathBuf) : ¬ Selected files cwd patterns path := by
    intro selected
    obtain ⟨pattern, member, items, globbed, inItems⟩ := selected.yielded
    have relative : (PathBuf.ofStr pattern).isAbsolute = false :=
      Bool.eq_false_iff.mpr fun absolute => accepted pattern member (Or.inl absolute)
    have lossy := yields pattern member relative items path globbed inItems
    exact PathBuf.not_startsWith_lossy undecodable lossy selected.starts
  obtain ⟨paths, lists, resolution⟩ := resolvePatterns_of_accepted matcher accepted
  have empty : paths = [] :=
    List.eq_nil_iff_forall_not_mem.mpr fun path member => never path (lists.sound path member)
  have within : ¬ matcher.maxFiles < selectedCount files cwd patterns := by
    rw [← lists.length_eq, empty]
    exact Nat.not_lt_zero _
  rw [resolution, if_neg within, empty]

/-- Then the primary key is the fallback key, and no file is opened for it. -/
theorem resolvePrimaryKey_undecodable {sha256 : List UInt8 → Digest} {files : FileView}
    (hashes : setting.key = .struct keyConfig)
    (yields : YieldsBelowText files cwd keyConfig.files) (undecodable : cwd.toStr = none)
    (accepted : ∀ pattern ∈ keyConfig.files, ¬ Rejected files cwd pattern)
    : setting.resolvePrimaryKey sha256 files cwd
      = { outcome := .ok (fallbackKey keyConfig.keyPrefix), log := [] } := by
  have nothing := resolvePatterns_undecodable ⟨50⟩ yields undecodable accepted
  rw [Setting.resolvePrimaryKey, hashes]
  simp only [CacheKeyGenerator.generateKey, nothing]
  cases keyConfig.keyPrefix <;> rfl

/-- A rejected pattern ends in an error before any file is opened. -/
theorem resolvePrimaryKey_of_rejected {sha256 : List UInt8 → Digest} {files : FileView}
    (hashes : setting.key = .struct keyConfig)
    (rejected : ∃ pattern ∈ keyConfig.files, Rejected files cwd pattern)
    : ∃ error, setting.resolvePrimaryKey sha256 files cwd
      = { outcome := .error error, log := [] } := by
  obtain ⟨error, failed, _⟩ := resolvePatterns_of_rejected ⟨50⟩ rejected
  refine ⟨error, ?_⟩
  rw [Setting.resolvePrimaryKey, hashes]
  exact generateKey_of_refused ⟨50, cwd⟩ failed

/-- Either way nothing is opened. -/
theorem log_resolvePrimaryKey_undecodable {sha256 : List UInt8 → Digest} {files : FileView}
    (hashes : setting.key = .struct keyConfig)
    (yields : YieldsBelowText files cwd keyConfig.files) (undecodable : cwd.toStr = none)
    : (setting.resolvePrimaryKey sha256 files cwd).log = [] := by
  by_cases rejected : ∃ pattern ∈ keyConfig.files, Rejected files cwd pattern
  · obtain ⟨error, failed⟩ := resolvePrimaryKey_of_rejected hashes rejected
    rw [failed]
  · have accepted : ∀ pattern ∈ keyConfig.files, ¬ Rejected files cwd pattern :=
      fun pattern member refused => rejected ⟨pattern, member, refused⟩
    rw [resolvePrimaryKey_undecodable hashes yields undecodable accepted]

/-- A key that is resolved there is the fallback key. -/
theorem eq_fallbackKey_of_resolved {sha256 : List UInt8 → Digest} {files : FileView}
    {key : String} (hashes : setting.key = .struct keyConfig)
    (yields : YieldsBelowText files cwd keyConfig.files) (undecodable : cwd.toStr = none)
    (resolved : (setting.resolvePrimaryKey sha256 files cwd).outcome = .ok key)
    : key = fallbackKey keyConfig.keyPrefix := by
  by_cases rejected : ∃ pattern ∈ keyConfig.files, Rejected files cwd pattern
  · obtain ⟨error, failed⟩ := resolvePrimaryKey_of_rejected hashes rejected
    rw [failed] at resolved
    cases resolved
  · have accepted : ∀ pattern ∈ keyConfig.files, ¬ Rejected files cwd pattern :=
      fun pattern member refused => rejected ⟨pattern, member, refused⟩
    rw [resolvePrimaryKey_undecodable hashes yields undecodable accepted] at resolved
    exact (Except.ok.inj resolved).symm

/-- What commands do with a configuration that hashes files, in a directory whose path is not
text: they open none. Where the patterns are accepted the key is the fallback key, whatever
files there are, and a probe asks for its object first. Otherwise no command comes to a key.
-/
structure HashesNothing (crates : Crates) (world : World) (config : PathBuf)
    (setting : Setting) (keyConfig : Key) (cwd : PathBuf)
    : Prop where
  opened : ∀ action, action = .key config ∨ action = .probe config
    → openedFiles (main crates world action).2 = []
  key : (∀ pattern ∈ keyConfig.files, ¬ Rejected world.files cwd pattern)
    → (main crates world (.key config)).1 = .success
      ∧ stdoutText (main crates world (.key config)).2
        = fallbackKey keyConfig.keyPrefix ++ "\n"
  probe : ∀ first rest, headRequests (main crates world (.probe config)).2 = first :: rest
    → ∃ env : LoadedEnv, (Run.loadEnv crates world).outcome = .ok env
      ∧ first.bucket = env.bucket
      ∧ first.key
        = buildObjectKey env.s3Prefix setting.project (fallbackKey keyConfig.keyPrefix)
  refused : (∃ pattern ∈ keyConfig.files, Rejected world.files cwd pattern)
    → (main crates world (.key config)).1 = .failure
      ∧ (main crates world (.probe config)).1 ≠ .success
      ∧ headRequests (main crates world (.probe config)).2 = []

/-- In a directory whose path is not UTF-8 nothing is hashed: `key` prints the fallback key
and `probe` asks for it, whatever the tree holds. Witness: lossy decoding keeps the parts of
the path but for those that are not UTF-8, so that no path starts with both.
-/
theorem main_hashesNothing (currentDir : world.currentDir = .ok cwd)
    (undecodable : cwd.toStr = none)
    (yields : YieldsBelowText world.files cwd keyConfig.files)
    (loaded : Setting.newFromFile crates.toml world.processEnv.var world.readToString config
      = .ok setting)
    (hashes : setting.key = .struct keyConfig)
    : HashesNothing crates world config setting keyConfig cwd where
  opened := by
    intro action keyed
    by_contra opened
    obtain ⟨directory, reached, reaches⟩ := exists_reaches_of_opened opened
    obtain ⟨directoryFound, reachedFound⟩ := reaches.stages keyed
    obtain rfl := Except.ok.inj (directoryFound.symm.trans currentDir)
    obtain rfl := Except.ok.inj (reachedFound.symm.trans loaded)
    rw [reaches.opened] at opened
    exact opened (log_resolvePrimaryKey_undecodable hashes yields undecodable)
  key := by
    intro accepted
    have resolved : (setting.resolvePrimaryKey crates.sha256 world.files cwd).outcome
        = .ok (fallbackKey keyConfig.keyPrefix) := by
      rw [resolvePrimaryKey_undecodable hashes yields undecodable accepted]
    have common : PrimaryKeyOf crates world config cwd setting
        (fallbackKey keyConfig.keyPrefix) :=
      ⟨currentDir, loaded, resolved⟩
    refine ⟨main_status_eq_success_iff.mpr (key_outcome_ok_iff.mpr ⟨_, _, _, common⟩), ?_⟩
    rw [stdoutText_main, run, stdoutText_of_printed (printed_key common)]
  probe := by
    intro first rest asked
    rw [headRequests_main, run] at asked
    obtain ⟨directory, reached, env, client, key, ready, resolved, candidates⟩ :=
      exists_candidates_of_requests (asked ▸ List.cons_ne_nil first rest)
    have common := ready.primaryKeyOf resolved
    obtain rfl := Except.ok.inj (common.currentDir.symm.trans currentDir)
    obtain rfl := Except.ok.inj (common.loaded.symm.trans loaded)
    rw [asked, List.map_cons, List.cons_prefix_cons] at candidates
    obtain ⟨rfl, _⟩ := candidates
    obtain rfl := eq_fallbackKey_of_resolved hashes yields undecodable resolved
    exact ⟨env, ready.loadedEnv, rfl, rfl⟩
  refused := by
    intro rejected
    obtain ⟨error, failed⟩ := resolvePrimaryKey_of_rejected hashes rejected
    have never (key : String)
        : (setting.resolvePrimaryKey crates.sha256 world.files cwd).outcome ≠ .ok key := by
      rw [failed]
      exact fun absurdly => by cases absurdly
    have reaches : ReachesKey crates world (.key config) cwd setting :=
      .key (Run.currentDir_eq_ok_iff.mpr currentDir) (Run.loadSetting_eq_ok_iff.mpr loaded)
    have unresolved {directory : PathBuf} {reached : Setting} {key : String}
        (common : PrimaryKeyOf crates world config directory reached key) : False := by
      obtain rfl := Except.ok.inj (common.currentDir.symm.trans currentDir)
      obtain rfl := Except.ok.inj (common.loaded.symm.trans loaded)
      exact never key common.resolved
    refine ⟨?_, ?_, ?_⟩
    · have fails := reaches.fails (congrArg Logged.outcome failed)
      simp only [main, fails]
    · intro success
      obtain ⟨directory, reached, env, client, hit, ready, found⟩ :=
        exists_ready_of_ok (main_status_eq_success_iff.mp success)
      obtain ⟨key, resolved⟩ := exists_primaryKey (Or.inl ⟨hit, found⟩)
      exact unresolved (ready.primaryKeyOf resolved)
    · rw [headRequests_main]
      by_contra asked
      obtain ⟨directory, reached, env, client, key, ready, resolved, _⟩ :=
        exists_candidates_of_requests asked
      exact unresolved (ready.primaryKeyOf resolved)

end Hashing

/-- The directory named by the byte FF, which is the current one, and the directory whose name
is the lossy text of that, with a file `a` in each.
-/
def lossyTwins : FileSystem where
  tree := Tree.ofFiles
    [([[0xFF], asBytes "a"], .ok (asBytes "1")),
      ([asBytes "\uFFFD", asBytes "a"], .ok (asBytes "2"))]
  currentDir := [[0xFF]]
  currentDir_dir := by decide

/-- A run in the first of them. -/
def undecodableWorld : World :=
  { lockWorld "ci[1]" with
    currentDir := .ok ⟨[PathBuf.separator, 0xFF]⟩
    files := lossyTwins.view unescapedGlob }

theorem toStringLossy_undecodable
    : (PathBuf.mk [PathBuf.separator, 0xFF]).toStringLossy = "/\uFFFD" := by
  have slash := lossyChars_encode_append '/' [0xFF]
  have invalid : ([0xFF] : List UInt8).toByteArray.utf8DecodeChar? 0 = none := by
    decide
  have replaced : lossyChars [0xFF] = ['\uFFFD'] := by
    rw [lossyChars, invalid]
    simp [lossyChars]
  rw [utf8_encode_slash, replaced] at slash
  exact congrArg String.ofList slash

/-- Glob is asked for `a` below the other directory, and finds it there. -/
theorem main_hashesNothing_undecodableWorld
    : HashesNothing lockCrates undecodableWorld (PathBuf.ofStr "c.toml") lockSetting
        { files := ["a"], keyPrefix := none } ⟨[PathBuf.separator, 0xFF]⟩ := by
  have yields : YieldsBelowText undecodableWorld.files ⟨[PathBuf.separator, 0xFF]⟩ ["a"] := by
    intro pattern inPatterns _ items path globbed member
    obtain rfl := List.mem_singleton.mp inPatterns
    have full : fullPattern ⟨[PathBuf.separator, 0xFF]⟩ "a" = "/\uFFFD/a" := by
      rw [fullPattern, toStringLossy_undecodable, ← PathBuf.toStringLossy_ofStr "/\uFFFD/a"]
      exact congrArg PathBuf.toStringLossy (by decide)
    have found : undecodableWorld.files.glob "/\uFFFD/a"
        = .ok [.ok (PathBuf.ofStr "/\uFFFD/a")] := by
      decide
    rw [full, found] at globbed
    obtain rfl := Except.ok.inj globbed
    cases List.mem_singleton.mp member
    rw [toStringLossy_undecodable]
    decide
  exact main_hashesNothing rfl (by decide) yields (lockWorld_loaded "ci[1]" _) rfl

end Cafce
