import Cafce.Correctness.Commands

/-! Which files a command opens to make the primary key, and in which order.
-/

namespace Cafce

open Fallible Logged

/-- The viewer of the files that are hashed. -/
def shownFile : Event → Option PathBuf
  | .openedFile path => some path
  | _ => none

/-- The files that were opened for hashing, in order. -/
def openedFiles (log : List Event) : List PathBuf :=
  log.filterMap shownFile

/-- The files that are opened for the primary key of a setting: none for a literal, and none
before all patterns are accepted and within the limit. Then the matched files in their
ascending order, up to and with the first one that cannot be read, which the outcome names.
-/
structure OpensInOrder (setting : Setting) (files : FileView) (basePath : PathBuf)
    (outcome : Except AnyhowError String) (opened : List PathBuf)
    : Prop where
  literal : ∀ text, setting.key = .string text → opened = []
  refused : ∀ keyConfig error, setting.key = .struct keyConfig
    → (FileMatcher.mk 50).resolvePatterns files keyConfig.files basePath = .error error
    → opened = [] ∧ outcome = .error error
  readable : ∀ keyConfig matched, setting.key = .struct keyConfig
    → (FileMatcher.mk 50).resolvePatterns files keyConfig.files basePath = .ok matched
    → (∀ file ∈ matched, ∃ content, files.read file = .ok content)
    → opened = matched ∧ ∃ key, outcome = .ok key
  unreadable : ∀ keyConfig before file after error, setting.key = .struct keyConfig
    → (FileMatcher.mk 50).resolvePatterns files keyConfig.files basePath
      = .ok (before ++ file :: after)
    → (∀ earlier ∈ before, ∃ content, files.read earlier = .ok content)
    → files.read file = .error error
    → opened = before ++ [file]
      ∧ outcome = .error (.context
        ("ファイルの読み込みに失敗しました: " ++ file.toStringLossy) (.foreign error))

-----------------------------------------------------------------------------------------
-- From hashing to the primary key
-----------------------------------------------------------------------------------------

section Hashing

variable {sha256 : List UInt8 → Digest} {files : FileView}

theorem log_calculateSingleFileHash (file : PathBuf)
    : (HashCalculator.calculateSingleFileHash sha256 files file).log = [file] := by
  rw [HashCalculator.calculateSingleFileHash, log_bind_of_silent fun _ => log_pure _]
  rfl

/-- A file that can be read can be hashed. -/
theorem exists_fileHash {file : PathBuf} (read : ∃ content, files.read file = .ok content)
    : ∃ fileHash, (HashCalculator.calculateSingleFileHash sha256 files file).outcome
      = .ok fileHash := by
  obtain ⟨content, found⟩ := read
  refine ⟨lowerHex (sha256 content), ?_⟩
  rw [HashCalculator.outcome_calculateSingleFileHash, readFile_eq_ok_iff.mpr found]
  rfl

/-- Resolved paths are hashed in the order in which they were resolved. -/
theorem log_generateKey_of_resolved (generator : CacheKeyGenerator) {keyConfig : Key}
    {matched : List PathBuf}
    (resolution : (FileMatcher.mk generator.maxFiles).resolvePatterns files keyConfig.files
      generator.basePath = .ok matched)
    : (generator.generateKey sha256 files keyConfig).log
      = (Logged.traverse (HashCalculator.calculateSingleFileHash sha256 files) matched).log := by
  have sorted : KeyedSort.sortBy PathBuf.key matched = matched := by
    rw [FileMatcher.resolvePatterns_eq] at resolution
    obtain ⟨_, _, merged⟩ := bind_eq_ok_iff.mp resolution
    rw [(FileMatcher.resolved_eq_ok_iff.mp merged).2, KeyedSort.sortBy_sortBy]
  rw [CacheKeyGenerator.generateKey, resolution, log_bind_of_ok (outcome_quiet _), log_quiet,
    List.nil_append]
  cases matched with
  | nil => cases keyConfig.keyPrefix <;> rfl
  | cons path paths =>
      simp only [List.isEmpty_cons, Bool.false_eq_true, if_false]
      rw [log_bind_of_silent, HashCalculator.calculateFilesHash, List.isEmpty_cons,
        if_neg Bool.false_ne_true, log_bind_of_silent fun _ => log_pure _, sorted]
      intro filesHash
      cases keyConfig.keyPrefix <;> rfl

/-- Nothing is hashed where the patterns are refused. -/
theorem generateKey_of_refused (generator : CacheKeyGenerator) {keyConfig : Key}
    {error : AnyhowError}
    (refused : (FileMatcher.mk generator.maxFiles).resolvePatterns files keyConfig.files
      generator.basePath = .error error)
    : (generator.generateKey sha256 files keyConfig)
      = { outcome := .error error, log := [] } := by
  rw [CacheKeyGenerator.generateKey, refused]
  rfl

/-- Hashing opens readable files one by one and ends with the first that is not. -/
theorem log_hashing_of_unreadable {before after : List PathBuf} {file : PathBuf}
    {error : ForeignError}
    (reads : ∀ earlier ∈ before, ∃ content, files.read earlier = .ok content)
    (failed : files.read file = .error error)
    : (Logged.traverse (HashCalculator.calculateSingleFileHash sha256 files)
        (before ++ file :: after)).log = before ++ [file] := by
  have failure : (HashCalculator.calculateSingleFileHash sha256 files file).outcome
      = .error (.context ("ファイルの読み込みに失敗しました: " ++ file.toStringLossy)
        (.foreign error)) := by
    rw [HashCalculator.outcome_calculateSingleFileHash, readFile, failed]
    rfl
  rw [log_traverse_append fun earlier member => exists_fileHash (reads earlier member),
    Logged.traverse, log_bind_of_error failure, log_calculateSingleFileHash]
  simp only [log_calculateSingleFileHash, List.flatMap_singleton']

theorem log_hashing_of_readable {matched : List PathBuf}
    (reads : ∀ file ∈ matched, ∃ content, files.read file = .ok content)
    : (Logged.traverse (HashCalculator.calculateSingleFileHash sha256 files) matched).log
      = matched := by
  have hashed : ∀ file ∈ matched, ∃ fileHash,
      (HashCalculator.calculateSingleFileHash sha256 files file).outcome = .ok fileHash :=
    fun file member => exists_fileHash (reads file member)
  have all := log_traverse_append hashed []
  rw [List.append_nil] at all
  rw [all]
  simp only [log_calculateSingleFileHash, List.flatMap_singleton']
  exact List.append_nil _

end Hashing

theorem resolvePrimaryKey_opensInOrder (setting : Setting) (sha256 : List UInt8 → Digest)
    (files : FileView) (basePath : PathBuf)
    : OpensInOrder setting files basePath
        (setting.resolvePrimaryKey sha256 files basePath).outcome
        (setting.resolvePrimaryKey sha256 files basePath).log := by
  have hashes {keyConfig : Key} (given : setting.key = .struct keyConfig)
      : setting.resolvePrimaryKey sha256 files basePath
        = (CacheKeyGenerator.mk 50 basePath).generateKey sha256 files keyConfig := by
    rw [Setting.resolvePrimaryKey, given]
  refine ⟨?_, ?_, ?_, ?_⟩
  · intro text given
    rw [Setting.resolvePrimaryKey, given]
    rfl
  · intro keyConfig error given refused
    rw [hashes given, generateKey_of_refused ⟨50, basePath⟩ refused]
    exact ⟨rfl, rfl⟩
  · intro keyConfig matched given resolution reads
    rw [hashes given, log_generateKey_of_resolved ⟨50, basePath⟩ resolution,
      log_hashing_of_readable reads]
    obtain ⟨contents, all⟩ := exists_mapM_eq_ok_iff.mpr reads
    exact ⟨rfl, _, CacheKeyGenerator.generateKey_eq_ok_iff.mpr
      ⟨matched, contents, resolution, mapM_readFile_eq_ok_iff.mpr all, rfl⟩⟩
  · intro keyConfig before file after error given resolution reads failed
    rw [hashes given, log_generateKey_of_resolved ⟨50, basePath⟩ resolution,
      log_hashing_of_unreadable reads failed]
    refine ⟨rfl, ?_⟩
    have stopped : (before ++ file :: after).mapM (readFile files)
        = .error (.context ("ファイルの読み込みに失敗しました: " ++ file.toStringLossy)
          (.foreign error)) := by
      refine mapM_eq_error_iff.mpr ⟨before, file, after, rfl, ?_, ?_⟩
      · intro earlier member
        obtain ⟨content, found⟩ := reads earlier member
        exact ⟨content, readFile_eq_ok_iff.mpr found⟩
      · rw [readFile, failed]
        rfl
    rw [CacheKeyGenerator.outcome_generateKey, resolution, ok_bind, stopped]
    rfl

-----------------------------------------------------------------------------------------
-- From the primary key to the commands
-----------------------------------------------------------------------------------------

/-- The stages that a command has passed when it comes to the primary key. -/
inductive ReachesKey (crates : Crates) (world : World)
    : Action → PathBuf → Setting → Prop
  | key {config cwd setting} (currentDir : (Run.currentDir world).outcome = .ok cwd)
    (loaded : (Run.loadSetting crates world config).outcome = .ok setting)
    : ReachesKey crates world (.key config) cwd setting
  | probe {config cwd setting env client}
    (ready : ProbeReady crates world config cwd setting env client)
    : ReachesKey crates world (.probe config) cwd setting

section Commands

variable {crates : Crates} {world : World} {config cwd : PathBuf} {setting : Setting}

theorem openedFiles_main (action : Action)
    : openedFiles (main crates world action).2
      = seen shownFile (run crates world action) := by
  rw [main, seen]
  split
  · rfl
  · simp [openedFiles, shownFile]
  · rfl

/-- Labelled as opened, the files of a computation are all seen. -/
theorem seen_relabel_opened {ε ε' α : Type} (wrap : ε → ε') (reading : Logged PathBuf ε α)
    : seen shownFile (reading.relabel .openedFile wrap) = reading.log := by
  rw [seen_relabel, seen]
  exact List.filterMap_some

theorem opened_probeKeys (headObject : HeadObject) (setting : Setting) (env : LoadedEnv)
    (client : S3Client) (asked : Nat) (keys : List String)
    : seen shownFile (probeKeys headObject setting env client asked keys) = [] := by
  induction keys generalizing asked with
  | nil => rfl
  | cons key keys ih =>
      rw [probeKeys, seen_bind_of_hidden_next]
      · rfl
      · intro hit
        cases hit with
        | true => rfl
        | false => exact ih (asked + 1)

theorem opened_probe (sha256 : List UInt8 → Digest) (files : FileView)
    (headObject : HeadObject) (setting : Setting) (env : LoadedEnv) (client : S3Client)
    (basePath : PathBuf)
    : seen shownFile (probe sha256 files headObject setting env client basePath)
      = (setting.resolvePrimaryKey sha256 files basePath).log := by
  rw [probe, seen_bind_of_hidden_next fun primaryKey => opened_probeKeys _ _ _ _ _ _,
    seen_relabel_opened]

/-- The directory and the setting that a command comes to the primary key with. -/
theorem ReachesKey.stages {action : Action}
    (reaches : ReachesKey crates world action cwd setting)
    (keyed : action = .key config ∨ action = .probe config)
    : world.currentDir = .ok cwd
      ∧ Setting.newFromFile crates.toml world.processEnv.var world.readToString config
        = .ok setting := by
  cases reaches with
  | key currentDir loaded =>
      rcases keyed with same | same
      · cases same
        exact ⟨Run.currentDir_eq_ok_iff.mp currentDir, Run.loadSetting_eq_ok_iff.mp loaded⟩
      · cases same
  | probe ready =>
      rcases keyed with same | same
      · cases same
      · cases same
        exact ⟨Run.currentDir_eq_ok_iff.mp ready.currentDir,
          Run.loadSetting_eq_ok_iff.mp ready.loaded⟩

/-- A command that comes to the primary key opens the files for it and no others. -/
theorem ReachesKey.opened {action : Action}
    (reaches : ReachesKey crates world action cwd setting)
    : openedFiles (main crates world action).2
      = (setting.resolvePrimaryKey crates.sha256 world.files cwd).log := by
  rw [openedFiles_main]
  cases reaches with
  | key currentDir loaded =>
      rw [run, Run.key, seen_bind_of_ok currentDir, seen_bind_of_ok loaded,
        seen_bind_of_hidden_next fun key => rfl, seen_relabel_opened]
      rfl
  | @probe config cwd setting env client ready =>
      have built : seen shownFile (Run.buildClient crates world env) = [] :=
        seen_relabel_of_none (fun call => rfl) _ _
      rw [run, Run.probe, seen_bind_of_ok ready.currentDir, seen_bind_of_ok ready.loaded,
        seen_bind_of_ok ready.loadedEnv, seen_bind_of_ok ready.built,
        seen_bind_of_hidden_next fun hit => rfl, seen_relabel, built]
      exact opened_probe _ _ _ _ _ _ _

/-- A command that opens a file has come to the primary key. -/
theorem exists_reaches_of_opened {action : Action}
    (opened : openedFiles (main crates world action).2 ≠ [])
    : ∃ cwd setting, ReachesKey crates world action cwd setting := by
  rw [openedFiles_main] at opened
  have inputs (config : PathBuf)
      : seen shownFile (Run.printInputs crates world config) = [] := by
    rw [Run.printInputs, seen_bind_of_hidden_next]
    · rfl
    · intro env
      rw [seen_bind_of_hidden_next fun setting => rfl]
      rfl
  cases action with
  | key config =>
      rw [run, Run.key] at opened
      obtain ⟨cwd, currentDir, later⟩ := exists_of_seen_bind rfl opened
      rw [later] at opened
      obtain ⟨setting, loaded, _⟩ := exists_of_seen_bind rfl opened
      exact ⟨cwd, setting, .key currentDir loaded⟩
  | probe config =>
      rw [run, Run.probe] at opened
      obtain ⟨cwd, currentDir, later⟩ := exists_of_seen_bind rfl opened
      rw [later] at opened
      obtain ⟨setting, loaded, later⟩ := exists_of_seen_bind rfl opened
      rw [later] at opened
      obtain ⟨env, loadedEnv, later⟩ := exists_of_seen_bind rfl opened
      rw [later] at opened
      obtain ⟨client, built, _⟩ := exists_of_seen_bind
        (seen_relabel_of_none (fun call => rfl) _ _) opened
      exact ⟨cwd, setting, .probe ⟨currentDir, loaded, loadedEnv, built⟩⟩
  | init config =>
      refine absurd ?_ opened
      rw [run, Run.init, seen_relabel, Run.initToFile, seen_bind_of_hidden_next]
      · rfl
      · intro created
        rw [seen_bind_of_hidden_next fun toml => rfl]
        rfl
  | store config => exact absurd (inputs config) opened
  | restore config => exact absurd (inputs config) opened

/-- A command whose primary key cannot be made fails with its error. -/
theorem ReachesKey.fails {action : Action} {error : AnyhowError}
    (reaches : ReachesKey crates world action cwd setting)
    (failure : (setting.resolvePrimaryKey crates.sha256 world.files cwd).outcome = .error error)
    : (run crates world action).outcome
      = .error (.failed (.context "primary キーの計算に失敗しました" error)) := by
  cases reaches with
  | key currentDir loaded =>
      simp only [run, Run.key, outcome_bind, outcome_relabel, currentDir, loaded, failure,
        Except.mapError, ok_bind, error_bind]
  | probe ready =>
      simp only [run, Run.probe, outcome_bind, outcome_relabel, ready.currentDir, ready.loaded,
        ready.loadedEnv, ready.built, probe_unresolved failure, Except.mapError, ok_bind,
        error_bind]

/-- What a command opens for the primary key. -/
structure OpensForKey (crates : Crates) (world : World) (action : Action)
    (result : ExitStatus × List Event)
    : Prop where
  unreached : (∀ cwd setting, ¬ ReachesKey crates world action cwd setting)
    → openedFiles result.2 = []
  reached : ∀ cwd setting, ReachesKey crates world action cwd setting
    → OpensInOrder setting world.files cwd
        (setting.resolvePrimaryKey crates.sha256 world.files cwd).outcome
        (openedFiles result.2)
  failure : ∀ cwd setting error, ReachesKey crates world action cwd setting
    → (setting.resolvePrimaryKey crates.sha256 world.files cwd).outcome = .error error
    → result.1 = .failure
      ∧ result.2.getLast? = some (.stderr
        ((AnyhowError.context "primary キーの計算に失敗しました" error).report ++ "\n"))

/-- Only `key` and `probe` open files, when the stages before have succeeded; each matched
file once, in ascending order, and none after the first that cannot be read. Witness: the log
of the hashing loop, which nothing else adds to.
-/
theorem main_opensForKey (crates : Crates) (world : World) (action : Action)
    : OpensForKey crates world action (main crates world action) where
  unreached := by
    intro never
    by_contra opened
    obtain ⟨cwd, setting, reaches⟩ := exists_reaches_of_opened opened
    exact never cwd setting reaches
  reached := by
    intro cwd setting reaches
    rw [reaches.opened]
    exact resolvePrimaryKey_opensInOrder setting crates.sha256 world.files cwd
  failure := by
    intro cwd setting error reaches failed
    simp only [main, reaches.fails failed]
    exact ⟨trivial, List.getLast?_concat⟩

end Commands

end Cafce
