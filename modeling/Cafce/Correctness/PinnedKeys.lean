import Cafce.Correctness.OpenedFiles
import Cafce.Correctness.SharedBucket

/-! A configuration whose key is replaced by the text that `key` printed for it: the commands
do the same, except that no file is opened for hashing.
-/

namespace Cafce

open DelimitedTemplate Fallible Logged

/-- A configuration with its key replaced by a literal. -/
def Setting.pinned (setting : Setting) (key : String) : Setting :=
  { setting with key := .string key }

/-- Two worlds that differ in the text of a configuration, whose key is pinned in the second. -/
structure PinsKey (crates : Crates) (config : PathBuf) (key : String) (world pinned : World)
    : Prop where
  texts : ∃ contents parsed pinnedContents,
    world.readToString config = .ok contents
    ∧ crates.toml contents = .ok parsed
    ∧ pinned.readToString config = .ok pinnedContents
    ∧ crates.toml pinnedContents = .ok (parsed.pinned key)
  currentDir : pinned.currentDir = world.currentDir
  processEnv : pinned.processEnv = world.processEnv
  files : pinned.files = world.files
  headObject : pinned.headObject = world.headObject
  sts : pinned.sts = world.sts

/-- The viewer of everything but the files that are hashed. -/
def shownBesideFiles : Event → Option Event
  | .openedFile _ => none
  | event => some event

section Pinned

variable {crates : Crates} {config cwd : PathBuf} {key : String} {world pinned : World}
  {setting : Setting}

/-- The pinned configuration is loaded as the other one with its key pinned. -/
theorem PinsKey.loaded (pins : PinsKey crates config key world pinned)
    (free : ¬ references.opening <:+: key.toList)
    (loaded : Setting.newFromFile crates.toml world.processEnv.var world.readToString config
      = .ok setting)
    : Setting.newFromFile crates.toml pinned.processEnv.var pinned.readToString config
      = .ok (setting.pinned key) := by
  obtain ⟨contents, parsed, pinnedContents, read, found, pinnedRead, pinnedFound⟩ := pins.texts
  rw [Setting.newFromFile, read] at loaded
  obtain ⟨other, otherFound, project, filled, _, fallbackKeys, paths⟩ :=
    Setting.newFromStr_eq_ok_iff.mp loaded
  obtain rfl := Except.ok.inj (found.symm.trans otherFound)
  rw [Setting.newFromFile, pinnedRead, pins.processEnv]
  refine Setting.newFromStr_eq_ok_iff.mpr
    ⟨_, pinnedFound, project, filled, ?_, fallbackKeys, paths⟩
  simp only [Setting.pinned, Setting.expandKey, expandEnvVars_of_free free]
  rfl

/-- The loop asks for keys below the project, whatever the key of the setting is. -/
theorem probeKeys_pinned (headObject : HeadObject) (setting : Setting) (env : LoadedEnv)
    (client : S3Client) (asked : Nat) (keys : List String)
    : probeKeys headObject (setting.pinned key) env client asked keys
      = probeKeys headObject setting env client asked keys := by
  induction keys generalizing asked with
  | nil => rfl
  | cons next keys ih =>
      rw [probeKeys, probeKeys, ih]
      rfl

/-- The primary key is the same, and the other setting opens files for it. -/
theorem primaryKey_pinned {sha256 : List UInt8 → Digest} {files : FileView}
    (resolved : (setting.resolvePrimaryKey sha256 files cwd).outcome = .ok key)
    (wrap : AnyhowError → Abort AnyhowError)
    : LookAlike shownBesideFiles Eq Eq
        ((setting.resolvePrimaryKey sha256 files cwd).relabel .openedFile wrap)
        (((setting.pinned key).resolvePrimaryKey sha256 files cwd).relabel .openedFile
          wrap) := by
  apply LookAlike.of_hidden (seen_relabel_of_none (fun _ => rfl) _ _) rfl
  rw [outcome_relabel, outcome_relabel, resolved]
  rfl

/-- A probe asks for the same objects and answers the same. -/
theorem probe_pinned {sha256 : List UInt8 → Digest} {files : FileView}
    (resolved : (setting.resolvePrimaryKey sha256 files cwd).outcome = .ok key)
    (headObject : HeadObject) (env : LoadedEnv) (client : S3Client)
    : LookAlike shownBesideFiles Eq Eq
        ((probe sha256 files headObject setting env client cwd).relabel id Abort.failed)
        ((probe sha256 files headObject (setting.pinned key) env client cwd).relabel id
          Abort.failed) := by
  have pinnedResolved : ((setting.pinned key).resolvePrimaryKey sha256 files cwd).outcome
      = .ok key := rfl
  have same : probeKeys headObject (setting.pinned key) env client 0
        (key :: (setting.pinned key).fallbackKeys)
      = probeKeys headObject setting env client 0 (key :: setting.fallbackKeys) :=
    probeKeys_pinned headObject setting env client 0 _
  rw [probe_resolved resolved, probe_resolved pinnedResolved, same]
  constructor
  · have opened (paths : List PathBuf)
        : (paths.map Event.openedFile).filterMap (shownBesideFiles ∘ id) = [] := by
      simp [List.filterMap_map, shownBesideFiles]
    rw [seen_relabel, seen_relabel, seen, seen, List.filterMap_append, List.filterMap_append,
      opened, opened]
  · change Related Eq Eq (Except.mapError _ (probeKeys ..).outcome)
      (Except.mapError _ (probeKeys ..).outcome)
    cases (probeKeys headObject setting env client 0
      (key :: setting.fallbackKeys)).outcome with
    | error error => rfl
    | ok hit => rfl

/-- The stages before the primary key are the same, up to the pinned key. -/
theorem PinsKey.stages (pins : PinsKey crates config key world pinned)
    (free : ¬ references.opening <:+: key.toList)
    (common : PrimaryKeyOf crates world config cwd setting key)
    : LookAlike shownBesideFiles Eq (fun left right => left = cwd ∧ right = cwd)
          (Run.currentDir world) (Run.currentDir pinned)
      ∧ LookAlike shownBesideFiles Eq
          (fun left right => left = setting ∧ right = setting.pinned key)
          (Run.loadSetting crates world config) (Run.loadSetting crates pinned config) := by
  constructor
  · apply LookAlike.of_hidden rfl rfl
    rw [Run.currentDir_eq_ok_iff.mpr common.currentDir,
      Run.currentDir_eq_ok_iff.mpr (pins.currentDir.trans common.currentDir)]
    exact ⟨rfl, rfl⟩
  · refine ⟨rfl, ?_⟩
    rw [Run.loadSetting_eq_ok_iff.mpr common.loaded,
      Run.loadSetting_eq_ok_iff.mpr (pins.loaded free common.loaded)]
    exact ⟨rfl, rfl⟩

/-- `key` prints the pinned key again. -/
theorem key_pinned (pins : PinsKey crates config key world pinned)
    (free : ¬ references.opening <:+: key.toList)
    (common : PrimaryKeyOf crates world config cwd setting key)
    : LookAlike shownBesideFiles Eq Eq (Run.key crates world config)
        (Run.key crates pinned config) := by
  obtain ⟨directories, settings⟩ := pins.stages free common
  rw [Run.key, Run.key]
  apply directories.bind
  intro _ _ both
  obtain ⟨rfl, rfl⟩ := both
  apply settings.bind
  intro _ _ both
  obtain ⟨rfl, rfl⟩ := both
  rw [pins.files]
  apply (primaryKey_pinned common.resolved _).bind
  intro _ _ rfl
  exact LookAlike.refl _ (fun _ => rfl) fun _ => rfl

/-- `probe` asks for the same objects and prints the same answer. -/
theorem probe_command_pinned (pins : PinsKey crates config key world pinned)
    (free : ¬ references.opening <:+: key.toList)
    (common : PrimaryKeyOf crates world config cwd setting key)
    : LookAlike shownBesideFiles Eq Eq (Run.probe crates world config)
        (Run.probe crates pinned config) := by
  obtain ⟨directories, settings⟩ := pins.stages free common
  have loadEnv : Run.loadEnv crates pinned = Run.loadEnv crates world := by
    rw [Run.loadEnv, Run.loadEnv, pins.processEnv]
  have buildClient (env : LoadedEnv)
      : Run.buildClient crates pinned env = Run.buildClient crates world env := by
    rw [Run.buildClient, Run.buildClient, pins.sts]
  rw [Run.probe, Run.probe, loadEnv, pins.files, pins.headObject]
  apply directories.bind
  intro _ _ both
  obtain ⟨rfl, rfl⟩ := both
  apply settings.bind
  intro _ _ both
  obtain ⟨rfl, rfl⟩ := both
  apply (LookAlike.refl (Run.loadEnv crates world) (fun _ => rfl) fun _ => rfl).bind
  intro env _ rfl
  rw [buildClient]
  apply (LookAlike.refl (Run.buildClient crates world env) (fun _ => rfl) fun _ => rfl).bind
  intro client _ rfl
  apply (probe_pinned common.resolved world.headObject env client).bind
  intro hit _ rfl
  exact LookAlike.refl _ (fun _ => rfl) fun _ => rfl

/-- A command with the pinned configuration opens no file. -/
theorem opens_nothing {action : Action} (pins : PinsKey crates config key world pinned)
    (free : ¬ references.opening <:+: key.toList)
    (common : PrimaryKeyOf crates world config cwd setting key)
    (keyed : action = .key config ∨ action = .probe config)
    : openedFiles (main crates pinned action).2 = [] := by
  by_contra opened
  obtain ⟨directory, reached, reaches⟩ := exists_reaches_of_opened opened
  obtain ⟨_, found⟩ := reaches.stages keyed
  obtain rfl := Except.ok.inj (found.symm.trans (pins.loaded free common.loaded))
  rw [reaches.opened] at opened
  exact opened rfl

end Pinned

/-- Pinning a key changes nothing but the files that are opened: where `key` printed a text
and the configuration is given that text in place of its key, `key` and `probe` exit, ask,
print and report as before, without opening a file. Witness: the stages of both runs, which
meet at the primary key.
-/
theorem pinned_alike {crates : Crates} {config : PathBuf} {key : String}
    {world pinned : World} {action : Action} (pins : PinsKey crates config key world pinned)
    (free : ¬ references.opening <:+: key.toList)
    (success : (main crates world (.key config)).1 = .success)
    (shown : stdoutText (main crates world (.key config)).2 = key ++ "\n")
    (keyed : action = .key config ∨ action = .probe config)
    : (main crates world action).1 = (main crates pinned action).1
      ∧ (main crates world action).2.filterMap shownBesideFiles
        = (main crates pinned action).2.filterMap shownBesideFiles
      ∧ openedFiles (main crates pinned action).2 = [] := by
  obtain ⟨cwd, setting, key, common⟩ :=
    key_outcome_ok_iff.mp (main_status_eq_success_iff.mp success)
  rw [stdoutText_main, run, stdoutText_of_printed (printed_key common)] at shown
  obtain rfl := (String.append_left_inj _).mp shown
  have alike : LookAlike shownBesideFiles Eq Eq (run crates world action)
      (run crates pinned action) := by
    rcases keyed with rfl | rfl
    · exact key_pinned pins free common
    · exact probe_command_pinned pins free common
  obtain ⟨statuses, logs⟩ := main_alike alike
  exact ⟨statuses, logs, opens_nothing pins free common keyed⟩

/-- A crate that reads a configuration and the same one with its key pinned. -/
def pinningCrates : Crates :=
  { lockCrates with
    toml := fun contents =>
      .ok (if contents = "pinned" then lockSetting.pinned lockKey else lockSetting) }

/-- The pinned configuration of the job at `/ci[1]` opens no file. -/
def pinnedWorld : World :=
  { lockWorld "ci[1]" with readToString := fun _ => .ok "pinned" }

theorem pinned_alike_lockWorld
    : (main pinningCrates (lockWorld "ci[1]") (.probe (PathBuf.ofStr "c.toml"))).1
        = (main pinningCrates pinnedWorld (.probe (PathBuf.ofStr "c.toml"))).1
      ∧ (main pinningCrates (lockWorld "ci[1]")
          (.probe (PathBuf.ofStr "c.toml"))).2.filterMap shownBesideFiles
        = (main pinningCrates pinnedWorld
          (.probe (PathBuf.ofStr "c.toml"))).2.filterMap shownBesideFiles
      ∧ openedFiles (main pinningCrates pinnedWorld (.probe (PathBuf.ofStr "c.toml"))).2
        = [] := by
  have free : ¬ references.opening <:+: lockKey.toList := by
    decide
  have plain : pinningCrates.toml "project = \"p\"\nkey = \"k\"\n" = .ok lockSetting := by
    decide
  have loaded : Setting.newFromFile pinningCrates.toml
        (lockWorld "ci[1]").processEnv.var (lockWorld "ci[1]").readToString
        (PathBuf.ofStr "c.toml") = .ok lockSetting := by
    rw [Setting.newFromFile, bind_eq_ok_iff]
    exact ⟨_, rfl, Setting.newFromStr_eq_ok_iff.mpr ⟨lockSetting, plain,
      expandEnvVars_of_free (by decide), by decide, rfl, rfl, rfl⟩⟩
  have common : PrimaryKeyOf pinningCrates (lockWorld "ci[1]") (PathBuf.ofStr "c.toml")
      (PathBuf.ofStr "/ci[1]") lockSetting lockKey :=
    ⟨rfl, loaded, lockSetting_resolves⟩
  have pins : PinsKey pinningCrates (PathBuf.ofStr "c.toml") lockKey (lockWorld "ci[1]")
      pinnedWorld :=
    ⟨⟨_, lockSetting, "pinned", rfl, plain, rfl, rfl⟩, rfl, rfl, rfl, rfl, rfl⟩
  apply pinned_alike pins free
  · exact main_status_eq_success_iff.mpr (key_outcome_ok_iff.mpr ⟨_, _, _, common⟩)
  · rw [stdoutText_main, run, stdoutText_of_printed (printed_key common)]
  · exact Or.inr rfl

end Cafce
