import Cafce.Correctness.ProbeProtocol
import Cafce.Library.ObservedRuns
import Cafce.Model.Main

/-! The commands against each other: `key` and `probe` resolve one primary key, and a
command that fails has printed nothing.
-/

namespace Cafce

open Fallible Logged

/-- The viewer of stdout. -/
def shownText : Event → Option String
  | .stdout text => some text
  | _ => none

/-- The viewer of HeadObject requests. -/
def shownRequest : Event → Option HeadObjectCall
  | .headObject call => some call
  | _ => none

theorem seen_shownText {ε α : Type} (stage : Logged Event ε α)
    : seen shownText stage = printed stage.log := rfl

theorem seen_shownRequest {ε α : Type} (stage : Logged Event ε α)
    : seen shownRequest stage = headRequests stage.log := rfl

/-- A viewer that sees neither what is read nor what is asked of STS. -/
structure IgnoresReads {ν : Type} (view : Event → Option ν) : Prop where
  openedConfig : ∀ path, view (.openedConfig path) = none
  openedFile : ∀ path, view (.openedFile path) = none
  assumeRole : ∀ call, view (.assumeRole call) = none

theorem shownText_ignoresReads : IgnoresReads shownText :=
  ⟨fun _ => rfl, fun _ => rfl, fun _ => rfl⟩

theorem shownRequest_ignoresReads : IgnoresReads shownRequest :=
  ⟨fun _ => rfl, fun _ => rfl, fun _ => rfl⟩

/-- A command whose failures are clean prints nothing unless it succeeds. -/
theorem stdoutText_of_cleanFailure {crates : Crates} {world : World} {action : Action}
    (clean : CleanFailure shownText (run crates world action))
    (failure : (main crates world action).1 ≠ .success)
    : stdoutText (main crates world action).2 = "" := by
  rw [stdoutText_main, stdoutText, ← seen_shownText]
  cases outcome : (run crates world action).outcome with
  | ok _ => exact absurd (main_status_eq_success_iff.mpr outcome) failure
  | error error =>
      rw [clean error outcome]
      rfl

/-- Commands that look alike to a viewer exit alike, and look alike with their reports. -/
theorem main_alike {ν : Type} {view : Event → Option ν} {crates : Crates}
    {left right : World} {action : Action}
    (alike : LookAlike view Eq Eq (run crates left action) (run crates right action))
    : (main crates left action).1 = (main crates right action).1
      ∧ (main crates left action).2.filterMap view
        = (main crates right action).2.filterMap view := by
  have logs := alike.seen_eq
  rw [seen, seen] at logs
  cases leftOutcome : (run crates left action).outcome with
  | ok done =>
      obtain ⟨_, rightOutcome, _⟩ := alike.outcomes.exists_of_ok leftOutcome
      simp only [main, leftOutcome, rightOutcome]
      exact ⟨trivial, logs⟩
  | error error =>
      obtain ⟨_, rightOutcome, rfl⟩ := alike.outcomes.exists_of_error leftOutcome
      cases error with
      | failed error =>
          simp only [main, leftOutcome, rightOutcome, List.filterMap_append, logs]
          exact ⟨trivial, trivial⟩
      | panicked =>
          simp only [main, leftOutcome, rightOutcome]
          exact ⟨trivial, logs⟩

section Stages

variable {ν : Type} {view : Event → Option ν} (crates : Crates) (world : World)
  (config : PathBuf)

theorem seen_currentDir : seen view (Run.currentDir world) = [] := rfl

theorem seen_loadSetting (ignores : IgnoresReads view)
    : seen view (Run.loadSetting crates world config) = [] :=
  seen_perform_of_none (ignores.openedConfig config) _

theorem seen_loadEnv : seen view (Run.loadEnv crates world) = [] := rfl

theorem seen_buildClient (ignores : IgnoresReads view) (env : LoadedEnv)
    : seen view (Run.buildClient crates world env) = [] :=
  seen_relabel_of_none ignores.assumeRole _ _

end Stages

/-- The loop of a probe prints nothing. -/
theorem printed_probeKeys (headObject : HeadObject) (setting : Setting) (env : LoadedEnv)
    (client : S3Client) (asked : Nat) (keys : List String)
    : printed (probeKeys headObject setting env client asked keys).log = [] := by
  induction keys generalizing asked with
  | nil => rfl
  | cons key keys ih =>
      have silent : printed
          (checkKeyExists headObject asked client env.bucket
            (buildObjectKey env.s3Prefix setting.project key)).log = [] := rfl
      rw [← seen_shownText] at silent ⊢
      rw [probeKeys, seen_bind_of_hidden_next, silent]
      intro hit
      cases hit with
      | true => rfl
      | false => exact ih (asked + 1)

theorem printed_probe (sha256 : List UInt8 → Digest) (files : FileView)
    (headObject : HeadObject) (setting : Setting) (env : LoadedEnv) (client : S3Client)
    (basePath : PathBuf)
    : printed (probe sha256 files headObject setting env client basePath).log = [] := by
  rw [← seen_shownText, probe, seen_bind_of_hidden_next]
  · exact seen_relabel_of_none shownText_ignoresReads.openedFile _ _
  · exact fun primaryKey => printed_probeKeys _ _ _ _ _ _

/-- A probe that reaches its loop has resolved the primary key. -/
theorem exists_primaryKey {sha256 : List UInt8 → Digest} {files : FileView}
    {headObject : HeadObject} {setting : Setting} {env : LoadedEnv} {client : S3Client}
    {basePath : PathBuf}
    (reached : (∃ hit,
        (probe sha256 files headObject setting env client basePath).outcome = .ok hit)
      ∨ headRequests (probe sha256 files headObject setting env client basePath).log ≠ [])
    : ∃ key, (setting.resolvePrimaryKey sha256 files basePath).outcome = .ok key := by
  cases resolved : (setting.resolvePrimaryKey sha256 files basePath).outcome with
  | ok key => exact ⟨key, rfl⟩
  | error error =>
      rw [probe_unresolved resolved] at reached
      rcases reached with ⟨hit, success⟩ | asked
      · cases success
      · exact absurd (headRequests_opened _) asked

-----------------------------------------------------------------------------------------
-- The `key` command
-----------------------------------------------------------------------------------------

/-- What `key` and `probe` have in common: the directory, the setting and its primary key. -/
structure PrimaryKeyOf (crates : Crates) (world : World) (config : PathBuf)
    (cwd : PathBuf) (setting : Setting) (key : String)
    : Prop where
  currentDir : world.currentDir = .ok cwd
  loaded : Setting.newFromFile crates.toml world.processEnv.var world.readToString config
    = .ok setting
  resolved : (setting.resolvePrimaryKey crates.sha256 world.files cwd).outcome = .ok key

/-- The directory, the setting and the key are determined. -/
theorem PrimaryKeyOf.unique {crates : Crates} {world : World} {config : PathBuf}
    {cwd cwd' : PathBuf} {setting setting' : Setting} {key key' : String}
    (left : PrimaryKeyOf crates world config cwd setting key)
    (right : PrimaryKeyOf crates world config cwd' setting' key')
    : setting = setting' ∧ key = key' := by
  obtain rfl := Except.ok.inj (left.currentDir.symm.trans right.currentDir)
  obtain rfl := Except.ok.inj (left.loaded.symm.trans right.loaded)
  exact ⟨rfl, Except.ok.inj (left.resolved.symm.trans right.resolved)⟩

section Key

variable {crates : Crates} {world : World} {config : PathBuf}

theorem key_outcome_ok_iff
    : (Run.key crates world config).outcome = .ok ()
      ↔ ∃ cwd setting key, PrimaryKeyOf crates world config cwd setting key := by
  simp only [Run.key, Run.currentDir, Run.loadSetting, Run.println, outcome_bind,
    outcome_quiet, outcome_perform, outcome_relabel, bind_eq_ok_iff, mapError_eq_ok_iff]
  constructor
  · intro success
    obtain ⟨cwd, directory, setting, loaded, key, resolved, _⟩ := success
    exact ⟨cwd, setting, key, directory, loaded, resolved⟩
  · intro common
    obtain ⟨cwd, setting, key, directory, loaded, resolved⟩ := common
    exact ⟨cwd, directory, setting, loaded, key, resolved, trivial⟩

/-- A successful `key` prints the primary key and nothing else. -/
theorem printed_key {cwd : PathBuf} {setting : Setting} {key : String}
    (common : PrimaryKeyOf crates world config cwd setting key)
    : printed (Run.key crates world config).log = [key ++ "\n"] := by
  have directory := Run.currentDir_eq_ok_iff.mpr common.currentDir
  have loaded := Run.loadSetting_eq_ok_iff.mpr common.loaded
  rw [← seen_shownText, Run.key, seen_bind_of_ok directory, seen_currentDir,
    seen_bind_of_ok loaded, seen_loadSetting _ _ _ shownText_ignoresReads,
    seen_bind_of_ok (mapError_eq_ok_iff.mpr common.resolved),
    seen_relabel_of_none shownText_ignoresReads.openedFile]
  rfl

theorem key_cleanFailure : CleanFailure shownText (Run.key crates world config) := by
  apply CleanFailure.bind (seen_currentDir world)
  intro cwd
  apply CleanFailure.bind (seen_loadSetting crates world config shownText_ignoresReads)
  intro setting
  apply CleanFailure.bind (seen_relabel_of_none shownText_ignoresReads.openedFile _ _)
  intro key
  exact CleanFailure.of_ok rfl

end Key

-----------------------------------------------------------------------------------------
-- The `probe` command
-----------------------------------------------------------------------------------------

section Probe

variable {crates : Crates} {world : World} {config : PathBuf}

/-- The stages of `probe` before it asks for keys. -/
structure ProbeReady (crates : Crates) (world : World) (config : PathBuf)
    (cwd : PathBuf) (setting : Setting) (env : LoadedEnv) (client : S3Client)
    : Prop where
  currentDir : (Run.currentDir world).outcome = .ok cwd
  loaded : (Run.loadSetting crates world config).outcome = .ok setting
  loadedEnv : (Run.loadEnv crates world).outcome = .ok env
  built : (Run.buildClient crates world env).outcome = .ok client

theorem ProbeReady.primaryKeyOf {cwd : PathBuf} {setting : Setting} {env : LoadedEnv}
    {client : S3Client} {key : String}
    (ready : ProbeReady crates world config cwd setting env client)
    (resolved : (setting.resolvePrimaryKey crates.sha256 world.files cwd).outcome = .ok key)
    : PrimaryKeyOf crates world config cwd setting key where
  currentDir := Run.currentDir_eq_ok_iff.mp ready.currentDir
  loaded := Run.loadSetting_eq_ok_iff.mp ready.loaded
  resolved := resolved

/-- When every stage succeeds, the command asks what the probe asks and prints its answer. -/
theorem ProbeReady.seen {ν : Type} {view : Event → Option ν} {cwd : PathBuf}
    {setting : Setting} {env : LoadedEnv} {client : S3Client}
    (ignores : IgnoresReads view)
    (ready : ProbeReady crates world config cwd setting env client)
    : seen view (Run.probe crates world config)
      = seen view (do
          let hit ← (Cafce.probe crates.sha256 world.files world.headObject setting env client
            cwd).relabel id Abort.failed
          Run.println (if hit then "true" else "false")) := by
  rw [Run.probe, seen_bind_of_ok ready.currentDir, seen_currentDir,
    seen_bind_of_ok ready.loaded, seen_loadSetting _ _ _ ignores,
    seen_bind_of_ok ready.loadedEnv, seen_loadEnv,
    seen_bind_of_ok ready.built, seen_buildClient _ _ ignores]
  rfl

/-- Every stage of a command that sends a request has succeeded. -/
theorem exists_ready_of_requests
    (asked : headRequests (Run.probe crates world config).log ≠ [])
    : ∃ cwd setting env client,
        ProbeReady crates world config cwd setting env client
        ∧ headRequests (Run.probe crates world config).log
          = headRequests (Cafce.probe crates.sha256 world.files world.headObject setting env
              client cwd).log := by
  rw [← seen_shownRequest, Run.probe] at asked
  obtain ⟨cwd, directory, later⟩ := exists_of_seen_bind (seen_currentDir world) asked
  rw [later] at asked
  obtain ⟨setting, loaded, later⟩ := exists_of_seen_bind
    (seen_loadSetting crates world config shownRequest_ignoresReads) asked
  rw [later] at asked
  obtain ⟨env, loadedEnv, later⟩ := exists_of_seen_bind (seen_loadEnv crates world) asked
  rw [later] at asked
  obtain ⟨client, built, _⟩ := exists_of_seen_bind
    (seen_buildClient crates world shownRequest_ignoresReads env) asked
  have ready : ProbeReady crates world config cwd setting env client :=
    ⟨directory, loaded, loadedEnv, built⟩
  refine ⟨cwd, setting, env, client, ready, ?_⟩
  rw [← seen_shownRequest, ready.seen shownRequest_ignoresReads,
    seen_bind_of_hidden_next fun hit => rfl, seen_relabel]
  rfl

/-- The requests of a command are those for its candidates, as far as it came. -/
theorem exists_candidates_of_requests
    (asked : headRequests (Run.probe crates world config).log ≠ [])
    : ∃ cwd setting env client key,
        ProbeReady crates world config cwd setting env client
        ∧ (setting.resolvePrimaryKey crates.sha256 world.files cwd).outcome = .ok key
        ∧ headRequests (Run.probe crates world config).log
          <+: (key :: setting.fallbackKeys).map (requestFor setting env client) := by
  obtain ⟨cwd, setting, env, client, ready, requests⟩ := exists_ready_of_requests asked
  obtain ⟨key, resolved⟩ := exists_primaryKey (Or.inr (requests ▸ asked))
  refine ⟨cwd, setting, env, client, key, ready, resolved, ?_⟩
  rw [requests, probe_resolved resolved, headRequests_append, headRequests_opened,
    List.nil_append]
  exact (probeKeys_protocol world.headObject setting env client
    (key :: setting.fallbackKeys)).ordered

/-- Every stage of a command that succeeds has succeeded. -/
theorem exists_ready_of_ok (success : (Run.probe crates world config).outcome = .ok ())
    : ∃ cwd setting env client hit,
        ProbeReady crates world config cwd setting env client
        ∧ (Cafce.probe crates.sha256 world.files world.headObject setting env client
            cwd).outcome = .ok hit := by
  simp only [Run.probe, outcome_bind, outcome_relabel, bind_eq_ok_iff,
    mapError_eq_ok_iff] at success
  obtain ⟨cwd, directory, setting, loaded, env, loadedEnv, client, built, hit, found, _⟩ :=
    success
  exact ⟨cwd, setting, env, client, hit, ⟨directory, loaded, loadedEnv, built⟩, found⟩

/-- A successful `probe` prints the answer and nothing else. -/
theorem printed_probe_command (success : (Run.probe crates world config).outcome = .ok ())
    : ∃ hit : Bool, printed (Run.probe crates world config).log
      = [(if hit then "true" else "false") ++ "\n"] := by
  obtain ⟨cwd, setting, env, client, hit, ready, found⟩ := exists_ready_of_ok success
  refine ⟨hit, ?_⟩
  rw [← seen_shownText, ready.seen shownText_ignoresReads,
    seen_bind_of_ok (mapError_eq_ok_iff.mpr found), seen_relabel]
  change printed (Cafce.probe _ _ _ _ _ _ _).log ++ _ = _
  rw [printed_probe, List.nil_append]
  rfl

theorem probe_cleanFailure : CleanFailure shownText (Run.probe crates world config) := by
  apply CleanFailure.bind (seen_currentDir world)
  intro cwd
  apply CleanFailure.bind (seen_loadSetting crates world config shownText_ignoresReads)
  intro setting
  apply CleanFailure.bind (seen_loadEnv crates world)
  intro env
  apply CleanFailure.bind (seen_buildClient crates world shownText_ignoresReads env)
  intro client
  apply CleanFailure.bind
  · rw [seen_relabel]
    exact printed_probe _ _ _ _ _ _ _
  · intro hit
    exact CleanFailure.of_ok rfl

end Probe

-----------------------------------------------------------------------------------------
-- The two commands on the same inputs
-----------------------------------------------------------------------------------------

/-- How `key` and `probe` agree on the same inputs. -/
structure KeyProbeAgreement (crates : Crates) (world : World) (config : PathBuf) : Prop where
  printsKey : (main crates world (.key config)).1 = .success
    → ∃ key, stdoutText (main crates world (.key config)).2 = key ++ "\n"
  firstRequest : ∀ key first rest,
    (main crates world (.key config)).1 = .success
    → stdoutText (main crates world (.key config)).2 = key ++ "\n"
    → headRequests (main crates world (.probe config)).2 = first :: rest
    → ∃ contents parsed project raw,
        world.readToString config = .ok contents
        ∧ crates.toml contents = .ok parsed
        ∧ expandEnvVars world.processEnv.var parsed.project = .ok project
        ∧ crates.envy world.processEnv = .ok raw
        ∧ raw.awsBucket = some first.bucket
        ∧ first.key = buildObjectKey (normalizeS3Prefix raw.s3Prefix) project key
  keyFails : (main crates world (.key config)).1 ≠ .success
    → (main crates world (.probe config)).1 ≠ .success
      ∧ headRequests (main crates world (.probe config)).2 = []
  keyFailsSilently : (main crates world (.key config)).1 ≠ .success
    → stdoutText (main crates world (.key config)).2 = ""
  probeFailsSilently : (main crates world (.probe config)).1 ≠ .success
    → stdoutText (main crates world (.probe config)).2 = ""
  probeAnswers : (main crates world (.probe config)).1 = .success
    → stdoutText (main crates world (.probe config)).2 = "true\n"
      ∨ stdoutText (main crates world (.probe config)).2 = "false\n"

/-- Loading a setting expands its project. -/
theorem exists_project_of_loaded {toml : String → Except ForeignError Setting}
    {var : Variables} {readToString : PathBuf → Except ForeignError String} {path : PathBuf}
    {setting : Setting}
    (loaded : Setting.newFromFile toml var readToString path = .ok setting)
    : ∃ contents parsed, readToString path = .ok contents ∧ toml contents = .ok parsed
      ∧ expandEnvVars var parsed.project = .ok setting.project := by
  rw [Setting.newFromFile, bind_eq_ok_iff] at loaded
  obtain ⟨contents, read, loaded⟩ := loaded
  obtain ⟨parsed, found, project, _⟩ := Setting.newFromStr_eq_ok_iff.mp loaded
  exact ⟨contents, parsed, mapError_eq_ok_iff.mp read, found, project⟩

/-- A probe that gets to its requests comes from a `key` that succeeds. -/
theorem key_ok_of_ready {crates : Crates} {world : World} {config cwd : PathBuf}
    {setting : Setting} {env : LoadedEnv} {client : S3Client}
    (ready : ProbeReady crates world config cwd setting env client)
    (reached : (∃ hit,
        (probe crates.sha256 world.files world.headObject setting env client cwd).outcome
          = .ok hit)
      ∨ headRequests
          (probe crates.sha256 world.files world.headObject setting env client cwd).log ≠ [])
    : (Run.key crates world config).outcome = .ok () := by
  obtain ⟨key, resolved⟩ := exists_primaryKey reached
  exact key_outcome_ok_iff.mpr ⟨cwd, setting, key, ready.primaryKeyOf resolved⟩

/-- `key` prints the primary key, and the first request of `probe` is for it; where `key`
fails, `probe` fails before any request. Failures print nothing.
Witness: the stages of each command, which resolve the same setting and key.
-/
theorem key_probe_agreement (crates : Crates) (world : World) (config : PathBuf)
    : KeyProbeAgreement crates world config where
  printsKey := by
    intro success
    obtain ⟨cwd, setting, key, common⟩ :=
      key_outcome_ok_iff.mp (main_status_eq_success_iff.mp success)
    refine ⟨key, ?_⟩
    rw [stdoutText_main, run, stdoutText_of_printed (printed_key common)]
  firstRequest := by
    intro key first rest success shown asked
    obtain ⟨cwd, setting, primaryKey, common⟩ :=
      key_outcome_ok_iff.mp (main_status_eq_success_iff.mp success)
    rw [stdoutText_main, run, stdoutText_of_printed (printed_key common)] at shown
    obtain rfl := (String.append_left_inj _).mp shown
    rw [headRequests_main, run] at asked
    have some_asked : headRequests (Run.probe crates world config).log ≠ [] := by
      rw [asked]
      exact List.cons_ne_nil _ _
    obtain ⟨cwd', setting', env, client, ready, requests⟩ :=
      exists_ready_of_requests some_asked
    obtain ⟨key', resolved⟩ := exists_primaryKey (Or.inr (requests ▸ some_asked))
    obtain ⟨rfl, rfl⟩ := common.unique (ready.primaryKeyOf resolved)
    rw [requests, probe_resolved resolved, headRequests_append, headRequests_opened,
      List.nil_append] at asked
    have ordered := (probeKeys_protocol world.headObject setting env client
      (primaryKey :: setting.fallbackKeys)).ordered
    rw [asked, List.map_cons, List.cons_prefix_cons] at ordered
    obtain ⟨rfl, _⟩ := ordered
    obtain ⟨contents, parsed, read, found, project⟩ := exists_project_of_loaded common.loaded
    obtain ⟨raw, rawRead, bucket, _, s3Prefix⟩ :=
      Env.exists_raw_of_new (Run.loadEnv_eq_ok_iff.mp ready.loadedEnv)
    refine ⟨contents, parsed, setting.project, raw, read, found, project, rawRead, bucket, ?_⟩
    rw [requestFor, s3Prefix]
  keyFails := by
    intro failure
    have failed : ¬ (Run.key crates world config).outcome = .ok () :=
      fun success => failure (main_status_eq_success_iff.mpr success)
    constructor
    · intro success
      obtain ⟨cwd, setting, env, client, hit, ready, found⟩ :=
        exists_ready_of_ok (main_status_eq_success_iff.mp success)
      exact failed (key_ok_of_ready ready (Or.inl ⟨hit, found⟩))
    · rw [headRequests_main]
      by_contra asked
      obtain ⟨cwd, setting, env, client, ready, requests⟩ := exists_ready_of_requests asked
      exact failed (key_ok_of_ready ready (Or.inr (requests ▸ asked)))
  keyFailsSilently := stdoutText_of_cleanFailure key_cleanFailure
  probeFailsSilently := stdoutText_of_cleanFailure probe_cleanFailure
  probeAnswers := by
    intro success
    obtain ⟨hit, shown⟩ := printed_probe_command (main_status_eq_success_iff.mp success)
    rw [stdoutText_main, run, stdoutText_of_printed shown]
    cases hit with
    | true => exact Or.inl rfl
    | false => exact Or.inr rfl

end Cafce
