import Cafce.Correctness.OpenedFiles
import Cafce.Correctness.Secrets
import Cafce.Correctness.SharedBucket
import Cafce.Library.Replay

/-! What a run depends on: besides its surroundings, the answers to the events of its log and
nothing else. Files that were not opened and requests that were not sent do not matter.
-/

namespace Cafce

open Fallible Logged

/-- What a run sees without an event: the directory, the environment and which files there
are.
-/
structure SameSurroundings (recorded replay : World) : Prop where
  currentDir : replay.currentDir = recorded.currentDir
  processEnv : replay.processEnv = recorded.processEnv
  glob : replay.files.glob = recorded.files.glob
  isFile : replay.files.isFile = recorded.files.isFile

/-- The outside answers an event alike in both worlds. S3 answers by position, so that a
request repeated later may be answered differently.
-/
def RepeatsAnswer (recorded replay : World) (history : List Event) : Event → Prop
  | .openedConfig path => replay.readToString path = recorded.readToString path
  | .openedFile path => replay.files.read path = recorded.files.read path
  | .createdFile path => replay.createFile path = recorded.createFile path
  | .wroteFile path contents =>
      replay.writeFile path contents = recorded.writeFile path contents
  | .assumeRole call => replay.sts call = recorded.sts call
  | .headObject call =>
      replay.headObject (headRequests history).length call.bucket call.key
        = recorded.headObject (headRequests history).length call.bucket call.key
  | .stdout _ => True
  | .stderr _ => True

-----------------------------------------------------------------------------------------
-- The primary key
-----------------------------------------------------------------------------------------

section Key

variable {recorded replay : FileView}

/-- Patterns are resolved without an event. -/
theorem resolvePatterns_congr (glob : replay.glob = recorded.glob)
    (isFile : replay.isFile = recorded.isFile) (matcher : FileMatcher)
    (patterns : List String) (basePath : PathBuf)
    : matcher.resolvePatterns replay patterns basePath
      = matcher.resolvePatterns recorded patterns basePath := by
  have each : FileMatcher.matchPattern replay basePath
      = FileMatcher.matchPattern recorded basePath := by
    funext pattern
    rw [FileMatcher.matchPattern, FileMatcher.matchPattern, glob, isFile]
  rw [FileMatcher.resolvePatterns, FileMatcher.resolvePatterns, each]

/-- Equal contents of the opened files. -/
def RepeatsRead (recorded replay : FileView) (_ : List PathBuf) (path : PathBuf) : Prop :=
  replay.read path = recorded.read path

theorem calculateFilesHash_replays (sha256 : List UInt8 → Digest) (paths : List PathBuf)
    (history : List PathBuf)
    : Replays (RepeatsRead recorded replay) history
        (HashCalculator.calculateFilesHash sha256 recorded paths)
        (HashCalculator.calculateFilesHash sha256 replay paths) := by
  rw [HashCalculator.calculateFilesHash, HashCalculator.calculateFilesHash]
  split
  · exact Replays.refl _
  · apply Replays.bind
    · apply Replays.traverse
      intro path _ past
      apply Replays.bind
      · apply Replays.perform
        intro same
        rw [readFile, readFile, same]
      · exact fun content _ => Replays.refl _
    · exact fun hashes _ => Replays.refl _

theorem resolvePrimaryKey_replays (glob : replay.glob = recorded.glob)
    (isFile : replay.isFile = recorded.isFile) (setting : Setting)
    (sha256 : List UInt8 → Digest) (basePath : PathBuf)
    : Replays (RepeatsRead recorded replay) []
        (setting.resolvePrimaryKey sha256 recorded basePath)
        (setting.resolvePrimaryKey sha256 replay basePath) := by
  rw [Setting.resolvePrimaryKey, Setting.resolvePrimaryKey]
  split
  · exact Replays.refl _
  · rename_i keyConfig _
    change Replays _ _ (CacheKeyGenerator.generateKey _ _ _ _)
      (CacheKeyGenerator.generateKey _ _ _ _)
    rw [CacheKeyGenerator.generateKey, CacheKeyGenerator.generateKey,
      resolvePatterns_congr glob isFile]
    apply (Replays.refl _).bind
    intro matched _
    split
    · exact Replays.refl _
    · apply (calculateFilesHash_replays sha256 matched _).bind
      exact fun filesHash _ => Replays.refl _

end Key

-----------------------------------------------------------------------------------------
-- Requests
-----------------------------------------------------------------------------------------

/-- Equal answers of STS. -/
def RepeatsSts (recorded replay : Sts) (_ : List AssumeRoleCall) (call : AssumeRoleCall)
    : Prop :=
  replay call = recorded call

theorem buildS3Client_replays (url : UrlCrate) (recorded replay : Sts) (env : Env)
    : Replays (RepeatsSts recorded replay) [] (buildS3Client url recorded env)
        (buildS3Client url replay env) := by
  have assumed (accessKey secretKey roleArn : String) (past : List AssumeRoleCall)
      : Replays (RepeatsSts recorded replay) past
          (assumeRole recorded accessKey secretKey roleArn env.awsRoleSessionName
            env.getRegion)
          (assumeRole replay accessKey secretKey roleArn env.awsRoleSessionName
            env.getRegion) := by
    apply Replays.bind
    · apply Replays.perform
      exact congrArg _
    · exact fun response _ => Replays.refl _
  rw [buildS3Client, buildS3Client]
  apply Replays.bind
  · rw [clientCredentials, clientCredentials]
    split
    · split
      · apply (assumed _ _ _ _).bind
        exact fun credentials _ => Replays.refl _
      · exact Replays.refl _
    · exact Replays.refl _
  · exact fun credentials _ => Replays.refl _

/-- The loop of a probe counts its requests, so its position is the number of requests in
the log. Witness: induction on the keys.
-/
theorem probeKeys_replays (recorded replay : World) (setting : Setting) (env : LoadedEnv)
    (client : S3Client) (keys : List String) (history : List Event)
    : Replays (RepeatsAnswer recorded replay) history
        (probeKeys recorded.headObject setting env client (headRequests history).length keys)
        (probeKeys replay.headObject setting env client (headRequests history).length
          keys) := by
  induction keys generalizing history with
  | nil => exact Replays.refl _
  | cons key keys ih =>
      rw [probeKeys, probeKeys]
      apply Replays.bind
      · apply Replays.perform
        intro same
        rw [same]
      · intro hit _
        cases hit with
        | true => exact Replays.refl _
        | false =>
            have next := ih (history ++ [.headObject (requestFor setting env client key)])
            rw [headRequests_append, List.length_append] at next
            exact next

-----------------------------------------------------------------------------------------
-- The commands
-----------------------------------------------------------------------------------------

section Commands

variable {recorded replay : World} (crates : Crates) (config : PathBuf)

theorem loadSetting_replays (same : SameSurroundings recorded replay) (history : List Event)
    : Replays (RepeatsAnswer recorded replay) history (Run.loadSetting crates recorded config)
        (Run.loadSetting crates replay config) := by
  apply Replays.perform
  intro contents
  rw [Setting.newFromFile, Setting.newFromFile, contents, same.processEnv]

theorem openedFiles_replays (same : SameSurroundings recorded replay) (history : List Event)
    {wrap : AnyhowError → ε} (setting : Setting) (cwd : PathBuf)
    : Replays (RepeatsAnswer recorded replay) history
        ((setting.resolvePrimaryKey crates.sha256 recorded.files cwd).relabel .openedFile wrap)
        ((setting.resolvePrimaryKey crates.sha256 replay.files cwd).relabel .openedFile wrap) :=
  (resolvePrimaryKey_replays same.glob same.isFile setting crates.sha256 cwd).relabel
    fun _ _ contents => contents

theorem key_replays (same : SameSurroundings recorded replay)
    : Replays (RepeatsAnswer recorded replay) [] (Run.key crates recorded config)
        (Run.key crates replay config) := by
  rw [Run.key, Run.key, Run.currentDir, Run.currentDir, same.currentDir]
  apply (Replays.refl _).bind
  intro cwd _
  apply (loadSetting_replays crates config same _).bind
  intro setting _
  apply (openedFiles_replays crates same _ setting cwd).bind
  exact fun key _ => Replays.refl _

/-- The first request to S3 comes after events of other kinds only. -/
theorem probe_replays_after (same : SameSurroundings recorded replay) {history : List Event}
    (unasked : headRequests history = []) (setting : Setting) (env : LoadedEnv)
    (client : S3Client) (cwd : PathBuf)
    : Replays (RepeatsAnswer recorded replay) history
        (probe crates.sha256 recorded.files recorded.headObject setting env client cwd)
        (probe crates.sha256 replay.files replay.headObject setting env client cwd) := by
  apply (openedFiles_replays crates same history setting cwd).bind
  intro primaryKey _
  have asking := probeKeys_replays recorded replay setting env client
    (primaryKey :: setting.fallbackKeys)
    (history
      ++ (setting.resolvePrimaryKey crates.sha256 recorded.files cwd).log.map .openedFile)
  rw [headRequests_append, unasked, headRequests_opened] at asking
  exact asking

theorem probe_replays (same : SameSurroundings recorded replay)
    : Replays (RepeatsAnswer recorded replay) [] (Run.probe crates recorded config)
        (Run.probe crates replay config) := by
  rw [Run.probe, Run.probe, Run.currentDir, Run.currentDir, Run.loadEnv, Run.loadEnv,
    same.currentDir, same.processEnv]
  apply (Replays.refl _).bind
  intro cwd _
  apply (loadSetting_replays crates config same _).bind
  intro setting _
  apply (Replays.refl _).bind
  intro env _
  apply ((buildS3Client_replays crates.url recorded.sts replay.sts env.toEnv).relabel
    fun _ _ answer => answer).bind
  intro client _
  have unasked : headRequests (Run.buildClient crates recorded env).log = [] :=
    seen_buildClient crates recorded shownRequest_ignoresReads env
  apply Replays.bind
  · apply Replays.relabel_id
    apply probe_replays_after crates same
    rw [headRequests_append]
    exact unasked
  · exact fun hit _ => Replays.refl _

theorem init_replays
    : Replays (RepeatsAnswer recorded replay) [] (Run.init crates recorded config)
        (Run.init crates replay config) := by
  have writing : Replays (RepeatsAnswer recorded replay) []
      (Run.initToFile crates recorded config) (Run.initToFile crates replay config) := by
    rw [Run.initToFile, Run.initToFile]
    apply Replays.bind
    · apply Replays.perform
      exact congrArg _
    · intro _ _
      apply (Replays.refl _).bind
      intro toml _
      apply Replays.perform
      exact congrArg _
  exact writing.relabel_id

theorem printInputs_replays (same : SameSurroundings recorded replay)
    : Replays (RepeatsAnswer recorded replay) [] (Run.printInputs crates recorded config)
        (Run.printInputs crates replay config) := by
  rw [Run.printInputs, Run.printInputs, Run.loadEnv, Run.loadEnv, same.processEnv]
  apply (Replays.refl _).bind
  intro env _
  apply (loadSetting_replays crates config same _).bind
  exact fun setting _ => Replays.refl _

/-- A run is determined by its surroundings and by the answers to the events of its log: in
any world that repeats them the program does the same and exits the same way.
Witness: both runs stage by stage, as long as the answers agree.
-/
theorem main_replay (same : SameSurroundings recorded replay) (action : Action)
    (agreed : Agreed (RepeatsAnswer recorded replay) [] (main crates recorded action).2)
    : main crates replay action = main crates recorded action := by
  have replays : Replays (RepeatsAnswer recorded replay) [] (run crates recorded action)
      (run crates replay action) := by
    cases action with
    | store config => exact printInputs_replays crates config same
    | restore config => exact printInputs_replays crates config same
    | init config => exact init_replays crates config
    | key config => exact key_replays crates config same
    | probe config => exact probe_replays crates config same
  have logged : Agreed (RepeatsAnswer recorded replay) [] (run crates recorded action).log := by
    rw [main] at agreed
    split at agreed
    · exact agreed
    · exact (agreed_append.mp agreed).1
    · exact agreed
  rw [main, main, replays logged]

/-- Files that were not opened and requests that were not sent may be answered otherwise.
Witness: a request is at the position that counts the requests before it.
-/
theorem agreed_of_seen {log : List Event}
    (readToString : replay.readToString = recorded.readToString)
    (createFile : replay.createFile = recorded.createFile)
    (writeFile : replay.writeFile = recorded.writeFile) (sts : replay.sts = recorded.sts)
    (opened : ∀ path ∈ openedFiles log, replay.files.read path = recorded.files.read path)
    (asked : ∀ index, ∀ call ∈ (headRequests log)[index]?,
      replay.headObject index call.bucket call.key
        = recorded.headObject index call.bucket call.key)
    : Agreed (RepeatsAnswer recorded replay) [] log := by
  apply agreed_of_splits
  intro before event after splits
  cases event with
  | openedConfig path => exact congrFun readToString path
  | openedFile path =>
      apply opened path
      rw [splits, openedFiles, List.mem_filterMap]
      exact ⟨.openedFile path, List.mem_append_right _ List.mem_cons_self, rfl⟩
  | createdFile path => exact congrFun createFile path
  | wroteFile path contents => exact congrFun (congrFun writeFile path) contents
  | assumeRole call => exact congrFun sts call
  | headObject call =>
      apply asked (headRequests before).length call
      rw [splits, headRequests_append, Option.mem_def, List.getElem?_append_right le_rfl,
        Nat.sub_self]
      rfl
  | stdout text => trivial
  | stderr text => trivial

end Commands

-----------------------------------------------------------------------------------------
-- A probe that finds its first key
-----------------------------------------------------------------------------------------

/-- The key of the file `a`, with a fallback. -/
def retrySetting : Setting := { lockSetting with fallbackKeys := ["main"] }

def retryCrates : Crates := { plainCrates with toml := fun _ => .ok retrySetting }

/-- A world where other files cannot be read and S3 answers one request only. -/
def narrowWorld : World :=
  { lockWorld "ci[1]" with
    files := { (lockWorld "ci[1]").files with
      read := fun path =>
        if path = (PathBuf.ofStr "/ci[1]").join (PathBuf.ofStr "a") then
          (lockWorld "ci[1]").files.read path
        else
          .error { message := "Permission denied (os error 13)" } }
    headObject := fun asked _ _ =>
      if asked = 0 then .ok () else .error (.other { message := "dispatch failure" }) }

/-- The probe at `/ci[1]` comes to its loop. -/
theorem retry_setUp
    : ∃ env client, ProbeSetUp retryCrates (lockWorld "ci[1]") (PathBuf.ofStr "c.toml")
        (PathBuf.ofStr "/ci[1]") retrySetting env client lockKey := by
  obtain ⟨env, client, loadedEnv, built, _⟩ := bucketWorld_client fun _ _ _ => .ok ()
  have loaded
      : (Run.loadSetting retryCrates (lockWorld "ci[1]") (PathBuf.ofStr "c.toml")).outcome
        = .ok retrySetting := by
    rw [Run.loadSetting_eq_ok_iff, Setting.newFromFile, bind_eq_ok_iff]
    refine ⟨_, rfl, Setting.newFromStr_eq_ok_iff.mpr ⟨retrySetting, rfl,
      expandEnvVars_of_free (by decide), by decide, rfl, ?_, rfl⟩⟩
    change ["main"].mapM (expandEnvVars _) = _
    rw [List.mapM_cons, expandEnvVars_of_free (by decide)]
    rfl
  exact ⟨env, client, ⟨rfl, loaded, loadedEnv, built⟩, lockSetting_resolves⟩

/-- The probe opens the file `a` and sends the request for the first key. -/
theorem main_replay_probe
    : main retryCrates narrowWorld (.probe (PathBuf.ofStr "c.toml"))
      = main retryCrates (lockWorld "ci[1]") (.probe (PathBuf.ofStr "c.toml")) := by
  obtain ⟨env, client, setUp⟩ := retry_setUp
  have opened : openedFiles
      (main retryCrates (lockWorld "ci[1]") (.probe (PathBuf.ofStr "c.toml"))).2
      = [(PathBuf.ofStr "/ci[1]").join (PathBuf.ofStr "a")] := by
    have opens := resolvePrimaryKey_opensInOrder retrySetting retryCrates.sha256
      (lockWorld "ci[1]").files (PathBuf.ofStr "/ci[1]")
    rw [(ReachesKey.probe setUp.toProbeReady).opened]
    refine (opens.readable _ _ rfl lockSetting_resolution ?_).1
    intro file member
    obtain rfl := List.mem_singleton.mp member
    exact ⟨asBytes "1", by decide⟩
  have decided : DecidedAt (answerFor (lockWorld "ci[1]").headObject retrySetting env)
      (lockKey :: retrySetting.fallbackKeys) 0 lockKey :=
    ⟨rfl, by simp, not_misses_ok⟩
  have asked := (looped_protocol (lockWorld "ci[1]") retrySetting env client lockKey).decided
    0 lockKey decided
  rw [← setUp.headRequests] at asked
  have same : SameSurroundings (lockWorld "ci[1]") narrowWorld := ⟨rfl, rfl, rfl, rfl⟩
  apply main_replay retryCrates same
  refine agreed_of_seen rfl rfl rfl rfl ?_ ?_
  · rw [opened]
    decide
  · rw [asked]
    intro index call here
    cases index with
    | zero => rfl
    | succ index => cases here

end Cafce
