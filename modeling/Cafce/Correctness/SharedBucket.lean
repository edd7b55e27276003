import Cafce.Correctness.KeyAmbiguity
import Cafce.Correctness.ObjectKeys
import Cafce.Correctness.Relocation
import Cafce.Correctness.StoreProbe

/-! Jobs that share a bucket. Each saves under the key that its own `key` command printed, and
a `probe` answers for the jobs whose objects are there.
-/

namespace Cafce

open ChangingSet DirectoryTree Fallible HashList

-----------------------------------------------------------------------------------------
-- What a primary key is made of
-----------------------------------------------------------------------------------------

/-- What a primary key is made of: a text, or a prefix and the contents of matched files. -/
inductive KeySource
  | literal (text : String)
  | files (keyPrefix : Option String) (contents : List (List UInt8))

/-- The key that is made of it. -/
def KeySource.key (sha256 : List UInt8 → Digest) : KeySource → String
  | .literal text => text
  | .files keyPrefix contents => CacheKeyGenerator.keyOfContents sha256 keyPrefix contents

/-- The source of a setting's primary key in a directory. -/
inductive MadeOf (setting : Setting) (files : FileView) (basePath : PathBuf)
    : KeySource → Prop
  | literal {text} (given : setting.key = .string text)
    : MadeOf setting files basePath (.literal text)
  | files {keyConfig contents} (given : setting.key = .struct keyConfig)
    (matched : MatchedContents ⟨50, basePath⟩ files keyConfig contents)
    : MadeOf setting files basePath (.files keyConfig.keyPrefix contents)

/-- The primary key is resolved when it has a source, and to the key made of it. -/
theorem resolvePrimaryKey_eq_ok_iff {setting : Setting} {sha256 : List UInt8 → Digest}
    {files : FileView} {basePath : PathBuf} {key : String}
    : (setting.resolvePrimaryKey sha256 files basePath).outcome = .ok key
      ↔ ∃ source, MadeOf setting files basePath source ∧ source.key sha256 = key := by
  rw [Setting.resolvePrimaryKey]
  constructor
  · intro resolved
    cases given : setting.key with
    | string text =>
        rw [given] at resolved
        exact ⟨.literal text, .literal given, Except.ok.inj resolved⟩
    | struct keyConfig =>
        rw [given] at resolved
        obtain ⟨contents, matched, made⟩ := matchedContents_of_ok resolved
        exact ⟨_, .files given matched, made⟩
  · intro made
    obtain ⟨source, made, rfl⟩ := made
    cases made with
    | literal given => rw [given]; rfl
    | files given matched =>
        rw [given]
        obtain ⟨paths, resolution, read⟩ := matched
        exact CacheKeyGenerator.generateKey_eq_ok_iff.mpr
          ⟨paths, _, resolution, mapM_readFile_eq_ok_iff.mpr read, rfl⟩

/-- A setting has one source in a directory. -/
theorem MadeOf.unique {setting : Setting} {files : FileView} {basePath : PathBuf}
    {left right : KeySource} (leftMade : MadeOf setting files basePath left)
    (rightMade : MadeOf setting files basePath right)
    : left = right := by
  cases leftMade with
  | literal leftGiven =>
      cases rightMade with
      | literal rightGiven =>
          cases leftGiven.symm.trans rightGiven
          rfl
      | files rightGiven _ => cases leftGiven.symm.trans rightGiven
  | files leftGiven leftMatched =>
      cases rightMade with
      | literal rightGiven => cases leftGiven.symm.trans rightGiven
      | files rightGiven rightMatched =>
          cases leftGiven.symm.trans rightGiven
          obtain ⟨leftPaths, leftResolution, leftRead⟩ := leftMatched
          obtain ⟨rightPaths, rightResolution, rightRead⟩ := rightMatched
          obtain rfl := Except.ok.inj (leftResolution.symm.trans rightResolution)
          obtain rfl := Except.ok.inj (leftRead.symm.trans rightRead)
          rfl

/-- Sources that a key does not tell apart. Files are told apart from other files unless two
different messages that were hashed for them collide.
-/
def SameSource (sha256 : List UInt8 → Digest) : KeySource → KeySource → Prop
  | .files leftPrefix left, .files rightPrefix right =>
      leftPrefix = rightPrefix
      ∧ (left = right
        ∨ Collision sha256 (hashedMessages sha256 left ++ hashedMessages sha256 right))
  | left, right => left.key sha256 = right.key sha256

theorem sameSource_of_key_eq {sha256 : List UInt8 → Digest} {left right : KeySource}
    (same : left.key sha256 = right.key sha256)
    : SameSource sha256 left right := by
  cases left with
  | literal text => exact same
  | files leftPrefix left =>
      cases right with
      | literal text => exact same
      | files rightPrefix right =>
          obtain ⟨prefixes, bare⟩ := keyOfContents_split same
          refine ⟨prefixes, ?_⟩
          rcases bareKey_eq bare with ⟨rfl, rfl⟩ | ⟨_, _, alike⟩
          · exact Or.inl rfl
          · exact alike

-----------------------------------------------------------------------------------------
-- Jobs and the objects they save
-----------------------------------------------------------------------------------------

/-- A job whose `key` command printed a key, under which it saves its files. -/
structure SavingJob (crates : Crates) where
  world : World
  config : PathBuf
  setting : Setting
  key : String
  loaded : Setting.newFromFile crates.toml world.processEnv.var world.readToString config
    = .ok setting
  success : (main crates world (.key config)).1 = .success
  shown : stdoutText (main crates world (.key config)).2 = key ++ "\n"

namespace SavingJob

variable {crates : Crates}

/-- The object that a job saves. -/
def object (s3Prefix : Option String) (job : SavingJob crates) : String :=
  buildObjectKey s3Prefix job.setting.project job.key

/-- What the key of a job is made of. -/
def HasSource (job : SavingJob crates) (source : KeySource) : Prop :=
  ∃ cwd, job.world.currentDir = .ok cwd ∧ MadeOf job.setting job.world.files cwd source

/-- The key that a job printed is its primary key. -/
theorem exists_primaryKeyOf (job : SavingJob crates)
    : ∃ cwd, PrimaryKeyOf crates job.world job.config cwd job.setting job.key := by
  obtain ⟨cwd, setting, key, common⟩ :=
    key_outcome_ok_iff.mp (main_status_eq_success_iff.mp job.success)
  have shown := job.shown
  rw [stdoutText_main, run, stdoutText_of_printed (printed_key common)] at shown
  obtain rfl := (String.append_left_inj _).mp shown
  obtain rfl := Except.ok.inj (common.loaded.symm.trans job.loaded)
  exact ⟨cwd, common⟩

/-- A job that printed its primary key. -/
def ofPrimaryKey {world : World} {config cwd : PathBuf} {setting : Setting} {key : String}
    (common : PrimaryKeyOf crates world config cwd setting key)
    : SavingJob crates where
  world
  config
  setting
  key
  loaded := common.loaded
  success := main_status_eq_success_iff.mpr (key_outcome_ok_iff.mpr ⟨_, _, _, common⟩)
  shown := by rw [stdoutText_main, run, stdoutText_of_printed (printed_key common)]

theorem exists_source (job : SavingJob crates)
    : ∃ source, job.HasSource source ∧ source.key crates.sha256 = job.key := by
  obtain ⟨cwd, common⟩ := job.exists_primaryKeyOf
  obtain ⟨source, made, same⟩ := resolvePrimaryKey_eq_ok_iff.mp common.resolved
  exact ⟨source, ⟨cwd, common.currentDir, made⟩, same⟩

/-- The key of a job is made of its source. -/
theorem key_of_hasSource {job : SavingJob crates} {source : KeySource}
    (has : job.HasSource source)
    : source.key crates.sha256 = job.key := by
  obtain ⟨cwd, currentDir, made⟩ := has
  obtain ⟨other, ⟨otherCwd, otherDir, otherMade⟩, same⟩ := job.exists_source
  obtain rfl := Except.ok.inj (currentDir.symm.trans otherDir)
  rw [made.unique otherMade, same]

end SavingJob

/-- Without separators in the projects, an object is that of one project and one key. -/
theorem buildObjectKey_inj_of_free {s3Prefix : Option String}
    {project cacheKey otherProject otherKey : String} (free : '/' ∉ project.toList)
    (otherFree : '/' ∉ otherProject.toList)
    : buildObjectKey s3Prefix project cacheKey = buildObjectKey s3Prefix otherProject otherKey
      ↔ project = otherProject ∧ cacheKey = otherKey := by
  have never {long short key other : String} (free : '/' ∉ long.toList)
      : ¬ Spills long key short other := by
    intro spills
    obtain ⟨segments, longer, _⟩ := spills_iff.mp spills
    rw [longer] at free
    exact free (by simp)
  rw [buildObjectKey_eq_iff, or_iff_left]
  intro spilled
  rcases spilled with spills | spills
  · exact never otherFree spills
  · exact never free spills

-----------------------------------------------------------------------------------------
-- A job at `/ci[1]`
-----------------------------------------------------------------------------------------

/-- A configuration that hashes the file `a`. -/
def lockSetting : Setting where
  project := "p"
  paths := []
  key := .struct { files := ["a"], keyPrefix := none }
  fallbackKeys := []

/-- Every configuration file holds it. -/
def lockCrates : Crates := { plainCrates with toml := fun _ => .ok lockSetting }

/-- A run in a directory with the file `a`, with an S3 that has every object. -/
def lockWorld (directory : String) : World :=
  { bucketWorld fun _ _ _ => .ok () with
    currentDir := .ok (PathBuf.ofStr ("/" ++ directory))
    files := (checkoutAt directory).view unescapedGlob }

theorem lockWorld_loaded (directory : String) (config : PathBuf)
    : Setting.newFromFile lockCrates.toml (lockWorld directory).processEnv.var
        (lockWorld directory).readToString config = .ok lockSetting := by
  rw [Setting.newFromFile, bind_eq_ok_iff]
  exact ⟨_, rfl, Setting.newFromStr_eq_ok_iff.mpr ⟨lockSetting, rfl,
    expandEnvVars_of_free (by decide), by decide, rfl, rfl, rfl⟩⟩

/-- The key that the file `a` gives. -/
def lockKey : String := CacheKeyGenerator.keyOfContents lockCrates.sha256 none [asBytes "1"]

/-- The pattern of the job at `/ci[1]` gives that file. -/
theorem lockSetting_resolution
    : (FileMatcher.mk 50).resolvePatterns (lockWorld "ci[1]").files ["a"]
        (PathBuf.ofStr "/ci[1]") = .ok [(PathBuf.ofStr "/ci[1]").join (PathBuf.ofStr "a")] := by
  have full : ((PathBuf.ofStr (escape "/ci[1]")).join (PathBuf.ofStr "a"))
      = PathBuf.ofStr "/ci[[]1[]]/a" := by
    decide
  have selects : FileMatcher.matchPattern (lockWorld "ci[1]").files (PathBuf.ofStr "/ci[1]") "a"
      = .ok [(PathBuf.ofStr "/ci[1]").join (PathBuf.ofStr "a")] := by
    refine FileMatcher.matchPattern_eq_ok_iff.mpr ⟨by decide,
      [.ok ((PathBuf.ofStr "/ci[1]").join (PathBuf.ofStr "a"))], ?_, by decide⟩
    rw [FileMatcher.fullPattern_ofStr full]
    decide
  rw [FileMatcher.resolvePatterns_eq, List.mapM_cons, selects]
  rfl

/-- The job at `/ci[1]` matches its contents. -/
theorem lockSetting_matched
    : MatchedContents ⟨50, PathBuf.ofStr "/ci[1]"⟩ (lockWorld "ci[1]").files
        { files := ["a"], keyPrefix := none } [asBytes "1"] :=
  ⟨_, lockSetting_resolution, by decide⟩

/-- The primary key of the job at `/ci[1]`. -/
theorem lockSetting_resolves
    : (lockSetting.resolvePrimaryKey lockCrates.sha256 (lockWorld "ci[1]").files
        (PathBuf.ofStr "/ci[1]")).outcome = .ok lockKey :=
  resolvePrimaryKey_eq_ok_iff.mpr ⟨_, .files rfl lockSetting_matched, rfl⟩

/-- That job. -/
def lockJob : SavingJob lockCrates :=
  have common : PrimaryKeyOf lockCrates (lockWorld "ci[1]") (PathBuf.ofStr "c.toml")
      (PathBuf.ofStr "/ci[1]") lockSetting lockKey :=
    ⟨rfl, lockWorld_loaded _ _, lockSetting_resolves⟩
  .ofPrimaryKey common

/-- A job with the same configuration in a directory without the file. -/
def defaultJob : SavingJob lockCrates :=
  have common : PrimaryKeyOf lockCrates (bucketWorld fun _ _ _ => .ok ())
      (PathBuf.ofStr "c.toml") (PathBuf.ofStr "/work") lockSetting "default" :=
    ⟨rfl, lockWorld_loaded "ci[1]" _, rfl⟩
  .ofPrimaryKey common

-----------------------------------------------------------------------------------------
-- Answers for the jobs that saved
-----------------------------------------------------------------------------------------

/-- No project holds a separator, so that an object tells its project from its key. -/
def SeparateProjects {crates : Crates} (jobs : Nat → Set (SavingJob crates))
    (setting : Setting)
    : Prop :=
  '/' ∉ setting.project.toList
  ∧ ∀ moment, ∀ job ∈ jobs moment, '/' ∉ job.setting.project.toList

/-- What a `probe` says about the jobs whose objects are in the bucket at each of its
requests. A job of the project that printed a key is enough when that key is tried, so one
with the same source always is; and a `true` is owed to such a job, without fallback keys to
one with the same source up to collisions.
-/
structure AnswersForJobs {crates : Crates} (result : ExitStatus × List Event)
    (jobs : Nat → Set (SavingJob crates)) (setting : Setting) (keys : List String)
    (source : KeySource)
    : Prop where
  answers : result.1 = .success
    ∧ (stdoutText result.2 = "true\n" ∨ stdoutText result.2 = "false\n")
  tried : ∀ index, ∀ key ∈ keys[index]?, ∀ job ∈ jobs index,
    job.setting.project = setting.project → job.key = key → stdoutText result.2 = "true\n"
  shared : ∀ job ∈ jobs 0, job.setting.project = setting.project → job.HasSource source
    → stdoutText result.2 = "true\n"
  owed : SeparateProjects jobs setting → stdoutText result.2 = "true\n"
    → ∃ index, ∃ key ∈ keys[index]?, ∃ job ∈ jobs index,
      job.setting.project = setting.project ∧ job.key = key
  fresh : SeparateProjects jobs setting → setting.fallbackKeys = []
    → stdoutText result.2 = "true\n"
    → ∃ job ∈ jobs 0, job.setting.project = setting.project
      ∧ ∃ other, job.HasSource other ∧ SameSource crates.sha256 other source

section Answers

variable {crates : Crates} {world : World} {config cwd : PathBuf} {setting : Setting}
  {env : LoadedEnv} {client : S3Client} {primaryKey : String}
  {jobs : Nat → Set (SavingJob crates)}

/-- A lookup among the saved objects finds its key when some job saved it. -/
theorem found_saved_iff
    : Found (fun moment => SavingJob.object env.s3Prefix '' jobs moment)
        (objectKeys setting env primaryKey)
      ↔ ∃ index, ∃ key ∈ (primaryKey :: setting.fallbackKeys)[index]?, ∃ job ∈ jobs index,
        job.object env.s3Prefix = buildObjectKey env.s3Prefix setting.project key := by
  apply exists_congr
  intro index
  rw [objectKeys, List.getElem?_map]
  cases (primaryKey :: setting.fallbackKeys)[index]? with
  | none => simp
  | some key => simp

/-- A `probe` answers for the jobs that saved. Witness: the object that was found is that of
one job and one key, and equal keys come from one source, up to collisions.
-/
theorem probe_answersForJobs
    (setUp : ProbeSetUp crates world config cwd setting env client primaryKey)
    {source : KeySource} (made : MadeOf setting world.files cwd source)
    (serves : Serves world.headObject env.bucket
      fun moment => SavingJob.object env.s3Prefix '' jobs moment)
    : AnswersForJobs (main crates world (.probe config)) jobs setting
        (primaryKey :: setting.fallbackKeys) source := by
  obtain ⟨success, hit_iff, miss_iff⟩ := setUp.answers serves
  have answers : stdoutText (main crates world (.probe config)).2 = "true\n"
      ∨ stdoutText (main crates world (.probe config)).2 = "false\n" := by
    rw [hit_iff, miss_iff]
    exact Classical.em _
  rw [found_saved_iff] at hit_iff
  have primary : source.key crates.sha256 = primaryKey := by
    obtain ⟨other, otherMade, same⟩ := resolvePrimaryKey_eq_ok_iff.mp setUp.resolved
    rw [made.unique otherMade, same]
  have tried : ∀ index, ∀ key ∈ (primaryKey :: setting.fallbackKeys)[index]?,
      ∀ job ∈ jobs index, job.setting.project = setting.project → job.key = key
      → stdoutText (main crates world (.probe config)).2 = "true\n" := by
    intro index key here job saved project same
    refine hit_iff.mpr ⟨index, key, here, job, saved, ?_⟩
    rw [SavingJob.object, project, same]
  have owed (separate : SeparateProjects jobs setting)
      (shown : stdoutText (main crates world (.probe config)).2 = "true\n")
      : ∃ index, ∃ key ∈ (primaryKey :: setting.fallbackKeys)[index]?, ∃ job ∈ jobs index,
        job.setting.project = setting.project ∧ job.key = key := by
    obtain ⟨index, key, here, job, saved, same⟩ := hit_iff.mp shown
    exact ⟨index, key, here, job, saved,
      (buildObjectKey_inj_of_free (separate.2 index job saved) separate.1).mp same⟩
  refine ⟨⟨success, answers⟩, tried, ?_, owed, ?_⟩
  · intro job saved project has
    apply tried 0 primaryKey rfl job saved project
    rw [← job.key_of_hasSource has, primary]
  · intro separate alone shown
    obtain ⟨index, key, here, job, saved, project, same⟩ := owed separate shown
    rw [alone] at here
    cases index with
    | succ index => cases here
    | zero =>
        obtain rfl : primaryKey = key := Option.some.inj here
        obtain ⟨other, has, otherKey⟩ := job.exists_source
        refine ⟨job, saved, project, other, has, sameSource_of_key_eq ?_⟩
        rw [otherKey, same, primary]

end Answers

/-- The bucket holds what both jobs saved. -/
theorem probe_answersForJobs_lockJob
    : AnswersForJobs
        (main lockCrates
          {
            lockWorld "ci[1]" with
            headObject := bucketAnswers fun _ =>
              [buildObjectKey none "p" lockKey, buildObjectKey none "p" "default"]
          }
          (.probe (PathBuf.ofStr "c.toml")))
        (fun _ => {lockJob, defaultJob}) lockSetting [lockKey] (.files none [asBytes "1"]) := by
  obtain ⟨env, client, loaded, built, bare⟩ := bucketWorld_client fun _ _ _ => .ok ()
  apply @probe_answersForJobs _ _ _ (PathBuf.ofStr "/ci[1]") lockSetting env client lockKey
  · exact ⟨⟨rfl, Run.loadSetting_eq_ok_iff.mpr (lockWorld_loaded "ci[1]" _), loaded, built⟩,
      lockSetting_resolves⟩
  · exact .files rfl lockSetting_matched
  · have objects : SavingJob.object env.s3Prefix '' {lockJob, defaultJob}
        = {key | key ∈ [buildObjectKey none "p" lockKey, buildObjectKey none "p" "default"]} := by
      rw [Set.image_pair, bare]
      ext key
      simp only [List.mem_cons, List.not_mem_nil, or_false, Set.mem_ofPred_eq]
      rfl
    rw [objects]
    exact bucketAnswers_serves (fun _ =>
      [buildObjectKey none "p" lockKey, buildObjectKey none "p" "default"]) env.bucket

-----------------------------------------------------------------------------------------
-- Checkouts of one tree
-----------------------------------------------------------------------------------------

section Checkouts

variable {crates : Crates} {glob : GlobCrate}
  {below : FileTree → String → Option (List PathBuf)} {left right : FileSystem}
  {tree : FileTree} {leftBase rightBase : PathBuf} {setting : Setting}
  {leftWorld rightWorld : World}

variable {config : PathBuf} {env : LoadedEnv} {client : S3Client} {job : SavingJob crates}

end Checkouts

-----------------------------------------------------------------------------------------
-- A probe at `/x` after that job
-----------------------------------------------------------------------------------------

end Cafce
