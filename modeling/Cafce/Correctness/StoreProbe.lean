import Cafce.Correctness.Secrets
import Cafce.Library.ChangingSet

/-! The `probe` command against a bucket that other jobs upload to and clean up meanwhile.
Each request sees the bucket of its own moment, and the answer is about those moments.
-/

namespace Cafce

open ChangingSet Fallible Logged

/-- S3 answers each request from the bucket of that moment, and a missing object is NotFound. -/
structure Serves (headObject : HeadObject) (bucket : String) (objects : Nat → Set String)
    : Prop where
  present : ∀ asked key, key ∈ objects asked → headObject asked bucket key = .ok ()
  absent : ∀ asked key, key ∉ objects asked → Misses (headObject asked bucket key)

/-- To a client that may not list the bucket, S3 forbids what is missing. -/
structure ServesUnlisted (headObject : HeadObject) (bucket : String)
    (objects : Nat → Set String)
    : Prop where
  present : ∀ asked key, key ∈ objects asked → headObject asked bucket key = .ok ()
  absent : ∀ asked key, key ∉ objects asked
    → ∃ report, headObject asked bucket key = .error (.serviceError .other report)

/-- The object keys of a configuration, in the order in which they are tried. -/
def objectKeys (setting : Setting) (env : LoadedEnv) (primaryKey : String) : List String :=
  (primaryKey :: setting.fallbackKeys).map (buildObjectKey env.s3Prefix setting.project)

/-- A `probe` command whose stages before the loop succeed. -/
structure ProbeSetUp (crates : Crates) (world : World) (config : PathBuf) (cwd : PathBuf)
    (setting : Setting) (env : LoadedEnv) (client : S3Client) (primaryKey : String)
    : Prop extends ProbeReady crates world config cwd setting env client where
  resolved : (setting.resolvePrimaryKey crates.sha256 world.files cwd).outcome
    = .ok primaryKey

-----------------------------------------------------------------------------------------
-- From the loop to the command
-----------------------------------------------------------------------------------------

section Command

variable {crates : Crates} {world : World} {config cwd : PathBuf} {setting : Setting}
  {env : LoadedEnv} {client : S3Client} {primaryKey : String}

/-- What the loop does for a command that is set up. -/
def looped (world : World) (setting : Setting) (env : LoadedEnv) (client : S3Client)
    (primaryKey : String)
    : Logged Event AnyhowError Bool :=
  probeKeys world.headObject setting env client 0 (primaryKey :: setting.fallbackKeys)

theorem ProbeSetUp.outcome
    (setUp : ProbeSetUp crates world config cwd setting env client primaryKey)
    : (Cafce.probe crates.sha256 world.files world.headObject setting env client cwd).outcome
      = (looped world setting env client primaryKey).outcome := by
  rw [probe_resolved setUp.resolved]
  rfl

/-- The command asks what the loop asks. -/
theorem ProbeSetUp.headRequests
    (setUp : ProbeSetUp crates world config cwd setting env client primaryKey)
    : headRequests (main crates world (.probe config)).2
      = Cafce.headRequests (looped world setting env client primaryKey).log := by
  rw [headRequests_main, run, ← seen_shownRequest, setUp.seen shownRequest_ignoresReads,
    seen_bind_of_hidden_next fun hit => rfl, seen_relabel]
  change Cafce.headRequests (Cafce.probe _ _ _ _ _ _ _).log = _
  rw [probe_resolved setUp.resolved, headRequests_append, headRequests_opened,
    List.nil_append]
  rfl

/-- The command prints what the loop returns. -/
theorem ProbeSetUp.prints
    (setUp : ProbeSetUp crates world config cwd setting env client primaryKey) {hit : Bool}
    (returned : (looped world setting env client primaryKey).outcome = .ok hit)
    : (main crates world (.probe config)).1 = .success
      ∧ stdoutText (main crates world (.probe config)).2
        = (if hit then "true" else "false") ++ "\n" := by
  have probed := setUp.outcome.trans returned
  have printing : printed (Run.probe crates world config).log
      = [(if hit then "true" else "false") ++ "\n"] := by
    rw [← seen_shownText, setUp.seen shownText_ignoresReads,
      seen_bind_of_ok (mapError_eq_ok_iff.mpr probed), seen_relabel]
    change printed (Cafce.probe _ _ _ _ _ _ _).log ++ _ = _
    rw [printed_probe, List.nil_append]
    rfl
  refine ⟨main_status_eq_success_iff.mpr ?_, ?_⟩
  · simp only [run, Run.probe, outcome_bind, outcome_relabel, setUp.currentDir, setUp.loaded,
      setUp.loadedEnv, setUp.built, probed, Except.mapError, ok_bind]
    rfl
  · rw [stdoutText_main, run, stdoutText_of_printed printing]

/-- The command fails where the loop does, and prints nothing. -/
theorem ProbeSetUp.fails
    (setUp : ProbeSetUp crates world config cwd setting env client primaryKey)
    {error : AnyhowError}
    (failure : (looped world setting env client primaryKey).outcome = .error error)
    : (main crates world (.probe config)).1 = .failure
      ∧ stdoutText (main crates world (.probe config)).2 = "" := by
  have probed := setUp.outcome.trans failure
  have failed : (run crates world (.probe config)).outcome = .error (.failed error) := by
    simp only [run, Run.probe, outcome_bind, outcome_relabel, setUp.currentDir, setUp.loaded,
      setUp.loadedEnv, setUp.built, probed, Except.mapError, ok_bind, error_bind]
  have status : (main crates world (.probe config)).1 = .failure := by
    simp only [main, failed]
  refine ⟨status, stdoutText_of_cleanFailure probe_cleanFailure ?_⟩
  rw [status]
  decide

end Command

-----------------------------------------------------------------------------------------
-- Requests as lookups
-----------------------------------------------------------------------------------------

section Lookups

variable {headObject : HeadObject} {setting : Setting} {env : LoadedEnv}
  {objects : Nat → Set String} {keys : List String}

/-- Looking for an object that is there is a hit, and the objects before it were missed. -/
theorem decidedAt_of_foundAt {index : Nat} {objectKey : String}
    (serves : Serves headObject env.bucket objects)
    (foundAt : FoundAt objects
      (keys.map (buildObjectKey env.s3Prefix setting.project)) index objectKey)
    : ∃ key, DecidedAt (answerFor headObject setting env) keys index key
      ∧ answerFor headObject setting env index key = .ok () := by
  obtain ⟨key, here, rfl⟩ := Option.map_eq_some_iff.mp
    (List.getElem?_map.symm.trans foundAt.here)
  have hit : answerFor headObject setting env index key = .ok () :=
    serves.present index _ foundAt.present
  refine ⟨key, ⟨here, ?_, ?_⟩, hit⟩
  · intro before below k placed
    apply serves.absent
    apply foundAt.earlier before below
    rw [List.getElem?_map]
    exact Option.mem_map_of_mem _ placed
  · rw [hit]
    exact not_misses_ok

theorem allNotFound_of_not_found (serves : Serves headObject env.bucket objects)
    (nothing : ¬ Found objects (keys.map (buildObjectKey env.s3Prefix setting.project)))
    : AllNotFound (answerFor headObject setting env) keys := by
  intro index key placed
  apply serves.absent
  apply not_found_iff.mp nothing index
  rw [List.getElem?_map]
  exact Option.mem_map_of_mem _ placed

end Lookups

-----------------------------------------------------------------------------------------
-- A bucket to look at
-----------------------------------------------------------------------------------------

/-- The answers of a bucket whose objects at each request are listed. -/
def bucketAnswers (objects : Nat → List String) : HeadObject := fun asked _ key =>
  if key ∈ objects asked then .ok ()
  else .error (.serviceError .notFound { message := "NotFound" })

theorem bucketAnswers_serves (objects : Nat → List String) (bucket : String)
    : Serves (bucketAnswers objects) bucket fun asked => {key | key ∈ objects asked} where
  present := fun _ _ there => if_pos there
  absent := fun _ _ away => ⟨_, if_neg away⟩

/-- A world around a configuration without references, with any S3. -/
def bucketWorld (headObject : HeadObject) : World :=
  { secretWorld "alpha" "t" with headObject }

/-- Its settings are loaded and a client is built from them. -/
theorem bucketWorld_client (headObject : HeadObject)
    : ∃ env client,
        (Run.loadEnv plainCrates (bucketWorld headObject)).outcome = .ok env
        ∧ (Run.buildClient plainCrates (bucketWorld headObject) env).outcome = .ok client
        ∧ env.s3Prefix = none := by
  have read : plainCrates.envy (bucketWorld headObject).processEnv
      = .ok (plainEnv (secretWorld "alpha" "t").processEnv) := rfl
  have fields : plainEnv (secretWorld "alpha" "t").processEnv
      = {
          awsServerAddress := none
          awsAccessKey := none
          awsSecretKey := some "alpha"
          awsSessionToken := some "t"
          awsRoleArn := none
          awsRoleSessionName := none
          awsProfile := none
          awsInsecure := false
          awsRegion := none
          awsForcePathStyle := none
          awsBucket := some "b"
          s3Prefix := none
        } := by
    simp [plainEnv, ProcessEnv.listed, secretWorld, lookup_asBytes, asBytes_injective.eq_iff]
  rw [fields] at read
  obtain ⟨env, loaded, same⟩ := Env.exists_new_of_bucket read rfl (by decide)
  have built : ∃ client, (buildS3Client plainCrates.url (bucketWorld headObject).sts
      env.toEnv).outcome = .ok client := by
    rw [same]
    exact ⟨_, rfl⟩
  obtain ⟨client, built⟩ := built
  have bare : env.s3Prefix = none := by
    rw [same]
    rfl
  exact ⟨env, client, Run.loadEnv_eq_ok_iff.mpr loaded, mapError_eq_ok_iff.mpr built, bare⟩

/-- The command is set up to look for `p/k`. -/
theorem bucketWorld_setUp (headObject : HeadObject) (config : PathBuf)
    : ∃ env client,
        ProbeSetUp plainCrates (bucketWorld headObject) config (PathBuf.ofStr "/work")
          plainSetting env client "k"
        ∧ objectKeys plainSetting env "k" = ["p/k"] := by
  obtain ⟨env, client, loaded, built, bare⟩ := bucketWorld_client headObject
  refine ⟨env, client, ⟨⟨rfl, secretWorld_loadSetting config, loaded, built⟩, rfl⟩, ?_⟩
  rw [objectKeys, bare]
  rfl

/-- That configuration with a fallback key. -/
def twoKeySetting : Setting :=
  { plainSetting with fallbackKeys := ["l"] }

def twoKeyCrates : Crates :=
  { plainCrates with toml := fun _ => .ok twoKeySetting }

/-- The command is set up to look for `p/k` and then for `p/l`. -/
theorem twoKey_setUp (headObject : HeadObject) (config : PathBuf)
    : ∃ env client,
        ProbeSetUp twoKeyCrates (bucketWorld headObject) config (PathBuf.ofStr "/work")
          twoKeySetting env client "k"
        ∧ objectKeys twoKeySetting env "k" = ["p/k", "p/l"] := by
  obtain ⟨env, client, loaded, built, bare⟩ := bucketWorld_client headObject
  have setting : (Run.loadSetting twoKeyCrates (bucketWorld headObject) config).outcome
      = .ok twoKeySetting := by
    rw [Run.loadSetting_eq_ok_iff, Setting.newFromFile, bind_eq_ok_iff]
    refine ⟨_, rfl, Setting.newFromStr_eq_ok_iff.mpr ⟨twoKeySetting, rfl,
      expandEnvVars_of_free (by decide), by decide, ?_, ?_, rfl⟩⟩
    · change Setting.expandKey _ (.string "k") = _
      rw [Setting.expandKey, expandEnvVars_of_free (by decide)]
      rfl
    · change ["l"].mapM (expandEnvVars _) = _
      rw [List.mapM_cons, expandEnvVars_of_free (by decide)]
      rfl
  refine ⟨env, client, ⟨⟨rfl, setting, loaded, built⟩, rfl⟩, ?_⟩
  rw [objectKeys, bare]
  rfl

-----------------------------------------------------------------------------------------
-- The answers to a probe
-----------------------------------------------------------------------------------------

/-- The request for an object key. -/
def objectRequest (env : LoadedEnv) (client : S3Client) (objectKey : String)
    : HeadObjectCall where
  client
  bucket := env.bucket
  key := objectKey

theorem map_requestFor (setting : Setting) (env : LoadedEnv) (client : S3Client)
    (keys : List String)
    : keys.map (requestFor setting env client)
      = (keys.map (buildObjectKey env.s3Prefix setting.project)).map
          (objectRequest env client) := by
  rw [List.map_map]
  rfl

/-- What a `probe` says about a bucket that may be another one at every request: `true` when
the object of some request is there at that moment, and nothing is asked after the first
such request; `false` when none is. It never fails.
-/
structure Reports (result : ExitStatus × List Event) (objects : Nat → Set String)
    (keys : List String) (request : String → HeadObjectCall)
    : Prop where
  success : result.1 = .success
  hit_iff : stdoutText result.2 = "true\n" ↔ Found objects keys
  miss_iff : stdoutText result.2 = "false\n" ↔ ¬ Found objects keys
  asked_until : ∀ index key, FoundAt objects keys index key
    → headRequests result.2 = (keys.take (index + 1)).map request
  asked_all : ¬ Found objects keys → headRequests result.2 = keys.map request

section Snapshots

variable {crates : Crates} {world : World} {config cwd : PathBuf} {setting : Setting}
  {env : LoadedEnv} {client : S3Client} {primaryKey : String} {objects : Nat → Set String}

theorem looped_protocol (world : World) (setting : Setting) (env : LoadedEnv)
    (client : S3Client) (primaryKey : String)
    : ProbeProtocol (answerFor world.headObject setting env) (requestFor setting env client)
        (primaryKey :: setting.fallbackKeys)
        (looped world setting env client primaryKey).outcome
        (headRequests (looped world setting env client primaryKey).log) :=
  probeKeys_protocol world.headObject setting env client _

/-- The answer of the command is whether a lookup finds its key. -/
theorem ProbeSetUp.answers
    (setUp : ProbeSetUp crates world config cwd setting env client primaryKey)
    (serves : Serves world.headObject env.bucket objects)
    : (main crates world (.probe config)).1 = .success
      ∧ (stdoutText (main crates world (.probe config)).2 = "true\n"
        ↔ Found objects (objectKeys setting env primaryKey))
      ∧ (stdoutText (main crates world (.probe config)).2 = "false\n"
        ↔ ¬ Found objects (objectKeys setting env primaryKey)) := by
  have protocol := looped_protocol world setting env client primaryKey
  by_cases found : Found objects (objectKeys setting env primaryKey)
  · obtain ⟨index, objectKey, foundAt⟩ := found_iff_exists_foundAt.mp found
    obtain ⟨key, decided, hit⟩ := decidedAt_of_foundAt serves foundAt
    obtain ⟨success, shown⟩ := setUp.prints (protocol.hit_iff.mpr ⟨index, key, decided, hit⟩)
    refine ⟨success, iff_of_true shown found, ?_⟩
    rw [shown]
    exact iff_of_false (by decide) (not_not_intro found)
  · have missed := allNotFound_of_not_found serves found
    obtain ⟨success, shown⟩ :=
      setUp.prints (protocol.missed_iff.mpr ⟨protocol.undecided missed, missed⟩)
    refine ⟨success, ?_, iff_of_true shown found⟩
    rw [shown]
    exact iff_of_false (by decide) found

/-- The `probe` command reports on the moments of its requests. Witness: the first lookup
that finds its key is the answer that decides the loop.
-/
theorem probe_reports
    (setUp : ProbeSetUp crates world config cwd setting env client primaryKey)
    (serves : Serves world.headObject env.bucket objects)
    : Reports (main crates world (.probe config)) objects (objectKeys setting env primaryKey)
        (objectRequest env client) := by
  have protocol := looped_protocol world setting env client primaryKey
  obtain ⟨success, hit_iff, miss_iff⟩ := setUp.answers serves
  refine ⟨success, hit_iff, miss_iff, ?_, ?_⟩
  · intro index objectKey foundAt
    obtain ⟨key, decided, _⟩ := decidedAt_of_foundAt serves foundAt
    rw [setUp.headRequests, protocol.decided index key decided, map_requestFor, List.map_take]
    rfl
  · intro nothing
    rw [setUp.headRequests, protocol.undecided (allNotFound_of_not_found serves nothing),
      map_requestFor]
    rfl

/-- The object of the fallback key is uploaded between the two requests. -/
theorem probe_reports_upload
    : ∃ env client, objectKeys twoKeySetting env "k" = ["p/k", "p/l"]
      ∧ Reports
          (main twoKeyCrates
            (bucketWorld (bucketAnswers fun asked => if asked = 0 then [] else ["p/l"]))
            (.probe (PathBuf.ofStr "c.toml")))
          (fun asked => {key | key ∈ if asked = 0 then [] else ["p/l"]})
          (objectKeys twoKeySetting env "k") (objectRequest env client) := by
  obtain ⟨env, client, setUp, keys⟩ := twoKey_setUp
    (bucketAnswers fun asked => if asked = 0 then [] else ["p/l"]) (PathBuf.ofStr "c.toml")
  exact ⟨env, client, keys, probe_reports setUp (bucketAnswers_serves _ _)⟩

/-- What a `probe` says while other jobs upload and remove objects between its requests. An
object that was there and stays is enough for `true`; a `true` is owed to an object that was
there or came; and where nobody touches its objects the answer is about the bucket itself.
-/
structure ReportsAmid (result : ExitStatus × List Event) (start : Set String)
    (others : Nat → List (Change String)) (keys : List String)
    : Prop where
  answers : result.1 = .success
    ∧ (stdoutText result.2 = "true\n" ∨ stdoutText result.2 = "false\n")
  kept : ∀ key ∈ keys, key ∈ start
    → (∀ moment < keys.length, .remove key ∉ others moment)
    → stdoutText result.2 = "true\n"
  evidence : stdoutText result.2 = "true\n"
    → ∃ key ∈ keys, key ∈ start ∨ ∃ moment < keys.length, .add key ∈ others moment
  untouched : (∀ key ∈ keys, ∀ moment < keys.length,
      .add key ∉ others moment ∧ .remove key ∉ others moment)
    → (stdoutText result.2 = "true\n" ↔ ∃ key ∈ keys, key ∈ start)

/-- Uploads and removals between the requests, in any interleaving. Witness: what is there at
a lookup was there at the start and kept, or was added before.
-/
theorem probe_reports_amid {start : Set String} {others : Nat → List (Change String)}
    (setUp : ProbeSetUp crates world config cwd setting env client primaryKey)
    (serves : Serves world.headObject env.bucket (during start others))
    : ReportsAmid (main crates world (.probe config)) start others
        (objectKeys setting env primaryKey) := by
  obtain ⟨success, hit_iff, miss_iff⟩ := setUp.answers serves
  have kept : ∀ key ∈ objectKeys setting env primaryKey, key ∈ start
      → (∀ moment < (objectKeys setting env primaryKey).length, .remove key ∉ others moment)
      → stdoutText (main crates world (.probe config)).2 = "true\n" := by
    intro key listed there stays
    apply hit_iff.mpr
    apply found_of_throughout listed
    intro index inside
    exact mem_during there fun moment bound => stays moment (by omega)
  have evidence : stdoutText (main crates world (.probe config)).2 = "true\n"
      → ∃ key ∈ objectKeys setting env primaryKey, key ∈ start
        ∨ ∃ moment < (objectKeys setting env primaryKey).length, .add key ∈ others moment := by
    intro shown
    obtain ⟨index, key, here, present⟩ := hit_iff.mp shown
    obtain ⟨inside, _⟩ := List.getElem?_eq_some_iff.mp here
    refine ⟨key, List.mem_of_getElem? here, ?_⟩
    rcases start_or_added present with there | ⟨moment, bound, added⟩
    · exact Or.inl there
    · exact Or.inr ⟨moment, by omega, added⟩
  refine ⟨⟨success, ?_⟩, kept, evidence, ?_⟩
  · rw [hit_iff, miss_iff]
    exact Classical.em _
  · intro alone
    constructor
    · intro shown
      obtain ⟨key, listed, there | ⟨moment, inside, added⟩⟩ := evidence shown
      · exact ⟨key, listed, there⟩
      · exact absurd added (alone key listed moment inside).1
    · intro there
      obtain ⟨key, listed, present⟩ := there
      exact kept key listed present fun moment inside => (alone key listed moment inside).2

/-- One object is removed before the first request, another is uploaded before the second. -/
def exchange : Nat → List (Change String)
  | 0 => [.remove "p/k"]
  | 1 => [.add "p/l"]
  | _ => []

theorem during_exchange
    : during {"p/k"} exchange
      = fun asked => {key | key ∈ if asked = 0 then [] else ["p/l"]} := by
  have first : during {"p/k"} exchange 0 = ∅ := Set.sdiff_self
  have later (index : Nat) : during {"p/k"} exchange (index + 1) = {"p/l"} := by
    induction index with
    | zero =>
        change insert "p/l" (during {"p/k"} exchange 0) = _
        rw [first, insert_empty_eq]
    | succ index ih => exact ih
  funext asked
  cases asked with
  | zero => simp [first]
  | succ index => simp [later]

theorem probe_reports_amid_upload
    : ∃ env, objectKeys twoKeySetting env "k" = ["p/k", "p/l"]
      ∧ ReportsAmid
          (main twoKeyCrates
            (bucketWorld (bucketAnswers fun asked => if asked = 0 then [] else ["p/l"]))
            (.probe (PathBuf.ofStr "c.toml")))
          {"p/k"} exchange (objectKeys twoKeySetting env "k") := by
  obtain ⟨env, client, setUp, keys⟩ := twoKey_setUp
    (bucketAnswers fun asked => if asked = 0 then [] else ["p/l"]) (PathBuf.ofStr "c.toml")
  refine ⟨env, keys, probe_reports_amid setUp ?_⟩
  rw [during_exchange]
  exact bucketAnswers_serves _ _

/-- What a `probe` says when it may not list the bucket: only the object of the primary key
counts, and without it the command fails.
-/
structure ReportsUnlisted (result : ExitStatus × List Event) (objects : Nat → Set String)
    (objectKey : String) (request : String → HeadObjectCall)
    : Prop where
  asked_once : headRequests result.2 = [request objectKey]
  hit : objectKey ∈ objects 0 → result.1 = .success ∧ stdoutText result.2 = "true\n"
  failure : objectKey ∉ objects 0 → result.1 = .failure ∧ stdoutText result.2 = ""

/-- Without the permission to list, fallback keys are never tried and `false` is never said.
Witness: every first answer decides.
-/
theorem probe_reports_unlisted
    (setUp : ProbeSetUp crates world config cwd setting env client primaryKey)
    (serves : ServesUnlisted world.headObject env.bucket objects)
    : ReportsUnlisted (main crates world (.probe config)) objects
        (buildObjectKey env.s3Prefix setting.project primaryKey)
        (objectRequest env client) := by
  have protocol := looped_protocol world setting env client primaryKey
  have first (decisive : ¬ Misses (answerFor world.headObject setting env 0 primaryKey))
      : DecidedAt (answerFor world.headObject setting env)
          (primaryKey :: setting.fallbackKeys) 0 primaryKey :=
    ⟨rfl, by simp, decisive⟩
  have asked (decisive : ¬ Misses (answerFor world.headObject setting env 0 primaryKey))
      : headRequests (main crates world (.probe config)).2
        = [objectRequest env client
            (buildObjectKey env.s3Prefix setting.project primaryKey)] := by
    rw [setUp.headRequests, protocol.decided 0 primaryKey (first decisive)]
    rfl
  by_cases present : buildObjectKey env.s3Prefix setting.project primaryKey ∈ objects 0
  · have hit : answerFor world.headObject setting env 0 primaryKey = .ok () :=
      serves.present 0 _ present
    have decisive : ¬ Misses (answerFor world.headObject setting env 0 primaryKey) := by
      rw [hit]
      exact not_misses_ok
    refine ⟨asked decisive, fun _ => ?_, fun away => absurd present away⟩
    exact setUp.prints (protocol.hit_iff.mpr ⟨0, primaryKey, first decisive, hit⟩)
  · obtain ⟨report, forbidden⟩ := serves.absent 0 _ present
    have denied : answerFor world.headObject setting env 0 primaryKey
        = .error (.serviceError .other report) :=
      forbidden
    have decisive : ¬ Misses (answerFor world.headObject setting env 0 primaryKey) := by
      rw [denied]
      simp [Misses]
    refine ⟨asked decisive, fun there => absurd there present, fun _ => ?_⟩
    obtain ⟨error, failed⟩ :=
      protocol.failed_iff.mpr ⟨0, primaryKey, first decisive, _, denied⟩
    exact setUp.fails failed

/-- The answers of a bucket that holds `p/l`, to a client that may not list it. -/
def unlistedAnswers : HeadObject := fun _ _ key =>
  if key = "p/l" then .ok () else .error (.serviceError .other { message := "Forbidden" })

/-- The object of the fallback key is there, but it is not asked for. -/
theorem probe_reports_unlisted_missing
    : ∃ env client, ReportsUnlisted
        (main twoKeyCrates (bucketWorld unlistedAnswers) (.probe (PathBuf.ofStr "c.toml")))
        (fun _ => {"p/l"}) (buildObjectKey env.s3Prefix twoKeySetting.project "k")
        (objectRequest env client) := by
  obtain ⟨env, client, setUp, _⟩ := twoKey_setUp unlistedAnswers (PathBuf.ofStr "c.toml")
  have serves : ServesUnlisted unlistedAnswers env.bucket fun _ => {"p/l"} :=
    ⟨fun _ _ there => if_pos there, fun _ _ away => ⟨_, if_neg away⟩⟩
  exact ⟨env, client, probe_reports_unlisted setUp serves⟩

end Snapshots

/-- More keys to try in a bucket with more objects: a `true` stays `true`. So the order of the
fallback keys and their repetition do not matter. Witness: the object that was found.
-/
theorem probe_monotone {left right : World} {leftCrates rightCrates : Crates}
    {leftConfig rightConfig leftCwd rightCwd : PathBuf} {leftSetting rightSetting : Setting}
    {leftEnv rightEnv : LoadedEnv} {leftClient rightClient : S3Client}
    {leftKey rightKey : String} {fewer more : Set String}
    (leftSetUp : ProbeSetUp leftCrates left leftConfig leftCwd leftSetting leftEnv leftClient
      leftKey)
    (rightSetUp : ProbeSetUp rightCrates right rightConfig rightCwd rightSetting rightEnv
      rightClient rightKey)
    (leftServes : Serves left.headObject leftEnv.bucket fun _ => fewer)
    (rightServes : Serves right.headObject rightEnv.bucket fun _ => more)
    (covered : ∀ key ∈ objectKeys leftSetting leftEnv leftKey, key ∈ fewer
      → key ∈ objectKeys rightSetting rightEnv rightKey ∧ key ∈ more)
    (hit : stdoutText (main leftCrates left (.probe leftConfig)).2 = "true\n")
    : stdoutText (main rightCrates right (.probe rightConfig)).2 = "true\n" := by
  have found := (leftSetUp.answers leftServes).2.1.mp hit
  obtain ⟨key, listed, present⟩ := found_const_iff.mp found
  apply (rightSetUp.answers rightServes).2.1.mpr
  exact found_const_iff.mpr ⟨key, covered key listed present⟩

theorem probe_monotone_upload
    : stdoutText (main plainCrates (bucketWorld (bucketAnswers fun _ => ["p/l", "p/k"]))
        (.probe (PathBuf.ofStr "c.toml"))).2 = "true\n" := by
  obtain ⟨leftEnv, leftClient, left, leftKeys⟩ := bucketWorld_setUp
    (bucketAnswers fun _ => ["p/k"]) (PathBuf.ofStr "c.toml")
  obtain ⟨rightEnv, rightClient, right, rightKeys⟩ := bucketWorld_setUp
    (bucketAnswers fun _ => ["p/l", "p/k"]) (PathBuf.ofStr "c.toml")
  have leftServes := bucketAnswers_serves (fun _ => ["p/k"]) leftEnv.bucket
  have rightServes := bucketAnswers_serves (fun _ => ["p/l", "p/k"]) rightEnv.bucket
  apply probe_monotone left right leftServes rightServes
  · intro key listed present
    rw [rightKeys]
    exact ⟨leftKeys ▸ listed, List.mem_cons_of_mem _ present⟩
  · apply (left.answers leftServes).2.1.mpr
    rw [leftKeys]
    exact found_const_iff.mpr ⟨"p/k", List.mem_singleton_self _, List.mem_singleton_self _⟩

end Cafce
