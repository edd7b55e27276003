import Cafce.Correctness.ProbeProtocol

/-! The loop that the unit tests run over results from a script, against the loop of the
program: what the tests say of the one holds of the other.
-/

namespace Cafce

open Fallible Logged

/-- `probe_with_scripted_results` of the tests: results in place of requests. -/
def probeWithScriptedResults
    : List String → List (Except AnyhowError Bool) → Except AnyhowError Bool
  | [], _ => .ok false
  | _ :: _, .ok true :: _ => .ok true
  | _ :: keys, .ok false :: results => probeWithScriptedResults keys results
  | _ :: _, .error error :: _ => .error error
  -- the script has run out, which ends the loop without a hit
  | _ :: _, [] => .ok false

section Script

variable {headObject : HeadObject} {setting : Setting} {env : LoadedEnv} {client : S3Client}

/-- The result of `check_key_exists` for the request of a position. -/
def resultFor (headObject : HeadObject) (setting : Setting) (env : LoadedEnv) (index : Nat)
    (cacheKey : String)
    : Except AnyhowError Bool :=
  interpretAnswer env.bucket (buildObjectKey env.s3Prefix setting.project cacheKey)
    (answerFor headObject setting env index cacheKey)

/-- The script begins with the results of the requests that were sent. -/
def Records (headObject : HeadObject) (setting : Setting) (env : LoadedEnv) (asked : Nat)
    (keys : List String) (sent : Nat) (script : List (Except AnyhowError Bool))
    : Prop :=
  ∀ index < sent, ∀ key ∈ keys[index]?,
    script[index]? = some (resultFor headObject setting env (asked + index) key)

/-- A first result that is no miss ends the loop. -/
theorem probeKeys_of_decisive {asked : Nat} {key : String} {keys : List String}
    (decisive : resultFor headObject setting env asked key ≠ .ok false)
    : probeKeys headObject setting env client asked (key :: keys)
      = {
          outcome := resultFor headObject setting env asked key
          log := [.headObject (requestFor setting env client key)]
        } := by
  have first : (checkKeyExists headObject asked client env.bucket
      (buildObjectKey env.s3Prefix setting.project key)).outcome
      = resultFor headObject setting env asked key := rfl
  rw [probeKeys]
  cases result : resultFor headObject setting env asked key with
  | error error =>
      rw [bind_of_error (first.trans result)]
      rfl
  | ok hit =>
      cases hit with
      | true =>
          rw [bind_of_ok (first.trans result)]
          rfl
      | false => exact absurd result decisive

/-- After a miss the loop goes on with the other keys. -/
theorem probeKeys_of_miss {asked : Nat} {key : String} {keys : List String}
    (miss : resultFor headObject setting env asked key = .ok false)
    : probeKeys headObject setting env client asked (key :: keys)
      = {
          outcome := (probeKeys headObject setting env client (asked + 1) keys).outcome
          log := .headObject (requestFor setting env client key)
            :: (probeKeys headObject setting env client (asked + 1) keys).log
        } := by
  have first : (checkKeyExists headObject asked client env.bucket
      (buildObjectKey env.s3Prefix setting.project key)).outcome = .ok false := miss
  rw [probeKeys, bind_of_ok first]
  rfl

/-- The loop of the tests returns what the loop of the program does, as soon as its script
begins with the results of the requests that were sent; the rest of the script does not
matter. Witness: induction on the keys, a result at a time.
-/
theorem probeWithScriptedResults_eq {asked : Nat} {keys : List String}
    {script : List (Except AnyhowError Bool)}
    (records : Records headObject setting env asked keys
      (headRequests (probeKeys headObject setting env client asked keys).log).length script)
    : probeWithScriptedResults keys script
      = (probeKeys headObject setting env client asked keys).outcome := by
  induction keys generalizing asked script with
  | nil => rfl
  | cons key keys ih =>
      have scripted (sent : 0 < (headRequests
          (probeKeys headObject setting env client asked (key :: keys)).log).length)
          : ∃ results, script = resultFor headObject setting env asked key :: results := by
        have first := records 0 sent key rfl
        cases script with
        | nil => cases first
        | cons result results => exact ⟨results, by rw [Option.some.inj first, Nat.add_zero]⟩
      by_cases miss : resultFor headObject setting env asked key = .ok false
      · rw [probeKeys_of_miss miss] at records scripted ⊢
        obtain ⟨results, rfl⟩ := scripted (Nat.succ_pos _)
        rw [miss]
        apply ih
        intro index below k here
        have later := records (index + 1) (Nat.succ_lt_succ below) k here
        rwa [← Nat.add_assoc, Nat.add_right_comm] at later
      · rw [probeKeys_of_decisive miss] at scripted ⊢
        obtain ⟨results, rfl⟩ := scripted Nat.one_pos
        cases result : resultFor headObject setting env asked key with
        | error error => rfl
        | ok hit =>
            cases hit with
            | true => rfl
            | false => exact absurd result miss

/-- A probe returns what the loop of the tests does on its keys, with any script that begins
with the results of the requests that the probe sent.
-/
theorem probe_scripted {sha256 : List UInt8 → Digest} {files : FileView} {basePath : PathBuf}
    {primaryKey : String} {script : List (Except AnyhowError Bool)}
    (resolved : (setting.resolvePrimaryKey sha256 files basePath).outcome = .ok primaryKey)
    (records : Records headObject setting env 0 (primaryKey :: setting.fallbackKeys)
      (headRequests (probe sha256 files headObject setting env client basePath).log).length
      script)
    : probeWithScriptedResults (primaryKey :: setting.fallbackKeys) script
      = (probe sha256 files headObject setting env client basePath).outcome := by
  rw [probe_resolved resolved, headRequests_append, headRequests_opened,
    List.nil_append] at records
  rw [probe_resolved resolved]
  exact probeWithScriptedResults_eq records

end Script

/-- Settings with a bucket and nothing else. -/
def bareEnv : LoadedEnv where
  awsServerAddress := none
  awsAccessKey := none
  awsSecretKey := none
  awsSessionToken := none
  awsRoleArn := none
  awsRoleSessionName := none
  awsProfile := none
  awsInsecure := false
  awsRegion := none
  awsForcePathStyle := none
  awsBucket := some "b"
  s3Prefix := none
  bucket_set := rfl

/-- A configuration with a literal key and two fallback keys. -/
def fallbackSetting : Setting where
  project := "p"
  paths := []
  key := .string "primary"
  fallbackKeys := ["fallback1", "fallback2"]

/-- A bucket with the object of the first fallback key. -/
def fallbackBucket : HeadObject := fun _ _ key =>
  if key = "p/fallback1" then .ok ()
  else .error (.serviceError .notFound { message := "NotFound" })

theorem probe_scripted_fallback
    : probeWithScriptedResults ["primary", "fallback1", "fallback2"] [.ok false, .ok true]
      = (probe (fun _ => Vector.replicate 32 0)
          ⟨fun _ => .ok [], fun _ => false, fun _ => .ok []⟩ fallbackBucket fallbackSetting
          bareEnv ⟨"us-east-1", none, none, none, none⟩ (PathBuf.ofStr "/work")).outcome := by
  have resolved : (fallbackSetting.resolvePrimaryKey (fun _ => Vector.replicate 32 0)
      ⟨fun _ => .ok [], fun _ => false, fun _ => .ok []⟩ (PathBuf.ofStr "/work")).outcome
      = .ok "primary" :=
    rfl
  refine probe_scripted resolved fun index below key here => ?_
  have sent : index < 2 := below
  rcases index with _ | _ | index
  · obtain rfl : "primary" = key := Option.some.inj here
    decide
  · obtain rfl : "fallback1" = key := Option.some.inj here
    decide
  · omega

end Cafce
