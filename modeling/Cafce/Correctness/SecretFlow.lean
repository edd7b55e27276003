import Cafce.Correctness.Secrets

/-! Where the secrets of the environment go: into the credentials that sign requests, and
nowhere else. Everything that two runs with different secrets read, ask, write and report is
the same.
-/

namespace Cafce

open Fallible Logged

-----------------------------------------------------------------------------------------
-- Events without the secrets in them
-----------------------------------------------------------------------------------------

/-- Credentials without what signs with them. -/
def Credentials.withoutSecrets (credentials : Credentials) : Credentials :=
  { credentials with secretAccessKey := "", sessionToken := none }

/-- A client without what it signs with. -/
def S3Client.withoutSecrets (client : S3Client) : S3Client :=
  { client with
    credentialsProvider := client.credentialsProvider.map Credentials.withoutSecrets }

/-- An event without what signs its request; other events are as they are. -/
def Event.withoutSecrets : Event → Event
  | .assumeRole call => .assumeRole call.withoutSecret
  | .headObject call => .headObject { call with client := call.client.withoutSecrets }
  | event => event

/-- The viewer of everything but the secrets of requests. -/
def shownUnsigned (event : Event) : Option Event :=
  some event.withoutSecrets

/-- The viewer of an AssumeRole request without the secret that signs it. -/
def shownCall (call : AssumeRoleCall) : Option Event :=
  shownUnsigned (.assumeRole call)

theorem shownUnsigned_eq : shownUnsigned = some ∘ Event.withoutSecrets := rfl

/-- envy reads text values into the fields of the secrets as they are, and its errors say
nothing about them.
-/
def ReadsSecretsVerbatim (envy : Envy) : Prop :=
  ∀ left right : ProcessEnv, left.SameButSecrets right
    → Related Eq Env.SameButSecrets (envy left) (envy right)

/-- Credentials that differ in what signs with them only, or none on either side. -/
def SameUnsigned (left right : Option Credentials) : Prop :=
  left.map Credentials.withoutSecrets = right.map Credentials.withoutSecrets

-----------------------------------------------------------------------------------------
-- The client
-----------------------------------------------------------------------------------------

section Client

variable {left right : Env} {leftSts rightSts : Sts}

/-- A role is assumed alike, with calls that differ in the secret only. -/
theorem assumeRole_unsigned (answers : AnswersAlike leftSts rightSts)
    (accessKey leftSecret rightSecret roleArn : String) (sessionName : Option String)
    (region : String)
    : LookAlike shownCall Eq Eq
        (assumeRole leftSts accessKey leftSecret roleArn sessionName region)
        (assumeRole rightSts accessKey rightSecret roleArn sessionName region) := by
  constructor
  · have silent (sts : Sts) (secret : String)
        : (assumeRole sts accessKey secret roleArn sessionName region).log
          = [{
              credentials := ⟨accessKey, secret, none, none, "cafce-source"⟩
              region
              roleArn
              roleSessionName := sessionName.getD "cafce-session"
            }] := by
      refine log_bind_of_silent fun response => ?_
      cases response <;> rfl
    rw [seen, seen, silent, silent]
    rfl
  · rw [assumeRole_outcome_eq answers accessKey leftSecret rightSecret]
    cases (assumeRole rightSts accessKey rightSecret roleArn sessionName region).outcome with
    | error error => rfl
    | ok credentials => rfl

/-- The credentials of the clients differ in the secrets only. -/
theorem clientCredentials_unsigned (same : left.SameButSecrets right)
    (answers : AnswersAlike leftSts rightSts)
    : LookAlike shownCall Eq SameUnsigned (clientCredentials leftSts left)
        (clientCredentials rightSts right) := by
  have role := same.field Env.awsRoleArn fun _ => rfl
  have access := same.field Env.awsAccessKey fun _ => rfl
  have session := same.field Env.awsRoleSessionName fun _ => rfl
  have region := same.field Env.getRegion fun _ => rfl
  rw [clientCredentials, clientCredentials, role, access, session, region]
  rcases same.secretKey_cases with ⟨leftNone, rightNone⟩ | ⟨leftKey, rightKey, given⟩
  · rw [leftNone, rightNone]
    cases right.awsRoleArn <;> cases right.awsAccessKey <;> exact ⟨rfl, rfl⟩
  · rw [given.1, given.2]
    cases right.awsRoleArn with
    | none => cases right.awsAccessKey <;> exact ⟨rfl, rfl⟩
    | some roleArn =>
        cases right.awsAccessKey with
        | none => exact ⟨rfl, rfl⟩
        | some accessKey =>
            apply (assumeRole_unsigned answers accessKey leftKey rightKey roleArn
              right.awsRoleSessionName right.getRegion).bind
            intro assumed _ rfl
            exact ⟨rfl, rfl⟩

/-- The endpoint and the addressing style are the same. -/
theorem applyS3Config_unsigned (url : UrlCrate) (region : String) (profile : Option String)
    {leftCredentials rightCredentials : Option Credentials}
    (credentials : SameUnsigned leftCredentials rightCredentials)
    (same : left.SameButSecrets right)
    : Related Eq (fun l r : S3Client => l.withoutSecrets = r.withoutSecrets)
        (applyS3Config url ⟨region, profile, leftCredentials, none, none⟩ left)
        (applyS3Config url ⟨region, profile, rightCredentials, none, none⟩ right) := by
  have endpoint := same.field (Env.buildEndpoint url) fun _ => rfl
  have style := same.field (Env.shouldUsePathStyle url) fun _ => rfl
  rw [applyS3Config, applyS3Config, endpoint, style]
  cases right.buildEndpoint url with
  | error error => exact rfl
  | ok endpoint =>
      cases endpoint with
      | none => exact congrArg (S3Client.mk _ _ · _ _) credentials
      | some endpoint => exact congrArg (S3Client.mk _ _ · _ _) credentials

theorem buildS3Client_unsigned (url : UrlCrate) (same : left.SameButSecrets right)
    (answers : AnswersAlike leftSts rightSts)
    : LookAlike shownCall Eq (fun l r : S3Client => l.withoutSecrets = r.withoutSecrets)
        (buildS3Client url leftSts left) (buildS3Client url rightSts right) := by
  have region := same.field Env.getRegion fun _ => rfl
  have role := same.field Env.awsRoleArn fun _ => rfl
  have access := same.field Env.awsAccessKey fun _ => rfl
  have profile := same.field Env.awsProfile fun _ => rfl
  rw [buildS3Client, buildS3Client, role, access, profile, region, same.secretKey]
  apply (clientCredentials_unsigned same answers).bind
  intro leftCredentials rightCredentials credentials
  apply LookAlike.of_hidden rfl rfl
  apply (applyS3Config_unsigned url right.getRegion _ credentials same).mapError
  intro _ _ equal
  rw [equal]

end Client

-----------------------------------------------------------------------------------------
-- Two runs of a command, stage by stage
-----------------------------------------------------------------------------------------

section TwoRuns

variable {crates : Crates} {left right : World} {config : PathBuf}

theorem loadEnv_unsigned (reads : ReadsSecretsVerbatim crates.envy)
    (same : left.SameButSecrets right)
    : LookAlike shownUnsigned Eq (fun l r : LoadedEnv => l.toEnv.SameButSecrets r.toEnv)
        (Run.loadEnv crates left) (Run.loadEnv crates right) := by
  apply LookAlike.of_hidden rfl rfl
  have read := reads left.processEnv right.processEnv same.processEnv
  have loaded : Related Eq (fun l r : LoadedEnv => l.toEnv.SameButSecrets r.toEnv)
      (Env.new crates.envy left.processEnv) (Env.new crates.envy right.processEnv) := by
    rw [Env.new, Env.new]
    apply (read.mapError fun _ _ => congrArg (Abort.map EnvError.envy)).bind
    intro l r alike
    exact (Env.validate_related alike).mapError fun _ _ => congrArg Abort.failed
  exact loaded.mapError fun _ _ equal => by rw [equal]

theorem buildClient_unsigned {leftEnv rightEnv : LoadedEnv}
    (same : left.SameButSecrets right)
    (alike : leftEnv.toEnv.SameButSecrets rightEnv.toEnv)
    : LookAlike shownUnsigned Eq (fun l r : S3Client => l.withoutSecrets = r.withoutSecrets)
        (Run.buildClient crates left leftEnv) (Run.buildClient crates right rightEnv) := by
  have built := buildS3Client_unsigned crates.url alike same.sts
  constructor
  · rw [Run.buildClient, Run.buildClient, seen_relabel, seen_relabel]
    exact built.seen_eq
  · exact built.outcomes.mapError fun _ _ equal => by rw [equal]

/-- The loop asks for the same objects, with clients that differ in the secrets only. -/
theorem probeKeys_unsigned (headObject : HeadObject) (setting : Setting)
    {leftEnv rightEnv : LoadedEnv} (bucket : leftEnv.bucket = rightEnv.bucket)
    (s3Prefix : leftEnv.s3Prefix = rightEnv.s3Prefix) {leftClient rightClient : S3Client}
    (clients : leftClient.withoutSecrets = rightClient.withoutSecrets) (asked : Nat)
    (keys : List String)
    : LookAlike shownUnsigned Eq Eq
        (probeKeys headObject setting leftEnv leftClient asked keys)
        (probeKeys headObject setting rightEnv rightClient asked keys) := by
  induction keys generalizing asked with
  | nil => exact ⟨rfl, rfl⟩
  | cons key keys ih =>
      rw [probeKeys, probeKeys, bucket, s3Prefix]
      have checked : LookAlike shownUnsigned Eq Eq
          (checkKeyExists headObject asked leftClient rightEnv.bucket
            (buildObjectKey rightEnv.s3Prefix setting.project key))
          (checkKeyExists headObject asked rightClient rightEnv.bucket
            (buildObjectKey rightEnv.s3Prefix setting.project key)) := by
        constructor
        · exact congrArg (fun client => [Event.headObject { client, bucket := _, key := _ }])
            clients
        · rw [checkKeyExists, checkKeyExists, outcome_perform, outcome_perform]
          cases interpretAnswer rightEnv.bucket
            (buildObjectKey rightEnv.s3Prefix setting.project key)
            (headObject asked rightEnv.bucket _) with
          | error error => rfl
          | ok hit => rfl
      apply checked.bind
      intro hit _ rfl
      cases hit with
      | true => exact ⟨rfl, rfl⟩
      | false => exact ih (asked + 1)

theorem probe_unsigned (reads : ReadsSecretsVerbatim crates.envy)
    (same : left.SameButSecrets right) (refers : RefersToNoSecret crates left config)
    : LookAlike shownUnsigned Eq Eq (Run.probe crates left config)
        (Run.probe crates right config) := by
  rw [Run.probe, Run.probe, currentDir_eq same, loadSetting_eq same refers]
  apply (LookAlike.refl (Run.currentDir right) (fun _ => rfl) fun _ => rfl).bind
  intro cwd _ rfl
  apply (LookAlike.refl (Run.loadSetting crates right config) (fun _ => rfl) fun _ => rfl).bind
  intro setting _ rfl
  apply (loadEnv_unsigned reads same).bind
  intro leftEnv rightEnv alike
  apply (buildClient_unsigned same alike).bind
  intro leftClient rightClient clients
  have s3Prefix := alike.field Env.s3Prefix fun _ => rfl
  have probed : LookAlike shownUnsigned Eq Eq
      (probe crates.sha256 left.files left.headObject setting leftEnv leftClient cwd)
      (probe crates.sha256 right.files right.headObject setting rightEnv rightClient cwd) := by
    rw [probe, probe, same.files, same.headObject]
    apply (LookAlike.refl _ (fun _ => rfl) fun _ => rfl).bind
    intro primaryKey _ rfl
    exact probeKeys_unsigned right.headObject setting alike.bucket_eq s3Prefix clients 0 _
  have labelled : LookAlike shownUnsigned Eq Eq
      ((probe crates.sha256 left.files left.headObject setting leftEnv leftClient cwd).relabel
        id Abort.failed)
      ((probe crates.sha256 right.files right.headObject setting rightEnv rightClient
        cwd).relabel id Abort.failed) := by
    constructor
    · rw [seen_relabel, seen_relabel]
      exact probed.seen_eq
    · exact probed.outcomes.mapError fun _ _ equal => by rw [equal]
  apply labelled.bind
  intro hit _ rfl
  exact LookAlike.refl _ (fun _ => rfl) fun _ => rfl

end TwoRuns

/-- Runs that are alike but for the secrets of requests end alike, with the same report. -/
theorem main_unsigned {crates : Crates} {left right : World} {action : Action}
    (alike : LookAlike shownUnsigned Eq Eq (run crates left action) (run crates right action))
    : (main crates left action).1 = (main crates right action).1
      ∧ (main crates left action).2.map Event.withoutSecrets
        = (main crates right action).2.map Event.withoutSecrets := by
  have both := main_alike alike
  rwa [shownUnsigned_eq, List.filterMap_eq_map] at both

/-- The secrets of the environment sign requests and do nothing else: a command that does not
print its settings opens, asks, writes, prints and reports the same, in the same order, for
any values of them. Witness: `key` and `init` are the same runs, `probe` is alike stage by
stage.
-/
theorem secrets_only_sign {crates : Crates} {left right : World} {action : Action}
    (reads : ReadsSecretsVerbatim crates.envy) (same : left.SameButSecrets right)
    (refers : RefersToNoSecret crates left action.config) (silent : action.printsEnv = false)
    : (main crates left action).1 = (main crates right action).1
      ∧ (main crates left action).2.map Event.withoutSecrets
        = (main crates right action).2.map Event.withoutSecrets := by
  apply main_unsigned
  cases action with
  | store config => cases silent
  | restore config => cases silent
  | init config =>
      rw [run, run, init_eq same]
      exact LookAlike.refl _ (fun _ => rfl) fun _ => rfl
  | key config =>
      have equal : run crates left (.key config) = run crates right (.key config) :=
        key_eq same refers
      rw [equal]
      exact LookAlike.refl _ (fun _ => rfl) fun _ => rfl
  | probe config => exact probe_unsigned reads same refers

theorem secrets_only_sign_probe
    : (main plainCrates (secretWorld "alpha" "t") (.probe (PathBuf.ofStr "c.toml"))).1
        = (main plainCrates (secretWorld "beta" "u") (.probe (PathBuf.ofStr "c.toml"))).1
      ∧ (main plainCrates (secretWorld "alpha" "t")
          (.probe (PathBuf.ofStr "c.toml"))).2.map Event.withoutSecrets
        = (main plainCrates (secretWorld "beta" "u")
          (.probe (PathBuf.ofStr "c.toml"))).2.map Event.withoutSecrets := by
  have reads : ReadsSecretsVerbatim plainCrates.envy :=
    fun left right same => plainEnv_reads left right same
  apply secrets_only_sign reads
  · exact secretWorld_sameButSecrets (by decide) (by decide) (by decide) (by decide)
  · exact plainCrates_refersToNoSecret _
  · rfl

end Cafce
