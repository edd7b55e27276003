import Cafce.Model.S3Client

/-! Which credentials a client signs with, and which STS calls are made on the way. The choice
of a profile and the choice of a credentials provider are two conditions that have to agree.
-/

namespace Cafce

open Fallible

/-- The profile that the config loader is given. -/
def loaderProfile (env : Env) : Option String :=
  if env.awsRoleArn.isNone && !(env.awsAccessKey.isSome && env.awsSecretKey.isSome) then
    env.awsProfile
  else none

/-- What is configured before the endpoint: the loaded region and profile, and explicit
credentials.
-/
def loadedBuilder (env : Env) (credentialsProvider : Option Credentials) : S3Client where
  region := env.getRegion
  profileName := loaderProfile env
  credentialsProvider := credentialsProvider
  endpointUrl := none
  forcePathStyle := none

/-- The AssumeRole request for a role with the keys as source credentials. -/
def sourceCall (env : Env) (roleArn accessKey secretKey : String) : AssumeRoleCall where
  credentials := {
    accessKeyId := accessKey
    secretAccessKey := secretKey
    sessionToken := none
    expiration := none
    providerName := "cafce-source"
  }
  region := env.getRegion
  roleArn := roleArn
  roleSessionName := env.awsRoleSessionName.getD "cafce-session"

/-- The credentials that STS returned. -/
def assumedCredentials (creds : StsCredentials) : Credentials where
  accessKeyId := creds.accessKeyId
  secretAccessKey := creds.secretAccessKey
  sessionToken := some creds.sessionToken
  expiration := creds.expiration
  providerName := "cafce-assumed-role"

/-- The keys of the settings with the session token. -/
def staticCredentials (env : Env) (accessKey secretKey : String) : Credentials where
  accessKeyId := accessKey
  secretAccessKey := secretKey
  sessionToken := env.awsSessionToken
  expiration := none
  providerName := "cafce-static"

/-- A client with the given credentials and profile, configured by the settings. -/
structure Configured (url : UrlCrate) (env : Env) (credentialsProvider : Option Credentials)
    (profileName : Option String) (client : S3Client)
    : Prop where
  credentials : client.credentialsProvider = credentialsProvider
  profile : client.profileName = profileName
  region : client.region = env.getRegion
  endpoint : ∃ endpoint, env.buildEndpoint url = .ok endpoint
    ∧ client.endpointUrl = endpoint.map url.toText
  pathStyle : client.forcePathStyle = some (env.shouldUsePathStyle url)

/-- The endpoint and the path style are added to what was loaded. -/
theorem applyS3Config_eq_ok_iff {url : UrlCrate} {env : Env}
    {credentialsProvider : Option Credentials} {client : S3Client}
    : applyS3Config url (loadedBuilder env credentialsProvider) env = .ok client
      ↔ Configured url env credentialsProvider (loaderProfile env) client := by
  rw [applyS3Config, bind_eq_ok_iff]
  constructor
  · intro success
    obtain ⟨endpoint, built, same⟩ := success
    obtain rfl := Except.ok.inj same
    cases endpoint <;> exact ⟨rfl, rfl, rfl, ⟨_, built, rfl⟩, rfl⟩
  · intro configured
    obtain ⟨rfl, profile, region, ⟨endpoint, built, endpointUrl⟩, pathStyle⟩ := configured
    refine ⟨endpoint, built, ?_⟩
    cases client
    cases endpoint <;> simp_all [loadedBuilder]

theorem buildS3Client_eq (url : UrlCrate) (sts : Sts) (env : Env)
    : buildS3Client url sts env
      = clientCredentials sts env >>= fun credentialsProvider =>
          Logged.quiet ((applyS3Config url (loadedBuilder env credentialsProvider) env).mapError
            .endpoint) := rfl

/-- Only the choice of credentials calls STS. -/
theorem log_buildS3Client (url : UrlCrate) (sts : Sts) (env : Env)
    : (buildS3Client url sts env).log = (clientCredentials sts env).log :=
  Logged.log_bind_of_silent fun _ => rfl

/-- A client needs credentials that were chosen and an endpoint. -/
theorem buildS3Client_eq_ok_iff {url : UrlCrate} {sts : Sts} {env : Env} {client : S3Client}
    : (buildS3Client url sts env).outcome = .ok client
      ↔ ∃ credentialsProvider,
        (clientCredentials sts env).outcome = .ok credentialsProvider
        ∧ Configured url env credentialsProvider (loaderProfile env) client := by
  simp only [buildS3Client_eq, Logged.outcome_bind, bind_eq_ok_iff, Logged.outcome_quiet,
    mapError_eq_ok_iff, applyS3Config_eq_ok_iff]

/-- The request is logged however STS answers. -/
theorem log_assumeRole (sts : Sts) (env : Env) (accessKey secretKey roleArn : String)
    : (assumeRole sts accessKey secretKey roleArn env.awsRoleSessionName env.getRegion).log
      = [sourceCall env roleArn accessKey secretKey] := by
  refine Logged.log_bind_of_silent fun response => ?_
  cases response <;> rfl

/-- A role is assumed with the credentials that STS returned. -/
theorem assumeRole_eq_ok_iff {sts : Sts} {env : Env} {accessKey secretKey roleArn : String}
    {assumed : Credentials}
    : (assumeRole sts accessKey secretKey roleArn env.awsRoleSessionName
          env.getRegion).outcome = .ok assumed
      ↔ ∃ creds, sts (sourceCall env roleArn accessKey secretKey) = .ok (some creds)
        ∧ assumed = assumedCredentials creds := by
  rw [assumeRole, Logged.outcome_bind, Logged.outcome_perform, bind_eq_ok_iff]
  refine ⟨?_, ?_⟩
  · intro success
    obtain ⟨response, answer, made⟩ := success
    cases response with
    | none => cases made
    | some creds =>
        exact ⟨creds, mapError_eq_ok_iff.mp answer, (Except.ok.inj made).symm⟩
  · intro success
    obtain ⟨creds, answer, rfl⟩ := success
    exact ⟨some creds, mapError_eq_ok_iff.mpr answer, rfl⟩

section Choice

variable {sts : Sts} {env : Env} {roleArn accessKey secretKey : String}

theorem clientCredentials_missing (role : env.awsRoleArn = some roleArn)
    (missing : env.awsAccessKey = none ∨ env.awsSecretKey = none)
    : clientCredentials sts env
      = Logged.quiet (.error .missingAssumeRoleSourceCredentials) := by
  rcases missing with noAccess | noSecret
  · simp [clientCredentials, role, noAccess]
  · cases access : env.awsAccessKey <;> simp [clientCredentials, role, noSecret, access]

/-- With a role and both keys STS is called once, and its credentials are chosen. -/
theorem clientCredentials_assumed (role : env.awsRoleArn = some roleArn)
    (access : env.awsAccessKey = some accessKey) (secret : env.awsSecretKey = some secretKey)
    : (clientCredentials sts env).log = [sourceCall env roleArn accessKey secretKey]
      ∧ ∀ credentialsProvider,
        (clientCredentials sts env).outcome = .ok credentialsProvider
        ↔ ∃ creds, sts (sourceCall env roleArn accessKey secretKey) = .ok (some creds)
            ∧ credentialsProvider = some (assumedCredentials creds) := by
  have chosen : clientCredentials sts env
      = assumeRole sts accessKey secretKey roleArn env.awsRoleSessionName env.getRegion
        >>= fun assumed => return some assumed := by
    simp [clientCredentials, role, access, secret]
  constructor
  · rw [chosen, Logged.log_bind_of_silent fun _ => rfl]
    exact log_assumeRole sts ..
  · intro credentialsProvider
    simp only [chosen, Logged.outcome_bind, bind_eq_ok_iff, assumeRole_eq_ok_iff,
      Logged.outcome_pure]
    constructor
    · intro success
      obtain ⟨_, ⟨creds, answer, rfl⟩, same⟩ := success
      exact ⟨creds, answer, (Except.ok.inj same).symm⟩
    · intro success
      obtain ⟨creds, answer, rfl⟩ := success
      exact ⟨_, ⟨creds, answer, rfl⟩, rfl⟩

theorem clientCredentials_static (noRole : env.awsRoleArn = none)
    (access : env.awsAccessKey = some accessKey) (secret : env.awsSecretKey = some secretKey)
    : clientCredentials sts env = return some (staticCredentials env accessKey secretKey) := by
  simp [clientCredentials, noRole, access, secret, staticCredentials]

theorem clientCredentials_chained (noRole : env.awsRoleArn = none)
    (missing : env.awsAccessKey = none ∨ env.awsSecretKey = none)
    : clientCredentials sts env = return none := by
  rcases missing with noAccess | noSecret
  · simp [clientCredentials, noRole, noAccess]
  · cases access : env.awsAccessKey <;> simp [clientCredentials, noRole, noSecret, access]

end Choice

/-- How the credentials of a client are chosen, without falling through to another source. -/
structure CredentialSelection (url : UrlCrate) (sts : Sts) (env : Env)
    : Prop where
  /-- The builder is loaded with one profile and extended with the chosen credentials. -/
  loads : buildS3Client url sts env
    = clientCredentials sts env >>= fun credentialsProvider =>
        Logged.quiet ((applyS3Config url (loadedBuilder env credentialsProvider) env).mapError
          .endpoint)
  profileOfRole : env.awsRoleArn.isSome → loaderProfile env = none
  missingKeys : env.awsRoleArn.isSome → env.awsAccessKey = none ∨ env.awsSecretKey = none →
    (buildS3Client url sts env).outcome = .error .missingAssumeRoleSourceCredentials
      ∧ (buildS3Client url sts env).log = []
  assumed : ∀ roleArn accessKey secretKey, env.awsRoleArn = some roleArn →
    env.awsAccessKey = some accessKey → env.awsSecretKey = some secretKey →
      (buildS3Client url sts env).log = [sourceCall env roleArn accessKey secretKey]
      ∧ ∀ client, (buildS3Client url sts env).outcome = .ok client
        ↔ ∃ creds, sts (sourceCall env roleArn accessKey secretKey) = .ok (some creds)
          ∧ Configured url env (some (assumedCredentials creds)) none client
  static : ∀ accessKey secretKey, env.awsRoleArn = none →
    env.awsAccessKey = some accessKey → env.awsSecretKey = some secretKey →
      (buildS3Client url sts env).log = []
      ∧ ∀ client, (buildS3Client url sts env).outcome = .ok client
        ↔ Configured url env (some (staticCredentials env accessKey secretKey)) none client
  chained : env.awsRoleArn = none → env.awsAccessKey = none ∨ env.awsSecretKey = none →
    (buildS3Client url sts env).log = []
      ∧ ∀ client, (buildS3Client url sts env).outcome = .ok client
        ↔ Configured url env none env.awsProfile client

theorem loaderProfile_of_role {env : Env} (role : env.awsRoleArn.isSome)
    : loaderProfile env = none := by
  obtain ⟨roleArn, role⟩ := Option.isSome_iff_exists.mp role
  simp [loaderProfile, role]

theorem loaderProfile_of_keys {env : Env} {accessKey secretKey : String}
    (access : env.awsAccessKey = some accessKey) (secret : env.awsSecretKey = some secretKey)
    : loaderProfile env = none := by
  simp [loaderProfile, access, secret]

theorem loaderProfile_of_missing {env : Env} (noRole : env.awsRoleArn = none)
    (missing : env.awsAccessKey = none ∨ env.awsSecretKey = none)
    : loaderProfile env = env.awsProfile := by
  rcases missing with noAccess | noSecret
  · simp [loaderProfile, noRole, noAccess]
  · simp [loaderProfile, noRole, noSecret]

/-- The two choices agree: a profile is loaded only where no credentials are given, and with a
role only STS can provide them.
-/
theorem buildS3Client_selects (url : UrlCrate) (sts : Sts) (env : Env)
    : CredentialSelection url sts env where
  loads := buildS3Client_eq url sts env
  profileOfRole := loaderProfile_of_role
  missingKeys := by
    intro role missing
    obtain ⟨roleArn, role⟩ := Option.isSome_iff_exists.mp role
    have chosen : clientCredentials sts env = _ := clientCredentials_missing role missing
    refine ⟨?_, ?_⟩
    · rw [buildS3Client_eq, chosen, Logged.outcome_bind]
      rfl
    · rw [log_buildS3Client, chosen, Logged.log_quiet]
  assumed := by
    intro roleArn accessKey secretKey role access secret
    have ⟨calls, chosen⟩ : (clientCredentials sts env).log = _ ∧ _ :=
      clientCredentials_assumed role access secret
    refine ⟨(log_buildS3Client url sts env).trans calls, fun client => ?_⟩
    rw [buildS3Client_eq_ok_iff, loaderProfile_of_keys access secret]
    refine ⟨?_, ?_⟩
    · intro success
      obtain ⟨credentialsProvider, provided, configured⟩ := success
      obtain ⟨creds, answer, rfl⟩ := (chosen credentialsProvider).mp provided
      exact ⟨creds, answer, configured⟩
    · intro success
      obtain ⟨creds, answer, configured⟩ := success
      exact ⟨_, (chosen _).mpr ⟨creds, answer, rfl⟩, configured⟩
  static := by
    intro accessKey secretKey noRole access secret
    have chosen : clientCredentials sts env = _ :=
      clientCredentials_static noRole access secret
    refine ⟨?_, fun client => ?_⟩
    · rw [log_buildS3Client, chosen, Logged.log_pure]
    · rw [buildS3Client_eq_ok_iff, loaderProfile_of_keys access secret, chosen]
      simp
  chained := by
    intro noRole missing
    have chosen : clientCredentials sts env = _ := clientCredentials_chained noRole missing
    refine ⟨?_, fun client => ?_⟩
    · rw [log_buildS3Client, chosen, Logged.log_pure]
    · rw [buildS3Client_eq_ok_iff, loaderProfile_of_missing noRole missing, chosen]
      simp

/-- Credentials made from the keys of the settings: those that sign an AssumeRole request, and
without a role those of the client itself.
-/
inductive BuiltFromKeys (url : UrlCrate) (sts : Sts) (env : Env)
    : Credentials → Prop
  | source {call : AssumeRoleCall} (logged : call ∈ (buildS3Client url sts env).log)
      : BuiltFromKeys url sts env call.credentials
  | direct {credentials : Credentials} (noRole : env.awsRoleArn = none)
      (chosen : (clientCredentials sts env).outcome = .ok (some credentials))
      : BuiltFromKeys url sts env credentials

/-- Whatever is made from the keys carries the session token that belongs to them. -/
def SessionTokenTravels (url : UrlCrate) (sts : Sts) (env : Env) : Prop :=
  ∀ accessKey secretKey sessionToken, env.awsAccessKey = some accessKey →
    env.awsSecretKey = some secretKey → env.awsSessionToken = some sessionToken →
      ∀ credentials, BuiltFromKeys url sts env credentials →
        credentials.sessionToken = some sessionToken

section Keys

variable {url : UrlCrate} {sts : Sts} {env : Env} {credentials : Credentials}
  {roleArn accessKey secretKey : String}

/-- With a role the keys are used once, to sign the request. -/
theorem builtFromKeys_of_role (role : env.awsRoleArn = some roleArn)
    (access : env.awsAccessKey = some accessKey) (secret : env.awsSecretKey = some secretKey)
    : BuiltFromKeys url sts env credentials
      ↔ credentials = (sourceCall env roleArn accessKey secretKey).credentials := by
  have calls : (buildS3Client url sts env).log = [sourceCall env roleArn accessKey secretKey] :=
    (log_buildS3Client url sts env).trans (clientCredentials_assumed role access secret).1
  refine ⟨?_, ?_⟩
  · intro built
    cases built with
    | source logged =>
        rw [calls, List.mem_singleton] at logged
        rw [logged]
    | direct noRole _ => simp [role] at noRole
  · rintro rfl
    exact .source (by simp [calls])

/-- Without a role they become the credentials of the client. -/
theorem builtFromKeys_of_noRole (noRole : env.awsRoleArn = none)
    (access : env.awsAccessKey = some accessKey) (secret : env.awsSecretKey = some secretKey)
    : BuiltFromKeys url sts env credentials
      ↔ credentials = staticCredentials env accessKey secretKey := by
  have chosen : clientCredentials sts env = _ :=
    clientCredentials_static noRole access secret
  refine ⟨?_, ?_⟩
  · intro built
    cases built with
    | source logged => simp [log_buildS3Client, chosen] at logged
    | direct _ provided => simpa [chosen, eq_comm] using provided
  · rintro rfl
    exact .direct noRole (by rw [chosen, Logged.outcome_pure])

/-- They are made from the keys in either case. -/
theorem BuiltFromKeys.carries_keys (built : BuiltFromKeys url sts env credentials)
    (access : env.awsAccessKey = some accessKey) (secret : env.awsSecretKey = some secretKey)
    : credentials.accessKeyId = accessKey ∧ credentials.secretAccessKey = secretKey := by
  cases role : env.awsRoleArn with
  | none =>
      obtain rfl := (builtFromKeys_of_noRole role access secret).mp built
      exact ⟨rfl, rfl⟩
  | some roleArn =>
      obtain rfl := (builtFromKeys_of_role role access secret).mp built
      exact ⟨rfl, rfl⟩

end Keys

/-- The session token is lost where a role is assumed with it. -/
theorem sessionTokenTravels_iff (url : UrlCrate) (sts : Sts) (env : Env)
    : SessionTokenTravels url sts env
      ↔ env.awsRoleArn = none ∨ env.awsAccessKey = none ∨ env.awsSecretKey = none
        ∨ env.awsSessionToken = none := by
  refine ⟨?_, ?_⟩
  · intro travels
    by_contra complete
    simp only [not_or, ← Option.isSome_iff_ne_none, Option.isSome_iff_exists] at complete
    obtain ⟨⟨roleArn, role⟩, ⟨accessKey, access⟩, ⟨secretKey, secret⟩, ⟨sessionToken, token⟩⟩ :=
      complete
    have dropped := travels accessKey secretKey sessionToken access secret token _
      ((builtFromKeys_of_role role access secret).mpr rfl)
    cases dropped
  · intro condition accessKey secretKey sessionToken access secret token credentials built
    rcases condition with noRole | noAccess | noSecret | noToken
    · rw [(builtFromKeys_of_noRole noRole access secret).mp built]
      exact token
    · simp [access] at noAccess
    · simp [secret] at noSecret
    · simp [token] at noToken

/-- A url crate that parses nothing. -/
def noUrls : UrlCrate where
  parse _ := .error { message := "invalid URL" }
  setPort _ _ := none
  toText _ := ""

/-- A role to assume with temporary keys. -/
def temporaryKeys : Env where
  awsServerAddress := none
  awsAccessKey := some "ASIA"
  awsSecretKey := some "secret"
  awsSessionToken := some "token"
  awsRoleArn := some "arn:aws:iam::1:role/cache"
  awsRoleSessionName := none
  awsProfile := none
  awsInsecure := false
  awsRegion := none
  awsForcePathStyle := none
  awsBucket := some "cache"
  s3Prefix := none

/-- The request for the role goes out without the token. -/
theorem source_without_token
    : ¬ SessionTokenTravels noUrls (fun _ => .ok none) temporaryKeys := by
  intro travels
  have dropped := travels "ASIA" "secret" "token" rfl rfl rfl _
    (.source (List.mem_singleton.mpr rfl))
  cases dropped

end Cafce
