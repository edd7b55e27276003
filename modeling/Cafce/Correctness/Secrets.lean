import Cafce.Correctness.Commands
import Cafce.Correctness.Configuration

/-! Two runs that differ in the secrets of their environments only: what their viewers can
tell apart.
-/

namespace Cafce

open DelimitedTemplate Fallible Logged

-----------------------------------------------------------------------------------------
-- Environments that differ in the values of the secrets
-----------------------------------------------------------------------------------------

/-- The variables whose values are secrets. -/
def secretNames : List String :=
  ["CAFCE_AWS_SECRET_KEY", "CAFCE_AWS_SESSION_TOKEN"]

/-- Looking a name up can find a secret: it is the name of one, or begins with that name and
`=`, so that the end of the secret may be found.
-/
def ReadsSecret (name : String) : Prop :=
  ∃ secret ∈ secretNames, name = secret ∨ asBytes secret ++ [equalsSign] <+: asBytes name

/-- Values that are texts and not empty. -/
def IsSetText (value : OsString) : Prop :=
  ∃ text, fromUtf8? value = some text ∧ text ≠ ""

/-- Two variables of one name and, except for a secret, of one value. -/
def SameVariable (left right : OsString × OsString) : Prop :=
  left.1 = right.1
  ∧ (left.2 = right.2
    ∨ left.1 ∈ secretNames.map asBytes ∧ IsSetText left.2 ∧ IsSetText right.2)

/-- Environments that differ at most in the values of the secrets. -/
def ProcessEnv.SameButSecrets (left right : ProcessEnv) : Prop :=
  List.Forall₂ SameVariable left.vars right.vars

/-- The names of the secrets are plain. -/
theorem equalsSign_not_mem_secret {key : OsString} (secret : key ∈ secretNames.map asBytes)
    : equalsSign ∉ key := by
  have names : ∀ known ∈ secretNames, equalsSign ∉ asBytes known := by
    decide
  obtain ⟨known, member, rfl⟩ := List.mem_map.mp secret
  exact names known member

/-- No other name begins the entry of a secret. -/
theorem not_prefix_of_secret {name : String} {listed : OsString × OsString}
    (known : ¬ ReadsSecret name) (secret : listed.1 ∈ secretNames.map asBytes)
    : (asBytes name ++ [equalsSign]).isPrefixOf? (entryOf listed) = none := by
  obtain ⟨secretName, member, key⟩ := List.mem_map.mp secret
  rw [Option.eq_none_iff_forall_ne_some]
  intro rest found
  rcases (isPrefixOf?_entryOf_iff (equalsSign_not_mem_secret secret)).mp found with
    same | ⟨middle, longer, _⟩
  · exact known ⟨secretName, member, Or.inl (asBytes_injective (same.1.trans key.symm))⟩
  · refine known ⟨secretName, member, Or.inr ⟨middle, ?_⟩⟩
    rw [longer, ← key, List.append_assoc, List.singleton_append]

/-- A name that reaches no secret finds the same in both, by induction on the variables. -/
theorem findSome?_alike {lefts rights : List (OsString × OsString)}
    (same : List.Forall₂ SameVariable lefts rights) {name : String}
    (known : ¬ ReadsSecret name)
    : (lefts.findSome? fun listed =>
        (asBytes name ++ [equalsSign]).isPrefixOf? (entryOf listed))
      = rights.findSome? fun listed =>
        (asBytes name ++ [equalsSign]).isPrefixOf? (entryOf listed) := by
  induction same with
  | nil => rfl
  | @cons left right lefts rights entry _ ih =>
      obtain ⟨key, values⟩ := entry
      rw [List.findSome?_cons, List.findSome?_cons, ih]
      rcases values with equal | ⟨secret, _, _⟩
      · rw [entryOf, entryOf, key, equal]
      · rw [not_prefix_of_secret known secret, not_prefix_of_secret known (key ▸ secret)]

/-- A lookup finds the same value in both, or a secret that is set in both. -/
theorem lookup_alike {lefts rights : List (OsString × OsString)}
    (same : List.Forall₂ SameVariable lefts rights) (key : OsString)
    : lefts.lookup key = rights.lookup key
      ∨ key ∈ secretNames.map asBytes
        ∧ ∃ l r, lefts.lookup key = some l ∧ rights.lookup key = some r
          ∧ IsSetText l ∧ IsSetText r := by
  induction same with
  | nil => exact Or.inl rfl
  | @cons left right lefts rights entry _ ih =>
      obtain ⟨name, values⟩ := entry
      rw [List.lookup_cons, List.lookup_cons, ← name]
      cases here : key == left.1 with
      | false => simpa only [Bool.false_eq_true, if_false] using ih
      | true =>
          simp only
          rcases values with equal | ⟨secret, leftSet, rightSet⟩
          · exact Or.inl (congrArg some equal)
          · refine Or.inr ⟨beq_iff_eq.mp here ▸ secret, left.2, right.2, rfl, rfl, leftSet,
              rightSet⟩

/-- The value of a variable as `std::env::vars` lists it. -/
def ProcessEnv.listed (processEnv : ProcessEnv) : Variables :=
  fun name => (processEnv.vars.lookup (asBytes name)).bind fromUtf8?

/-- Among plainly named variables a plain name finds what is listed under it. -/
theorem ProcessEnv.var_eq_listed {processEnv : ProcessEnv} {name : String} (filled : name ≠ "")
    (text : 0 ∉ asBytes name) (plain : equalsSign ∉ asBytes name)
    (named : ∀ entry ∈ processEnv.vars, equalsSign ∉ entry.1)
    : processEnv.var name = processEnv.listed name := by
  have nonempty : asBytes name ≠ [] := fun empty => filled (asBytes_injective empty)
  rw [var, listed, getenv_eq_lookup nonempty text plain named]

namespace ProcessEnv.SameButSecrets

variable {left right : ProcessEnv}

/-- Names that reach no secret are looked up alike. -/
theorem var_eq (same : left.SameButSecrets right) {name : String}
    (known : ¬ ReadsSecret name)
    : left.var name = right.var name := by
  rw [ProcessEnv.var, ProcessEnv.var, ProcessEnv.getenv, ProcessEnv.getenv,
    findSome?_alike same known]

/-- Variables that are no secrets are listed with the same value. -/
theorem listed_eq (same : left.SameButSecrets right) {name : String}
    (known : name ∉ secretNames)
    : left.listed name = right.listed name := by
  rw [ProcessEnv.listed, ProcessEnv.listed]
  rcases lookup_alike same (asBytes name) with equal | ⟨secret, _⟩
  · rw [equal]
  · exact absurd ((List.mem_map_of_injective asBytes_injective).mp secret) known

/-- A variable is listed with a text in both environments or in none. -/
theorem isSome_listed (same : left.SameButSecrets right) (name : String)
    : (left.listed name).isSome = (right.listed name).isSome := by
  rw [ProcessEnv.listed, ProcessEnv.listed]
  rcases lookup_alike same (asBytes name) with equal | ⟨_, l, r, leftFound, rightFound, set⟩
  · rw [equal]
  · obtain ⟨⟨leftText, leftRead, _⟩, ⟨rightText, rightRead, _⟩⟩ := set
    rw [leftFound, rightFound, Option.bind_some, Option.bind_some, leftRead, rightRead]
    rfl

end ProcessEnv.SameButSecrets

/-- Settings without what the secrets gave. -/
def Env.withoutSecrets (env : Env) : Env :=
  { env with awsSecretKey := none, awsSessionToken := none }

/-- Settings that differ at most in the secrets, with a secret key in both or in none. -/
structure Env.SameButSecrets (left right : Env) : Prop where
  others : left.withoutSecrets = right.withoutSecrets
  secretKey : left.awsSecretKey.isSome = right.awsSecretKey.isSome

/-- Both computations failed, or both panicked. -/
def SameAbort {ε ε' : Type} : Abort ε → Abort ε' → Prop
  | .failed _, .failed _ => True
  | .panicked, .panicked => True
  | _, _ => False

theorem SameAbort.refl {ε : Type} (abort : Abort ε) : SameAbort abort abort := by
  cases abort <;> trivial

theorem SameAbort.map {ε ε' δ δ' : Type} {left : Abort ε} {right : Abort ε'}
    (same : SameAbort left right) (f : ε → δ) (g : ε' → δ')
    : SameAbort (left.map f) (right.map g) := by
  cases left <;> cases right
  · trivial
  · exact same
  · exact same
  · trivial

/-- envy reads text values into the fields of the secrets as they are: environments that
differ in the secrets give settings that do, or fail alike.
-/
def ReadsSecretsAsTexts (envy : Envy) : Prop :=
  ∀ left right : ProcessEnv, left.SameButSecrets right
    → Related SameAbort Env.SameButSecrets (envy left) (envy right)

/-- A field that is no secret is the same in both. -/
theorem Env.SameButSecrets.field {α : Type} {left right : Env}
    (same : left.SameButSecrets right) (read : Env → α)
    (blind : ∀ env : Env, read env.withoutSecrets = read env)
    : read left = read right := by
  rw [← blind left, ← blind right, same.others]

theorem Env.SameButSecrets.secretKey_cases {left right : Env}
    (same : left.SameButSecrets right)
    : (left.awsSecretKey = none ∧ right.awsSecretKey = none)
      ∨ ∃ leftKey rightKey,
        left.awsSecretKey = some leftKey ∧ right.awsSecretKey = some rightKey := by
  have presence := same.secretKey
  cases leftSecret : left.awsSecretKey <;> cases rightSecret : right.awsSecretKey <;>
    simp_all

theorem Env.SameButSecrets.bucket_eq {left right : LoadedEnv}
    (same : left.toEnv.SameButSecrets right.toEnv)
    : left.bucket = right.bucket := by
  have bucket := same.field Env.awsBucket fun _ => rfl
  apply Option.some.inj
  rw [LoadedEnv.bucket, LoadedEnv.bucket, Option.some_get, Option.some_get, bucket]

/-- `Env::new` looks at no secret. -/
theorem Env.validate_related {left right : Env} (same : left.SameButSecrets right)
    : Related Eq (fun l r : LoadedEnv => l.toEnv.SameButSecrets r.toEnv) left.validate
        right.validate := by
  have bucket := same.field Env.awsBucket fun _ => rfl
  rw [Env.validate, Env.validate]
  by_cases empty : left.awsBucket.all String.isEmpty
  · have alsoEmpty : right.awsBucket.all String.isEmpty := bucket ▸ empty
    rw [dif_pos empty, dif_pos alsoEmpty]
    exact rfl
  · have filled : ¬ right.awsBucket.all String.isEmpty := bucket ▸ empty
    rw [dif_neg empty, dif_neg filled]
    constructor
    · exact same.field
        (fun env => { env with s3Prefix := normalizeS3Prefix env.s3Prefix }.withoutSecrets)
        fun _ => rfl
    · exact same.secretKey

theorem Env.new_related {envy : Envy} (reads : ReadsSecretsAsTexts envy)
    {left right : ProcessEnv} (same : left.SameButSecrets right)
    : Related SameAbort (fun l r : LoadedEnv => l.toEnv.SameButSecrets r.toEnv)
        (Env.new envy left) (Env.new envy right) := by
  rw [Env.new, Env.new]
  apply ((reads left right same).mapError fun _ _ ended => ended.map _ _).bind
  intro l r alike
  exact (Env.validate_related alike).mapError fun _ _ _ => trivial

/-- An AssumeRole request without the secret that signs it. -/
def AssumeRoleCall.withoutSecret (call : AssumeRoleCall) : AssumeRoleCall :=
  { call with credentials := { call.credentials with secretAccessKey := "" } }

/-- STS answers requests that differ in the signing secret alike. -/
def AnswersAlike (left right : Sts) : Prop :=
  ∀ call call' : AssumeRoleCall, call.withoutSecret = call'.withoutSecret
    → left call = right call'

/-- Worlds that differ at most in the secrets; S3 and STS answer the same in both. -/
structure World.SameButSecrets (left right : World) : Prop where
  currentDir : left.currentDir = right.currentDir
  readToString : left.readToString = right.readToString
  createFile : left.createFile = right.createFile
  writeFile : left.writeFile = right.writeFile
  files : left.files = right.files
  headObject : left.headObject = right.headObject
  processEnv : left.processEnv.SameButSecrets right.processEnv
  sts : AnswersAlike left.sts right.sts

/-- The configuration refers to no secret, not even to the end of one. -/
def RefersToNoSecret (crates : Crates) (world : World) (config : PathBuf) : Prop :=
  ∀ contents parsed, world.readToString config = .ok contents
    → crates.toml contents = .ok parsed
    → ∀ name ∈ referredNames parsed, ¬ ReadsSecret name

/-- Both computations succeed, or both fail. -/
abbrev SameEnd {ε ε' α β : Type} : Except ε α → Except ε' β → Prop :=
  Related (fun _ _ => True) fun _ _ => True

section Client

variable {left right : Env} {leftSts rightSts : Sts}

theorem assumeRole_outcome_eq (answers : AnswersAlike leftSts rightSts)
    (accessKey leftSecret rightSecret roleArn : String) (sessionName : Option String)
    (region : String)
    : (assumeRole leftSts accessKey leftSecret roleArn sessionName region).outcome
      = (assumeRole rightSts accessKey rightSecret roleArn sessionName region).outcome := by
  simp only [assumeRole, outcome_bind, outcome_perform]
  congr 2
  exact answers _ _ rfl

/-- Whether there are credentials does not depend on what the secrets are. -/
theorem clientCredentials_sameEnd (same : left.SameButSecrets right)
    (answers : AnswersAlike leftSts rightSts)
    : SameEnd (clientCredentials leftSts left).outcome
        (clientCredentials rightSts right).outcome := by
  have role := same.field Env.awsRoleArn fun _ => rfl
  have access := same.field Env.awsAccessKey fun _ => rfl
  have session := same.field Env.awsRoleSessionName fun _ => rfl
  have region := same.field Env.getRegion fun _ => rfl
  rw [clientCredentials, clientCredentials, role, access, session, region]
  rcases same.secretKey_cases with ⟨leftNone, rightNone⟩ | ⟨leftKey, rightKey, given⟩
  · rw [leftNone, rightNone]
    cases right.awsRoleArn <;> cases right.awsAccessKey <;> trivial
  · rw [given.1, given.2]
    cases right.awsRoleArn with
    | none => cases right.awsAccessKey <;> trivial
    | some roleArn =>
        cases right.awsAccessKey with
        | none => trivial
        | some accessKey =>
            simp only [outcome_bind]
            rw [assumeRole_outcome_eq answers accessKey leftKey rightKey]
            cases (assumeRole rightSts accessKey rightKey roleArn right.awsRoleSessionName
              right.getRegion).outcome <;> trivial

/-- The endpoint and the addressing style do not depend on the secrets. -/
theorem applyS3Config_sameEnd (url : UrlCrate) (leftBuilder rightBuilder : S3Client)
    (same : left.SameButSecrets right)
    : SameEnd (applyS3Config url leftBuilder left) (applyS3Config url rightBuilder right) := by
  have endpoint := same.field (Env.buildEndpoint url) fun _ => rfl
  rw [applyS3Config, applyS3Config, endpoint]
  cases right.buildEndpoint url with
  | error error => trivial
  | ok endpoint => trivial

theorem buildS3Client_sameEnd (url : UrlCrate) (same : left.SameButSecrets right)
    (answers : AnswersAlike leftSts rightSts)
    : SameEnd (buildS3Client url leftSts left).outcome
        (buildS3Client url rightSts right).outcome := by
  simp only [buildS3Client, outcome_bind, outcome_quiet]
  apply (clientCredentials_sameEnd same answers).bind
  intro leftCredentials rightCredentials _
  exact (applyS3Config_sameEnd url _ _ same).mapError fun _ _ _ => trivial

end Client

/-- What a probe finds depends on the bucket and the prefix of its settings, and on no client. -/
theorem probeKeys_outcome_congr {headObject : HeadObject} {setting : Setting}
    {left right : LoadedEnv} (bucket : left.bucket = right.bucket)
    (s3Prefix : left.s3Prefix = right.s3Prefix) (leftClient rightClient : S3Client)
    (asked : Nat) (keys : List String)
    : (probeKeys headObject setting left leftClient asked keys).outcome
      = (probeKeys headObject setting right rightClient asked keys).outcome := by
  induction keys generalizing asked with
  | nil => rfl
  | cons key keys ih =>
      rw [probeKeys, probeKeys, outcome_bind, outcome_bind, checkKeyExists, checkKeyExists,
        outcome_perform, outcome_perform, bucket, s3Prefix]
      apply congrArg
      funext hit
      cases hit with
      | true => simp only [if_true]
      | false =>
          simp only [Bool.false_eq_true, if_false]
          exact ih (asked + 1)

theorem probe_outcome_congr (sha256 : List UInt8 → Digest) (files : FileView)
    (headObject : HeadObject) (setting : Setting) {left right : LoadedEnv}
    (bucket : left.bucket = right.bucket) (s3Prefix : left.s3Prefix = right.s3Prefix)
    (leftClient rightClient : S3Client) (basePath : PathBuf)
    : (probe sha256 files headObject setting left leftClient basePath).outcome
      = (probe sha256 files headObject setting right rightClient basePath).outcome := by
  rw [probe, probe, outcome_bind, outcome_bind]
  apply congrArg
  funext primaryKey
  exact probeKeys_outcome_congr bucket s3Prefix _ _ _ _

-----------------------------------------------------------------------------------------
-- Two runs of a command, stage by stage
-----------------------------------------------------------------------------------------

section TwoRuns

variable {crates : Crates} {left right : World} {config : PathBuf}

theorem currentDir_eq (same : left.SameButSecrets right)
    : Run.currentDir left = Run.currentDir right := by
  rw [Run.currentDir, Run.currentDir, same.currentDir]

/-- The configuration is loaded as one and the same setting, or fails with one error. -/
theorem loadSetting_eq (same : left.SameButSecrets right)
    (refers : RefersToNoSecret crates left config)
    : Run.loadSetting crates left config = Run.loadSetting crates right config := by
  have loaded : Setting.newFromFile crates.toml left.processEnv.var left.readToString config
      = Setting.newFromFile crates.toml right.processEnv.var right.readToString config := by
    rw [Setting.newFromFile, Setting.newFromFile, ← same.readToString]
    cases read : left.readToString config with
    | error error => simp only [Except.mapError, error_bind]
    | ok contents =>
        simp only [Except.mapError, ok_bind]
        apply newFromStr_congr
        intro parsed found name referred
        exact same.processEnv.var_eq (refers contents parsed read found name referred)
  rw [Run.loadSetting, Run.loadSetting, loaded]

theorem loadEnv_lookAlike (reads : ReadsSecretsAsTexts crates.envy)
    (same : left.SameButSecrets right)
    : LookAlike shownText SameAbort (fun l r : LoadedEnv => l.toEnv.SameButSecrets r.toEnv)
        (Run.loadEnv crates left) (Run.loadEnv crates right) := by
  apply LookAlike.of_hidden (seen_loadEnv crates left) (seen_loadEnv crates right)
  exact (Env.new_related reads same.processEnv).mapError fun _ _ ended => ended.map _ _

theorem buildClient_lookAlike {leftEnv rightEnv : LoadedEnv}
    (same : left.SameButSecrets right)
    (alike : leftEnv.toEnv.SameButSecrets rightEnv.toEnv)
    : LookAlike shownText SameAbort (fun _ _ => True) (Run.buildClient crates left leftEnv)
        (Run.buildClient crates right rightEnv) := by
  apply LookAlike.of_hidden (seen_buildClient crates left shownText_ignoresReads leftEnv)
    (seen_buildClient crates right shownText_ignoresReads rightEnv)
  exact (buildS3Client_sameEnd crates.url alike same.sts).mapError fun _ _ _ => trivial

/-- `key` does not read the secrets at all. -/
theorem key_eq (same : left.SameButSecrets right)
    (refers : RefersToNoSecret crates left config)
    : Run.key crates left config = Run.key crates right config := by
  rw [Run.key, Run.key, currentDir_eq same, loadSetting_eq same refers, same.files]

theorem init_eq (same : left.SameButSecrets right)
    : Run.init crates left config = Run.init crates right config := by
  rw [Run.init, Run.init, Run.initToFile, Run.initToFile, same.createFile, same.writeFile]

/-- The clients sign their requests with the secrets, but the answers are the same. -/
theorem probeStage_lookAlike (same : left.SameButSecrets right) (setting : Setting)
    (cwd : PathBuf) {leftEnv rightEnv : LoadedEnv}
    (alike : leftEnv.toEnv.SameButSecrets rightEnv.toEnv) (leftClient rightClient : S3Client)
    : LookAlike shownText SameAbort Eq
        ((probe crates.sha256 left.files left.headObject setting leftEnv leftClient
          cwd).relabel id Abort.failed)
        ((probe crates.sha256 right.files right.headObject setting rightEnv rightClient
          cwd).relabel id Abort.failed) := by
  apply LookAlike.of_hidden
  · rw [seen_relabel]
    exact printed_probe _ _ _ _ _ _ _
  · rw [seen_relabel]
    exact printed_probe _ _ _ _ _ _ _
  · have s3Prefix := alike.field Env.s3Prefix fun _ => rfl
    rw [outcome_relabel, outcome_relabel, same.files, same.headObject,
      probe_outcome_congr _ _ _ _ alike.bucket_eq s3Prefix leftClient rightClient cwd]
    cases (probe crates.sha256 right.files right.headObject setting rightEnv rightClient
      cwd).outcome with
    | error error => trivial
    | ok hit => rfl

/-- `probe` looks alike as long as what it reads and the answers do. -/
theorem probe_lookAlike (reads : ReadsSecretsAsTexts crates.envy)
    (same : left.SameButSecrets right) (refers : RefersToNoSecret crates left config)
    : LookAlike shownText SameAbort Eq (Run.probe crates left config)
        (Run.probe crates right config) := by
  rw [Run.probe, Run.probe, currentDir_eq same, loadSetting_eq same refers]
  apply (LookAlike.refl (Run.currentDir right) SameAbort.refl fun _ => rfl).bind
  intro cwd _ rfl
  apply (LookAlike.refl (Run.loadSetting crates right config) SameAbort.refl fun _ => rfl).bind
  intro setting _ rfl
  apply (loadEnv_lookAlike reads same).bind
  intro leftEnv rightEnv alike
  apply (buildClient_lookAlike same alike).bind
  intro leftClient rightClient _
  apply (probeStage_lookAlike same setting cwd alike leftClient rightClient).bind
  intro hit _ rfl
  exact LookAlike.refl _ SameAbort.refl fun _ => rfl

/-- What `store` and `restore` print when they succeed. -/
def printedInputs (crates : Crates) (config : PathBuf) (env : LoadedEnv) (setting : Setting)
    : List String :=
  [crates.debugPath config ++ "\n", crates.debugEnv env.toEnv ++ "\n",
    crates.debugSetting setting ++ "\n"]

theorem printInputs_cleanFailure {world : World}
    : CleanFailure shownText (Run.printInputs crates world config) := by
  apply CleanFailure.bind (seen_loadEnv crates world)
  intro env
  apply CleanFailure.bind (seen_loadSetting crates world config shownText_ignoresReads)
  intro setting
  exact CleanFailure.of_ok rfl

theorem printed_printInputs {world : World} {env : LoadedEnv} {setting : Setting}
    (loadedEnv : (Run.loadEnv crates world).outcome = .ok env)
    (loaded : (Run.loadSetting crates world config).outcome = .ok setting)
    : printed (Run.printInputs crates world config).log
      = printedInputs crates config env setting := by
  rw [← seen_shownText, Run.printInputs, seen_bind_of_ok loadedEnv, seen_loadEnv,
    seen_bind_of_ok loaded, seen_loadSetting _ _ _ shownText_ignoresReads]
  rfl

/-- Printing succeeds when both inputs were loaded. -/
theorem exists_inputs_of_ok {world : World}
    (success : (Run.printInputs crates world config).outcome = .ok ())
    : ∃ env setting, (Run.loadEnv crates world).outcome = .ok env
      ∧ (Run.loadSetting crates world config).outcome = .ok setting := by
  rw [Run.printInputs, outcome_bind, bind_eq_ok_iff] at success
  obtain ⟨env, loadedEnv, later⟩ := success
  rw [outcome_bind, bind_eq_ok_iff] at later
  obtain ⟨setting, loaded, _⟩ := later
  exact ⟨env, setting, loadedEnv, loaded⟩

theorem printInputs_related (reads : ReadsSecretsAsTexts crates.envy)
    (same : left.SameButSecrets right) (refers : RefersToNoSecret crates left config)
    : Related SameAbort Eq (Run.printInputs crates left config).outcome
        (Run.printInputs crates right config).outcome := by
  rw [Run.printInputs, Run.printInputs, loadSetting_eq same refers, outcome_bind,
    outcome_bind]
  apply (loadEnv_lookAlike reads same).outcomes.bind
  intro leftEnv rightEnv _
  rw [outcome_bind, outcome_bind]
  cases (Run.loadSetting crates right config).outcome with
  | error error => exact SameAbort.refl error
  | ok setting => rfl

/-- Related outcomes give the same exit status. -/
theorem main_status_eq {action : Action}
    (related : Related SameAbort Eq (run crates left action).outcome
      (run crates right action).outcome)
    : (main crates left action).1 = (main crates right action).1 := by
  rw [main, main]
  cases leftOutcome : (run crates left action).outcome with
  | ok _ =>
      obtain ⟨_, rightOutcome, _⟩ := related.exists_of_ok leftOutcome
      rw [rightOutcome]
  | error leftError =>
      obtain ⟨rightError, rightOutcome, alike⟩ := related.exists_of_error leftOutcome
      rw [rightOutcome]
      cases leftError <;> cases rightError
      · rfl
      · exact False.elim alike
      · exact False.elim alike
      · rfl

end TwoRuns

-----------------------------------------------------------------------------------------
-- What can be told from two runs
-----------------------------------------------------------------------------------------

/-- The configuration file of a command. -/
def Action.config : Action → PathBuf
  | .store config | .restore config | .init config | .key config | .probe config => config

/-- The commands that print their settings. -/
def Action.printsEnv : Action → Bool
  | .store _ | .restore _ => true
  | .init _ | .key _ | .probe _ => false

/-- A command that prints its settings prints the secrets among them, and nothing when it
fails.
-/
structure EnvPrinted (crates : Crates) (left right : World) (action : Action) : Prop where
  failed : (main crates left action).1 ≠ .success
    → stdoutText (main crates left action).2 = "" ∧ stdoutText (main crates right action).2 = ""
  succeeded : (main crates left action).1 = .success
    → ∃ leftEnv rightEnv setting,
      Env.new crates.envy left.processEnv = .ok leftEnv
      ∧ Env.new crates.envy right.processEnv = .ok rightEnv
      ∧ leftEnv.withoutSecrets = rightEnv.withoutSecrets
      ∧ stdoutText (main crates left action).2
        = String.join (printedInputs crates action.config leftEnv setting)
      ∧ stdoutText (main crates right action).2
        = String.join (printedInputs crates action.config rightEnv setting)
      ∧ (stdoutText (main crates left action).2 = stdoutText (main crates right action).2
        ↔ leftEnv.awsSecretKey = rightEnv.awsSecretKey
          ∧ leftEnv.awsSessionToken = rightEnv.awsSessionToken)

/-- What can be told from two runs that differ in the secrets: the exit status never, stdout
only where the settings are printed.
-/
structure SecretsConfined (crates : Crates) (left right : World) (action : Action) : Prop where
  status : (main crates left action).1 = (main crates right action).1
  stdout : action.printsEnv = false
    → stdoutText (main crates left action).2 = stdoutText (main crates right action).2
  printed : action.printsEnv = true → EnvPrinted crates left right action

/-- Settings that differ in the secrets only are equal when the secrets are. -/
theorem Env.eq_of_secrets {left right : Env} (others : left.withoutSecrets = right.withoutSecrets)
    (secretKey : left.awsSecretKey = right.awsSecretKey)
    (sessionToken : left.awsSessionToken = right.awsSessionToken)
    : left = right := by
  cases left
  cases right
  simp_all [Env.withoutSecrets]

/-- Printed inputs that differ in the settings only are the same when the settings are. -/
theorem join_printedInputs_inj {crates : Crates} {config : PathBuf} {left right : LoadedEnv}
    {setting : Setting} (injective : Function.Injective crates.debugEnv)
    : String.join (printedInputs crates config left setting)
        = String.join (printedInputs crates config right setting)
      ↔ left.toEnv = right.toEnv := by
  constructor
  · intro same
    have texts := (String.append_left_inj _).mp same
    have debugs := (String.append_left_inj _).mp ((String.append_right_inj _).mp texts)
    exact injective debugs
  · intro same
    rw [printedInputs, printedInputs, same]

/-- The commands that print their settings differ in what they print of the secrets only. -/
theorem envPrinted_of_printInputs {crates : Crates} {left right : World} {action : Action}
    (injective : Function.Injective crates.debugEnv)
    (reads : ReadsSecretsAsTexts crates.envy) (same : left.SameButSecrets right)
    (refers : RefersToNoSecret crates left action.config)
    (prints : ∀ world, run crates world action = Run.printInputs crates world action.config)
    (status : (main crates left action).1 = (main crates right action).1)
    : EnvPrinted crates left right action := by
  have clean (world : World) : CleanFailure shownText (run crates world action) := by
    rw [prints]
    exact printInputs_cleanFailure
  have shows {world : World} {env : LoadedEnv} {setting : Setting}
      (loadedEnv : (Run.loadEnv crates world).outcome = .ok env)
      (loaded : (Run.loadSetting crates world action.config).outcome = .ok setting)
      : stdoutText (main crates world action).2
        = String.join (printedInputs crates action.config env setting) := by
    rw [stdoutText_main, stdoutText, prints, printed_printInputs loadedEnv loaded]
  constructor
  · intro failure
    exact ⟨stdoutText_of_cleanFailure (clean left) failure,
      stdoutText_of_cleanFailure (clean right) (status ▸ failure)⟩
  · intro success
    have leftOk := main_status_eq_success_iff.mp success
    rw [prints] at leftOk
    obtain ⟨leftEnv, setting, leftLoaded, leftSetting⟩ := exists_inputs_of_ok leftOk
    obtain ⟨rightEnv, rightLoaded, alike⟩ :=
      (loadEnv_lookAlike reads same).outcomes.exists_of_ok leftLoaded
    have rightSetting := leftSetting
    rw [loadSetting_eq same refers] at rightSetting
    have leftShown := shows leftLoaded leftSetting
    have rightShown := shows rightLoaded rightSetting
    refine ⟨leftEnv, rightEnv, setting, Run.loadEnv_eq_ok_iff.mp leftLoaded,
      Run.loadEnv_eq_ok_iff.mp rightLoaded, alike.others, leftShown, rightShown, ?_⟩
    rw [leftShown, rightShown, join_printedInputs_inj injective]
    constructor
    · intro equal
      exact ⟨congrArg Env.awsSecretKey equal, congrArg Env.awsSessionToken equal⟩
    · intro secrets
      exact Env.eq_of_secrets alike.others secrets.1 secrets.2

theorem SecretsConfined.of_printInputs {crates : Crates} {left right : World}
    {action : Action} (injective : Function.Injective crates.debugEnv)
    (reads : ReadsSecretsAsTexts crates.envy) (same : left.SameButSecrets right)
    (refers : RefersToNoSecret crates left action.config)
    (prints : ∀ world, run crates world action = Run.printInputs crates world action.config)
    (shows : action.printsEnv = true)
    : SecretsConfined crates left right action := by
  have status : (main crates left action).1 = (main crates right action).1 := by
    apply main_status_eq
    rw [prints, prints]
    exact printInputs_related reads same refers
  exact {
    status
    stdout := fun silent => absurd (silent.symm.trans shows) Bool.false_ne_true
    printed := fun _ => envPrinted_of_printInputs injective reads same refers prints status
  }

theorem SecretsConfined.of_lookAlike {crates : Crates} {left right : World} {action : Action}
    (alike : LookAlike shownText SameAbort Eq (run crates left action)
      (run crates right action))
    (silent : action.printsEnv = false)
    : SecretsConfined crates left right action where
  status := main_status_eq alike.outcomes
  stdout := by
    intro _
    rw [stdoutText_main, stdoutText_main]
    exact congrArg String.join alike.seen_eq
  printed := fun shows => absurd (silent.symm.trans shows) Bool.false_ne_true

/-- The secrets of the environment change no exit status, and no output but that of `store`
and `restore`, which print them.
Witness: `key` and `init` are the same runs, `probe` looks alike stage by stage.
-/
theorem secrets_confined {crates : Crates} {left right : World} {action : Action}
    (injective : Function.Injective crates.debugEnv)
    (reads : ReadsSecretsAsTexts crates.envy) (same : left.SameButSecrets right)
    (refers : RefersToNoSecret crates left action.config)
    : SecretsConfined crates left right action := by
  cases action with
  | store config => exact .of_printInputs injective reads same refers (fun _ => rfl) rfl
  | restore config => exact .of_printInputs injective reads same refers (fun _ => rfl) rfl
  | init config =>
      apply SecretsConfined.of_lookAlike _ rfl
      have equal : run crates left (.init config) = run crates right (.init config) :=
        init_eq same
      rw [equal]
      exact LookAlike.refl _ SameAbort.refl fun _ => rfl
  | key config =>
      apply SecretsConfined.of_lookAlike _ rfl
      have equal : run crates left (.key config) = run crates right (.key config) :=
        key_eq same refers
      rw [equal]
      exact LookAlike.refl _ SameAbort.refl fun _ => rfl
  | probe config => exact .of_lookAlike (probe_lookAlike reads same refers) rfl

-----------------------------------------------------------------------------------------
-- A world with secrets, and what `store` prints in it
-----------------------------------------------------------------------------------------

/-- A field as it is shown, so that the next one can follow it. -/
def shownField : Option String → List Char
  | none => ['-']
  | some text => '+' :: text.toList.flatMap (fun char => [':', char]) ++ ['.']

/-- The end of a shown field can be told. -/
theorem shownField_append_inj {left right : Option String} {next after : List Char}
    (same : shownField left ++ next = shownField right ++ after)
    : left = right ∧ next = after := by
  have chars (as bs : List Char)
      (equal : as.flatMap (fun char => [':', char]) ++ '.' :: next
        = bs.flatMap (fun char => [':', char]) ++ '.' :: after)
      : as = bs ∧ next = after := by
    induction as generalizing bs with
    | nil => cases bs <;> simp_all
    | cons a as ih =>
        cases bs with
        | nil => simp at equal
        | cons b bs =>
            simp only [List.flatMap_cons, List.cons_append, List.nil_append,
              List.cons.injEq, true_and] at equal
            obtain ⟨rfl, rest⟩ := ih bs equal.2
            exact ⟨by rw [equal.1], rest⟩
  cases left <;> cases right <;> simp only [shownField] at same
  · simpa using same
  · simp at same
  · simp at same
  · rename_i left right
    have equal := chars left.toList right.toList (by simpa using same)
    exact ⟨congrArg some (String.toList_inj.mp equal.1), equal.2⟩

theorem shownFields_inj {lefts rights : List (Option String)}
    (lengths : lefts.length = rights.length)
    (same : lefts.flatMap shownField = rights.flatMap shownField)
    : lefts = rights := by
  induction lefts generalizing rights with
  | nil => exact (List.length_eq_zero_iff.mp lengths.symm).symm
  | cons left lefts ih =>
      cases rights with
      | nil => simp at lengths
      | cons right rights =>
          rw [List.flatMap_cons, List.flatMap_cons] at same
          obtain ⟨rfl, later⟩ := shownField_append_inj same
          rw [ih (Nat.succ.inj lengths) later]

/-- The fields of the settings as texts. -/
def fieldTexts (env : Env) : List (Option String) :=
  [env.awsServerAddress, env.awsAccessKey, env.awsSecretKey, env.awsSessionToken,
    env.awsRoleArn, env.awsRoleSessionName, env.awsProfile, some (toString env.awsInsecure),
    env.awsRegion, env.awsForcePathStyle.map toString, env.awsBucket, env.s3Prefix]

/-- A rendering of the settings that shows every field. -/
def showEnv (env : Env) : String :=
  String.ofList ((fieldTexts env).flatMap shownField)

theorem showEnv_injective : Function.Injective showEnv := by
  intro left right same
  have fields : fieldTexts left = fieldTexts right :=
    shownFields_inj rfl (String.ofList_injective same)
  have flags : Function.Injective (toString : Bool → String) := by
    intro a b
    cases a <;> cases b <;> decide
  have styles := Option.map_injective flags
  simp only [fieldTexts, List.cons.injEq, Option.some.injEq, flags.eq_iff, styles.eq_iff,
    and_true] at fields
  cases left
  cases right
  simp_all

/-- Settings read from the variables of their names; a flag is on where its text is `true`. -/
def plainEnv (processEnv : ProcessEnv) : Env where
  awsServerAddress := processEnv.listed "CAFCE_AWS_SERVER_ADDRESS"
  awsAccessKey := processEnv.listed "CAFCE_AWS_ACCESS_KEY"
  awsSecretKey := processEnv.listed "CAFCE_AWS_SECRET_KEY"
  awsSessionToken := processEnv.listed "CAFCE_AWS_SESSION_TOKEN"
  awsRoleArn := processEnv.listed "CAFCE_AWS_ROLE_ARN"
  awsRoleSessionName := processEnv.listed "CAFCE_AWS_ROLE_SESSION_NAME"
  awsProfile := processEnv.listed "CAFCE_AWS_PROFILE"
  awsInsecure := processEnv.listed "CAFCE_AWS_INSECURE" = some "true"
  awsRegion := processEnv.listed "CAFCE_AWS_REGION"
  awsForcePathStyle := (processEnv.listed "CAFCE_AWS_FORCE_PATH_STYLE").map (· = "true")
  awsBucket := processEnv.listed "CAFCE_AWS_BUCKET"
  s3Prefix := processEnv.listed "CAFCE_S3_PREFIX"

theorem plainEnv_reads : ReadsSecretsAsTexts fun processEnv => .ok (plainEnv processEnv) := by
  intro left right same
  constructor
  · simp only [Env.withoutSecrets, plainEnv, Env.mk.injEq, true_and]
    have known {name : String} (other : name ∉ secretNames) := same.listed_eq other
    refine ⟨known (by decide), known (by decide), known (by decide), known (by decide),
      known (by decide), ?_, known (by decide), ?_, known (by decide), known (by decide)⟩
    · rw [known (by decide)]
    · rw [known (by decide)]
  · exact same.isSome_listed "CAFCE_AWS_SECRET_KEY"

/-- A configuration without references. -/
def plainSetting : Setting where
  project := "p"
  paths := []
  key := .string "k"
  fallbackKeys := []

/-- Third-party code around that configuration. -/
def plainCrates : Crates where
  toml text :=
    if text = "project = \"p\"\nkey = \"k\"\n" then .ok plainSetting
    else .error { message := "expected an equals, found a newline" }
  tomlToString _ := .ok "project = \"my-project\"\npaths = [\"foo.txt\"]\n"
  envy processEnv := .ok (plainEnv processEnv)
  sha256 _ := Vector.replicate 32 0
  url := {
    parse := fun _ => .error { message := "invalid port number" }
    setPort := fun _ _ => none
    toText := fun url => url.path
  }
  debugPath path := path.toStringLossy
  debugEnv := showEnv
  debugSetting setting := setting.project

/-- A world with a bucket and the two secrets in the environment. -/
def secretWorld (secretKey sessionToken : String) : World where
  currentDir := .ok (PathBuf.ofStr "/work")
  readToString _ := .ok "project = \"p\"\nkey = \"k\"\n"
  createFile _ := .ok ()
  writeFile _ _ := .ok ()
  files := { glob := fun _ => .ok [], isFile := fun _ => false, read := fun _ => .ok [] }
  processEnv := {
    vars := [
      (asBytes "CAFCE_AWS_BUCKET", asBytes "b"),
      (asBytes "CAFCE_AWS_SECRET_KEY", asBytes secretKey),
      (asBytes "CAFCE_AWS_SESSION_TOKEN", asBytes sessionToken)
    ]
    names_nodup := by
      change (List.map asBytes
        ["CAFCE_AWS_BUCKET", "CAFCE_AWS_SECRET_KEY", "CAFCE_AWS_SESSION_TOKEN"]).Nodup
      exact List.Nodup.map asBytes_injective (by decide)
  }
  headObject _ _ _ := .ok ()
  sts _ := .error { message := "dispatch failure" }

section SecretWorld

variable {secretKey sessionToken otherKey otherToken : String}

theorem isSetText_asBytes {text : String} (filled : text ≠ "") : IsSetText (asBytes text) :=
  ⟨text, fromUtf8?_asBytes text, filled⟩

theorem secretWorld_sameButSecrets (keySet : secretKey ≠ "") (tokenSet : sessionToken ≠ "")
    (otherKeySet : otherKey ≠ "") (otherTokenSet : otherToken ≠ "")
    : (secretWorld secretKey sessionToken).SameButSecrets
        (secretWorld otherKey otherToken) where
  currentDir := rfl
  readToString := rfl
  createFile := rfl
  writeFile := rfl
  files := rfl
  headObject := rfl
  processEnv := by
    refine .cons ⟨rfl, Or.inl rfl⟩
      (.cons ⟨rfl, Or.inr ⟨List.mem_map_of_mem (by decide), ?_, ?_⟩⟩
        (.cons ⟨rfl, Or.inr ⟨List.mem_map_of_mem (by decide), ?_, ?_⟩⟩ .nil))
    · exact isSetText_asBytes keySet
    · exact isSetText_asBytes otherKeySet
    · exact isSetText_asBytes tokenSet
    · exact isSetText_asBytes otherTokenSet
  sts := fun _ _ _ => rfl

/-- A variable is found by its name, byte for byte. -/
theorem lookup_asBytes (name key : String) (value : OsString) (vars : List (OsString × OsString))
    : List.lookup (asBytes name) ((asBytes key, value) :: vars)
      = if name = key then some value else List.lookup (asBytes name) vars := by
  rw [List.lookup_cons]
  by_cases same : name = key
  · simp [same]
  · have apart : (asBytes name == asBytes key) = false :=
      beq_false_of_ne (asBytes_injective.ne same)
    simp [apart, same]

/-- The secret key is read into the settings. -/
theorem secretWorld_loadEnv (secretKey sessionToken : String)
    : ∃ env : LoadedEnv,
        (Run.loadEnv plainCrates (secretWorld secretKey sessionToken)).outcome = .ok env
        ∧ env.awsSecretKey = some secretKey := by
  have read : plainCrates.envy (secretWorld secretKey sessionToken).processEnv
      = .ok (plainEnv (secretWorld secretKey sessionToken).processEnv) := rfl
  have bucket
      : (plainEnv (secretWorld secretKey sessionToken).processEnv).awsBucket = some "b" := by
    simp [plainEnv, ProcessEnv.listed, secretWorld, lookup_asBytes]
  obtain ⟨env, loaded, fields⟩ := Env.exists_new_of_bucket read bucket (by decide)
  refine ⟨env, Run.loadEnv_eq_ok_iff.mpr loaded, ?_⟩
  rw [fields]
  simp [plainEnv, ProcessEnv.listed, secretWorld, lookup_asBytes]

theorem secretWorld_loadSetting (config : PathBuf)
    : (Run.loadSetting plainCrates (secretWorld secretKey sessionToken) config).outcome
      = .ok plainSetting := by
  rw [Run.loadSetting_eq_ok_iff, Setting.newFromFile, bind_eq_ok_iff]
  refine ⟨_, rfl, Setting.newFromStr_eq_ok_iff.mpr ⟨plainSetting, by decide,
    expandEnvVars_of_free (by decide), by decide, ?_, rfl, rfl⟩⟩
  simp only [plainSetting, Setting.expandKey]
  rw [expandEnvVars_of_free (by decide)]
  rfl

theorem plainCrates_refersToNoSecret (config : PathBuf)
    : RefersToNoSecret plainCrates (secretWorld secretKey sessionToken) config := by
  intro contents parsed read found name referred
  obtain rfl := Except.ok.inj read
  have plain : plainCrates.toml "project = \"p\"\nkey = \"k\"\n" = .ok plainSetting := by
    decide
  obtain rfl := Except.ok.inj (plain.symm.trans found)
  have nothing : referredNames plainSetting = [] := by
    change (templateOf "p").names.map String.ofList ++ ((templateOf "k").names.map _ ++ []) = []
    rw [templateOf_of_free (by decide), templateOf_of_free (by decide)]
    rfl
  rw [nothing] at referred
  cases referred

end SecretWorld

theorem secrets_confined_store
    : SecretsConfined plainCrates (secretWorld "alpha" "t") (secretWorld "beta" "u")
        (.store (PathBuf.ofStr "c.toml")) :=
  secrets_confined showEnv_injective plainEnv_reads
    (secretWorld_sameButSecrets (by decide) (by decide) (by decide) (by decide))
    (plainCrates_refersToNoSecret _)

/-- `store` succeeds and prints the secret key. -/
theorem store_prints_secrets
    : Function.Injective plainCrates.debugEnv
      ∧ (secretWorld "alpha" "t").SameButSecrets (secretWorld "beta" "t")
      ∧ RefersToNoSecret plainCrates (secretWorld "alpha" "t") (PathBuf.ofStr "c.toml")
      ∧ stdoutText (main plainCrates (secretWorld "alpha" "t")
          (.store (PathBuf.ofStr "c.toml"))).2
        ≠ stdoutText (main plainCrates (secretWorld "beta" "t")
          (.store (PathBuf.ofStr "c.toml"))).2 := by
  refine ⟨showEnv_injective,
    secretWorld_sameButSecrets (by decide) (by decide) (by decide) (by decide),
    plainCrates_refersToNoSecret _, ?_⟩
  obtain ⟨leftEnv, leftLoaded, leftSecret⟩ :=
    secretWorld_loadEnv "alpha" "t"
  obtain ⟨rightEnv, rightLoaded, rightSecret⟩ :=
    secretWorld_loadEnv "beta" "t"
  rw [stdoutText_main, stdoutText_main, stdoutText, stdoutText]
  change String.join (printed (Run.printInputs _ _ _).log)
    ≠ String.join (printed (Run.printInputs _ _ _).log)
  rw [printed_printInputs leftLoaded (secretWorld_loadSetting _),
    printed_printInputs rightLoaded (secretWorld_loadSetting _), Ne,
    join_printedInputs_inj showEnv_injective]
  intro equal
  have secrets := congrArg Env.awsSecretKey equal
  rw [leftSecret, rightSecret] at secrets
  exact absurd secrets (by decide)

end Cafce
