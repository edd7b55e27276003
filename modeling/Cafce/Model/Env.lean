import Cafce.Library.SeparatedText
import Cafce.Model.Errors
import Cafce.Model.Paths
import Cafce.Model.Setting
import Mathlib.Data.List.DropRight

/-! The process environment and the settings that `CAFCE_` variables give for S3. -/

namespace Cafce

/-- The variables of a process, each name once. -/
structure ProcessEnv where
  vars : List (OsString × OsString)
  names_nodup : (vars.map Prod.fst).Nodup

/-- `=`, which ends the name of a variable in its entry. -/
def equalsSign : UInt8 := 0x3D

/-- The entry of a variable in the environment, `name=value`. -/
def entryOf (listed : OsString × OsString) : OsString :=
  listed.1 ++ equalsSign :: listed.2

/-- `getenv` of the C library: the rest of the first entry that begins with the name and `=`.
A name with `=` inside can so read the end of another variable's value.
-/
def ProcessEnv.getenv (processEnv : ProcessEnv) (name : OsString) : Option OsString :=
  -- a name with a NUL byte is no C string, and then nothing is looked up
  if name = [] ∨ 0 ∈ name then none
  else processEnv.vars.findSome? fun listed =>
    (name ++ [equalsSign]).isPrefixOf? (entryOf listed)

/-- `std::env::var` -/
def ProcessEnv.var (processEnv : ProcessEnv) : Variables :=
  fun name => (processEnv.getenv (asBytes name)).bind fromUtf8?

/-- What is read from one entry: the value of the variable, or the end of it behind a name that
goes on with `=`.
-/
theorem isPrefixOf?_entryOf_iff {name rest : OsString} {listed : OsString × OsString}
    (free : equalsSign ∉ listed.1)
    : (name ++ [equalsSign]).isPrefixOf? (entryOf listed) = some rest
      ↔ (name = listed.1 ∧ rest = listed.2)
        ∨ ∃ middle, name = listed.1 ++ equalsSign :: middle
          ∧ listed.2 = middle ++ equalsSign :: rest := by
  rw [entryOf, List.isPrefixOf?_eq_some_iff_append_eq, List.append_assoc, List.singleton_append,
    SeparatedText.append_separator_eq_iff]
  constructor
  · intro parts
    rcases parts with same | ⟨middle, key, _⟩ | longer
    · exact Or.inl same
    · exact absurd (by simp [key]) free
    · exact Or.inr longer
  · intro parts
    exact parts.imp_right Or.inr

namespace ProcessEnv

/-- Plain names are looked up as they are listed, by induction on the variables. -/
theorem getenv_eq_lookup {processEnv : ProcessEnv} {name : OsString} (filled : name ≠ [])
    (text : 0 ∉ name) (plain : equalsSign ∉ name)
    (named : ∀ listed ∈ processEnv.vars, equalsSign ∉ listed.1)
    : processEnv.getenv name = processEnv.vars.lookup name := by
  rw [getenv, if_neg (not_or.mpr ⟨filled, text⟩)]
  generalize processEnv.vars = vars at named ⊢
  induction vars with
  | nil => rfl
  | cons listed vars ih =>
      obtain ⟨here, later⟩ := List.forall_mem_cons.mp named
      rw [List.findSome?_cons, List.lookup_cons]
      by_cases same : name = listed.1
      · have found := (isPrefixOf?_entryOf_iff here).mpr (Or.inl ⟨same, @rfl _ listed.2⟩)
        have matched : (name == listed.1) = true := beq_iff_eq.mpr same
        rw [found, matched]
      · have missed : (name ++ [equalsSign]).isPrefixOf?
            (entryOf listed) = none := by
          rw [Option.eq_none_iff_forall_ne_some]
          intro rest found
          rcases (isPrefixOf?_entryOf_iff here).mp found with equal | ⟨middle, rfl, _⟩
          · exact same equal.1
          · exact plain (by simp)
        have apart : (name == listed.1) = false := beq_false_of_ne same
        rw [missed, apart]
        exact ih later

example
    : getenv ⟨[(asBytes "A", asBytes "x=y")], by decide⟩ (asBytes "A=x")
      = some (asBytes "y") := by
  decide

end ProcessEnv

/-- `env::Env` -/
structure Env where
  awsServerAddress : Option String
  awsAccessKey : Option String
  awsSecretKey : Option String
  awsSessionToken : Option String
  awsRoleArn : Option String
  awsRoleSessionName : Option String
  awsProfile : Option String
  awsInsecure : Bool
  awsRegion : Option String
  awsForcePathStyle : Option Bool
  awsBucket : Option String
  s3Prefix : Option String
deriving DecidableEq, Repr

/-- `str::trim_end_matches` -/
def trimEndMatches (char : Char) (text : String) : String :=
  String.ofList (text.toList.rdropWhile (· = char))

/-- `env::normalize_s3_prefix` -/
def normalizeS3Prefix (s3Prefix : Option String) : Option String :=
  s3Prefix.bind fun p =>
    let trimmed := trimEndMatches '/' p
    if trimmed.isEmpty then none else some trimmed

/-- `envy::prefixed("CAFCE_").from_env`: the variables of the process read into the fields.
It panics on text that is not UTF-8.
-/
abbrev Envy := ProcessEnv → Except (Abort ForeignError) Env

/-- Settings whose bucket can be asked for. -/
structure LoadedEnv extends Env where
  bucket_set : awsBucket.isSome

namespace LoadedEnv

/-- `Env::bucket` -/
def bucket (env : LoadedEnv) : String :=
  env.awsBucket.get env.bucket_set

end LoadedEnv

namespace Env

/-- `Env::new` on what was read: the bucket is required, the prefix is normalized. -/
def validate (env : Env) : Except EnvError LoadedEnv :=
  if missing : env.awsBucket.all String.isEmpty then .error .missingBucket
  else .ok {
    env with
    s3Prefix := normalizeS3Prefix env.s3Prefix
    bucket_set := by
      cases bucket : env.awsBucket with
      | none => simp [bucket] at missing
      | some _ => rfl
  }

/-- `Env::new` -/
def new (envy : Envy) (processEnv : ProcessEnv) : Except (Abort EnvError) LoadedEnv := do
  let env ← (envy processEnv).mapError (Abort.map .envy)
  env.validate.mapError .failed

/-- Settings with a bucket are accepted. -/
theorem exists_new_of_bucket {envy : Envy} {processEnv : ProcessEnv} {raw : Env}
    {bucket : String} (read : envy processEnv = .ok raw)
    (given : raw.awsBucket = some bucket) (filled : bucket ≠ "")
    : ∃ env : LoadedEnv, new envy processEnv = .ok env
      ∧ env.toEnv = { raw with s3Prefix := normalizeS3Prefix raw.s3Prefix } := by
  have valid : ¬ raw.awsBucket.all String.isEmpty := by
    simpa [given, String.isEmpty_iff] using filled
  have bucket_set : raw.awsBucket.isSome := by
    rw [given]
    rfl
  refine ⟨{ raw with s3Prefix := normalizeS3Prefix raw.s3Prefix, bucket_set }, ?_, rfl⟩
  rw [new, read, Except.mapError, Fallible.ok_bind, validate, dif_neg valid]
  rfl

/-- What `Env::new` returns has the bucket that was read, which is not empty, and the normalized
prefix.
-/
theorem exists_raw_of_new {envy : Envy} {processEnv : ProcessEnv} {env : LoadedEnv}
    (success : new envy processEnv = .ok env)
    : ∃ raw, envy processEnv = .ok raw ∧ raw.awsBucket = some env.bucket ∧ env.bucket ≠ ""
      ∧ env.s3Prefix = normalizeS3Prefix raw.s3Prefix := by
  rw [new, Fallible.bind_eq_ok_iff] at success
  obtain ⟨raw, read, valid⟩ := success
  rw [Fallible.mapError_eq_ok_iff] at read valid
  rw [validate] at valid
  split at valid
  · cases valid
  · rename_i filled
    cases valid
    refine ⟨raw, read, (Option.some_get _).symm, fun empty => filled ?_, rfl⟩
    have given : raw.awsBucket = some "" := by
      rw [← empty]
      exact (Option.some_get _).symm
    rw [given]
    rfl

end Env

/-- `url::Url`, by its parts. -/
structure Url where
  scheme : String
  username : String
  password : Option String
  hostStr : Option String
  port : Option Nat
  path : String
  query : Option String
  fragment : Option String
deriving DecidableEq, Repr

/-- The url crate; `setPort` refuses some URLs. -/
structure UrlCrate where
  parse : String → Except ForeignError Url
  setPort : Url → Option Nat → Option Url
  toText : Url → String

namespace Env

/-- `Env::build_endpoint` -/
def buildEndpoint (url : UrlCrate) (env : Env) : Except EndpointError (Option Url) :=
  match env.awsServerAddress with
  | none => .ok none
  | some addr =>
      if addr.isEmpty then .ok none
      else if addr = "s3.amazonaws.com" then .ok none
      else
        let scheme := if env.awsInsecure then "http" else "https"
        match url.parse (scheme ++ "://" ++ addr) with
        | .error error => .error (.invalidAddress error)
        | .ok parsed =>
            let isDefaultPort :=
              (parsed.scheme = "http" && parsed.port = some 80)
              || (parsed.scheme = "https" && parsed.port = some 443)
            -- a port that the scheme implies is dropped from the URL
            if isDefaultPort then
              match url.setPort parsed none with
              | none => .error .portSetFailed
              | some normalized => .ok (some normalized)
            else .ok (some parsed)

/-- `Env::get_host` -/
def getHost (url : UrlCrate) (env : Env) : Option String := do
  let addr ← env.awsServerAddress
  if addr.isEmpty then none
  else
    let parsed ← (url.parse ("http://" ++ addr)).toOption
    parsed.hostStr

/-- `Env::should_use_path_style` -/
def shouldUsePathStyle (url : UrlCrate) (env : Env) : Bool :=
  match env.awsForcePathStyle with
  | some force => force
  | none =>
      -- an endpoint of AWS is addressed by a virtual host, any other by a path
      match env.getHost url with
      | some host => ! decide ("amazonaws.com".toList <:+: host.toLower.toList)
      | none => false

/-- `Env::get_region` -/
def getRegion (env : Env) : String :=
  env.awsRegion.getD "us-east-1"

end Env

end Cafce
