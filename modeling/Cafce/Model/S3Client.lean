import Cafce.Library.Fallible
import Cafce.Model.Env

/-! Building the S3 client: credentials, endpoint and addressing style. -/

namespace Cafce

open Fallible

/-- `aws_sdk_s3::config::Credentials`; the expiration is in seconds. -/
structure Credentials where
  accessKeyId : String
  secretAccessKey : String
  sessionToken : Option String
  expiration : Option Int
  providerName : String
deriving DecidableEq, Repr

/-- One AssumeRole request, with the credentials that sign it. -/
structure AssumeRoleCall where
  credentials : Credentials
  region : String
  roleArn : String
  roleSessionName : String
deriving DecidableEq, Repr

/-- Credentials in an AssumeRole response; no expiration where it is no `SystemTime`. -/
structure StsCredentials where
  accessKeyId : String
  secretAccessKey : String
  sessionToken : String
  expiration : Option Int
deriving DecidableEq, Repr

/-- How STS answers. -/
abbrev Sts := AssumeRoleCall → Except ForeignError (Option StsCredentials)

/-- `aws_sdk_s3::Client`, by what was configured; the profile is the loader's. -/
structure S3Client where
  region : String
  profileName : Option String
  credentialsProvider : Option Credentials
  endpointUrl : Option String
  forcePathStyle : Option Bool
deriving DecidableEq, Repr

/-- `s3_client::apply_s3_config` -/
def applyS3Config (url : UrlCrate) (builder : S3Client) (env : Env)
    : Except EndpointError S3Client := do
  let endpoint ← env.buildEndpoint url
  let builder :=
    match endpoint with
    | some endpoint => { builder with endpointUrl := some (url.toText endpoint) }
    | none => builder
  return { builder with forcePathStyle := some (env.shouldUsePathStyle url) }

/-- A computation that may call STS and logs the calls. -/
abbrev StsCalling := Logged AssumeRoleCall BuildClientError

/-- `s3_client::assume_role` -/
def assumeRole (sts : Sts) (accessKey secretKey roleArn : String)
    (sessionName : Option String) (region : String)
    : StsCalling Credentials := do
  let call : AssumeRoleCall := {
    credentials := {
      accessKeyId := accessKey
      secretAccessKey := secretKey
      -- the source credentials go without the session token of the settings
      sessionToken := none
      expiration := none
      providerName := "cafce-source"
    }
    region
    roleArn
    roleSessionName := sessionName.getD "cafce-session"
  }
  let response ← Logged.perform call
    ((sts call).mapError fun error => BuildClientError.assumeRole error.message)
  match response with
  | none => Logged.quiet (.error .assumeRoleMissingCredentials)
  | some creds =>
      return {
        accessKeyId := creds.accessKeyId
        secretAccessKey := creds.secretAccessKey
        sessionToken := some creds.sessionToken
        expiration := creds.expiration
        providerName := "cafce-assumed-role"
      }

/-- The explicit credentials of the client: assumed, static or none. -/
def clientCredentials (sts : Sts) (env : Env) : StsCalling (Option Credentials) :=
  match env.awsRoleArn with
  | some roleArn =>
      match env.awsAccessKey, env.awsSecretKey with
      | some accessKey, some secretKey => do
          let assumed ← assumeRole sts accessKey secretKey roleArn env.awsRoleSessionName
            env.getRegion
          return some assumed
      | _, _ => Logged.quiet (.error .missingAssumeRoleSourceCredentials)
  | none =>
      match env.awsAccessKey, env.awsSecretKey with
      | some accessKey, some secretKey =>
          return some {
            accessKeyId := accessKey
            secretAccessKey := secretKey
            sessionToken := env.awsSessionToken
            expiration := none
            providerName := "cafce-static"
          }
      | _, _ => return none

/-- `s3_client::build_s3_client` -/
def buildS3Client (url : UrlCrate) (sts : Sts) (env : Env) : StsCalling S3Client := do
  let usesStaticCredentials := env.awsAccessKey.isSome && env.awsSecretKey.isSome
  -- the loader sees a profile only where no credentials are given
  let profileName :=
    if env.awsRoleArn.isNone && !usesStaticCredentials then env.awsProfile else none
  let credentialsProvider ← clientCredentials sts env
  let builder : S3Client := {
    region := env.getRegion
    profileName
    credentialsProvider
    endpointUrl := none
    forcePathStyle := none
  }
  Logged.quiet ((applyS3Config url builder env).mapError .endpoint)

end Cafce
