import Cafce.Model.CacheKey
import Cafce.Model.S3Client

/-! Asking S3 for the primary key and the fallback keys of a configuration. -/

namespace Cafce

open Fallible

/-- One HeadObject request, with the client that sends it. -/
structure HeadObjectCall where
  client : S3Client
  bucket : String
  key : String
deriving DecidableEq, Repr

/-- How S3 answers the request of a position, given its bucket and its key. -/
abbrev HeadObject := Nat → String → String → Except SdkError Unit

/-- What a run of the program does to the outside. -/
inductive Event
  | openedConfig (path : PathBuf)
  | openedFile (path : PathBuf)
  | createdFile (path : PathBuf)
  | wroteFile (path : PathBuf) (contents : String)
  | assumeRole (call : AssumeRoleCall)
  | headObject (call : HeadObjectCall)
  | stdout (text : String)
  | stderr (text : String)
deriving DecidableEq, Repr

/-- The HeadObject requests among events, in order. -/
def headRequests (log : List Event) : List HeadObjectCall :=
  log.filterMap fun
    | .headObject call => some call
    | _ => none

/-- `probe::build_object_key` -/
def buildObjectKey (keyPrefix : Option String) (project cacheKey : String) : String :=
  match keyPrefix with
  | some p => p ++ "/" ++ project ++ "/" ++ cacheKey
  | none => project ++ "/" ++ cacheKey

/-- What `check_key_exists` makes of an answer. -/
def interpretAnswer (bucket objectKey : String)
    : Except SdkError Unit → Except AnyhowError Bool
  | .ok _ => .ok true
  -- only NotFound means a miss; any other failure ends the probe
  | .error (.serviceError .notFound _) => .ok false
  | .error error =>
      .error (.context
        ("S3 HeadObject に失敗しました (bucket=" ++ bucket ++ ", key=" ++ objectKey ++ ")\n"
          ++ "403 の場合は s3:ListBucket 権限を確認してください")
        (.headObject error))

/-- `probe::check_key_exists`, as the request number `asked` of the run. -/
def checkKeyExists (headObject : HeadObject) (asked : Nat) (client : S3Client)
    (bucket objectKey : String)
    : Logged Event AnyhowError Bool :=
  Logged.perform (.headObject { client, bucket, key := objectKey })
    (interpretAnswer bucket objectKey (headObject asked bucket objectKey))

/-- The loop of `probe::probe` over the keys that are left. -/
def probeKeys (headObject : HeadObject) (setting : Setting) (env : LoadedEnv)
    (client : S3Client)
    : Nat → List String → Logged Event AnyhowError Bool
  | _, [] => return false
  | asked, cacheKey :: rest => do
      let objectKey := buildObjectKey env.s3Prefix setting.project cacheKey
      if ← checkKeyExists headObject asked client env.bucket objectKey then
        return true
      else probeKeys headObject setting env client (asked + 1) rest

/-- `probe::probe` -/
def probe (sha256 : List UInt8 → Digest) (files : FileView) (headObject : HeadObject)
    (setting : Setting) (env : LoadedEnv) (client : S3Client) (basePath : PathBuf)
    : Logged Event AnyhowError Bool := do
  let primaryKey ← (setting.resolvePrimaryKey sha256 files basePath).relabel .openedFile
    (.context "primary キーの計算に失敗しました")
  probeKeys headObject setting env client 0 (primaryKey :: setting.fallbackKeys)

end Cafce
