import Cafce.Model.Text

/-! Error values and the texts they are reported with. -/

namespace Cafce

/-- `error::CacheKeyError` -/
inductive CacheKeyError
  | tooManyFiles (count limit : Nat)
  | absolutePathNotAllowed (pattern : String)
deriving DecidableEq, Repr

def CacheKeyError.message : CacheKeyError → String
  | .tooManyFiles count limit =>
      "ファイル数が制限を超えています: " ++ toString count ++ " > " ++ toString limit
  | .absolutePathNotAllowed pattern => "絶対パスのパターンは指定できません: " ++ pattern

/-- `setting::SettingError` -/
inductive SettingError
  | io (error : ForeignError)
  | toml (error : ForeignError)
  | emptyProject
  | undefinedVariable (name : String)
  | unterminatedVariableRef
deriving DecidableEq, Repr

def SettingError.message : SettingError → String
  | .io error => "設定ファイルを開けませんでした: " ++ error.message
  | .toml error => "設定ファイルのパースに失敗しました: " ++ error.message
  | .emptyProject => "project が空文字です（展開後も空文字の場合を含む）"
  | .undefinedVariable name => "変数 $\x7b" ++ name ++ "\x7d が定義されていません"
  | .unterminatedVariableRef =>
      "変数参照 '$\x7b' が閉じられていません（対応する '\x7d' がありません）"

/-- The wrapped errors, which an error report lists after the message. -/
def SettingError.sources : SettingError → List String
  | .io error | .toml error => [error.message]
  | _ => []

/-- `env::EnvError` -/
inductive EnvError
  | envy (error : ForeignError)
  | missingBucket
deriving DecidableEq, Repr

def EnvError.message : EnvError → String
  | .envy error => "環境変数の読み込みに失敗しました: " ++ error.message
  | .missingBucket =>
      "CAFCE_AWS_BUCKET が設定されていません。キャッシュを置く S3 バケット名を指定してください"

def EnvError.sources : EnvError → List String
  | .envy error => [error.message]
  | .missingBucket => []

/-- `env::EndpointError` -/
inductive EndpointError
  | invalidAddress (error : ForeignError)
  | portSetFailed
deriving DecidableEq, Repr

def EndpointError.message : EndpointError → String
  | .invalidAddress error => "無効なサーバーアドレス: " ++ error.message
  | .portSetFailed => "ポート番号の設定に失敗しました"

def EndpointError.sources : EndpointError → List String
  | .invalidAddress error => [error.message]
  | .portSetFailed => []

/-- `s3_client::BuildClientError` -/
inductive BuildClientError
  | endpoint (error : EndpointError)
  | missingAssumeRoleSourceCredentials
  | assumeRole (text : String)
  | assumeRoleMissingCredentials
deriving DecidableEq, Repr

def BuildClientError.message : BuildClientError → String
  | .endpoint error => error.message
  | .missingAssumeRoleSourceCredentials =>
      "CAFCE_AWS_ROLE_ARNが指定されている場合、CAFCE_AWS_ACCESS_KEYとCAFCE_AWS_SECRET_KEYの指定が必須です"
  | .assumeRole text => "AssumeRoleに失敗しました: " ++ text
  | .assumeRoleMissingCredentials => "AssumeRoleのレスポンスにクレデンシャルが含まれていません"

def BuildClientError.sources : BuildClientError → List String
  | .endpoint error => error.sources
  | _ => []

/-- `HeadObjectError`, as far as the program tells its variants apart. -/
inductive HeadObjectError
  | notFound
  | other
deriving DecidableEq, Repr

/-- `SdkError<HeadObjectError>`: an answer of the service, or a request without one. -/
inductive SdkError
  | serviceError (error : HeadObjectError) (report : ForeignError)
  | other (report : ForeignError)
deriving DecidableEq, Repr

def SdkError.message : SdkError → String
  | .serviceError _ report | .other report => report.message

/-- `anyhow::Error`: an error with the contexts that were put around it. -/
inductive AnyhowError
  | foreign (error : ForeignError)
  | cacheKey (error : CacheKeyError)
  | setting (error : SettingError)
  | env (error : EnvError)
  | client (error : BuildClientError)
  | headObject (error : SdkError)
  | context (message : String) (source : AnyhowError)
deriving DecidableEq, Repr

/-- The message of an error followed by those of its causes. -/
def AnyhowError.chain : AnyhowError → List String
  | .foreign error => [error.message]
  | .cacheKey error => [error.message]
  | .setting error => error.message :: error.sources
  | .env error => error.message :: error.sources
  | .client error => error.message :: error.sources
  | .headObject error => [error.message]
  | .context message source => message :: source.chain

/-- An error in the alternate form `{:#}`. -/
def AnyhowError.report (error : AnyhowError) : String :=
  ": ".intercalate error.chain

/-- How a computation ends early: with an error, or by a panic. -/
inductive Abort (ε : Type)
  | failed (error : ε)
  | panicked
deriving DecidableEq, Repr

def Abort.map {ε ε' : Type} (wrap : ε → ε') : Abort ε → Abort ε'
  | .failed error => .failed (wrap error)
  | .panicked => .panicked

end Cafce
