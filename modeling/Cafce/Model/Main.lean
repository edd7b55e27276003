import Cafce.Model.Probe

/-! The commands: what a run of the program reads, requests, writes and prints. -/

namespace Cafce

open Fallible

/-- The third-party code that the program runs on. -/
structure Crates where
  toml : String → Except ForeignError Setting
  tomlToString : Setting → Except ForeignError String
  envy : Envy
  sha256 : List UInt8 → Digest
  url : UrlCrate
  debugPath : PathBuf → String
  debugEnv : Env → String
  debugSetting : Setting → String

/-- Everything outside the program during one run, but for the standard streams. -/
structure World where
  currentDir : Except ForeignError PathBuf
  readToString : PathBuf → Except ForeignError String
  createFile : PathBuf → Except ForeignError Unit
  writeFile : PathBuf → String → Except ForeignError Unit
  files : FileView
  processEnv : ProcessEnv
  headObject : HeadObject
  sts : Sts

/-- `Action`, the command line after parsing. -/
inductive Action
  | store (config : PathBuf)
  | restore (config : PathBuf)
  | init (config : PathBuf)
  | key (config : PathBuf)
  | probe (config : PathBuf)
deriving DecidableEq, Repr

/-- A part of a run of the program. -/
abbrev Run := Logged Event (Abort AnyhowError)

namespace Run

/-- `println!` on a stdout that takes the text; `mainOn` adds the panic on one that does not. -/
def println (text : String) : Run Unit :=
  Logged.perform (.stdout (text ++ "\n")) (.ok ())

/-- The current directory, which two commands need first. -/
def currentDir (world : World) : Run PathBuf :=
  Logged.quiet (world.currentDir.mapError fun error =>
    .failed (.context "カレントディレクトリの取得に失敗しました" (.foreign error)))

/-- `Setting::new_from_file` with its context. -/
def loadSetting (crates : Crates) (world : World) (config : PathBuf) : Run Setting :=
  Logged.perform (.openedConfig config)
    ((Setting.newFromFile crates.toml world.processEnv.var world.readToString config).mapError
      fun error => .failed (.context
        ("設定ファイルの読み込みに失敗しました: " ++ config.toStringLossy) (.setting error)))

/-- `Env::new` with its context. -/
def loadEnv (crates : Crates) (world : World) : Run LoadedEnv :=
  Logged.quiet ((Env.new crates.envy world.processEnv).mapError
    (Abort.map fun error => .context "環境変数の読み込みに失敗しました" (.env error)))

section Stages

variable {crates : Crates} {world : World} {config : PathBuf}

theorem currentDir_eq_ok_iff {cwd : PathBuf}
    : (currentDir world).outcome = .ok cwd ↔ world.currentDir = .ok cwd :=
  mapError_eq_ok_iff

theorem loadSetting_eq_ok_iff {setting : Setting}
    : (loadSetting crates world config).outcome = .ok setting
      ↔ Setting.newFromFile crates.toml world.processEnv.var world.readToString config
        = .ok setting :=
  mapError_eq_ok_iff

theorem loadEnv_eq_ok_iff {env : LoadedEnv}
    : (loadEnv crates world).outcome = .ok env
      ↔ Env.new crates.envy world.processEnv = .ok env :=
  mapError_eq_ok_iff

end Stages

/-- `build_s3_client` with its context. -/
def buildClient (crates : Crates) (world : World) (env : LoadedEnv) : Run S3Client :=
  (buildS3Client crates.url world.sts env.toEnv).relabel .assumeRole fun error =>
    .failed (.context "S3 クライアントの構築に失敗しました" (.client error))

/-- `Setting::init_to_file`: the file is created before the value is serialized. -/
def initToFile (crates : Crates) (world : World) (path : PathBuf)
    : Logged Event (Abort SettingError) Unit := do
  Logged.perform (.createdFile path)
    ((world.createFile path).mapError fun error => .failed (.io error))
  let toml ← Logged.quiet ((crates.tomlToString Setting.starter).mapError fun _ => .panicked)
  Logged.perform (.wroteFile path toml)
    ((world.writeFile path toml).mapError fun error => .failed (.io error))

/-- The branch of `run` for `key`. -/
def key (crates : Crates) (world : World) (config : PathBuf) : Run Unit := do
  let cwd ← currentDir world
  let setting ← loadSetting crates world config
  let key ← (setting.resolvePrimaryKey crates.sha256 world.files cwd).relabel .openedFile
    fun error => .failed (.context "primary キーの計算に失敗しました" error)
  println key

/-- The branch of `run` for `probe`. -/
def probe (crates : Crates) (world : World) (config : PathBuf) : Run Unit := do
  let cwd ← currentDir world
  let setting ← loadSetting crates world config
  let env ← loadEnv crates world
  let client ← buildClient crates world env
  let hit ← (Cafce.probe crates.sha256 world.files world.headObject setting env client
    cwd).relabel id .failed
  println (if hit then "true" else "false")

/-- The branch of `run` for `init`. -/
def init (crates : Crates) (world : World) (config : PathBuf) : Run Unit :=
  (initToFile crates world config).relabel id (Abort.map fun error =>
    .context ("設定ファイルの初期化に失敗しました: " ++ config.toStringLossy) (.setting error))

/-- What the branches of `run` for `store` and `restore` both do. -/
def printInputs (crates : Crates) (world : World) (config : PathBuf) : Run Unit := do
  let env ← loadEnv crates world
  let setting ← loadSetting crates world config
  println (crates.debugPath config)
  println (crates.debugEnv env.toEnv)
  println (crates.debugSetting setting)

/-- The branch of `run` for `store`. -/
def store (crates : Crates) (world : World) (config : PathBuf) : Run Unit :=
  printInputs crates world config

/-- The branch of `run` for `restore`. -/
def restore (crates : Crates) (world : World) (config : PathBuf) : Run Unit :=
  printInputs crates world config

end Run

/-- `run` -/
def run (crates : Crates) (world : World) : Action → Run Unit
  | .key config => Run.key crates world config
  | .probe config => Run.probe crates world config
  | .init config => Run.init crates world config
  | .store config => Run.store crates world config
  | .restore config => Run.restore crates world config

/-- How the process exits. -/
inductive ExitStatus
  | success
  | failure
  | panic
deriving DecidableEq, Repr

/-- `main` on standard streams that take what is written to them: the exit status and everything
that happened.
-/
def main (crates : Crates) (world : World) (action : Action) : ExitStatus × List Event :=
  let finished := run crates world action
  match finished.outcome with
  | .ok () => (.success, finished.log)
  | .error (.failed error) => (.failure, finished.log ++ [.stderr (error.report ++ "\n")])
  | .error .panicked => (.panic, finished.log)

/-- The texts that the standard streams take, given what was done before. -/
structure Streams where
  stdout : List Event → String → Bool
  stderr : List Event → String → Bool

/-- The event is a text for a stream that does not take it. -/
def Streams.refuses (streams : Streams) (before : List Event) : Event → Bool
  | .stdout text => ! streams.stdout before text
  | .stderr text => ! streams.stderr before text
  | _ => false

/-- What is done before the first refused text, where there is one. -/
def Streams.untilRefused (streams : Streams) (before : List Event)
    : List Event → Option (List Event)
  | [] => none
  | event :: later =>
      if streams.refuses before event then some before
      else streams.untilRefused (before ++ [event]) later

/-- `main` on any standard streams: `println!` and `eprintln!` panic on a text that is refused.
That text is not among what happened, though a part of it may have been written.
-/
def mainOn (streams : Streams) (crates : Crates) (world : World) (action : Action)
    : ExitStatus × List Event :=
  match streams.untilRefused [] (main crates world action).2 with
  | none => main crates world action
  | some before => (.panic, before)

/-- The texts printed on stdout, in order. -/
def printed (log : List Event) : List String :=
  log.filterMap fun
    | .stdout text => some text
    | _ => none

/-- The bytes on stdout. -/
def stdoutText (log : List Event) : String :=
  String.join (printed log)

theorem printed_append (left right : List Event)
    : printed (left ++ right) = printed left ++ printed right :=
  List.filterMap_append

/-- One printed text is what is on stdout. -/
theorem stdoutText_of_printed {log : List Event} {text : String}
    (shown : printed log = [text])
    : stdoutText log = text := by
  rw [stdoutText, shown]
  exact String.empty_append

section Exit

variable {crates : Crates} {world : World} {action : Action}

theorem main_status_eq_success_iff
    : (main crates world action).1 = .success ↔ (run crates world action).outcome = .ok () := by
  rw [main]
  split <;> simp_all

/-- The report of a failure goes to stderr: stdout is what the run printed. -/
theorem stdoutText_main
    : stdoutText (main crates world action).2 = stdoutText (run crates world action).log := by
  rw [main]
  split
  · rfl
  · rw [stdoutText, printed_append]
    exact congrArg String.join (List.append_nil _)
  · rfl

/-- Streams that take everything make no difference. -/
theorem mainOn_of_taking {streams : Streams}
    (taking : ∀ before event, streams.refuses before event = false)
    : mainOn streams crates world action = main crates world action := by
  have never (before log : List Event) : streams.untilRefused before log = none := by
    induction log generalizing before with
    | nil => rfl
    | cons event later ih =>
        rw [Streams.untilRefused, taking]
        exact ih _
  rw [mainOn, never]

/-- The report of a failure asks nothing. -/
theorem headRequests_main
    : headRequests (main crates world action).2
      = headRequests (run crates world action).log := by
  rw [main]
  split
  · rfl
  · simp [headRequests]
  · rfl

end Exit

end Cafce
