import Cafce.Correctness.ClientCredentials
import Cafce.Correctness.Commands
import Cafce.Library.TraceLanguage

/-! What the commands do to the outside, as languages of events: which phases a run goes
through, in which order and how often, and where it may stop.
-/

namespace Cafce

open Computability Fallible KeyedSort Logged

-----------------------------------------------------------------------------------------
-- Phases
-----------------------------------------------------------------------------------------

def opens (config : PathBuf) : Language Event := just (.openedConfig config)

def reads : Language Event := anyOf Event.openedFile

def asksSts : Language Event := anyOf Event.assumeRole

def asksS3 : Language Event := anyOf Event.headObject

def creates (config : PathBuf) : Language Event := just (.createdFile config)

def writes (config : PathBuf) : Language Event := anyOf (Event.wroteFile config)

def shows : Language Event := anyOf Event.stdout

def reports : Language Event := anyOf Event.stderr

/-- What a command does when it succeeds. -/
def succeeding : Action → Language Event
  | .key config => opens config * (atMost 50 reads * shows)
  | .probe config =>
      opens config * (atMost 1 asksSts * (atMost 50 reads * (asksS3 * asksS3∗) * shows))
  | .init config => creates config * writes config
  | .store config | .restore config => opens config * shows ^ 3

/-- What a command has done when it fails. -/
def failing : Action → Language Event
  | .key config => 1 + opens config * atMost 50 reads
  | .probe config => 1 + opens config * (atMost 1 asksSts * (atMost 50 reads * asksS3∗))
  | .init config => creates config + creates config * writes config
  | .store config | .restore config => 1 + opens config

/-- What a command has done when it panics; `0` where it never does. -/
def panicking : Action → Language Event
  | .key _ => 0
  | .probe config => opens config
  | .init config => creates config
  | .store _ | .restore _ => 1

/-- What a run does on standard streams that take everything, by how it exits; a failure, and
nothing else, is reported.
-/
def effects (action : Action) : ExitStatus → Language Event
  | .success => succeeding action
  | .failure => failing action * reports
  | .panic => panicking action

/-- What a command has done when a stream refuses one of its lines or its report. -/
def refused : Action → Language Event
  | .store config | .restore config => 1 + opens config * atMost 2 shows
  | action => failing action

/-- What has been done where the streams refuse some text next. -/
def refusing (streams : Streams) : Language Event :=
  {before | ∃ event, streams.refuses before event}

/-- What a run does, by how it exits: it panics also where the streams refuse a text. -/
def effectsOn (streams : Streams) (action : Action) : ExitStatus → Language Event
  | .panic => panicking action + refused action ⊓ refusing streams
  | status => effects action status

/-- The language of an error: one for failures, one for panics. -/
def aborting {ε : Type} (failed panicked : Language Event) : Abort ε → Language Event
  | .failed _ => failed
  | .panicked => panicked

theorem aborting_mono {ε : Type} {L M P Q : Language Event} (failed : L ≤ M)
    (panicked : P ≤ Q) (abort : Abort ε)
    : aborting L P abort ≤ aborting M Q abort := by
  cases abort with
  | failed error => exact failed
  | panicked => exact panicked

/-- Stages in turn: a run stops in the first of them or in the second after the first. -/
theorem speaks_andThen {ε α β : Type} {first : Logged Event (Abort ε) α}
    {next : α → Logged Event (Abort ε) β}
    {S T L M P Q : Language Event} (speaks : Speaks first S (aborting L P))
    (later : ∀ value, first.outcome = .ok value → Speaks (next value) T (aborting M Q))
    : Speaks (first >>= next) (S * T) (aborting (L + S * M) (P + S * Q)) := by
  apply (speaks.bind later).mono (le_refl _)
  intro abort
  cases abort <;> exact le_refl _

/-- Stopping early is a case of what may be empty. -/
theorem add_mul_of_one_le {A : Language Event} (L : Language Event) (empty : 1 ≤ A)
    : L + L * A = L * A := by
  rw [add_eq_right_iff_le]
  calc L = L * 1 := (mul_one L).symm
    _ ≤ L * A := mul_le_mul_right empty L

-----------------------------------------------------------------------------------------
-- The stages of the commands
-----------------------------------------------------------------------------------------

section Stages

variable (crates : Crates) (world : World) (config : PathBuf)

theorem currentDir_speaks : Speaks (Run.currentDir world) 1 (aborting 1 0) :=
  Speaks.quiet_mapError fun _ => le_refl 1

theorem loadSetting_speaks
    : Speaks (Run.loadSetting crates world config) (opens config)
        (aborting (opens config) 0) :=
  Speaks.perform_mapError (le_refl _) fun _ => le_refl _

/-- Loading the settings of the environment is where a run may panic. -/
theorem loadEnv_speaks : Speaks (Run.loadEnv crates world) 1 (aborting 1 1) := by
  apply Speaks.quiet
  intro abort _
  cases abort <;> exact le_refl 1

theorem println_speaks (text : String) : Speaks (Run.println text) shows (aborting 0 0) :=
  Speaks.perform (just_le_anyOf Event.stdout (text ++ "\n")) nofun

end Stages

/-- STS is asked once at most, whatever comes of it. -/
theorem clientCredentials_asksOnce (sts : Sts) (env : Env)
    : (clientCredentials sts env).log ∈ atMost 1 (anyOf id) := by
  have silent : [] ∈ (atMost 1 (anyOf id) : Language AssumeRoleCall) :=
    one_le_atMost 1 _ Language.nil_mem_one
  rw [clientCredentials]
  split
  · split
    · rw [log_bind_of_silent fun _ => log_pure _, log_assumeRole]
      exact le_atMost_one _ ⟨_, rfl⟩
    · exact silent
  · split <;> exact silent

theorem buildClient_speaks (crates : Crates) (world : World) (env : LoadedEnv)
    : Speaks (Run.buildClient crates world env) (atMost 1 asksSts)
        (aborting (atMost 1 asksSts) 0) :=
  Speaks.relabel_of_log
    (map_mem_atMost (log_buildS3Client _ _ _ ▸ clientCredentials_asksOnce _ _))
    fun _ => le_refl _

/-- Hashing reads a file for each path at most. -/
theorem log_calculateFilesHash (sha256 : List UInt8 → Digest) (files : FileView)
    (paths : List PathBuf)
    : (HashCalculator.calculateFilesHash sha256 files paths).log
      ∈ atMost paths.length (anyOf id) := by
  rw [HashCalculator.calculateFilesHash]
  split
  · exact one_le_atMost _ _ Language.nil_mem_one
  · rw [log_bind_of_silent fun _ => log_pure _, ← (sortBy_perm PathBuf.key paths).length_eq]
    apply log_traverse_mem
    intro file _
    rw [HashCalculator.calculateSingleFileHash, log_bind_of_silent fun _ => log_pure _]
    exact ⟨file, rfl⟩

/-- A key is made of as many files as the limit allows. -/
theorem log_generateKey (generator : CacheKeyGenerator) (sha256 : List UInt8 → Digest)
    (files : FileView) (keyConfig : Key)
    : (generator.generateKey sha256 files keyConfig).log
      ∈ atMost generator.maxFiles (anyOf id) := by
  rw [CacheKeyGenerator.generateKey, ← one_mul (atMost _ _)]
  apply log_bind_mem Language.nil_mem_one (one_le_atMost _ _)
  intro matched resolution
  split
  · split <;> exact one_le_atMost _ _ Language.nil_mem_one
  · rw [log_bind_of_silent]
    · have within : matched.length ≤ generator.maxFiles := by
        rw [outcome_quiet, FileMatcher.resolvePatterns_eq] at resolution
        obtain ⟨selected, _, merged⟩ := bind_eq_ok_iff.mp resolution
        obtain ⟨bound, rfl⟩ := FileMatcher.resolved_eq_ok_iff.mp merged
        rwa [(sortBy_perm _ _).length_eq]
      exact atMost_mono within _ (log_calculateFilesHash sha256 files matched)
    · intro filesHash
      split <;> rfl

theorem log_resolvePrimaryKey (setting : Setting) (sha256 : List UInt8 → Digest)
    (files : FileView) (basePath : PathBuf)
    : (setting.resolvePrimaryKey sha256 files basePath).log ∈ atMost 50 (anyOf id) := by
  rw [Setting.resolvePrimaryKey]
  split
  · exact one_le_atMost 50 _ Language.nil_mem_one
  · exact log_generateKey { maxFiles := 50, basePath } _ _ _

/-- Resolving the primary key reads at most 50 files. -/
theorem openedFiles_mem (setting : Setting) (sha256 : List UInt8 → Digest)
    (files : FileView) (basePath : PathBuf)
    : (setting.resolvePrimaryKey sha256 files basePath).log.map Event.openedFile
      ∈ atMost 50 reads :=
  map_mem_atMost (log_resolvePrimaryKey setting sha256 files basePath)

/-- The loop of a probe only asks S3. -/
theorem log_probeKeys (headObject : HeadObject) (setting : Setting) (env : LoadedEnv)
    (client : S3Client) (asked : Nat) (keys : List String)
    : (probeKeys headObject setting env client asked keys).log ∈ asksS3∗ := by
  induction keys generalizing asked with
  | nil => exact Language.nil_mem_kstar _
  | cons key keys ih =>
      have first (objectKey : String)
          : (checkKeyExists headObject asked client env.bucket objectKey).log ∈ asksS3 :=
        ⟨_, rfl⟩
      have more : asksS3 * asksS3∗ ≤ asksS3∗ := mul_kstar_le_kstar
      rw [probeKeys]
      apply more
      apply log_bind_mem (first _) one_le_kstar
      intro hit _
      cases hit with
      | true => exact Language.nil_mem_kstar _
      | false => exact ih (asked + 1)

/-- A probe that answers has asked, since there is always a primary key to ask for. -/
theorem probe_speaks (sha256 : List UInt8 → Digest) (files : FileView)
    (headObject : HeadObject) (setting : Setting) (env : LoadedEnv) (client : S3Client)
    (basePath : PathBuf)
    : Speaks (probe sha256 files headObject setting env client basePath)
        (atMost 50 reads * (asksS3 * asksS3∗)) (fun _ => atMost 50 reads * asksS3∗) := by
  have opened := openedFiles_mem setting sha256 files basePath
  have asking := log_probeKeys headObject setting env client
  refine ⟨?_, ?_⟩
  · intro hit success
    obtain ⟨primaryKey, resolved⟩ := exists_primaryKey (Or.inl ⟨hit, success⟩)
    rw [probe_resolved resolved]
    apply Language.append_mem_mul opened
    have first (objectKey : String)
        : (checkKeyExists headObject 0 client env.bucket objectKey).log ∈ asksS3 :=
      ⟨_, rfl⟩
    rw [probeKeys]
    apply log_bind_mem (first _) one_le_kstar
    intro found _
    cases found with
    | true => exact Language.nil_mem_kstar _
    | false => exact asking 1 _
  · intro error _
    rw [probe]
    apply log_bind_mem opened one_le_kstar
    exact fun primaryKey _ => asking 0 _

-----------------------------------------------------------------------------------------
-- The commands
-----------------------------------------------------------------------------------------

/-- A branch of `run` speaks the languages of its command. -/
def Follows (action : Action) (stages : Run Unit) : Prop :=
  Speaks stages (succeeding action) (aborting (failing action) (panicking action))

variable (crates : Crates) (world : World) (config : PathBuf)

theorem key_follows : Follows (.key config) (Run.key crates world config) := by
  have hashing (setting : Setting) (cwd : PathBuf)
      : Speaks ((setting.resolvePrimaryKey crates.sha256 world.files cwd).relabel .openedFile
          fun error =>
            Abort.failed (AnyhowError.context "primary キーの計算に失敗しました" error))
          (atMost 50 reads) (aborting (atMost 50 reads) 0) :=
    Speaks.relabel_of_log (openedFiles_mem setting crates.sha256 world.files cwd)
      fun _ => le_refl _
  apply Speaks.mono (speaks_andThen (currentDir_speaks world) fun cwd _ =>
    speaks_andThen (loadSetting_speaks crates world config) fun setting _ =>
      speaks_andThen (hashing setting cwd) fun key _ => println_speaks key)
  · rw [one_mul]
    exact le_refl _
  · apply aborting_mono
    · simp only [one_mul, mul_zero, add_zero]
      rw [add_mul_of_one_le _ (one_le_atMost 50 reads)]
      exact le_refl _
    · simp only [mul_zero, add_zero]
      exact le_refl _

theorem probe_follows : Follows (.probe config) (Run.probe crates world config) := by
  have probing (setting : Setting) (env : LoadedEnv) (client : S3Client) (cwd : PathBuf)
      : Speaks ((probe crates.sha256 world.files world.headObject setting env client
          cwd).relabel id Abort.failed)
          (atMost 50 reads * (asksS3 * asksS3∗))
          (aborting (atMost 50 reads * asksS3∗) 0) :=
    (probe_speaks _ _ _ setting env client cwd).relabel_id fun _ => le_refl _
  apply Speaks.mono (speaks_andThen (currentDir_speaks world) fun cwd _ =>
    speaks_andThen (loadSetting_speaks crates world config) fun setting _ =>
      speaks_andThen (loadEnv_speaks crates world) fun env _ =>
        speaks_andThen (buildClient_speaks crates world env) fun client _ =>
          speaks_andThen (probing setting env client cwd) fun hit _ => println_speaks _)
  · simp only [one_mul]
    exact le_refl _
  · have reading : 1 ≤ atMost 50 reads * asksS3∗ :=
      one_le_mul (one_le_atMost 50 reads) one_le_kstar
    have asking : 1 ≤ atMost 1 asksSts * (atMost 50 reads * asksS3∗) :=
      one_le_mul (one_le_atMost 1 asksSts) reading
    apply aborting_mono
    · simp only [one_mul, mul_zero, add_zero]
      rw [add_mul_of_one_le _ reading, add_eq_right_iff_le.mpr asking,
        add_mul_of_one_le _ asking]
      exact le_refl _
    · simp only [one_mul, mul_zero, zero_add, add_zero, mul_one]
      exact le_refl _

theorem init_follows : Follows (.init config) (Run.init crates world config) := by
  have created : Speaks (Logged.perform (.createdFile config)
      ((world.createFile config).mapError fun error => Abort.failed (SettingError.io error)))
      (creates config) (aborting (creates config) 0) :=
    Speaks.perform_mapError (le_refl _) fun _ => le_refl _
  have serialized : Speaks (Logged.quiet ((crates.tomlToString Setting.starter).mapError
      fun _ => (Abort.panicked : Abort SettingError)))
      (1 : Language Event) (aborting 0 1) :=
    Speaks.quiet_mapError fun _ => le_refl _
  have wrote (toml : String) : Speaks (Logged.perform (.wroteFile config toml)
      ((world.writeFile config toml).mapError fun error =>
        Abort.failed (SettingError.io error)))
      (writes config) (aborting (writes config) 0) :=
    Speaks.perform_mapError (just_le_anyOf _ toml) fun _ => le_refl _
  have writing : Speaks (Run.initToFile crates world config) (succeeding (.init config))
      (aborting (failing (.init config)) (panicking (.init config))) := by
    apply Speaks.mono (speaks_andThen created fun _ _ =>
      speaks_andThen serialized fun toml _ => wrote toml)
    · rw [one_mul]
      exact le_refl _
    · apply aborting_mono
      · simp only [one_mul, zero_add]
        exact le_refl _
      · simp only [mul_zero, zero_add, add_zero, mul_one]
        exact le_refl _
  apply writing.relabel_id
  intro abort
  cases abort <;> exact le_refl _

theorem printInputs_follows
    : Follows (.store config) (Run.printInputs crates world config) := by
  apply Speaks.mono (speaks_andThen (loadEnv_speaks crates world) fun env _ =>
    speaks_andThen (loadSetting_speaks crates world config) fun setting _ =>
      speaks_andThen (println_speaks _) fun _ _ =>
        speaks_andThen (println_speaks _) fun _ _ => println_speaks _)
  · rw [one_mul, ← pow_two, ← pow_succ']
    exact le_refl _
  · apply aborting_mono
    · simp only [one_mul, mul_zero, add_zero]
      exact le_refl _
    · simp only [mul_zero, add_zero]
      exact le_refl _

/-- A command does what it may do, whatever the world. -/
theorem run_follows (crates : Crates) (world : World) (action : Action)
    : Follows action (run crates world action) := by
  cases action with
  | store config => exact printInputs_follows crates world config
  | restore config => exact printInputs_follows crates world config
  | init config => exact init_follows crates world config
  | key config => exact key_follows crates world config
  | probe config => exact probe_follows crates world config

/-- On streams that take everything a run does what its command and its exit allow. -/
theorem main_effects (crates : Crates) (world : World) (action : Action)
    : (main crates world action).2 ∈ effects action (main crates world action).1 := by
  have follows := run_follows crates world action
  rw [main]
  split
  · rename_i success
    exact follows.onSuccess () success
  · rename_i error failure
    exact Language.append_mem_mul (follows.onFailure _ failure) ⟨_, rfl⟩
  · rename_i panic
    exact follows.onFailure _ panic

-----------------------------------------------------------------------------------------
-- Streams that refuse a text
-----------------------------------------------------------------------------------------

/-- A text for a standard stream. -/
def Event.isText : Event → Prop
  | .stdout _ | .stderr _ => True
  | _ => False

theorem Streams.isText_of_refuses {streams : Streams} {before : List Event} {event : Event}
    (refuses : streams.refuses before event)
    : event.isText := by
  cases event <;> trivial

/-- The first refused text stands in the log where the rest is cut off, by induction on it. -/
theorem Streams.exists_of_untilRefused {streams : Streams} {before log cut : List Event}
    (found : streams.untilRefused before log = some cut)
    : ∃ done event later, log = done ++ event :: later ∧ cut = before ++ done
      ∧ streams.refuses cut event := by
  induction log generalizing before with
  | nil => cases found
  | cons event later ih =>
      rw [untilRefused] at found
      split at found
      · rename_i refuses
        obtain rfl := Option.some.inj found
        exact ⟨[], event, later, rfl, (List.append_nil _).symm, refuses⟩
      · obtain ⟨done, next, rest, rfl, rfl, refuses⟩ := ih found
        exact ⟨event :: done, next, rest, rfl, by simp, refuses⟩

/-- Words without texts for the streams. -/
abbrev Silent (L : Language Event) : Prop :=
  L ≤ within fun event => ¬ event.isText

section Cut

variable (config : PathBuf)

theorem opens_silent : Silent (opens config) := just_le_within id

theorem creates_silent : Silent (creates config) := just_le_within id

theorem reading_silent : Silent (atMost 50 reads) :=
  atMost_le_within 50 (anyOf_le_within fun _ => id)

theorem asking_silent : Silent (atMost 1 asksSts * (atMost 50 reads * asksS3∗)) :=
  mul_le_within (atMost_le_within 1 (anyOf_le_within fun _ => id))
    (mul_le_within reading_silent (kstar_le_within (anyOf_le_within fun _ => id)))

theorem initializing_silent : Silent (creates config * writes config) :=
  mul_le_within (creates_silent config) (anyOf_le_within fun _ => id)

theorem failing_silent (action : Action) : Silent (failing action) := by
  cases action with
  | store config => exact sup_le one_le_within (opens_silent config)
  | restore config => exact sup_le one_le_within (opens_silent config)
  | init config => exact sup_le (creates_silent config) (initializing_silent config)
  | key config =>
      exact sup_le one_le_within (mul_le_within (opens_silent config) reading_silent)
  | probe config =>
      exact sup_le one_le_within (mul_le_within (opens_silent config) asking_silent)

theorem panicking_silent (action : Action) : Silent (panicking action) := by
  cases action with
  | store config => exact one_le_within
  | restore config => exact one_le_within
  | init config => exact creates_silent config
  | key config => exact bot_le
  | probe config => exact opens_silent config

end Cut

/-- A refused text after silent words leaves these words. -/
theorem cutBefore_text {L : Language Event} (silent : Silent L) (text : String → Event)
    : cutBefore Event.isText (L * anyOf text) ≤ L := by
  calc cutBefore Event.isText (L * anyOf text) ≤ L * cutBefore Event.isText (anyOf text) :=
        cutBefore_mul_le_of_free silent
    _ ≤ L * 1 := mul_le_mul_right (cutBefore_anyOf_le text) L
    _ = L := mul_one L

/-- A command whose line is refused has done what it can have done when it fails, or is between
its lines.
-/
theorem cutBefore_succeeding (action : Action)
    : cutBefore Event.isText (succeeding action) ≤ refused action := by
  have printing (config : PathBuf)
      : cutBefore Event.isText (opens config * shows ^ 3)
        ≤ 1 + opens config * atMost 2 shows := by
    calc cutBefore Event.isText (opens config * shows ^ 3)
        ≤ opens config * cutBefore Event.isText (shows ^ 3) :=
          cutBefore_mul_le_of_free (opens_silent config)
      _ ≤ opens config * atMost 2 shows :=
          mul_le_mul_right (cutBefore_pow_le 2 (cutBefore_anyOf_le Event.stdout)) _
      _ ≤ 1 + opens config * atMost 2 shows := le_one_add _
  cases action with
  | store config => exact printing config
  | restore config => exact printing config
  | init config =>
      exact (cutBefore_of_le_within (initializing_silent config)).le.trans bot_le
  | key config =>
      have done := mul_le_within (opens_silent config) reading_silent
      rw [succeeding, ← mul_assoc]
      exact (cutBefore_text done Event.stdout).trans (le_one_add _)
  | probe config =>
      have asked : atMost 1 asksSts * (atMost 50 reads * (asksS3 * asksS3∗))
          ≤ atMost 1 asksSts * (atMost 50 reads * asksS3∗) :=
        mul_le_mul_right (mul_le_mul_right mul_kstar_le_kstar _) _
      have done := mul_le_within (opens_silent config) (asked.trans asking_silent)
      rw [succeeding, ← mul_assoc, ← mul_assoc, mul_assoc (opens config)]
      calc cutBefore Event.isText (opens config * _ * shows)
          ≤ opens config * _ := cutBefore_text done Event.stdout
        _ ≤ opens config * (atMost 1 asksSts * (atMost 50 reads * asksS3∗)) :=
            mul_le_mul_right asked _
        _ ≤ 1 + opens config * (atMost 1 asksSts * (atMost 50 reads * asksS3∗)) :=
            le_one_add _

/-- However a run would have exited, a refused text leaves what is done before it. -/
theorem cutBefore_effects (action : Action) (status : ExitStatus)
    : cutBefore Event.isText (effects action status) ≤ refused action := by
  cases status with
  | success => exact cutBefore_succeeding action
  | failure =>
      have loading (config : PathBuf)
          : 1 + opens config ≤ 1 + opens config * atMost 2 shows := by
        calc 1 + opens config = 1 + opens config * 1 := by rw [mul_one]
          _ ≤ 1 + opens config * atMost 2 shows :=
            add_le_add (le_refl 1) (mul_le_mul_right (one_le_atMost 2 shows) _)
      have failed : failing action ≤ refused action := by
        cases action with
        | store config => exact loading config
        | restore config => exact loading config
        | init config => exact le_refl _
        | key config => exact le_refl _
        | probe config => exact le_refl _
      exact (cutBefore_text (failing_silent action) Event.stderr).trans failed
  | panic => exact (cutBefore_of_le_within (panicking_silent action)).le.trans bot_le

theorem effects_le_effectsOn (streams : Streams) (action : Action) (status : ExitStatus)
    : effects action status ≤ effectsOn streams action status := by
  cases status with
  | success => exact le_refl _
  | failure => exact le_refl _
  | panic => exact le_sup_left

/-- Every run of the program does what its command and its exit allow, in that order and
nothing else: at most 50 files read and one role assumed, requests to S3 after both and only
in a probe, one line printed after everything or nothing, one report after a failure, and
files touched by `init` only. Where a standard stream refuses a text the run panics, having
done what comes before that text. Witness: the languages of the stages, multiplied, and cut
before a text.
-/
theorem mainOn_effects (streams : Streams) (crates : Crates) (world : World) (action : Action)
    : (mainOn streams crates world action).2
      ∈ effectsOn streams action (mainOn streams crates world action).1 := by
  have allowed := main_effects crates world action
  rw [mainOn]
  cases found : streams.untilRefused [] (main crates world action).2 with
  | none => exact effects_le_effectsOn streams action _ allowed
  | some before =>
      obtain ⟨done, event, later, log, rfl, refuses⟩ := Streams.exists_of_untilRefused found
      rw [log] at allowed
      have cut
          : before ∈ cutBefore Event.isText (effects action (main crates world action).1) :=
        ⟨event, later, Streams.isText_of_refuses refuses, allowed⟩
      exact (Language.mem_add _ _ _).mpr
        (Or.inr ⟨cutBefore_effects action _ cut, event, refuses⟩)

end Cafce
