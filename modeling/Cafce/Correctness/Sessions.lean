import Cafce.Correctness.Effects
import Cafce.Correctness.Secrets
import Cafce.Library.StateEffects

/-! Runs of the program one after another on one disk: what they leave in its files, and what
a configuration that `init` wrote means to the commands that follow.
-/

namespace Cafce

open Computability Fallible Logged StateEffects

/-- The path that an event creates or writes, if it is one of these. -/
def Event.target : Event → Option PathBuf
  | .createdFile path | .wroteFile path _ => some path
  | _ => none

/-- Contents of the files of a disk, by where they are. -/
abbrev Disk (ι : Type) := ι → Option (List UInt8)

/-- Where the paths of a run lead, which may depend on its current directory. -/
abbrev Places (ι : Type) := World → PathBuf → ι

section Disk

variable {ι : Type} [DecidableEq ι] (place : Places ι)

/-- A file truncated or created, or with other contents. -/
def Disk.put (disk : Disk ι) (place : ι) (contents : List UInt8) : Disk ι :=
  Function.update disk place (some contents)

/-- What an event of a run does to the disk. Creating a file truncates it; a write that fails
may have written the first bytes.
-/
inductive Touches (world : World) : Event → Disk ι → Disk ι → Prop
  | created {path disk} (done : world.createFile path = .ok ())
    : Touches world (.createdFile path) disk (disk.put (place world path) [])
  | refused {path disk error} (failed : world.createFile path = .error error)
    : Touches world (.createdFile path) disk disk
  | wrote {path contents disk} (done : world.writeFile path contents = .ok ())
    : Touches world (.wroteFile path contents) disk
        (disk.put (place world path) (asBytes contents))
  | cut {path contents disk error written}
    (failed : world.writeFile path contents = .error error)
    (part : written <+: asBytes contents)
    : Touches world (.wroteFile path contents) disk (disk.put (place world path) written)
  | inert {event disk} (untargeted : event.target = none) : Touches world event disk disk

/-- What the program reads is on the disk, as text. -/
def Sees (disk : Disk ι) (world : World) : Prop :=
  ∀ path text, world.readToString path = .ok text
    → ∃ bytes, disk (place world path) = some bytes ∧ fromUtf8? bytes = some text

/-- One run of the program on the disk as it is. -/
structure Invokes (crates : Crates) (invocation : World × Action) (before after : Disk ι)
    : Prop where
  sees : Sees place before invocation.1
  touches : Leads (Touches place invocation.1) (main crates invocation.1 invocation.2).2
    before after

/-- Runs of the program one after another. -/
abbrev Session (crates : Crates) : List (World × Action) → Disk ι → Disk ι → Prop :=
  Leads (Invokes place crates)

/-- What `init` writes. -/
def starterBytes (crates : Crates) : List UInt8 :=
  match crates.tomlToString Setting.starter with
  | .ok toml => asBytes toml
  | .error _ => []

end Disk

theorem starterBytes_of_serialized {crates : Crates} {toml : String}
    (serialized : crates.tomlToString Setting.starter = .ok toml)
    : starterBytes crates = asBytes toml := by
  rw [starterBytes, serialized]

-----------------------------------------------------------------------------------------
-- What a command touches
-----------------------------------------------------------------------------------------

/-- Events that leave the disk as it is. -/
def untouched : Language Event := within fun event => event.target = none

/-- Commands other than `init` go through harmless phases only. -/
theorem effects_le_untouched {action : Action} (other : ∀ config, action ≠ .init config)
    : succeeding action ≤ untouched
      ∧ failing action ≤ untouched
      ∧ panicking action ≤ untouched := by
  have opened (config : PathBuf) : opens config ≤ untouched :=
    (just_le_anyOf Event.openedConfig config).trans (anyOf_le_within fun _ => rfl)
  have read : reads ≤ untouched := anyOf_le_within fun _ => rfl
  have sts : asksSts ≤ untouched := anyOf_le_within fun _ => rfl
  have s3 : asksS3 ≤ untouched := anyOf_le_within fun _ => rfl
  have shown : shows ≤ untouched := anyOf_le_within fun _ => rfl
  have empty : 1 ≤ untouched := one_le_within
  cases action with
  | init config => exact absurd rfl (other config)
  | key config =>
      refine ⟨?_, ?_, ?_⟩
      · exact mul_le_within (opened config) (mul_le_within (atMost_le_within 50 read) shown)
      · exact sup_le empty (mul_le_within (opened config) (atMost_le_within 50 read))
      · exact bot_le
  | probe config =>
      have asked : asksS3∗ ≤ untouched := kstar_le_within s3
      have reading := atMost_le_within 50 read
      have assumed := atMost_le_within 1 sts
      refine ⟨?_, ?_, opened config⟩
      · exact mul_le_within (opened config) (mul_le_within assumed
          (mul_le_within (mul_le_within reading (mul_le_within s3 asked)) shown))
      · exact sup_le empty (mul_le_within (opened config)
          (mul_le_within assumed (mul_le_within reading asked)))
  | store config =>
      exact ⟨mul_le_within (opened config) (pow_le_within 3 shown),
        sup_le empty (opened config), empty⟩
  | restore config =>
      exact ⟨mul_le_within (opened config) (pow_le_within 3 shown),
        sup_le empty (opened config), empty⟩

/-- Commands other than `init` neither create nor write a file. -/
theorem untargeted_of_other (crates : Crates) (world : World) {action : Action}
    (other : ∀ config, action ≠ .init config)
    : ∀ event ∈ (main crates world action).2, event.target = none := by
  have follows := run_follows crates world action
  obtain ⟨succeeds, fails, panics⟩ := effects_le_untouched other
  have quiet : (run crates world action).log ∈ untouched := by
    cases outcome : (run crates world action).outcome with
    | ok value => exact succeeds (follows.onSuccess value outcome)
    | error abort =>
        cases abort with
        | failed error => exact fails (follows.onFailure _ outcome)
        | panicked => exact panics (follows.onFailure _ outcome)
  intro event member
  simp only [main] at member
  split at member
  · exact quiet event member
  · rcases List.mem_append.mp member with logged | reported
    · exact quiet event logged
    · obtain rfl := List.mem_singleton.mp reported
      rfl
  · exact quiet event member

/-- How a run of `init` ends, by what the outside does. -/
inductive InitEnds (crates : Crates) (world : World) (config : PathBuf)
    : ExitStatus → List Event → Prop
  | refused {error report} (failed : world.createFile config = .error error)
    : InitEnds crates world config .failure [.createdFile config, .stderr report]
  | unserialized {error} (created : world.createFile config = .ok ())
    (failed : crates.tomlToString Setting.starter = .error error)
    : InitEnds crates world config .panic [.createdFile config]
  | cut {toml error report} (created : world.createFile config = .ok ())
    (serialized : crates.tomlToString Setting.starter = .ok toml)
    (failed : world.writeFile config toml = .error error)
    : InitEnds crates world config .failure
        [.createdFile config, .wroteFile config toml, .stderr report]
  | wrote {toml} (created : world.createFile config = .ok ())
    (serialized : crates.tomlToString Setting.starter = .ok toml)
    (written : world.writeFile config toml = .ok ())
    : InitEnds crates world config .success [.createdFile config, .wroteFile config toml]

/-- Once its file is created and the starter serialized, `init` ends as the write does. -/
theorem run_init_of_serialized {crates : Crates} {world : World} {config : PathBuf}
    {toml : String} (created : world.createFile config = .ok ())
    (serialized : crates.tomlToString Setting.starter = .ok toml)
    : run crates world (.init config)
      = {
          outcome := (world.writeFile config toml).mapError fun error => .failed (.context
            ("設定ファイルの初期化に失敗しました: " ++ config.toStringLossy) (.setting (.io error)))
          log := [.createdFile config, .wroteFile config toml]
        } := by
  have writing : Run.initToFile crates world config
      = {
          outcome := (world.writeFile config toml).mapError fun error => .failed (.io error)
          log := [.createdFile config, .wroteFile config toml]
        } := by
    rw [Run.initToFile, created, serialized]
    rfl
  rw [run, Run.init, writing]
  cases world.writeFile config toml <;> rfl

/-- `init` creates its file, serializes and writes, and stops where one of these fails. -/
theorem main_init_ends (crates : Crates) (world : World) (config : PathBuf)
    : InitEnds crates world config (main crates world (.init config)).1
        (main crates world (.init config)).2 := by
  cases created : world.createFile config with
  | error error =>
      have ended : ∃ report, main crates world (.init config)
          = (.failure, [.createdFile config, .stderr report]) := by
        rw [main, run, Run.init, Run.initToFile, created]
        exact ⟨_, rfl⟩
      obtain ⟨report, ended⟩ := ended
      rw [ended]
      exact .refused created
  | ok value =>
      cases serialized : crates.tomlToString Setting.starter with
      | error error =>
          have ended : main crates world (.init config) = (.panic, [.createdFile config]) := by
            rw [main, run, Run.init, Run.initToFile, created, serialized]
            rfl
          rw [ended]
          exact .unserialized created serialized
      | ok toml =>
          rw [main, run_init_of_serialized created serialized]
          cases written : world.writeFile config toml with
          | error error => exact .cut created serialized written
          | ok value => exact .wrote created serialized written

-----------------------------------------------------------------------------------------
-- What a run leaves on the disk
-----------------------------------------------------------------------------------------

section Runs

variable {ι : Type} [DecidableEq ι] {place : Places ι} {crates : Crates}
  {world : World} {before after : Disk ι}

@[simp] theorem Disk.put_same (disk : Disk ι) (here : ι) (contents : List UInt8)
    : disk.put here contents here = some contents :=
  Function.update_self ..

theorem Disk.put_other {disk : Disk ι} {here there : ι} (apart : there ≠ here)
    (contents : List UInt8)
    : disk.put here contents there = disk there :=
  Function.update_of_ne apart ..

/-- Events without a target leave the disk as it is. -/
theorem Touches.inert_eq {event : Event} (touches : Touches place world event before after)
    (untargeted : event.target = none)
    : after = before := by
  cases touches with
  | inert _ => rfl
  | created _ => cases untargeted
  | refused _ => cases untargeted
  | wrote _ => cases untargeted
  | cut _ _ => cases untargeted

/-- Events without targets lead a disk to itself, by induction on them. -/
theorem leads_untargeted {log : List Event} {disk : Disk ι}
    (untargeted : ∀ event ∈ log, event.target = none)
    : Leads (Touches place world) log disk disk := by
  induction log with
  | nil => exact .nil
  | cons event log ih =>
      obtain ⟨here, later⟩ := List.forall_mem_cons.mp untargeted
      exact .cons (.inert here) (ih later)

theorem Invokes.other {action : Action}
    (invokes : Invokes place crates (world, action) before after)
    (other : ∀ config, action ≠ .init config)
    : after = before := by
  apply invokes.touches.unchanged id
  intro event member state next touches
  exact touches.inert_eq (untargeted_of_other crates world other event member)

/-- A file that is created is empty. -/
theorem Touches.of_created {path : PathBuf}
    (touches : Touches place world (.createdFile path) before after)
    (created : world.createFile path = .ok ())
    : after = before.put (place world path) [] := by
  cases touches with
  | created _ => rfl
  | refused failed => cases created.symm.trans failed
  | inert untargeted => cases untargeted

theorem Touches.of_refused {path : PathBuf} {error : ForeignError}
    (touches : Touches place world (.createdFile path) before after)
    (failed : world.createFile path = .error error)
    : after = before := by
  cases touches with
  | created done => cases done.symm.trans failed
  | refused _ => rfl
  | inert _ => rfl

/-- A file that is written has the contents. -/
theorem Touches.of_wrote {path : PathBuf} {contents : String}
    (touches : Touches place world (.wroteFile path contents) before after)
    (written : world.writeFile path contents = .ok ())
    : after = before.put (place world path) (asBytes contents) := by
  cases touches with
  | wrote _ => rfl
  | cut failed _ => cases written.symm.trans failed
  | inert untargeted => cases untargeted

/-- A write that fails leaves a part of the contents. -/
theorem Touches.of_cut {path : PathBuf} {contents : String} {error : ForeignError}
    (touches : Touches place world (.wroteFile path contents) before after)
    (failed : world.writeFile path contents = .error error)
    : ∃ written, written <+: asBytes contents
      ∧ after = before.put (place world path) written := by
  cases touches with
  | wrote done => cases done.symm.trans failed
  | cut _ part => exact ⟨_, part, rfl⟩
  | inert untargeted => cases untargeted

/-- What a run of `init` leaves, by how it exits: only its own file changes, and a run that
does not succeed may have truncated it.
-/
inductive InitLeaves (crates : Crates) (here : ι) (before : Disk ι)
    : ExitStatus → Disk ι → Prop
  | kept : InitLeaves crates here before .failure before
  | emptied : InitLeaves crates here before .panic (before.put here [])
  | cut {written} (part : written <+: starterBytes crates)
    : InitLeaves crates here before .failure (before.put here written)
  | written : InitLeaves crates here before .success (before.put here (starterBytes crates))

theorem InitLeaves.elsewhere {here there : ι} {status : ExitStatus}
    (leaves : InitLeaves crates here before status after) (apart : there ≠ here)
    : after there = before there := by
  cases leaves with
  | kept => rfl
  | emptied => exact Disk.put_other apart _
  | cut _ => exact Disk.put_other apart _
  | written => exact Disk.put_other apart _

/-- A file that `init` changed holds a first part of the starter configuration. -/
theorem InitLeaves.starter {here : ι} {status : ExitStatus}
    (leaves : InitLeaves crates here before status after)
    : after here = before here
      ∨ ∃ written, written <+: starterBytes crates ∧ after here = some written := by
  cases leaves with
  | kept => exact Or.inl rfl
  | emptied => exact Or.inr ⟨[], List.nil_prefix, Disk.put_same _ _ _⟩
  | cut part => exact Or.inr ⟨_, part, Disk.put_same _ _ _⟩
  | written => exact Or.inr ⟨_, List.prefix_refl _, Disk.put_same _ _ _⟩

theorem Disk.put_put (disk : Disk ι) (here : ι) (first second : List UInt8)
    : (disk.put here first).put here second = disk.put here second :=
  Function.update_idem ..

theorem Invokes.init {config : PathBuf}
    (invokes : Invokes place crates (world, .init config) before after)
    : InitLeaves crates (place world config) before (main crates world (.init config)).1
        after := by
  have touches := invokes.touches
  have ends := main_init_ends crates world config
  generalize main crates world (.init config) = ended at touches ends
  obtain ⟨status, log⟩ := ended
  simp only at touches ends ⊢
  cases ends with
  | refused failed =>
      simp only [leads_cons_iff, leads_nil_iff] at touches
      obtain ⟨created, first, reported, second, rfl⟩ := touches
      rw [second.inert_eq rfl, first.of_refused failed]
      exact .kept
  | unserialized done failed =>
      simp only [leads_cons_iff, leads_nil_iff] at touches
      obtain ⟨created, first, rfl⟩ := touches
      rw [first.of_created done]
      exact .emptied
  | cut done serialized failed =>
      simp only [leads_cons_iff, leads_nil_iff] at touches
      obtain ⟨created, first, wrote, second, reported, third, rfl⟩ := touches
      obtain ⟨written, part, left⟩ := second.of_cut failed
      rw [third.inert_eq rfl, left, first.of_created done, Disk.put_put]
      apply InitLeaves.cut
      rwa [starterBytes_of_serialized serialized]
  | wrote done serialized written =>
      simp only [leads_cons_iff, leads_nil_iff] at touches
      obtain ⟨created, first, wrote, second, rfl⟩ := touches
      rw [second.of_wrote written, first.of_created done, Disk.put_put,
        ← starterBytes_of_serialized serialized]
      exact .written

/-- Only a run of `init` that leads to a place changes what is there. -/
theorem Invokes.elsewhere {action : Action} {there : ι}
    (invokes : Invokes place crates (world, action) before after)
    (apart : ∀ config, action = .init config → place world config ≠ there)
    : after there = before there := by
  cases action with
  | init config => exact invokes.init.elsewhere (apart config rfl).symm
  | key config => rw [invokes.other nofun]
  | probe config => rw [invokes.other nofun]
  | store config => rw [invokes.other nofun]
  | restore config => rw [invokes.other nofun]

/-- What a session leaves at a place: what was there, or, where an `init` was led to it, the
starter configuration or a first part of it.
-/
structure SessionLeaves (place : Places ι) (crates : Crates)
    (invocations : List (World × Action)) (start final : Disk ι) (here : ι)
    : Prop where
  elsewhere : (∀ invocation ∈ invocations, ∀ config, invocation.2 = .init config
      → place invocation.1 config ≠ here)
    → final here = start here
  starter : final here ≠ start here
    → ∃ written, written <+: starterBytes crates ∧ final here = some written

/-- Sessions of any commands in any order. Witness: induction over the session, with what one
run leaves.
-/
theorem session_leaves {invocations : List (World × Action)} {start final : Disk ι}
    (session : Session place crates invocations start final) (here : ι)
    : SessionLeaves place crates invocations start final here where
  elsewhere := by
    intro apart
    apply session.unchanged fun disk => disk here
    intro invocation member disk next invokes
    exact invokes.elsewhere (apart invocation member)
  starter := by
    have left : final here = start here
        ∨ ∃ written, written <+: starterBytes crates ∧ final here = some written := by
      apply session.invariant (P := fun disk => disk here = start here
        ∨ ∃ written, written <+: starterBytes crates ∧ disk here = some written) _ (Or.inl rfl)
      intro invocation _ disk next invokes known
      by_cases led : ∃ config, invocation.2 = .init config
          ∧ place invocation.1 config = here
      · obtain ⟨world, action⟩ := invocation
        obtain ⟨config, rfl, rfl⟩ := led
        rcases invokes.init.starter with same | written
        · rw [same]
          exact known
        · exact Or.inr written
      · rw [invokes.elsewhere fun config same led' => led ⟨config, same, led'⟩]
        exact known
    exact fun changed => left.resolve_left changed

/-- The starter configuration as TOML. -/
def starterText : String :=
  "project = \"my-project\"\npaths = [\"foo.txt\"]\nfallback_keys = []\n\n"
    ++ "[key]\nfiles = [\"bar.txt\"]\n"

/-- Third-party code that reads the starter configuration back. -/
def starterCrates : Crates :=
  {
    plainCrates with
    tomlToString := fun _ => .ok starterText
    toml := fun text =>
      if text = starterText then .ok Setting.starter
      else .error { message := "expected an equals, found a newline" }
  }

/-- A run in a directory, where `c.toml` holds a text or is missing. -/
def diskWorld (directory : String) (text : Option String) : World :=
  {
    secretWorld "alpha" "t" with
    currentDir := .ok (PathBuf.ofStr directory)
    readToString := fun path =>
      match if path = PathBuf.ofStr "c.toml" then text else none with
      | some text => .ok text
      | none => .error { message := "No such file or directory (os error 2)" }
  }

/-- Paths lead where joining them to the current directory says. -/
def placeIn : Places PathBuf := fun world path =>
  match world.currentDir with
  | .ok cwd => cwd.join path
  | .error _ => path

/-- What is seen through `c.toml` is in the directory of the run. -/
theorem sees_diskWorld {disk : Disk PathBuf} {directory : String} {text : Option String}
    (holds : ∀ known, text = some known
      → disk ((PathBuf.ofStr directory).join (PathBuf.ofStr "c.toml")) = some (asBytes known))
    : Sees placeIn disk (diskWorld directory text) := by
  intro path known readable
  simp only [diskWorld] at readable
  split at readable
  · rename_i found
    obtain rfl := Except.ok.inj readable
    split at found
    · rename_i same
      subst same
      exact ⟨_, holds _ found, fromUtf8?_asBytes _⟩
    · cases found
  · cases readable

/-- A disk with one file, below `/other`. -/
def otherDisk : Disk PathBuf := fun here =>
  if here = PathBuf.ofStr "/other/c.toml" then some (asBytes "x") else none

/-- Two runs with the same relative path, from two directories. -/
def starterRuns : List (World × Action) :=
  [(diskWorld "/work" none, .init (PathBuf.ofStr "c.toml")),
    (diskWorld "/other" (some "x"), .key (PathBuf.ofStr "c.toml"))]

/-- The disk after them: only the first one wrote. -/
def starterDisk : Disk PathBuf :=
  otherDisk.put (PathBuf.ofStr "/work/c.toml") (asBytes starterText)

theorem starterDisk_other
    : starterDisk (PathBuf.ofStr "/other/c.toml") = some (asBytes "x") := by
  rw [starterDisk, Disk.put_other (by decide)]
  exact if_pos rfl

theorem starter_session : Session placeIn starterCrates starterRuns otherDisk starterDisk := by
  have here : placeIn (diskWorld "/work" none) (PathBuf.ofStr "c.toml")
      = PathBuf.ofStr "/work/c.toml" := by
    decide
  have initialized : Invokes placeIn starterCrates
      (diskWorld "/work" none, .init (PathBuf.ofStr "c.toml")) otherDisk starterDisk := by
    constructor
    · apply sees_diskWorld
      intro known held
      cases held
    · change Leads (Touches placeIn (diskWorld "/work" none))
        [.createdFile (PathBuf.ofStr "c.toml"), .wroteFile (PathBuf.ofStr "c.toml") starterText]
        otherDisk starterDisk
      refine .cons (.created rfl) (leads_cons_iff.mpr ⟨_, .wrote rfl, ?_⟩)
      rw [leads_nil_iff, here, Disk.put_put]
      rfl
  have refused : Invokes placeIn starterCrates
      (diskWorld "/other" (some "x"), .key (PathBuf.ofStr "c.toml")) starterDisk
      starterDisk := by
    constructor
    · apply sees_diskWorld
      intro known held
      obtain rfl := Option.some.inj held
      exact starterDisk_other
    · apply leads_untargeted
      apply untargeted_of_other
      intro config same
      cases same
  exact .cons initialized (.cons refused .nil)

/-- The place of the first run is written and that of the second stays as it was. -/
theorem session_leaves_starter
    : SessionLeaves placeIn starterCrates starterRuns otherDisk starterDisk
          (PathBuf.ofStr "/work/c.toml")
        ∧ SessionLeaves placeIn starterCrates starterRuns otherDisk starterDisk
          (PathBuf.ofStr "/other/c.toml") :=
  ⟨session_leaves starter_session _, session_leaves starter_session _⟩

-----------------------------------------------------------------------------------------
-- The configuration that `init` wrote
-----------------------------------------------------------------------------------------

/-- An `init` that succeeded has serialized and written the starter configuration. -/
theorem exists_starter_of_success {config : PathBuf}
    (invokes : Invokes place crates (world, .init config) before after)
    (success : (main crates world (.init config)).1 = .success)
    : ∃ toml, crates.tomlToString Setting.starter = .ok toml
      ∧ after (place world config) = some (asBytes toml) := by
  have leaves := invokes.init
  have ends := main_init_ends crates world config
  rw [success] at leaves ends
  generalize (main crates world (.init config)).2 = log at ends
  cases ends with
  | wrote _ serialized _ =>
      refine ⟨_, serialized, ?_⟩
      cases leaves
      rw [Disk.put_same, starterBytes_of_serialized serialized]

/-- The starter configuration has no references, so that loading leaves it as it is. -/
theorem newFromStr_starter {toml : String → Except ForeignError Setting} {var : Variables}
    {text : String} (parsed : toml text = .ok Setting.starter)
    : Setting.newFromStr toml var text = .ok Setting.starter := by
  refine Setting.newFromStr_eq_ok_iff.mpr ⟨Setting.starter, parsed,
    expandEnvVars_of_free (by decide), by decide, rfl, rfl, rfl⟩

/-- What a later command loads from the place of a configuration that `init` wrote. -/
theorem loadSetting_after_init {later : List (World × Action)} {start final : Disk ι}
    {initial : World} {config path : PathBuf} {text : String}
    (reads : ∀ toml, crates.tomlToString Setting.starter = .ok toml
      → crates.toml toml = .ok Setting.starter)
    (session : Session place crates ((initial, .init config) :: later) start final)
    (success : (main crates initial (.init config)).1 = .success)
    (kept : ∀ invocation ∈ later, ∀ other, invocation.2 = .init other
      → place invocation.1 other ≠ place initial config)
    (sees : Sees place final world) (led : place world path = place initial config)
    (readable : world.readToString path = .ok text)
    : (Run.loadSetting crates world path).outcome = .ok Setting.starter := by
  obtain ⟨between, first, rest⟩ := leads_cons_iff.mp session
  obtain ⟨toml, serialized, written⟩ := exists_starter_of_success first success
  have there : final (place initial config) = some (asBytes toml) := by
    rw [← written]
    apply rest.unchanged fun disk => disk (place initial config)
    intro invocation member disk next invokes
    exact invokes.elsewhere (kept invocation member)
  obtain ⟨bytes, found, decoded⟩ := sees path text readable
  rw [led, there] at found
  obtain rfl := Option.some.inj found
  obtain rfl : toml = text := Option.some.inj ((fromUtf8?_asBytes toml).symm.trans decoded)
  rw [Run.loadSetting_eq_ok_iff, Setting.newFromFile, readable]
  exact newFromStr_starter (reads toml serialized)

/-- A configuration that `init` wrote is one that `key` accepts, whatever ran in between, as
long as no other `init` was led to its place: `key` prints the key of the starter
configuration, and fails only where that key cannot be resolved. Witness: the disk still
holds what was written, and loading expands nothing in it.
-/
theorem key_after_init {later : List (World × Action)} {start final : Disk ι}
    {initial : World} {config path cwd : PathBuf} {text : String}
    (reads : ∀ toml, crates.tomlToString Setting.starter = .ok toml
      → crates.toml toml = .ok Setting.starter)
    (session : Session place crates ((initial, .init config) :: later) start final)
    (success : (main crates initial (.init config)).1 = .success)
    (kept : ∀ invocation ∈ later, ∀ other, invocation.2 = .init other
      → place invocation.1 other ≠ place initial config)
    (sees : Sees place final world) (led : place world path = place initial config)
    (readable : world.readToString path = .ok text) (located : world.currentDir = .ok cwd)
    (key : String)
    : (main crates world (.key path)).1 = .success
        ∧ stdoutText (main crates world (.key path)).2 = key ++ "\n"
      ↔ (Setting.starter.resolvePrimaryKey crates.sha256 world.files cwd).outcome
        = .ok key := by
  have loaded := Run.loadSetting_eq_ok_iff.mp
    (loadSetting_after_init reads session success kept sees led readable)
  constructor
  · intro printed
    obtain ⟨succeeded, shown⟩ := printed
    obtain ⟨_, _, found, common⟩ :=
      key_outcome_ok_iff.mp (main_status_eq_success_iff.mp succeeded)
    obtain rfl := Except.ok.inj (located.symm.trans common.currentDir)
    obtain rfl := Except.ok.inj (loaded.symm.trans common.loaded)
    rw [stdoutText_main, run, stdoutText_of_printed (printed_key common)] at shown
    rw [← (String.append_left_inj _).mp shown]
    exact common.resolved
  · intro resolved
    have common : PrimaryKeyOf crates world path cwd Setting.starter key :=
      ⟨located, loaded, resolved⟩
    refine ⟨main_status_eq_success_iff.mpr (key_outcome_ok_iff.mpr ⟨_, _, _, common⟩), ?_⟩
    rw [stdoutText_main, run, stdoutText_of_printed (printed_key common)]

/-- With the run in the other directory in between. -/
theorem key_after_init_default
    : (main starterCrates (diskWorld "/work" (some starterText))
          (.key (PathBuf.ofStr "c.toml"))).1 = .success
        ∧ stdoutText (main starterCrates (diskWorld "/work" (some starterText))
          (.key (PathBuf.ofStr "c.toml"))).2 = "default\n" := by
  have sees : Sees placeIn starterDisk (diskWorld "/work" (some starterText)) := by
    apply sees_diskWorld
    intro known held
    obtain rfl := Option.some.inj held
    have here : (PathBuf.ofStr "/work").join (PathBuf.ofStr "c.toml")
        = PathBuf.ofStr "/work/c.toml" := by
      decide
    rw [here, starterDisk, Disk.put_same]
  refine (key_after_init ?_ starter_session rfl ?_ sees rfl rfl rfl "default").mpr rfl
  · intro toml serialized
    obtain rfl := Except.ok.inj serialized
    simp [starterCrates]
  · intro invocation member other init
    obtain rfl := List.mem_singleton.mp member
    cases init

end Runs

end Cafce
