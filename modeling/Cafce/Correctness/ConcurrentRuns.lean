import Cafce.Correctness.Sessions
import Cafce.Library.Interleaving

/-! Runs of the program at the same time on one disk, their events in any interleaving: what
is left where several of them write a configuration.
-/

namespace Cafce

open Fallible Interleaving StateEffects

/-- Contents after a write at their start, which keeps what lies behind it. -/
def overwrite (old new : List UInt8) : List UInt8 :=
  new ++ old.drop new.length

/-- Two first parts of one text, one written over the other, are a first part of it. -/
theorem overwrite_part {old new whole : List UInt8} (oldPart : old <+: whole)
    (newPart : new <+: whole)
    : overwrite old new <+: whole := by
  rcases List.prefix_or_prefix_of_prefix oldPart newPart with shorter | longer
  · rw [overwrite, List.drop_eq_nil_of_le shorter.length_le, List.append_nil]
    exact newPart
  · obtain ⟨behind, rfl⟩ := longer
    rw [overwrite, List.drop_left]
    exact oldPart

theorem overwrite_whole {old whole : List UInt8} (part : old <+: whole)
    : overwrite old whole = whole := by
  rw [overwrite, List.drop_eq_nil_of_le part.length_le, List.append_nil]

/-- What an event of one of the runs does to the disk. Each run writes at the start of the
file that it has opened, whatever others have written there meanwhile.
-/
inductive TouchesAmid {ρ ι : Type} [DecidableEq ι] (place : Places ι) (worlds : ρ → World)
    : ρ × Event → Disk ι → Disk ι → Prop
  | created {run path disk} (done : (worlds run).createFile path = .ok ())
    : TouchesAmid place worlds (run, .createdFile path) disk
        (disk.put (place (worlds run) path) [])
  | refused {run path disk error} (failed : (worlds run).createFile path = .error error)
    : TouchesAmid place worlds (run, .createdFile path) disk disk
  | wrote {run path contents disk} (done : (worlds run).writeFile path contents = .ok ())
    : TouchesAmid place worlds (run, .wroteFile path contents) disk
        (disk.put (place (worlds run) path)
          (overwrite ((disk (place (worlds run) path)).getD []) (asBytes contents)))
  | cut {run path contents disk error written}
    (failed : (worlds run).writeFile path contents = .error error)
    (part : written <+: asBytes contents)
    : TouchesAmid place worlds (run, .wroteFile path contents) disk
        (disk.put (place (worlds run) path)
          (overwrite ((disk (place (worlds run) path)).getD []) written))
  | inert {run event disk} (untargeted : event.target = none)
    : TouchesAmid place worlds (run, event) disk disk

-----------------------------------------------------------------------------------------
-- The events of one `init`
-----------------------------------------------------------------------------------------

/-- What a run of `init` does next: it creates its file, then it writes the starter
configuration, and then it can only report a failure.
-/
inductive InitNext (crates : Crates) (world : World) (config : PathBuf)
    : List Event → Event → Prop
  | creates : InitNext crates world config [] (.createdFile config)
  | writes {toml} (created : world.createFile config = .ok ())
    (serialized : crates.tomlToString Setting.starter = .ok toml)
    : InitNext crates world config [.createdFile config] (.wroteFile config toml)
  | reports {done event} (begun : done ≠ []) (untargeted : event.target = none)
    (failed : (main crates world (.init config)).1 ≠ .success)
    : InitNext crates world config done event

theorem initNext_of_logged {crates : Crates} {world : World} {config : PathBuf}
    {done : List Event} {event : Event}
    (next : done ++ [event] <+: (main crates world (.init config)).2)
    : InitNext crates world config done event := by
  have ends := main_init_ends crates world config
  have failing (other : (main crates world (.init config)).1 ≠ .success)
      {report : String} (reported : event = .stderr report) (begun : done ≠ [])
      : InitNext crates world config done event := by
    subst reported
    exact .reports begun rfl other
  generalize main crates world (.init config) = ended at next ends failing
  obtain ⟨status, log⟩ := ended
  simp only at next ends failing
  cases ends with
  | refused failed =>
      rcases done with _ | ⟨first, _ | ⟨second, done⟩⟩
      · obtain ⟨rfl, _⟩ := List.cons_prefix_cons.mp next
        exact .creates
      · obtain ⟨rfl, rest⟩ := List.cons_prefix_cons.mp next
        obtain ⟨rfl, _⟩ := List.cons_prefix_cons.mp rest
        exact failing (by decide) rfl (by simp)
      · simp at next
  | unserialized created failed =>
      rcases done with _ | ⟨first, done⟩
      · obtain ⟨rfl, _⟩ := List.cons_prefix_cons.mp next
        exact .creates
      · simp at next
  | cut created serialized failed =>
      rcases done with _ | ⟨first, _ | ⟨second, _ | ⟨third, done⟩⟩⟩
      · obtain ⟨rfl, _⟩ := List.cons_prefix_cons.mp next
        exact .creates
      · obtain ⟨rfl, rest⟩ := List.cons_prefix_cons.mp next
        obtain ⟨rfl, _⟩ := List.cons_prefix_cons.mp rest
        exact .writes created serialized
      · obtain ⟨rfl, rest⟩ := List.cons_prefix_cons.mp next
        obtain ⟨rfl, last⟩ := List.cons_prefix_cons.mp rest
        obtain ⟨rfl, _⟩ := List.cons_prefix_cons.mp last
        exact failing (by decide) rfl (by simp)
      · simp at next
  | wrote created serialized written =>
      rcases done with _ | ⟨first, _ | ⟨second, done⟩⟩
      · obtain ⟨rfl, _⟩ := List.cons_prefix_cons.mp next
        exact .creates
      · obtain ⟨rfl, rest⟩ := List.cons_prefix_cons.mp next
        obtain ⟨rfl, _⟩ := List.cons_prefix_cons.mp rest
        exact .writes created serialized
      · simp at next

/-- A run of `init` that succeeds has created its file and has written the starter. -/
theorem init_of_success {crates : Crates} {world : World} {config : PathBuf}
    (success : (main crates world (.init config)).1 = .success)
    : world.createFile config = .ok ()
      ∧ ∃ toml, crates.tomlToString Setting.starter = .ok toml
        ∧ world.writeFile config toml = .ok ()
        ∧ (main crates world (.init config)).2
          = [.createdFile config, .wroteFile config toml] := by
  have ends := main_init_ends crates world config
  generalize main crates world (.init config) = ended at success ends
  obtain ⟨status, log⟩ := ended
  obtain rfl : status = .success := success
  cases ends with
  | wrote created serialized written => exact ⟨created, _, serialized, written, rfl⟩

-----------------------------------------------------------------------------------------
-- One place, event by event
-----------------------------------------------------------------------------------------

section Place

variable {ρ ι : Type} [DecidableEq ρ] [DecidableEq ι] {place : Places ι} {crates : Crates}
  {worlds : ρ → World} {actions : ρ → Action} {here : ι}

/-- A run of `init` that is led to a place and may create its file there. -/
structure InitAt (place : Places ι) (worlds : ρ → World) (actions : ρ → Action) (here : ι)
    (run : ρ) (config : PathBuf)
    : Prop where
  init : actions run = .init config
  led : place (worlds run) config = here
  created : (worlds run).createFile config = .ok ()

/-- The events of a run by itself. -/
def logOf (crates : Crates) (worlds : ρ → World) (actions : ρ → Action) (run : ρ)
    : List Event :=
  (main crates (worlds run) (actions run)).2

/-- What an event does to a place: nothing, or a run of `init` there has opened it, or has
written to what is there.
-/
inductive Moves (place : Places ι) (crates : Crates) (worlds : ρ → World)
    (actions : ρ → Action) (here : ι) (before : List (ρ × Event)) (run : ρ)
    : Event → Option (List UInt8) → Option (List UInt8) → Prop
  | idle {event contents}
    (settled : ∀ config, InitAt place worlds actions here run config
      → own run before ≠ [] ∧ (main crates (worlds run) (actions run)).1 ≠ .success)
    : Moves place crates worlds actions here before run event contents contents
  | opened {config contents} (atHere : InitAt place worlds actions here run config)
    (first : own run before = [])
    : Moves place crates worlds actions here before run (.createdFile config) contents
        (some [])
  | wrote {config contents toml written}
    (atHere : InitAt place worlds actions here run config)
    (begun : own run before = [.createdFile config])
    (part : written <+: starterBytes crates)
    (whole : (main crates (worlds run) (actions run)).1 = .success
      → written = starterBytes crates)
    : Moves place crates worlds actions here before run (.wroteFile config toml) contents
        (some (overwrite (contents.getD []) written))

/-- Runs of other commands, and of `init` elsewhere, do nothing to a place. -/
theorem Moves.of_untargeted {before : List (ρ × Event)} {run : ρ} {event : Event}
    {disk next : Disk ι} (touches : TouchesAmid place worlds (run, event) disk next)
    (apart : ∀ path, event.target = some path → place (worlds run) path ≠ here)
    (settled : ∀ config, InitAt place worlds actions here run config
      → own run before ≠ [] ∧ (main crates (worlds run) (actions run)).1 ≠ .success)
    : Moves place crates worlds actions here before run event (disk here) (next here) := by
  have same : next here = disk here := by
    cases touches with
    | created done => exact Disk.put_other (apart _ rfl).symm _
    | refused failed => rfl
    | wrote done => exact Disk.put_other (apart _ rfl).symm _
    | cut failed part => exact Disk.put_other (apart _ rfl).symm _
    | inert untargeted => rfl
  rw [same]
  exact .idle settled

/-- What a run of `init` at a place does next moves the place on. -/
theorem InitAt.moves {before : List (ρ × Event)} {run : ρ} {config : PathBuf} {event : Event}
    {disk next : Disk ι} (init : actions run = .init config)
    (led : place (worlds run) config = here)
    (goes : InitNext crates (worlds run) config (own run before) event)
    (touches : TouchesAmid place worlds (run, event) disk next)
    : Moves place crates worlds actions here before run event (disk here) (next here) := by
  subst led
  generalize done : own run before = known at goes
  cases goes with
  | creates =>
      cases touches with
      | created created =>
          rw [Disk.put_same]
          exact .opened ⟨init, rfl, created⟩ done
      | refused failed =>
          refine .idle fun other atHere => ?_
          obtain rfl := Action.init.inj (init.symm.trans atHere.init)
          cases failed.symm.trans atHere.created
      | inert untargeted => cases untargeted
  | writes created serialized =>
      have atHere : InitAt place worlds actions (place (worlds run) config) run config :=
        ⟨init, rfl, created⟩
      have starter := starterBytes_of_serialized serialized
      cases touches with
      | wrote written =>
          rw [Disk.put_same]
          exact .wrote atHere done (starter ▸ List.prefix_refl _) fun _ => starter.symm
      | cut failed part =>
          rw [Disk.put_same]
          refine .wrote atHere done (starter ▸ part) fun success => ?_
          rw [init] at success
          obtain ⟨_, toml, serialized', written, _⟩ := init_of_success success
          obtain rfl := Except.ok.inj (serialized.symm.trans serialized')
          cases failed.symm.trans written
      | inert untargeted => cases untargeted
  | reports begun untargeted failed =>
      apply Moves.of_untargeted touches
      · intro path targeted
        rw [untargeted] at targeted
        cases targeted
      · exact fun _ _ => ⟨done ▸ begun, init ▸ failed⟩

/-- Every event that a run can do next moves a place on, or leaves it. -/
theorem moves_of_touches {before : List (ρ × Event)} {run : ρ} {event : Event}
    {disk next : Disk ι} (goes : own run before ++ [event] <+: logOf crates worlds actions run)
    (touches : TouchesAmid place worlds (run, event) disk next)
    : Moves place crates worlds actions here before run event (disk here) (next here) := by
  by_cases led : ∃ config, actions run = .init config ∧ place (worlds run) config = here
  · obtain ⟨config, init, led⟩ := led
    rw [logOf, init] at goes
    exact InitAt.moves init led (initNext_of_logged goes) touches
  · apply Moves.of_untargeted touches
    · intro path targeted same
      rw [logOf] at goes
      have logged : event ∈ (main crates (worlds run) (actions run)).2 :=
        goes.subset (by simp)
      by_cases other : ∀ config, actions run ≠ .init config
      · rw [untargeted_of_other crates (worlds run) other event logged] at targeted
        cases targeted
      · obtain ⟨config, init⟩ := not_forall_not.mp other
        rw [init] at goes
        have after := initNext_of_logged goes
        generalize own run before = known at after
        cases after with
        | creates =>
            obtain rfl := Option.some.inj targeted
            exact led ⟨config, init, same⟩
        | writes created serialized =>
            obtain rfl := Option.some.inj targeted
            exact led ⟨config, init, same⟩
        | reports begun untargeted failed =>
            rw [untargeted] at targeted
            cases targeted
    · exact fun config atHere => absurd ⟨config, atHere.init, atHere.led⟩ led

/-- No run of `init` has begun at the place. -/
def NoneBegun (place : Places ι) (worlds : ρ → World) (actions : ρ → Action) (here : ι)
    (before : List (ρ × Event))
    : Prop :=
  ∀ run config, InitAt place worlds actions here run config → own run before = []

/-- Every `init` that is led to the place succeeds. -/
def AllSucceed (place : Places ι) (crates : Crates) (worlds : ρ → World)
    (actions : ρ → Action) (here : ι)
    : Prop :=
  ∀ run config, actions run = .init config → place (worlds run) config = here
    → (main crates (worlds run) (actions run)).1 = .success

/-- How far the runs of `init` at a place are: none has begun, or there is a first part of
the starter. Where all of them succeed, only one that has yet to write leaves less than all
of it.
-/
structure Progress (place : Places ι) (crates : Crates) (worlds : ρ → World)
    (actions : ρ → Action) (here : ι) (start : Option (List UInt8))
    (before : List (ρ × Event)) (contents : Option (List UInt8))
    : Prop where
  part : (NoneBegun place worlds actions here before ∧ contents = start)
    ∨ ∃ written, written <+: starterBytes crates ∧ contents = some written
  whole : AllSucceed place crates worlds actions here
    → NoneBegun place worlds actions here before
      ∨ contents = some (starterBytes crates)
      ∨ ∃ run config, InitAt place worlds actions here run config
        ∧ own run before = [.createdFile config]

omit [DecidableEq ι] in
/-- Every event keeps the progress. -/
theorem Progress.step {start : Option (List UInt8)} {before : List (ρ × Event)} {run : ρ}
    {event : Event} {contents next : Option (List UInt8)}
    (progress : Progress place crates worlds actions here start before contents)
    (moves : Moves place crates worlds actions here before run event contents next)
    : Progress place crates worlds actions here start (before ++ [(run, event)]) next := by
  cases moves with
  | idle settled =>
      have stays (none : NoneBegun place worlds actions here before)
          : NoneBegun place worlds actions here (before ++ [(run, event)]) := by
        intro other config atHere
        by_cases same : run = other
        · subst same
          exact absurd (none run config atHere) (settled config atHere).1
        · rw [own_concat_other same]
          exact none other config atHere
      refine ⟨progress.part.imp_left (And.imp_left stays), ?_⟩
      intro succeed
      rcases progress.whole succeed with none | whole | ⟨other, config, atHere, pending⟩
      · exact Or.inl (stays none)
      · exact Or.inr (Or.inl whole)
      · refine Or.inr (Or.inr ⟨other, config, atHere, ?_⟩)
        by_cases same : run = other
        · subst same
          exact absurd (succeed run config atHere.init atHere.led)
            (settled config atHere).2
        · rw [own_concat_other same]
          exact pending
  | @opened config _ atHere first =>
      refine ⟨Or.inr ⟨[], List.nil_prefix, rfl⟩, fun _ => ?_⟩
      refine Or.inr (Or.inr ⟨run, config, atHere, ?_⟩)
      rw [own_concat_self, first]
      rfl
  | @wrote config _ toml written atHere begun part whole =>
      rcases progress.part with ⟨none, _⟩ | ⟨old, oldPart, rfl⟩
      · rw [none run config atHere] at begun
        cases begun
      · refine ⟨Or.inr ⟨_, overwrite_part oldPart part, rfl⟩, fun succeed => ?_⟩
        have all := whole (succeed run config atHere.init atHere.led)
        rw [all]
        exact Or.inr (Or.inl (congrArg some (overwrite_whole oldPart)))

/-- What runs at the same time leave at a place. Where no `init` is led there, it is as it
was; else it is as it was or holds a first part of the starter configuration, at every moment
and however the runs end; and when all of the runs are over and each `init` there has
succeeded, it holds all of it.
-/
structure ConcurrentlyLeaves (place : Places ι) (crates : Crates) (worlds : ρ → World)
    (actions : ρ → Action) (here : ι) (schedule : List (ρ × Event)) (start final : Disk ι)
    : Prop where
  elsewhere : (∀ run config, actions run = .init config → place (worlds run) config ≠ here)
    → final here = start here
  part : final here = start here
    ∨ ∃ written, written <+: starterBytes crates ∧ final here = some written
  whole : Completes (logOf crates worlds actions) schedule
    → (∃ run config, actions run = .init config ∧ place (worlds run) config = here)
    → AllSucceed place crates worlds actions here
    → final here = some (starterBytes crates)

/-- Any commands at the same time, in any interleaving of their events. Witness: the progress
of the runs of `init` at the place, which every event keeps.
-/
theorem concurrent_leaves {schedule : List (ρ × Event)} {start final : Disk ι}
    (interleaves : Interleaves (logOf crates worlds actions) schedule)
    (leads : Leads (TouchesAmid place worlds) schedule start final) (here : ι)
    : ConcurrentlyLeaves place crates worlds actions here schedule start final := by
  have progress : Progress place crates worlds actions here (start here) schedule
      (final here) := by
    apply invariant (P := fun before disk => Progress place crates worlds actions here
      (start here) before (disk here)) interleaves leads
    · exact ⟨Or.inl ⟨fun _ _ _ => rfl, rfl⟩, fun _ => Or.inl fun _ _ _ => rfl⟩
    · intro before run event disk next goes touches progress
      exact progress.step (moves_of_touches goes touches)
  refine ⟨?_, ?_, ?_⟩
  · intro apart
    apply invariant (P := fun _ disk => disk here = start here) interleaves leads rfl
    intro before run event disk next goes touches same
    rw [← same]
    have moves : Moves place crates worlds actions here before run event (disk here)
        (next here) :=
      moves_of_touches goes touches
    generalize disk here = contents at moves
    generalize next here = after at moves
    cases moves with
    | idle settled => rfl
    | opened atHere first => exact absurd atHere.led (apart run _ atHere.init)
    | wrote atHere begun part whole => exact absurd atHere.led (apart run _ atHere.init)
  · exact progress.part.imp_left And.right
  · intro completes led succeed
    obtain ⟨run, config, init, there⟩ := led
    have logged {other : ρ} {path : PathBuf} (init : actions other = .init path)
        (there : place (worlds other) path = here)
        : InitAt place worlds actions here other path
          ∧ ∃ toml, own other schedule = [.createdFile path, .wroteFile path toml] := by
      have success := succeed other path init there
      rw [init] at success
      obtain ⟨created, toml, _, _, log⟩ := init_of_success success
      refine ⟨⟨init, there, created⟩, toml, ?_⟩
      rw [completes other, logOf, init, log]
    rcases progress.whole succeed with none | whole | ⟨other, path, atHere, pending⟩
    · obtain ⟨atHere, toml, own_log⟩ := logged init there
      rw [none run config atHere] at own_log
      cases own_log
    · exact whole
    · obtain ⟨_, toml, own_log⟩ := logged atHere.init atHere.led
      rw [pending] at own_log
      cases own_log

end Place

/-- Two runs of `init` on one file, each of which creates it before either writes. -/
def twoInits : List (Bool × Event) :=
  [(true, .createdFile (PathBuf.ofStr "c.toml")),
    (false, .createdFile (PathBuf.ofStr "c.toml")),
    (false, .wroteFile (PathBuf.ofStr "c.toml") starterText),
    (true, .wroteFile (PathBuf.ofStr "c.toml") starterText)]

theorem concurrent_leaves_twoInits
    : ConcurrentlyLeaves (fun _ _ => ()) starterCrates (fun _ => diskWorld "/work" none)
        (fun _ => .init (PathBuf.ofStr "c.toml")) () twoInits (fun _ => none)
        (fun _ => some (starterBytes starterCrates)) := by
  have completes : Completes (logOf starterCrates (fun _ => diskWorld "/work" none)
      fun _ => .init (PathBuf.ofStr "c.toml")) twoInits := by
    intro run
    cases run <;> rfl
  have whole (disk : Disk Unit) (contents : List UInt8)
      : disk.put () contents = fun _ => some contents := by
    funext here
    exact Disk.put_same disk () contents
  apply concurrent_leaves completes.interleaves
  refine .cons (.created rfl) (.cons (.created rfl) (.cons (.wrote rfl) ?_))
  refine leads_cons_iff.mpr ⟨_, .wrote rfl, ?_⟩
  have starter : starterBytes starterCrates = asBytes starterText := rfl
  simp only [whole, Option.getD_some]
  rw [leads_nil_iff, starter, overwrite_whole List.nil_prefix,
    overwrite_whole (List.prefix_refl _)]

end Cafce
