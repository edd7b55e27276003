import Cafce.Library.DelimitedTemplate
import Cafce.Library.Fallible
import Cafce.Model.Errors
import Cafce.Model.Paths

/-! The configuration: its data, the expansion of variable references in it and its loading. -/

namespace Cafce

open DelimitedTemplate WeightedText

/-- `setting::Key`; `keyPrefix` is the field `prefix`. -/
structure Key where
  files : List String
  keyPrefix : Option String
deriving DecidableEq, Repr

/-- `serde_either::StringOrStruct` -/
inductive StringOrStruct (α : Type)
  | string (literal : String)
  | struct (value : α)
deriving DecidableEq, Repr

/-- `setting::Setting` -/
structure Setting where
  project : String
  paths : List String
  key : StringOrStruct Key
  fallbackKeys : List String
deriving DecidableEq, Repr

/-- `std::env::var`, without the reason of a failure. -/
abbrev Variables := String → Option String

/-- What one pass of the loop of `expand_env_vars` does. -/
inductive Expansion
  | finished (result : List Char)
  | failed (error : SettingError)
  | continued (remaining result : List Char)
deriving DecidableEq, Repr

/-- One pass of the loop: `none` where a slice would panic. -/
def expandStep (var : Variables) (remaining result : List Char) : Option Expansion :=
  match strFind "$\x7b" remaining with
  | none => some (.finished (result ++ remaining))
  | some dollarPos => do
      let literal ← sliceTo remaining dollarPos
      let afterBrace ← sliceFrom remaining (dollarPos + 2)
      -- the name ends at the first closing brace, whatever stands before it
      match strFind "\x7d" afterBrace with
      | none => some (.failed .unterminatedVariableRef)
      | some closePos => do
          let varName ← sliceTo afterBrace closePos
          match var (String.ofList varName) with
          | none => some (.failed (.undefinedVariable (String.ofList varName)))
          | some value => do
              let rest ← sliceFrom afterBrace (closePos + 1)
              some (.continued rest (result ++ literal ++ value.toList))

/-- A pass that continues has consumed a part of the text. -/
theorem expandStep_shorter {var : Variables} {remaining result rest next : List Char}
    (step : expandStep var remaining result = some (.continued rest next))
    : rest.length < remaining.length := by
  rw [expandStep] at step
  split at step
  · cases step
  · obtain ⟨literal, _, step⟩ := Option.bind_eq_some_iff.mp step
    obtain ⟨afterBrace, opened, step⟩ := Option.bind_eq_some_iff.mp step
    split at step
    · cases step
    · obtain ⟨varName, _, step⟩ := Option.bind_eq_some_iff.mp step
      split at step
      · cases step
      · obtain ⟨after, closed, step⟩ := Option.bind_eq_some_iff.mp step
        cases step
        exact (sliceFrom_length_le Char.utf8Size_pos closed).trans_lt
          (sliceFrom_length_lt Char.utf8Size_pos opened (by omega))

/-- The loop of `expand_env_vars`: `none` where it would panic. -/
def expandLoop (var : Variables) (remaining result : List Char)
    : Option (Except SettingError (List Char)) :=
  match _step : expandStep var remaining result with
  | none => none
  | some (.finished result) => some (.ok result)
  | some (.failed error) => some (.error error)
  | some (.continued rest next) => expandLoop var rest next
termination_by remaining.length
decreasing_by exact expandStep_shorter _step

/-- `${` and `}` -/
def references : Delimiters Char where
  opening := "$\x7b".toList
  closing := "\x7d".toList
  opening_ne_nil := by decide
  closing_ne_nil := by decide
  opening_unbordered := unbordered_pair (by decide)
  closing_unbordered := unbordered_singleton _

/-- The template that a text is. -/
def templateOf (text : String) : Template references :=
  template references text.toList

/-- The environment of templates: names and values as characters. -/
def charEnv (var : Variables) (name : List Char) : Option (List Char) :=
  (var (String.ofList name)).map String.toList

/-- The error that reports a failure of evaluation. -/
def settingError : Failure Char → SettingError
  | .undefined name => .undefinedVariable (String.ofList name)
  | .unterminated => .unterminatedVariableRef

theorem strFind_opening (text : List Char)
    : strFind "$\x7b" text
      = (breakOn references.opening text).map fun parts => extent Char.utf8Size parts.1 := rfl

theorem strFind_closing (text : List Char)
    : strFind "\x7d" text
      = (breakOn references.closing text).map fun parts => extent Char.utf8Size parts.1 := rfl

/-- No slice of a pass panics, and the pass follows the first reference of the text. -/
theorem expandStep_eq (var : Variables) (remaining result : List Char)
    : expandStep var remaining result
      = some (match breakOn references.opening remaining with
          | none => .finished (result ++ remaining)
          | some (literal, after) =>
              match breakOn references.closing after with
              | none => .failed .unterminatedVariableRef
              | some (name, rest) =>
                  match charEnv var name with
                  | none => .failed (.undefinedVariable (String.ofList name))
                  | some value => .continued rest (result ++ literal ++ value)) := by
  have openingWidth : extent Char.utf8Size references.opening = 2 := by decide
  have closingWidth : extent Char.utf8Size references.closing = 1 := by decide
  rw [expandStep, strFind_opening]
  cases opened : breakOn references.opening remaining with
  | none => rfl
  | some parts =>
      obtain ⟨literal, after⟩ := parts
      have before := sliceTo_of_breakOn Char.utf8Size_pos references.opening_ne_nil opened
      have behind := sliceFrom_of_breakOn Char.utf8Size_pos references.opening_ne_nil opened
      rw [openingWidth] at behind
      simp only [Option.map_some, sliceTo, before, sliceFrom, behind, strFind_closing,
        Option.bind_eq_bind, Option.bind_some]
      cases closed : breakOn references.closing after with
      | none => rfl
      | some parts =>
          obtain ⟨name, rest⟩ := parts
          have inside := sliceTo_of_breakOn Char.utf8Size_pos references.closing_ne_nil closed
          have outside :=
            sliceFrom_of_breakOn Char.utf8Size_pos references.closing_ne_nil closed
          rw [closingWidth] at outside
          simp only [Option.map_some, inside, outside, Option.bind_some, charEnv]
          cases var (String.ofList name) <;> rfl

theorem expandLoop_finished {var : Variables} {remaining result text : List Char}
    (step : expandStep var remaining result = some (.finished text))
    : expandLoop var remaining result = some (.ok text) := by
  rw [expandLoop]
  split <;> simp_all

theorem expandLoop_failed {var : Variables} {remaining result : List Char}
    {error : SettingError}
    (step : expandStep var remaining result = some (.failed error))
    : expandLoop var remaining result = some (.error error) := by
  rw [expandLoop]
  split <;> simp_all

theorem expandLoop_continued {var : Variables} {remaining result rest next : List Char}
    (step : expandStep var remaining result = some (.continued rest next))
    : expandLoop var remaining result = expandLoop var rest next := by
  rw [expandLoop]
  split <;> simp_all

/-- What the loop makes of the value of the template that is left. -/
def expanded (result : List Char)
    : Except (Failure Char) (List Char) → Except SettingError (List Char)
  | .ok text => .ok (result ++ text)
  | .error failure => .error (settingError failure)

/-- The loop evaluates the template that is left, after what it has already written.
Witness: induction along the decomposition of the text.
-/
theorem expandLoop_eq (var : Variables) (remaining result : List Char)
    : expandLoop var remaining result
      = some (expanded result ((parse references remaining).eval (charEnv var))) := by
  have step := expandStep_eq var remaining result
  fun_induction parse references remaining generalizing result with
  | case1 text absent =>
      rw [absent] at step
      rw [expandLoop_finished step]
      simp [Pieces.eval, Pieces.names, Pieces.substitute, expanded]
  | case2 text literal after opened unclosed =>
      rw [opened] at step
      simp only [unclosed] at step
      rw [expandLoop_failed step]
      rfl
  | case3 text literal after opened name rest closed ih =>
      rw [opened] at step
      simp only [closed] at step
      rw [Pieces.eval_prepend]
      cases value : charEnv var name with
      | none =>
          rw [value] at step
          rw [expandLoop_failed step]
          rfl
      | some value =>
          simp only [value] at step
          rw [expandLoop_continued step, ih _ (expandStep_eq var rest _)]
          cases (parse references rest).eval (charEnv var) <;> simp [expanded, Except.map]

/-- `expand_env_vars` never panics. -/
theorem expandLoop_isSome (var : Variables) (remaining result : List Char)
    : (expandLoop var remaining result).isSome := by
  simp [expandLoop_eq]

/-- `setting::expand_env_vars` -/
def expandEnvVars (var : Variables) (s : String) : Except SettingError String :=
  ((expandLoop var s.toList []).get (expandLoop_isSome var s.toList [])).map String.ofList

/-- Expansion is evaluation of the text's template. -/
theorem expandEnvVars_eq (var : Variables) (s : String)
    : expandEnvVars var s
      = match (templateOf s).eval (charEnv var) with
        | .ok text => .ok (String.ofList text)
        | .error failure => .error (settingError failure) := by
  simp only [expandEnvVars, expandLoop_eq, Option.get_some, templateOf, template]
  cases (parse references s.toList).eval (charEnv var) <;> rfl

/-- A text without a reference is a template without names. -/
theorem templateOf_of_free {s : String} (free : ¬ references.opening <:+: s.toList)
    : (templateOf s).toPieces = { head := s.toList, refs := [], tail := none } :=
  parse_of_absent ((breakOn_eq_none_iff references.opening_ne_nil).mpr free)

/-- A text without a reference is its own expansion. -/
theorem expandEnvVars_of_free {var : Variables} {s : String}
    (free : ¬ references.opening <:+: s.toList)
    : expandEnvVars var s = .ok s := by
  rw [expandEnvVars_eq, templateOf_of_free free]
  simp [Pieces.eval, Pieces.names, Pieces.substitute]

namespace Setting

/-- The key with its literal or its prefix expanded. -/
def expandKey (var : Variables) : StringOrStruct Key → Except SettingError (StringOrStruct Key)
  | .string literal => do
      let literal ← expandEnvVars var literal
      return .string literal
  | .struct k => do
      let expandedPrefix ← k.keyPrefix.mapM (expandEnvVars var)
      return .struct { files := k.files, keyPrefix := expandedPrefix }

/-- `Setting::new_from_str`; `toml` is `toml::from_str` at this type. -/
def newFromStr (toml : String → Except ForeignError Setting) (var : Variables) (s : String)
    : Except SettingError Setting := do
  let setting ← (toml s).mapError .toml
  let project ← expandEnvVars var setting.project
  -- only the project is checked after its expansion
  if project.isEmpty then
    throw .emptyProject
  let key ← expandKey var setting.key
  let fallbackKeys ← setting.fallbackKeys.mapM (expandEnvVars var)
  return { setting with project, key, fallbackKeys }

/-- Loading succeeds when every key-forming field expands, and to a nonempty project. -/
theorem newFromStr_eq_ok_iff {toml : String → Except ForeignError Setting} {var : Variables}
    {s : String} {loaded : Setting}
    : newFromStr toml var s = .ok loaded
      ↔ ∃ parsed,
        toml s = .ok parsed
        ∧ expandEnvVars var parsed.project = .ok loaded.project
        ∧ loaded.project ≠ ""
        ∧ expandKey var parsed.key = .ok loaded.key
        ∧ parsed.fallbackKeys.mapM (expandEnvVars var) = .ok loaded.fallbackKeys
        ∧ loaded.paths = parsed.paths := by
  rw [newFromStr, Fallible.bind_eq_ok_iff]
  apply exists_congr
  intro parsed
  rw [Fallible.mapError_eq_ok_iff]
  apply and_congr_right
  intro _
  cases expandEnvVars var parsed.project with
  | error error => simp
  | ok project =>
      rw [Fallible.ok_bind]
      by_cases empty : project.isEmpty
      · have blank : project = "" := String.isEmpty_iff.mp empty
        simp only [empty, if_true, Fallible.throw_eq, Fallible.error_bind, reduceCtorEq,
          false_iff]
        intro success
        exact success.2.1 ((Except.ok.inj success.1).symm.trans blank)
      · have filled : project ≠ "" := fun blank => empty (String.isEmpty_iff.mpr blank)
        rw [if_neg empty]
        simp only [Fallible.bind_eq_ok_iff, Fallible.pure_eq]
        constructor
        · intro success
          obtain ⟨key, expandedKey, fallbackKeys, expandedKeys, same⟩ := success
          cases same
          exact ⟨rfl, filled, expandedKey, expandedKeys, rfl⟩
        · intro success
          obtain ⟨same, _, expandedKey, expandedKeys, paths⟩ := success
          obtain rfl := Except.ok.inj same
          refine ⟨loaded.key, expandedKey, loaded.fallbackKeys, expandedKeys, ?_⟩
          rw [← paths]

/-- `Setting::new_from_file`; `readToString` opens and reads a file. -/
def newFromFile (toml : String → Except ForeignError Setting) (var : Variables)
    (readToString : PathBuf → Except ForeignError String) (path : PathBuf)
    : Except SettingError Setting := do
  let contents ← (readToString path).mapError .io
  newFromStr toml var contents

/-- What `Setting::init_to_file` writes, as a value. -/
def starter : Setting where
  project := "my-project"
  paths := ["foo.txt"]
  key := .struct { files := ["bar.txt"], keyPrefix := none }
  fallbackKeys := []

end Setting

end Cafce
