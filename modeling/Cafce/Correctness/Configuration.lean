import Cafce.Model.Setting

/-! What loading a configuration does to its texts: the template language of one text, and
the order of expansion and of errors over all fields.
-/

namespace Cafce

open DelimitedTemplate Fallible

/-- The value of a variable, as characters; empty where it is not defined. -/
def valueOf (var : Variables) (name : List Char) : List Char :=
  ((var (String.ofList name)).getD "").toList

theorem charEnv_getD (var : Variables)
    : (fun name => (charEnv var name).getD []) = valueOf var := by
  funext name
  simp only [charEnv, valueOf]
  cases var (String.ofList name) <;> rfl

/-- Every text is spelled by exactly one template, and expansion reports the first undefined
name of that template, else an unclosed tail, else inserts every value as it is.
-/
theorem expandEnvVars_template (s : String)
    : ∃ template : Template references,
        template.render references = s.toList
        ∧ (∀ other : Template references,
          other.render references = s.toList → other = template)
        ∧ ∀ var,
          expandEnvVars var s
            = match template.names.find? fun name => (var (String.ofList name)).isNone with
              | some name => .error (.undefinedVariable (String.ofList name))
              | none =>
                  match template.tail with
                  | some _ => .error .unterminatedVariableRef
                  | none =>
                      .ok (String.ofList (template.head
                        ++ template.refs.flatMap fun ref => valueOf var ref.1 ++ ref.2)) := by
  obtain ⟨found, spells, unique⟩ := existsUnique_template references s.toList
  have same : templateOf s = found := unique _ (render_parse references s.toList)
  refine ⟨found, spells, unique, fun var => ?_⟩
  have undefinedNames : (fun name => (charEnv var name).isNone)
      = fun name => (var (String.ofList name)).isNone := by
    funext name
    simp [charEnv]
  rw [expandEnvVars_eq, same, Pieces.eval, undefinedNames, charEnv_getD]
  cases found.names.find? fun name => (var (String.ofList name)).isNone with
  | some name => rfl
  | none =>
      cases found.tail with
      | some _ => rfl
      | none => rfl

/-- The texts of a key that are expanded: a literal, or a prefix if there is one. -/
def keyTexts : StringOrStruct Key → List String
  | .string literal => [literal]
  | .struct k => k.keyPrefix.toList

/-- The texts of a configuration that are expanded. -/
def expandedTexts (parsed : Setting) : List String :=
  parsed.project :: keyTexts parsed.key ++ parsed.fallbackKeys

/-- The variables that a configuration refers to. -/
def referredNames (parsed : Setting) : List String :=
  (expandedTexts parsed).flatMap fun text => (templateOf text).names.map String.ofList

theorem expandEnvVars_congr {left right : Variables} {s : String}
    (agree : ∀ name ∈ (templateOf s).names, left (String.ofList name) = right (String.ofList name))
    : expandEnvVars left s = expandEnvVars right s := by
  rw [expandEnvVars_eq, expandEnvVars_eq, Pieces.eval_congr]
  intro name member
  rw [charEnv, charEnv, agree name member]

theorem expandKey_congr {left right : Variables} {key : StringOrStruct Key}
    (agree : ∀ text ∈ keyTexts key, expandEnvVars left text = expandEnvVars right text)
    : Setting.expandKey left key = Setting.expandKey right key := by
  cases key with
  | string literal =>
      rw [Setting.expandKey, Setting.expandKey, agree literal List.mem_cons_self]
  | struct k =>
      rw [Setting.expandKey, Setting.expandKey]
      cases given : k.keyPrefix with
      | none => rfl
      | some text =>
          have same : expandEnvVars left text = expandEnvVars right text :=
            agree text (by simp [keyTexts, given])
          simp only [Option.mapM_some, same]

/-- Loading depends on the variables that the configuration refers to only. -/
theorem newFromStr_congr {toml : String → Except ForeignError Setting}
    {left right : Variables} {s : String}
    (agree : ∀ parsed, toml s = .ok parsed
      → ∀ name ∈ referredNames parsed, left name = right name)
    : Setting.newFromStr toml left s = Setting.newFromStr toml right s := by
  rw [Setting.newFromStr, Setting.newFromStr]
  cases read : toml s with
  | error error => simp only [Except.mapError, error_bind]
  | ok parsed =>
      have expansions : ∀ text ∈ expandedTexts parsed,
          expandEnvVars left text = expandEnvVars right text := by
        intro text member
        apply expandEnvVars_congr
        intro name inside
        exact agree parsed read _
          (List.mem_flatMap.mpr ⟨text, member, List.mem_map_of_mem inside⟩)
      have project := expansions parsed.project List.mem_cons_self
      have key : Setting.expandKey left parsed.key = Setting.expandKey right parsed.key :=
        expandKey_congr fun text member =>
          expansions text (List.mem_cons_of_mem _ (List.mem_append_left _ member))
      have fallbackKeys : parsed.fallbackKeys.mapM (expandEnvVars left)
          = parsed.fallbackKeys.mapM (expandEnvVars right) :=
        mapM_congr fun text member =>
          expansions text (List.mem_cons_of_mem _ (List.mem_append_right _ member))
      simp only [Except.mapError, ok_bind, project, key, fallbackKeys]

/-- The text refers to the name by a complete `${name}`, when it is read as a template. -/
def RefersTo (text name : String) : Prop :=
  ∃ template : Template references,
    template.render references = text.toList ∧ name.toList ∈ template.names

theorem refersTo_of_mem {text : String} {name : List Char}
    (member : name ∈ (templateOf text).names)
    : RefersTo text (String.ofList name) :=
  ⟨templateOf text, render_parse references text.toList, by simpa using member⟩

/-- One of the expanded texts refers to the name: the project, a literal key or the prefix of
a structured one, or a fallback key.
-/
def NamesVariable (parsed : Setting) (name : String) : Prop :=
  ∃ text ∈ expandedTexts parsed, RefersTo text name

/-- What loading a text depends on in the environment. -/
structure LoadsByNames (toml : String → Except ForeignError Setting) (s : String) : Prop where
  agreeing : ∀ left right : Variables,
    (∀ parsed, toml s = .ok parsed
      → ∀ name, NamesVariable parsed name → left name = right name)
    → Setting.newFromStr toml left s = Setting.newFromStr toml right s
  unnamed : ∀ parsed name, toml s = .ok parsed → ¬ NamesVariable parsed name
    → ∀ (var : Variables) (value : Option String),
      Setting.newFromStr toml (Function.update var name value) s
      = Setting.newFromStr toml var s

/-- Environments that agree on the names in the key-forming fields load alike, so a variable
that only files, paths or other variables mention never matters.
-/
theorem newFromStr_loadsByNames (toml : String → Except ForeignError Setting) (s : String)
    : LoadsByNames toml s := by
  have agreeing : ∀ left right : Variables,
      (∀ parsed, toml s = .ok parsed
        → ∀ name, NamesVariable parsed name → left name = right name)
      → Setting.newFromStr toml left s = Setting.newFromStr toml right s := by
    intro left right agree
    apply newFromStr_congr
    intro parsed read name referred
    obtain ⟨text, expanded, inNames⟩ := List.mem_flatMap.mp referred
    obtain ⟨chars, inTemplate, rfl⟩ := List.mem_map.mp inNames
    exact agree parsed read _ ⟨text, expanded, refersTo_of_mem inTemplate⟩
  refine ⟨agreeing, ?_⟩
  intro parsed name read unnamed var value
  apply agreeing
  intro other sameText referred named
  obtain rfl := Except.ok.inj (read.symm.trans sameText)
  have apart : referred ≠ name := by
    rintro rfl
    exact unnamed named
  exact Function.update_of_ne apart value var

/-- The errors that loading a parsed configuration can stop at, in order. -/
def loadingFailures (var : Variables) (parsed : Setting) : List SettingError :=
  failures (expandEnvVars var parsed.project)
    ++ (if expandEnvVars var parsed.project = .ok "" then [.emptyProject] else [])
    ++ (keyTexts parsed.key).flatMap (fun text => failures (expandEnvVars var text))
    ++ parsed.fallbackKeys.flatMap fun text => failures (expandEnvVars var text)

/-- The key keeps its form and its files; its literal or its prefix is expanded. -/
def KeyExpands (var : Variables) : StringOrStruct Key → StringOrStruct Key → Prop
  | .string raw, .string literal => expandEnvVars var raw = .ok literal
  | .struct raw, .struct k =>
      k.files = raw.files
      ∧ match raw.keyPrefix, k.keyPrefix with
        | none, none => True
        | some raw, some keyPrefix => expandEnvVars var raw = .ok keyPrefix
        | _, _ => False
  | _, _ => False

/-- The loaded fields are the expansions of the parsed ones; `paths` is left as it is. -/
structure Expands (var : Variables) (parsed loaded : Setting) : Prop where
  project : expandEnvVars var parsed.project = .ok loaded.project
  project_ne : loaded.project ≠ ""
  key : KeyExpands var parsed.key loaded.key
  fallbackKeys : List.Forall₂ (fun raw expanded => expandEnvVars var raw = .ok expanded)
    parsed.fallbackKeys loaded.fallbackKeys
  paths : loaded.paths = parsed.paths

theorem expandKey_eq_ok_iff {var : Variables} {raw expanded : StringOrStruct Key}
    : Setting.expandKey var raw = .ok expanded ↔ KeyExpands var raw expanded := by
  cases raw with
  | string raw =>
      rw [Setting.expandKey, bind_eq_ok_iff]
      cases expanded <;> simp [KeyExpands]
  | struct raw =>
      rw [Setting.expandKey, bind_eq_ok_iff]
      obtain ⟨files, keyPrefix⟩ := raw
      cases expanded with
      | string literal => simp [KeyExpands]
      | struct k =>
          obtain ⟨expandedFiles, expandedPrefix⟩ := k
          cases keyPrefix with
          | none => cases expandedPrefix <;> simp [KeyExpands, eq_comm]
          | some keyPrefix =>
              have lifted : (some keyPrefix).mapM (expandEnvVars var)
                  = (expandEnvVars var keyPrefix).map some := rfl
              rw [lifted]
              cases expandedPrefix <;> cases value : expandEnvVars var keyPrefix <;>
                simp [KeyExpands, Except.map, value, and_comm, eq_comm]

theorem expandKey_eq_error_iff {var : Variables} {raw : StringOrStruct Key}
    {error : SettingError}
    : Setting.expandKey var raw = .error error
      ↔ ((keyTexts raw).flatMap fun text => failures (expandEnvVars var text)).head?
        = some error := by
  cases raw with
  | string raw =>
      rw [Setting.expandKey, keyTexts]
      cases expanded : expandEnvVars var raw <;> simp [failures, expanded]
  | struct raw =>
      rw [Setting.expandKey, keyTexts]
      cases raw.keyPrefix with
      | none => simp
      | some keyPrefix => cases expanded : expandEnvVars var keyPrefix <;> simp [failures, expanded]

/-- Loading a parsed configuration yields the expansion of every key-forming field. -/
theorem newFromStr_eq_ok_iff_expands {toml : String → Except ForeignError Setting}
    {s : String} {parsed loaded : Setting} (read : toml s = .ok parsed) (var : Variables)
    : Setting.newFromStr toml var s = .ok loaded ↔ Expands var parsed loaded := by
  rw [Setting.newFromStr_eq_ok_iff]
  constructor
  · intro success
    obtain ⟨other, found, project, filled, key, fallbackKeys, paths⟩ := success
    obtain rfl := Except.ok.inj (read.symm.trans found)
    exact ⟨project, filled, expandKey_eq_ok_iff.mp key, mapM_eq_ok_iff.mp fallbackKeys, paths⟩
  · intro expands
    exact ⟨parsed, read, expands.project, expands.project_ne,
      expandKey_eq_ok_iff.mpr expands.key, mapM_eq_ok_iff.mpr expands.fallbackKeys,
      expands.paths⟩

/-- Loading a parsed configuration fails with the first failure in the order of the steps. -/
theorem newFromStr_eq_error_iff {toml : String → Except ForeignError Setting} {s : String}
    {parsed : Setting} (read : toml s = .ok parsed) (var : Variables) (error : SettingError)
    : Setting.newFromStr toml var s = .error error
      ↔ (loadingFailures var parsed).head? = some error := by
  rw [Setting.newFromStr, read, loadingFailures]
  simp only [Except.mapError, ok_bind]
  cases expandEnvVars var parsed.project with
  | error first => simp [failures]
  | ok project =>
      by_cases empty : project = ""
      · subst empty
        simp [failures]
      · have filled : project.isEmpty = false := by simpa using empty
        have steps : ((failures (Except.ok project : Except SettingError String)
            ++ (if (Except.ok project : Except SettingError String) = .ok ""
              then [SettingError.emptyProject] else []))
            ++ (keyTexts parsed.key).flatMap fun text => failures (expandEnvVars var text))
            = (keyTexts parsed.key).flatMap fun text => failures (expandEnvVars var text) := by
          simp [failures, empty]
        rw [steps, List.head?_append, ok_bind, filled, if_neg (by simp)]
        cases key : Setting.expandKey var parsed.key with
        | error first => simp [expandKey_eq_error_iff.mp key]
        | ok expanded =>
            have none : ((keyTexts parsed.key).flatMap fun text =>
                failures (expandEnvVars var text)).head? = none := by
              rw [Option.eq_none_iff_forall_ne_some]
              intro first failed
              rw [expandKey_eq_error_iff.mpr failed] at key
              cases key
            rw [none, Option.none_or, ok_bind, ← mapM_eq_error_iff_head?]
            cases parsed.fallbackKeys.mapM (expandEnvVars var) <;> simp

/-- Loading a parsed configuration succeeds when no step fails, with the expansion of every
key-forming field, and otherwise fails with the first failure in the order of the steps.
-/
theorem newFromStr_expands {toml : String → Except ForeignError Setting} {s : String}
    {parsed : Setting} (read : toml s = .ok parsed) (var : Variables)
    : ((∃ loaded, Setting.newFromStr toml var s = .ok loaded)
        ↔ loadingFailures var parsed = [])
      ∧ (∀ loaded, Setting.newFromStr toml var s = .ok loaded ↔ Expands var parsed loaded)
      ∧ ∀ error, Setting.newFromStr toml var s = .error error
        ↔ (loadingFailures var parsed).head? = some error := by
  have failed := newFromStr_eq_error_iff read var
  refine ⟨?_, fun loaded => newFromStr_eq_ok_iff_expands read var, failed⟩
  cases outcome : Setting.newFromStr toml var s with
  | ok loaded =>
      have none : (loadingFailures var parsed).head? = none := by
        rw [Option.eq_none_iff_forall_ne_some]
        intro error first
        rw [(failed error).mpr first] at outcome
        cases outcome
      simpa using none
  | error error =>
      have first := (failed error).mp outcome
      simp only [reduceCtorEq, exists_false, false_iff]
      intro none
      rw [none] at first
      cases first

/-- A configuration whose key prefix names an undefined variable. -/
def undefinedPrefix : Setting where
  project := "app"
  paths := ["$\x7bHOME\x7d"]
  key := .struct { files := ["Cargo.lock"], keyPrefix := some "$\x7bCI_BRANCH\x7d" }
  fallbackKeys := ["$\x7b"]

theorem newFromStr_expands_undefinedPrefix
    : ((∃ loaded, Setting.newFromStr (fun _ => .ok undefinedPrefix) (fun _ => none) ""
          = .ok loaded)
        ↔ loadingFailures (fun _ => none) undefinedPrefix = [])
      ∧ (∀ loaded, Setting.newFromStr (fun _ => .ok undefinedPrefix) (fun _ => none) ""
          = .ok loaded
        ↔ Expands (fun _ => none) undefinedPrefix loaded)
      ∧ ∀ error, Setting.newFromStr (fun _ => .ok undefinedPrefix) (fun _ => none) ""
          = .error error
        ↔ (loadingFailures (fun _ => none) undefinedPrefix).head? = some error :=
  newFromStr_expands rfl _

end Cafce
