import Cafce.Correctness.ObjectKeys
import Cafce.Correctness.ObjectPrefixes
import Cafce.Correctness.Reexpansion
import Cafce.Correctness.StoreProbe

/-! Prefixes as namespaces of one bucket: which values of `CAFCE_S3_PREFIX` keep the probes of
two users apart, whatever their projects and cache keys are.
-/

namespace Cafce

open DelimitedTemplate Fallible

-----------------------------------------------------------------------------------------
-- Object keys below two prefixes
-----------------------------------------------------------------------------------------

/-- The prefix continues the other one by whole segments. -/
def Extends (longer shorter : String) : Prop :=
  shorter.toList ++ ['/'] <+: longer.toList

instance (longer shorter : String) : Decidable (Extends longer shorter) :=
  inferInstanceAs (Decidable (_ <+: _))

/-- Two prefixes, neither of which is or continues the other. -/
def PrefixesApart : Option String → Option String → Prop
  | some left, some right => left ≠ right ∧ ¬ Extends left right ∧ ¬ Extends right left
  | _, _ => False

instance : (left right : Option String) → Decidable (PrefixesApart left right)
  | some _, some _ => inferInstanceAs (Decidable (_ ∧ _))
  | some _, none => isFalse id
  | none, _ => isFalse id

/-- No object belongs to a project below either prefix. -/
def SharesNoObject (left right : Option String) : Prop :=
  ∀ leftProject leftKey rightProject rightKey, leftProject ≠ "" → rightProject ≠ ""
    → buildObjectKey left leftProject leftKey ≠ buildObjectKey right rightProject rightKey

theorem SharesNoObject.symm {left right : Option String} (shares : SharesNoObject left right)
    : SharesNoObject right left :=
  fun _ _ _ _ rightFilled leftFilled same =>
    shares _ _ _ _ leftFilled rightFilled same.symm

/-- A prefix is followed by a separator and what belongs to the project. -/
theorem buildObjectKey_some_toList (s3Prefix project cacheKey : String)
    : (buildObjectKey (some s3Prefix) project cacheKey).toList
      = s3Prefix.toList ++ '/' :: (buildObjectKey none project cacheKey).toList := by
  simp [buildObjectKey]

theorem extends_iff {longer shorter : String}
    : Extends longer shorter
      ↔ ∃ segments, longer.toList = shorter.toList ++ '/' :: segments := by
  constructor
  · intro continues
    obtain ⟨segments, same⟩ := continues
    exact ⟨segments, by simp [← same]⟩
  · intro continues
    obtain ⟨segments, same⟩ := continues
    exact ⟨segments, by simp [same]⟩

/-- Prefixes that are apart share no object: one of them would end at a separator of the
other.
-/
theorem sharesNoObject_of_apart {left right : Option String} (apart : PrefixesApart left right)
    : SharesNoObject left right := by
  intro leftProject leftKey rightProject rightKey _ _ same
  cases left with
  | none => exact apart
  | some left =>
      cases right with
      | none => exact apart
      | some right =>
          obtain ⟨different, leftShorter, rightShorter⟩ := apart
          have texts := congrArg String.toList same
          rw [buildObjectKey_some_toList, buildObjectKey_some_toList,
            SeparatedText.append_separator_eq_iff] at texts
          rcases texts with ⟨equal, _⟩ | ⟨segments, longer, _⟩ | ⟨segments, longer, _⟩
          · exact different (String.toList_inj.mp equal)
          · exact rightShorter (extends_iff.mpr ⟨segments, longer⟩)
          · exact leftShorter (extends_iff.mpr ⟨segments, longer⟩)

/-- Without a prefix a project can spell any prefix. -/
theorem not_sharesNoObject_none {right : Option String}
    (filled : ∀ text, right = some text → text ≠ "")
    : ¬ SharesNoObject none right := by
  intro shares
  cases right with
  | none => exact shares "p" "k" "p" "k" (by decide) (by decide) rfl
  | some text =>
      refine shares text "p/k" "p" "k" (filled text rfl) (by decide) (String.toList_inj.mp ?_)
      simp [buildObjectKey]

/-- Below a prefix a project can spell what continues it. -/
theorem not_sharesNoObject_of_extends {longer shorter : String}
    (unended : longer.toList.getLast? ≠ some '/') (continues : Extends longer shorter)
    : ¬ SharesNoObject (some shorter) (some longer) := by
  intro shares
  obtain ⟨segments, same⟩ := extends_iff.mp continues
  have nonempty : String.ofList segments ≠ "" := by
    intro empty
    rw [String.ofList_eq_empty_iff] at empty
    rw [same, empty] at unended
    exact unended (by simp)
  refine shares (String.ofList segments) "p/k" "p" "k" nonempty (by decide)
    (String.toList_inj.mp ?_)
  simp [buildObjectKey, same]

/-- Prefixes in normal form keep their projects apart exactly when they are apart. -/
theorem sharesNoObject_iff {left right : Option String}
    (leftNormal : ∀ text, left = some text → text ≠ "" ∧ text.toList.getLast? ≠ some '/')
    (rightNormal : ∀ text, right = some text → text ≠ "" ∧ text.toList.getLast? ≠ some '/')
    : SharesNoObject left right ↔ PrefixesApart left right := by
  refine ⟨?_, sharesNoObject_of_apart⟩
  intro shares
  cases left with
  | none =>
      exact absurd shares
        (not_sharesNoObject_none fun text given => (rightNormal text given).1)
  | some left =>
      cases right with
      | none =>
          exact absurd shares.symm
            (not_sharesNoObject_none fun text given => (leftNormal text given).1)
      | some right =>
          refine ⟨?_, ?_, ?_⟩
          · rintro rfl
            exact shares "p" "k" "p" "k" (by decide) (by decide) rfl
          · intro continues
            exact not_sharesNoObject_of_extends (leftNormal left rfl).2 continues shares.symm
          · intro continues
            exact not_sharesNoObject_of_extends (rightNormal right rfl).2 continues shares

-----------------------------------------------------------------------------------------
-- Probes below two prefixes
-----------------------------------------------------------------------------------------

/-- The objects that a probe asks for belong to its prefix and its project. -/
theorem exists_object_of_request {crates : Crates} {world : World} {config : PathBuf}
    {raw : Env} {request : HeadObjectCall} (read : crates.envy world.processEnv = .ok raw)
    (asked : request ∈ headRequests (main crates world (.probe config)).2)
    : ∃ project cacheKey, project ≠ ""
      ∧ request.key = buildObjectKey (normalizeS3Prefix raw.s3Prefix) project cacheKey := by
  rw [headRequests_main, run] at asked
  obtain ⟨cwd, setting, env, client, key, ready, _, candidates⟩ :=
    exists_candidates_of_requests (List.ne_nil_of_mem asked)
  obtain ⟨cacheKey, _, rfl⟩ := List.mem_map.mp (candidates.subset asked)
  have loaded := Run.loadSetting_eq_ok_iff.mp ready.loaded
  rw [Setting.newFromFile, bind_eq_ok_iff] at loaded
  obtain ⟨_, _, loaded⟩ := loaded
  obtain ⟨_, _, _, filled, _⟩ := Setting.newFromStr_eq_ok_iff.mp loaded
  refine ⟨setting.project, cacheKey, filled, ?_⟩
  rw [requestFor, s3Prefix_of_new read (Run.loadEnv_eq_ok_iff.mp ready.loadedEnv)]

/-- A text that is one reference expands to the value of its variable. -/
theorem expandEnvVars_reference {var : Variables} {name value : String}
    (free : ¬ references.closing <:+: name.toList) (given : var name = some value)
    : expandEnvVars var ("$\x7b" ++ name ++ "\x7d") = .ok value := by
  have wellFormed : Pieces.WellFormed references ⟨[], [(name.toList, [])], none⟩ := by
    have empty : ¬ references.opening <:+: ([] : List Char) := by
      decide
    refine ⟨empty, ?_, ?_, by simp⟩
    · intro ref member
      obtain rfl := List.mem_singleton.mp member
      exact free
    · intro ref member
      obtain rfl := List.mem_singleton.mp member
      exact empty
  have spelled : ("$\x7b" ++ name ++ "\x7d").toList
      = Pieces.render references ⟨[], [(name.toList, [])], none⟩ := by
    simp [Pieces.render, references]
  have parsed : (templateOf ("$\x7b" ++ name ++ "\x7d")).toPieces
      = ⟨[], [(name.toList, [])], none⟩ := by
    change parse references _ = _
    rw [spelled, parse_render wellFormed]
  rw [expandEnvVars_eq_ok_iff, parsed]
  refine ⟨?_, rfl, ?_⟩
  · intro other member
    obtain rfl := List.mem_singleton.mp member
    rw [String.ofList_toList, given]
    rfl
  · simp [Pieces.substitute, valueOf, given]

/-- A configuration whose project and key are variables of the environment. -/
def namingSetting : Setting := literalSetting "$\x7bPROJECT\x7d" "$\x7bKEY\x7d"

/-- Every configuration file holds it, and the prefix is read from the environment. -/
def namingCrates : Crates :=
  { plainCrates with
    toml := fun _ => .ok namingSetting
    envy := fun processEnv => .ok {
      awsServerAddress := none
      awsAccessKey := none
      awsSecretKey := none
      awsSessionToken := none
      awsRoleArn := none
      awsRoleSessionName := none
      awsProfile := none
      awsInsecure := false
      awsRegion := none
      awsForcePathStyle := none
      awsBucket := some "b"
      s3Prefix := processEnv.listed "CAFCE_S3_PREFIX"
    } }

/-- The variables of a project, of a key and of a prefix if there is one. -/
def namingEnv (s3Prefix : Option String) (project cacheKey : String) : ProcessEnv where
  vars := (asBytes "PROJECT", asBytes project) :: (asBytes "KEY", asBytes cacheKey)
    :: s3Prefix.toList.map fun text => (asBytes "CAFCE_S3_PREFIX", asBytes text)
  names_nodup := by
    cases s3Prefix with
    | none =>
        change (List.map asBytes ["PROJECT", "KEY"]).Nodup
        exact List.Nodup.map asBytes_injective (by decide)
    | some text =>
        change (List.map asBytes ["PROJECT", "KEY", "CAFCE_S3_PREFIX"]).Nodup
        exact List.Nodup.map asBytes_injective (by decide)

/-- A run with these variables, with an S3 that has every object. -/
def namingWorld (s3Prefix : Option String) (project cacheKey : String) : World :=
  { bucketWorld fun _ _ _ => .ok () with processEnv := namingEnv s3Prefix project cacheKey }

theorem namingEnv_listed (s3Prefix : Option String) (project cacheKey : String)
    : (namingEnv s3Prefix project cacheKey).listed "PROJECT" = some project
      ∧ (namingEnv s3Prefix project cacheKey).listed "KEY" = some cacheKey
      ∧ (namingEnv s3Prefix project cacheKey).listed "CAFCE_S3_PREFIX" = s3Prefix := by
  cases s3Prefix with
  | none => simp [namingEnv, ProcessEnv.listed, lookup_asBytes, asBytes_injective.eq_iff]
  | some text => simp [namingEnv, ProcessEnv.listed, lookup_asBytes]

theorem namingEnv_var (s3Prefix : Option String) (project cacheKey : String)
    : (namingEnv s3Prefix project cacheKey).var "PROJECT" = some project
      ∧ (namingEnv s3Prefix project cacheKey).var "KEY" = some cacheKey := by
  have named : ∀ entry ∈ (namingEnv s3Prefix project cacheKey).vars,
      equalsSign ∉ entry.1 := by
    intro entry member
    have key : entry.1 ∈ ["PROJECT", "KEY", "CAFCE_S3_PREFIX"].map asBytes := by
      cases s3Prefix <;> simp [namingEnv] at member <;> rcases member with rfl | rfl | rfl <;>
        simp
    obtain ⟨name, known, same⟩ := List.mem_map.mp key
    have plain : ∀ name ∈ ["PROJECT", "KEY", "CAFCE_S3_PREFIX"], equalsSign ∉ asBytes name := by
      decide
    exact same ▸ plain name known
  obtain ⟨projectGiven, keyGiven, _⟩ := namingEnv_listed s3Prefix project cacheKey
  rw [ProcessEnv.var_eq_listed (by decide) (by decide) (by decide) named,
    ProcessEnv.var_eq_listed (by decide) (by decide) (by decide) named]
  exact ⟨projectGiven, keyGiven⟩

/-- Any project and any cache key are those of some probe below a prefix. -/
theorem exists_request_namingWorld (s3Prefix : Option String) {project : String}
    (cacheKey : String) (filled : project ≠ "") (config : PathBuf)
    : ∃ request ∈ headRequests
        (main namingCrates (namingWorld s3Prefix project cacheKey) (.probe config)).2,
        request.key = buildObjectKey (normalizeS3Prefix s3Prefix) project cacheKey := by
  obtain ⟨projectGiven, keyGiven⟩ := namingEnv_var s3Prefix project cacheKey
  obtain ⟨_, _, prefixGiven⟩ := namingEnv_listed s3Prefix project cacheKey
  have read : namingCrates.envy (namingWorld s3Prefix project cacheKey).processEnv
      = .ok _ := rfl
  obtain ⟨env, loaded, same⟩ := Env.exists_new_of_bucket read rfl (by decide)
  have setting : Setting.newFromFile namingCrates.toml
      (namingWorld s3Prefix project cacheKey).processEnv.var
      (namingWorld s3Prefix project cacheKey).readToString config
      = .ok (literalSetting project cacheKey) := by
    rw [Setting.newFromFile, bind_eq_ok_iff]
    refine ⟨_, rfl, Setting.newFromStr_eq_ok_iff.mpr
      ⟨namingSetting, rfl, ?_, filled, ?_, rfl, rfl⟩⟩
    · exact @expandEnvVars_reference _ "PROJECT" _ (by decide) projectGiven
    · have expanded : expandEnvVars (namingEnv s3Prefix project cacheKey).var "$\x7bKEY\x7d"
          = .ok cacheKey :=
        @expandEnvVars_reference _ "KEY" _ (by decide) keyGiven
      change Setting.expandKey (namingEnv s3Prefix project cacheKey).var (.string _) = _
      rw [Setting.expandKey, expanded]
      rfl
  have built : ∃ client, (buildS3Client namingCrates.url
      (namingWorld s3Prefix project cacheKey).sts env.toEnv).outcome = .ok client := by
    rw [same]
    exact ⟨_, rfl⟩
  obtain ⟨client, built⟩ := built
  have setUp : ProbeSetUp namingCrates (namingWorld s3Prefix project cacheKey) config
      (PathBuf.ofStr "/work") (literalSetting project cacheKey) env client cacheKey :=
    ⟨⟨rfl, Run.loadSetting_eq_ok_iff.mpr setting, Run.loadEnv_eq_ok_iff.mpr loaded,
      mapError_eq_ok_iff.mpr built⟩, rfl⟩
  refine ⟨requestFor (literalSetting project cacheKey) env client cacheKey, ?_, ?_⟩
  · rw [setUp.headRequests]
    exact List.mem_singleton_self _
  · have kept : env.s3Prefix = normalizeS3Prefix s3Prefix := by
      rw [same]
      exact congrArg normalizeS3Prefix prefixGiven
    rw [requestFor, kept]
    rfl

/-- No probe with one value of `CAFCE_S3_PREFIX` asks for an object that a probe with the
other value asks for, whatever their configurations, trees and environments are.
-/
def Isolates (left right : Option String) : Prop :=
  ∀ (crates : Crates) (leftWorld rightWorld : World) (leftConfig rightConfig : PathBuf)
    (leftRaw rightRaw : Env),
    crates.envy leftWorld.processEnv = .ok leftRaw
    → crates.envy rightWorld.processEnv = .ok rightRaw
    → leftRaw.s3Prefix = left → rightRaw.s3Prefix = right
    → ∀ leftRequest ∈ headRequests (main crates leftWorld (.probe leftConfig)).2,
      ∀ rightRequest ∈ headRequests (main crates rightWorld (.probe rightConfig)).2,
        leftRequest.key ≠ rightRequest.key

/-- Prefixes isolate their users exactly when both are there, up to slashes at their ends, and
neither is the other or continues it by whole segments. Witness: where one continues the
other, a project spells the segments between them.
-/
theorem isolates_iff (left right : Option String)
    : Isolates left right
      ↔ PrefixesApart (normalizeS3Prefix left) (normalizeS3Prefix right) := by
  constructor
  · intro isolates
    apply (sharesNoObject_iff (fun _ => normal_of_normalizeS3Prefix)
      fun _ => normal_of_normalizeS3Prefix).mp
    intro leftProject leftKey rightProject rightKey leftFilled rightFilled same
    obtain ⟨leftRequest, leftAsked, leftObject⟩ :=
      exists_request_namingWorld left leftKey leftFilled (PathBuf.ofStr "c.toml")
    obtain ⟨rightRequest, rightAsked, rightObject⟩ :=
      exists_request_namingWorld right rightKey rightFilled (PathBuf.ofStr "c.toml")
    refine isolates namingCrates _ _ _ _ _ _ rfl rfl ?_ ?_ _ leftAsked _ rightAsked ?_
    · exact (namingEnv_listed left leftProject leftKey).2.2
    · exact (namingEnv_listed right rightProject rightKey).2.2
    · rw [leftObject, rightObject, same]
  · intro apart crates leftWorld rightWorld leftConfig rightConfig leftRaw rightRaw leftRead
      rightRead leftGiven rightGiven leftRequest leftAsked rightRequest rightAsked same
    obtain ⟨leftProject, leftKey, leftFilled, leftObject⟩ :=
      exists_object_of_request leftRead leftAsked
    obtain ⟨rightProject, rightKey, rightFilled, rightObject⟩ :=
      exists_object_of_request rightRead rightAsked
    rw [leftGiven] at leftObject
    rw [rightGiven] at rightObject
    exact sharesNoObject_of_apart apart _ _ _ _ leftFilled rightFilled
      (leftObject.symm.trans (same.trans rightObject))

end Cafce
