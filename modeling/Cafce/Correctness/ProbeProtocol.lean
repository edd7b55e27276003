import Cafce.Library.OrderedAttempts
import Cafce.Model.Probe

/-! The probe as a protocol: which requests go out for a sequence of answers, and what the
result means.
-/

namespace Cafce

open Fallible OrderedAttempts

/-- The answer NotFound. -/
def Misses (answer : Except SdkError Unit) : Prop :=
  ∃ report, answer = .error (.serviceError .notFound report)

/-- What the loop makes of an answer. -/
def verdict (bucket objectKey : String) (answer : Except SdkError Unit)
    : Verdict AnyhowError :=
  match interpretAnswer bucket objectKey answer with
  | .ok true => .hit
  | .ok false => .miss
  | .error error => .failed error

theorem not_misses_ok : ¬ Misses (.ok ()) := by
  simp [Misses]

/-- An answer is a hit, a miss, or an error other than NotFound that ends the loop. -/
theorem verdict_cases (bucket objectKey : String) (answer : Except SdkError Unit)
    : (answer = .ok () ∧ verdict bucket objectKey answer = .hit)
      ∨ (Misses answer ∧ verdict bucket objectKey answer = .miss)
      ∨ (¬ Misses answer
        ∧ ∃ error failure, answer = .error error
          ∧ verdict bucket objectKey answer = .failed failure) := by
  cases answer with
  | ok _ => exact .inl ⟨rfl, rfl⟩
  | error error =>
      cases error with
      | serviceError reason report =>
          cases reason with
          | notFound => exact .inr (.inl ⟨⟨report, rfl⟩, rfl⟩)
          | other => exact .inr (.inr ⟨by simp [Misses], _, _, rfl, rfl⟩)
      | other report => exact .inr (.inr ⟨by simp [Misses], _, _, rfl, rfl⟩)

theorem verdict_eq_miss_iff {bucket objectKey : String} {answer : Except SdkError Unit}
    : verdict bucket objectKey answer = .miss ↔ Misses answer := by
  rcases verdict_cases bucket objectKey answer with
    ⟨rfl, hit⟩ | ⟨misses, miss⟩ | ⟨known, _, _, _, failed⟩
  · simp [hit, not_misses_ok]
  · simp [miss, misses]
  · simp [failed, known]

theorem verdict_eq_hit_iff {bucket objectKey : String} {answer : Except SdkError Unit}
    : verdict bucket objectKey answer = .hit ↔ answer = .ok () := by
  rcases verdict_cases bucket objectKey answer with
    ⟨rfl, hit⟩ | ⟨⟨_, rfl⟩, miss⟩ | ⟨_, _, _, rfl, failed⟩
  · simp [hit]
  · simp [miss]
  · simp [failed]

theorem verdict_eq_failed_iff {bucket objectKey : String} {answer : Except SdkError Unit}
    : (∃ error, verdict bucket objectKey answer = .failed error)
      ↔ ¬ Misses answer ∧ ∃ error, answer = .error error := by
  rcases verdict_cases bucket objectKey answer with
    ⟨rfl, hit⟩ | ⟨misses, miss⟩ | ⟨known, error, _, rfl, failed⟩
  · simp [hit]
  · simp [miss, misses]
  · simp [failed, known]

/-- The request for a cache key. -/
def requestFor (setting : Setting) (env : LoadedEnv) (client : S3Client) (cacheKey : String)
    : HeadObjectCall where
  client
  bucket := env.bucket
  key := buildObjectKey env.s3Prefix setting.project cacheKey

/-- How S3 answers the request of a position for a cache key. -/
def answerFor (headObject : HeadObject) (setting : Setting) (env : LoadedEnv) (index : Nat)
    (cacheKey : String)
    : Except SdkError Unit :=
  headObject index env.bucket (buildObjectKey env.s3Prefix setting.project cacheKey)

/-- The loop as attempts on the keys in order. -/
def verdictFor (headObject : HeadObject) (setting : Setting) (env : LoadedEnv) (index : Nat)
    (cacheKey : String)
    : Verdict AnyhowError :=
  verdict env.bucket (buildObjectKey env.s3Prefix setting.project cacheKey)
    (answerFor headObject setting env index cacheKey)

/-- The loop tries keys as the attempts do: one request for each key tried, and their
outcome.
-/
theorem probeKeys_eq_attempt (headObject : HeadObject) (setting : Setting) (env : LoadedEnv)
    (client : S3Client) (asked : Nat) (keys : List String)
    : (probeKeys headObject setting env client asked keys).outcome
        = (attempt (verdictFor headObject setting env) asked keys).2
      ∧ headRequests (probeKeys headObject setting env client asked keys).log
        = (attempt (verdictFor headObject setting env) asked keys).1.map
            (requestFor setting env client) := by
  induction keys generalizing asked with
  | nil => exact ⟨rfl, rfl⟩
  | cons key keys ih =>
      obtain ⟨laterOutcome, laterRequests⟩ := ih (asked + 1)
      rw [probeKeys, checkKeyExists, attempt, verdictFor, verdict, answerFor]
      cases interpretAnswer env.bucket (buildObjectKey env.s3Prefix setting.project key)
          (headObject asked env.bucket
            (buildObjectKey env.s3Prefix setting.project key)) with
      | error error => exact ⟨rfl, rfl⟩
      | ok hit =>
          cases hit with
          | true => exact ⟨rfl, rfl⟩
          | false =>
              rw [Logged.perform_ok_bind]
              refine ⟨laterOutcome, ?_⟩
              rw [List.map_cons, ← laterRequests]
              rfl

/-- The answer to the request of a position is the first one that is not NotFound. -/
structure DecidedAt (answer : Nat → String → Except SdkError Unit) (keys : List String)
    (index : Nat) (key : String)
    : Prop where
  here : keys[index]? = some key
  earlier : ∀ before < index, ∀ k ∈ keys[before]?, Misses (answer before k)
  decisive : ¬ Misses (answer index key)

/-- Every key has the answer NotFound. -/
def AllNotFound (answer : Nat → String → Except SdkError Unit) (keys : List String) : Prop :=
  ∀ index, ∀ key ∈ keys[index]?, Misses (answer index key)

/-- Requests and outcome that the answers allow: keys are requested in order, up to and with
the first answer that is not NotFound, and that answer is the outcome.
-/
structure ProbeProtocol (answer : Nat → String → Except SdkError Unit)
    (request : String → HeadObjectCall) (keys : List String)
    (outcome : Except AnyhowError Bool) (requests : List HeadObjectCall)
    : Prop where
  ordered : requests <+: keys.map request
  decided : ∀ index key, DecidedAt answer keys index key
    → requests = (keys.take (index + 1)).map request
  undecided : AllNotFound answer keys → requests = keys.map request
  hit_iff : outcome = .ok true
    ↔ ∃ index key, DecidedAt answer keys index key ∧ answer index key = .ok ()
  failed_iff : (∃ error, outcome = .error error)
    ↔ ∃ index key, DecidedAt answer keys index key ∧ ∃ error, answer index key = .error error
  missed_iff : outcome = .ok false ↔ requests = keys.map request ∧ AllNotFound answer keys

theorem decides_iff {headObject : HeadObject} {setting : Setting} {env : LoadedEnv}
    {keys : List String} {index : Nat} {key : String}
    : Decides (verdictFor headObject setting env) 0 keys index key
      ↔ DecidedAt (answerFor headObject setting env) keys index key := by
  constructor
  · intro decides
    refine ⟨decides.here, fun before below k found => ?_, fun misses => ?_⟩
    · have miss := decides.earlier before below k found
      rw [Nat.zero_add] at miss
      exact verdict_eq_miss_iff.mp miss
    · have decisive := decides.decisive
      rw [Nat.zero_add] at decisive
      exact decisive (verdict_eq_miss_iff.mpr misses)
  · intro decided
    refine ⟨decided.here, fun before below k found => ?_, ?_⟩
    · rw [Nat.zero_add]
      exact verdict_eq_miss_iff.mpr (decided.earlier before below k found)
    · rw [Nat.zero_add]
      exact fun miss => decided.decisive (verdict_eq_miss_iff.mp miss)

theorem allMiss_iff {headObject : HeadObject} {setting : Setting} {env : LoadedEnv}
    {keys : List String}
    : AllMiss (verdictFor headObject setting env) 0 keys
      ↔ AllNotFound (answerFor headObject setting env) keys := by
  simp only [AllMiss, AllNotFound, Nat.zero_add, verdictFor, verdict_eq_miss_iff]

section Decided

variable {headObject : HeadObject} {setting : Setting} {env : LoadedEnv} {keys : List String}
  {index : Nat} {key : String}

/-- One answer decides at most. -/
theorem DecidedAt.unique {other : Nat} {otherKey : String}
    (decided : DecidedAt (answerFor headObject setting env) keys index key)
    (also : DecidedAt (answerFor headObject setting env) keys other otherKey)
    : other = index ∧ otherKey = key :=
  (decides_iff.mpr also).unique (decides_iff.mpr decided)

theorem DecidedAt.not_allNotFound
    (decided : DecidedAt (answerFor headObject setting env) keys index key)
    : ¬ AllNotFound (answerFor headObject setting env) keys :=
  fun all => (decides_iff.mpr decided).not_allMiss (allMiss_iff.mpr all)

/-- What holds of some deciding answer holds of the one that is known. -/
theorem DecidedAt.exists_iff
    (decided : DecidedAt (answerFor headObject setting env) keys index key)
    (P : Except SdkError Unit → Prop)
    : (∃ other otherKey, DecidedAt (answerFor headObject setting env) keys other otherKey
        ∧ P (answerFor headObject setting env other otherKey))
      ↔ P (answerFor headObject setting env index key) := by
  refine ⟨?_, fun holds => ⟨index, key, decided, holds⟩⟩
  intro found
  obtain ⟨other, otherKey, also, holds⟩ := found
  obtain ⟨rfl, rfl⟩ := decided.unique also
  exact holds

end Decided

/-- The loop keeps to the protocol.
Witness: either one answer decides, and the attempts end there, or none does.
-/
theorem probeKeys_protocol (headObject : HeadObject) (setting : Setting) (env : LoadedEnv)
    (client : S3Client) (keys : List String)
    : ProbeProtocol (answerFor headObject setting env) (requestFor setting env client) keys
        (probeKeys headObject setting env client 0 keys).outcome
        (headRequests (probeKeys headObject setting env client 0 keys).log) := by
  obtain ⟨outcome, requests⟩ := probeKeys_eq_attempt headObject setting env client 0 keys
  rw [outcome, requests]
  rcases attempt_cases (verdictFor headObject setting env) 0 keys with
    ⟨index, key, decides, result⟩ | ⟨missed, result⟩
  · have decided := decides_iff.mp decides
    rw [result, Nat.zero_add]
    exact {
      ordered := (List.take_prefix _ _).map _
      decided := by
        intro other otherKey also
        rw [(decided.unique also).1]
      undecided := fun all => absurd all decided.not_allNotFound
      hit_iff := by
        have hit : verdictFor headObject setting env index key = .hit
            ↔ answerFor headObject setting env index key = .ok () :=
          verdict_eq_hit_iff
        refine Iff.trans ?_ (decided.exists_iff fun answer => answer = .ok ()).symm
        rw [← hit]
        cases verdictFor headObject setting env index key <;> simp
      failed_iff := by
        have failed : (∃ error, verdictFor headObject setting env index key = .failed error)
            ↔ ∃ error, answerFor headObject setting env index key = .error error :=
          verdict_eq_failed_iff.trans (and_iff_right decided.decisive)
        refine Iff.trans ?_
          (decided.exists_iff fun answer => ∃ error, answer = .error error).symm
        rw [← failed]
        cases verdictFor headObject setting env index key <;> simp
      missed_iff := by
        simp only [decided.not_allNotFound, and_false, iff_false]
        cases decision : verdictFor headObject setting env index key with
        | hit => simp
        | failed error => simp
        | miss => exact absurd (verdict_eq_miss_iff.mp decision) decided.decisive
    }
  · have all := allMiss_iff.mp missed
    have never {index : Nat} {key : String}
        : ¬ DecidedAt (answerFor headObject setting env) keys index key :=
      fun decided => decided.not_allNotFound all
    rw [result]
    exact {
      ordered := List.prefix_refl _
      decided := fun index key decided => absurd decided never
      undecided := fun _ => rfl
      hit_iff := by simp [never]
      failed_iff := by simp [never]
      missed_iff := by simp [all]
    }

theorem headRequests_append (left right : List Event)
    : headRequests (left ++ right) = headRequests left ++ headRequests right :=
  List.filterMap_append

theorem headRequests_opened (paths : List PathBuf)
    : headRequests (paths.map Event.openedFile) = [] := by
  simp [headRequests, List.filterMap_map]

/-- A probe whose primary key cannot be resolved ends there. -/
theorem probe_unresolved {sha256 : List UInt8 → Digest} {files : FileView}
    {headObject : HeadObject} {setting : Setting} {env : LoadedEnv} {client : S3Client}
    {basePath : PathBuf} {error : AnyhowError}
    (unresolved : (setting.resolvePrimaryKey sha256 files basePath).outcome = .error error)
    : probe sha256 files headObject setting env client basePath
      = {
          outcome := .error (.context "primary キーの計算に失敗しました" error)
          log := (setting.resolvePrimaryKey sha256 files basePath).log.map .openedFile
        } := by
  rw [probe]
  generalize setting.resolvePrimaryKey sha256 files basePath = reading at unresolved
  obtain ⟨outcome, log⟩ := reading
  obtain rfl := unresolved
  rfl

/-- A probe whose primary key is resolved goes on with the loop over all keys. -/
theorem probe_resolved {sha256 : List UInt8 → Digest} {files : FileView}
    {headObject : HeadObject} {setting : Setting} {env : LoadedEnv} {client : S3Client}
    {basePath : PathBuf} {primaryKey : String}
    (resolved : (setting.resolvePrimaryKey sha256 files basePath).outcome = .ok primaryKey)
    : probe sha256 files headObject setting env client basePath
      = {
          outcome := (probeKeys headObject setting env client 0
            (primaryKey :: setting.fallbackKeys)).outcome
          log := (setting.resolvePrimaryKey sha256 files basePath).log.map .openedFile
            ++ (probeKeys headObject setting env client 0
              (primaryKey :: setting.fallbackKeys)).log
        } := by
  rw [probe]
  generalize setting.resolvePrimaryKey sha256 files basePath = reading at resolved
  obtain ⟨outcome, log⟩ := reading
  obtain rfl := resolved
  rfl

/-- A probe whose primary key cannot be resolved fails without a request; any other probe
keeps to the protocol on the primary key and then the fallback keys.
-/
theorem probe_protocol (sha256 : List UInt8 → Digest) (files : FileView)
    (headObject : HeadObject) (setting : Setting) (env : LoadedEnv) (client : S3Client)
    (basePath : PathBuf)
    : match (setting.resolvePrimaryKey sha256 files basePath).outcome with
      | .error error =>
          (probe sha256 files headObject setting env client basePath).outcome
            = .error (.context "primary キーの計算に失敗しました" error)
          ∧ headRequests (probe sha256 files headObject setting env client basePath).log = []
      | .ok primaryKey =>
          ProbeProtocol (answerFor headObject setting env) (requestFor setting env client)
            (primaryKey :: setting.fallbackKeys)
            (probe sha256 files headObject setting env client basePath).outcome
            (headRequests (probe sha256 files headObject setting env client basePath).log) := by
  cases resolved : (setting.resolvePrimaryKey sha256 files basePath).outcome with
  | error error =>
      rw [probe_unresolved resolved]
      exact ⟨rfl, headRequests_opened _⟩
  | ok primaryKey =>
      simp only [probe_resolved resolved, headRequests_append, headRequests_opened,
        List.nil_append]
      exact probeKeys_protocol headObject setting env client _

end Cafce
