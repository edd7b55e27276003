import Cafce.Model.Probe

/-! What the constructor of the settings promises to the layout of object keys: a bucket that is
there, and a prefix that is read up to the slashes at its end.
-/

namespace Cafce

def slashes (count : Nat) : List Char :=
  List.replicate count '/'

/-- The texts differ in slashes at their ends only. -/
def SameButTrailing (left right : String) : Prop :=
  ∃ stem m n, left.toList = stem ++ slashes m ∧ right.toList = stem ++ slashes n

/-- The text before the slashes at the end. -/
def stemOf (text : String) : List Char :=
  text.toList.rdropWhile (· = '/')

/-- Slashes at the end are dropped however many there are, by induction on their number. -/
theorem rdropWhile_append_slashes (stem : List Char) (count : Nat)
    : (stem ++ slashes count).rdropWhile (· = '/') = stem.rdropWhile (· = '/') := by
  induction count with
  | zero => rw [slashes, List.replicate_zero, List.append_nil]
  | succ count ih =>
      rw [slashes, List.replicate_succ', ← List.append_assoc,
        List.rdropWhile_concat_pos _ _ _ (by decide)]
      exact ih

/-- A text is its stem and slashes. -/
theorem exists_slashes (text : String) : ∃ count, text.toList = stemOf text ++ slashes count := by
  refine ⟨(text.toList.rtakeWhile (· = '/')).length, ?_⟩
  have trailing : text.toList.rtakeWhile (· = '/')
      = slashes (text.toList.rtakeWhile (· = '/')).length := by
    refine List.eq_replicate_of_mem fun char member => ?_
    simpa using List.mem_rtakeWhile_imp member
  rw [← trailing, stemOf, List.rdropWhile_append_rtakeWhile]

theorem stemOf_eq_iff {left right : String}
    : stemOf left = stemOf right ↔ SameButTrailing left right := by
  refine ⟨?_, ?_⟩
  · intro same
    obtain ⟨m, leftSpelled⟩ := exists_slashes left
    obtain ⟨n, rightSpelled⟩ := exists_slashes right
    exact ⟨stemOf left, m, n, leftSpelled, same ▸ rightSpelled⟩
  · intro differ
    obtain ⟨stem, m, n, leftSpelled, rightSpelled⟩ := differ
    rw [stemOf, stemOf, leftSpelled, rightSpelled, rdropWhile_append_slashes,
      rdropWhile_append_slashes]

/-- An unset prefix counts as an empty one. -/
theorem normalizeS3Prefix_eq (raw : Option String)
    : normalizeS3Prefix raw
      = if stemOf (raw.getD "") = [] then none
        else some (String.ofList (stemOf (raw.getD ""))) := by
  cases raw with
  | none => rfl
  | some text =>
      rw [normalizeS3Prefix, Option.bind_some, Option.getD_some]
      simp only [trimEndMatches, String.isEmpty_iff, String.ofList_eq_empty_iff]
      rfl

/-- The normal form is the stem, and none stands for an empty one. -/
theorem stemOf_normalizeS3Prefix (raw : Option String)
    : stemOf ((normalizeS3Prefix raw).getD "") = stemOf (raw.getD "") := by
  rw [normalizeS3Prefix_eq]
  split
  · rename_i empty
    rw [empty]
    rfl
  · rw [Option.getD_some, stemOf, String.toList_ofList]
    exact List.rdropWhile_idempotent _ _

theorem normalizeS3Prefix_eq_iff {left right : Option String}
    : normalizeS3Prefix left = normalizeS3Prefix right
      ↔ SameButTrailing (left.getD "") (right.getD "") := by
  rw [← stemOf_eq_iff]
  refine ⟨?_, ?_⟩
  · intro same
    rw [← stemOf_normalizeS3Prefix left, same, stemOf_normalizeS3Prefix]
  · intro same
    rw [normalizeS3Prefix_eq, normalizeS3Prefix_eq, same]

/-- What is kept of a prefix is not empty and does not end in a slash. -/
theorem normal_of_normalizeS3Prefix {raw : Option String} {text : String}
    (kept : normalizeS3Prefix raw = some text)
    : text ≠ "" ∧ text.toList.getLast? ≠ some '/' := by
  rw [normalizeS3Prefix_eq] at kept
  split at kept
  · cases kept
  · rename_i nonempty
    obtain rfl := Option.some.inj kept
    rw [ne_eq, String.ofList_eq_empty_iff, String.toList_ofList]
    refine ⟨nonempty, fun last => ?_⟩
    have slash : (stemOf (raw.getD "")).getLast nonempty = '/' := by
      rw [List.getLast?_eq_some_getLast nonempty] at last
      exact Option.some.inj last
    exact List.rdropWhile_last_not _ _ nonempty (decide_eq_true slash)

/-- Settings with a bucket and with a prefix in normal form, if there is one. -/
structure LoadedLayout (env : LoadedEnv) : Prop where
  bucket : env.awsBucket = some env.bucket
  bucket_ne : env.bucket ≠ ""
  s3Prefix : ∀ text, env.s3Prefix = some text → text ≠ "" ∧ text.toList.getLast? ≠ some '/'

/-- How prefixes are read, and what settings promise once they are accepted. -/
structure PrefixLayout (envy : Envy) : Prop where
  loaded : ∀ processEnv env, Env.new envy processEnv = .ok env → LoadedLayout env
  trailing : ∀ text count,
    normalizeS3Prefix (some (text ++ String.ofList (slashes count)))
      = normalizeS3Prefix (some text)
  idempotent : ∀ raw, normalizeS3Prefix (normalizeS3Prefix raw) = normalizeS3Prefix raw
  classes : ∀ left right, normalizeS3Prefix left = normalizeS3Prefix right
    ↔ SameButTrailing (left.getD "") (right.getD "")
  objectKey : ∀ left right, SameButTrailing (left.getD "") (right.getD "") →
    ∀ project cacheKey, buildObjectKey (normalizeS3Prefix left) project cacheKey
      = buildObjectKey (normalizeS3Prefix right) project cacheKey
  loadedKey : ∀ leftVars rightVars leftRaw rightRaw left right,
    envy leftVars = .ok leftRaw → envy rightVars = .ok rightRaw →
    Env.new envy leftVars = .ok left → Env.new envy rightVars = .ok right →
    SameButTrailing (leftRaw.s3Prefix.getD "") (rightRaw.s3Prefix.getD "") →
      ∀ project cacheKey, buildObjectKey left.s3Prefix project cacheKey
        = buildObjectKey right.s3Prefix project cacheKey

theorem loadedLayout_of_new {envy : Envy} {processEnv : ProcessEnv} {env : LoadedEnv}
    (success : Env.new envy processEnv = .ok env)
    : LoadedLayout env := by
  obtain ⟨raw, _, _, filled, s3Prefix⟩ := Env.exists_raw_of_new success
  refine ⟨(Option.some_get _).symm, filled, fun text kept => ?_⟩
  rw [s3Prefix] at kept
  exact normal_of_normalizeS3Prefix kept

theorem s3Prefix_of_new {envy : Envy} {processEnv : ProcessEnv} {raw : Env} {env : LoadedEnv}
    (read : envy processEnv = .ok raw) (success : Env.new envy processEnv = .ok env)
    : env.s3Prefix = normalizeS3Prefix raw.s3Prefix := by
  obtain ⟨other, found, _, _, s3Prefix⟩ := Env.exists_raw_of_new success
  obtain rfl := Except.ok.inj (read.symm.trans found)
  exact s3Prefix

/-- Accepted settings have a bucket and a prefix in normal form, and two prefixes have one
normal form exactly when they differ in slashes at their ends only.
Witness: the normal form is the text before those slashes.
-/
theorem prefixLayout (envy : Envy) : PrefixLayout envy where
  loaded _ _ success := loadedLayout_of_new success
  trailing := by
    intro text count
    rw [normalizeS3Prefix_eq_iff]
    refine ⟨text.toList, count, 0, ?_, (List.append_nil _).symm⟩
    rw [Option.getD_some, String.toList_append, String.toList_ofList]
  idempotent := by
    intro raw
    rw [normalizeS3Prefix_eq_iff, ← stemOf_eq_iff]
    exact stemOf_normalizeS3Prefix raw
  classes _ _ := normalizeS3Prefix_eq_iff
  objectKey := by
    intro left right differ project cacheKey
    rw [normalizeS3Prefix_eq_iff.mpr differ]
  loadedKey := by
    intro leftVars rightVars leftRaw rightRaw left right leftRead rightRead leftNew rightNew
      differ project cacheKey
    rw [s3Prefix_of_new leftRead leftNew, s3Prefix_of_new rightRead rightNew,
      normalizeS3Prefix_eq_iff.mpr differ]

end Cafce
