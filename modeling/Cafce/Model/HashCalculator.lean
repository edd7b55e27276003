import Cafce.Library.Fallible
import Cafce.Library.HashList
import Cafce.Library.KeyedSort
import Cafce.Model.Errors
import Cafce.Model.FileSystem

/-! Hashing a list of files: the contents first, then the list of their printed digests. -/

namespace Cafce

open Fallible HashList KeyedSort

/-- A value of SHA-256. -/
abbrev Digest := Vector UInt8 32

/-- A byte in the format `{:02x}`. -/
def hexByte (byte : UInt8) : List Char :=
  [Nat.digitChar (byte.toNat / 16), Nat.digitChar (byte.toNat % 16)]

/-- The characters of a digest in the format `{:x}`. -/
def hexChars (digest : Digest) : List Char :=
  digest.toList.flatMap hexByte

/-- A digest in the format `{:x}`. -/
def lowerHex (digest : Digest) : String :=
  String.ofList (hexChars digest)

/-- A lowercase hexadecimal digit. -/
def isLowerHex (char : Char) : Bool :=
  char ∈ "0123456789abcdef".toList

theorem hexByte_injective : Function.Injective hexByte := by
  have digits : ∀ left right : Fin 16,
      Nat.digitChar left.val = Nat.digitChar right.val → left = right := by
    decide
  intro left right same
  obtain ⟨high, low⟩ := List.cons.inj same
  have leftBound := left.toNat_lt
  have rightBound := right.toNat_lt
  have highSame := Fin.mk.inj (digits ⟨left.toNat / 16, by omega⟩
    ⟨right.toNat / 16, by omega⟩ high)
  have lowSame := Fin.mk.inj (digits ⟨left.toNat % 16, by omega⟩
    ⟨right.toNat % 16, by omega⟩ (List.cons.inj low).1)
  apply UInt8.toNat.inj
  omega

theorem hexByte_isLowerHex (byte : UInt8) : ∀ char ∈ hexByte byte, isLowerHex char := by
  have digits : ∀ digit : Fin 16, isLowerHex (Nat.digitChar digit.val) := by decide
  have bound := byte.toNat_lt
  simp only [hexByte, List.forall_mem_cons]
  exact ⟨digits ⟨byte.toNat / 16, by omega⟩, digits ⟨byte.toNat % 16, by omega⟩, by simp⟩

theorem hexChars_length (digest : Digest) : (hexChars digest).length = 64 := by
  simp [hexChars, List.length_flatMap, hexByte]

theorem hexChars_isLowerHex (digest : Digest)
    : ∀ char ∈ hexChars digest, isLowerHex char := by
  intro char member
  obtain ⟨byte, _, inside⟩ := List.mem_flatMap.mp member
  exact hexByte_isLowerHex byte char inside

theorem hexChars_injective : Function.Injective hexChars := by
  have bytes (left right : List UInt8)
      (same : left.flatMap hexByte = right.flatMap hexByte)
      : left = right := by
    induction left generalizing right with
    | nil =>
        cases right with
        | nil => rfl
        | cons byte right => simp [hexByte] at same
    | cons byte left ih =>
        cases right with
        | nil => simp [hexByte] at same
        | cons other right =>
            obtain ⟨first, rest⟩ := List.append_inj same rfl
            rw [hexByte_injective first, ih right rest]
  intro left right same
  exact Vector.toList_inj.mp (bytes left.toList right.toList same)

/-- The two levels of hashing as a hash of a list of messages. -/
def hashScheme (sha256 : List UInt8 → Digest) : Scheme Char (List UInt8) Digest where
  hash := sha256
  word := hexChars
  encode text := asBytes (String.ofList text)
  separator := '\n'
  wordLength := 64
  word_length := hexChars_length
  wordLength_pos := by decide
  word_injective := hexChars_injective
  encode_injective := by
    intro left right same
    exact String.ofList_injective (asBytes_injective same)

/-- A computation that reads files and logs the paths it opened. -/
abbrev Reading := Logged PathBuf AnyhowError

/-- `std::fs::read` with the context that the program puts on its failure. -/
def readFile (files : FileView) (file : PathBuf) : Except AnyhowError (List UInt8) :=
  (files.read file).mapError fun error =>
    .context ("ファイルの読み込みに失敗しました: " ++ file.toStringLossy) (.foreign error)

theorem readFile_eq_ok_iff {files : FileView} {path : PathBuf} {content : List UInt8}
    : readFile files path = .ok content ↔ files.read path = .ok content :=
  mapError_eq_ok_iff

theorem mapM_readFile_eq_ok_iff {files : FileView} {paths : List PathBuf}
    {contents : List (List UInt8)}
    : paths.mapM (readFile files) = .ok contents ↔ paths.mapM files.read = .ok contents := by
  simp only [mapM_eq_ok_iff, readFile_eq_ok_iff]

namespace HashCalculator

/-- `HashCalculator::calculate_single_file_hash` -/
def calculateSingleFileHash (sha256 : List UInt8 → Digest) (files : FileView)
    (file : PathBuf)
    : Reading String := do
  let content ← Logged.perform file (readFile files file)
  return lowerHex (sha256 content)

/-- `HashCalculator::calculate_files_hash` -/
def calculateFilesHash (sha256 : List UInt8 → Digest) (files : FileView)
    (paths : List PathBuf)
    : Reading String :=
  if paths.isEmpty then return lowerHex (sha256 (asBytes ""))
  else do
    let sortedFiles := sortBy PathBuf.key paths
    let fileHashes ← Logged.traverse (calculateSingleFileHash sha256 files) sortedFiles
    let combined := "\n".intercalate fileHashes
    return lowerHex (sha256 (asBytes combined))

/-- Text of the joined digests, which is what the outer hash is fed. -/
theorem intercalate_digests (sha256 : List UInt8 → Digest) (contents : List (List UInt8))
    : "\n".intercalate (contents.map fun content => lowerHex (sha256 content))
      = String.ofList ((hashScheme sha256).digestText contents) := by
  apply String.toList_inj.mp
  rw [String.toList_intercalate, List.map_map]
  have words : String.toList ∘ (fun content => lowerHex (sha256 content))
      = fun content => hexChars (sha256 content) := by
    funext content
    exact String.toList_ofList
  rw [words]
  exact String.toList_ofList.symm

theorem outcome_calculateSingleFileHash (sha256 : List UInt8 → Digest) (files : FileView)
    (file : PathBuf)
    : (calculateSingleFileHash sha256 files file).outcome
      = (readFile files file).map fun content => lowerHex (sha256 content) := by
  rw [calculateSingleFileHash, Logged.outcome_bind, Logged.outcome_perform]
  cases readFile files file <;> rfl

/-- The outcome: every file is read in path order, and the list of contents is hashed. -/
theorem outcome_calculateFilesHash (sha256 : List UInt8 → Digest) (files : FileView)
    (paths : List PathBuf)
    : (calculateFilesHash sha256 files paths).outcome
      = ((sortBy PathBuf.key paths).mapM (readFile files)).map fun contents =>
          lowerHex ((hashScheme sha256).listHash contents) := by
  rw [calculateFilesHash]
  cases paths with
  | nil => rfl
  | cons path paths =>
      simp only [List.isEmpty_cons, Bool.false_eq_true, if_false, Logged.outcome_bind,
        Logged.outcome_traverse, outcome_calculateSingleFileHash, mapM_map_outcome]
      cases (sortBy PathBuf.key (path :: paths)).mapM (readFile files) with
      | error error => rfl
      | ok contents =>
          simp only [Except.map, ok_bind, intercalate_digests]
          rfl

/-- Only the given paths are opened. -/
theorem mem_of_opened {sha256 : List UInt8 → Digest} {files : FileView}
    {paths : List PathBuf} {path : PathBuf}
    (opened : path ∈ (calculateFilesHash sha256 files paths).log)
    : path ∈ paths := by
  rw [calculateFilesHash] at opened
  split at opened
  · simp at opened
  · rcases Logged.mem_log_bind.mp opened with reading | ⟨_, _, none⟩
    · obtain ⟨file, inSorted, logged⟩ := Logged.mem_log_traverse reading
      rw [calculateSingleFileHash, Logged.mem_log_bind] at logged
      have same : path = file := by simpa using logged
      exact same ▸ mem_sortBy.mp inSorted
    · simp at none

end HashCalculator

end Cafce
