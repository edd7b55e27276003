import Cafce.Library.DirectoryTree
import Cafce.Library.KeyedSort
import Cafce.Model.Text

/-! Paths of the Unix targets: raw bytes that are compared, ordered and extended by component.
Repeated separators and inner `.` do not make a difference; `..` does.
-/

namespace Cafce

open DirectoryTree

/-- `OsString` -/
abbrev OsString := List UInt8

/-- `std::path::PathBuf` -/
structure PathBuf where
  bytes : OsString
deriving DecidableEq, Repr

namespace PathBuf

/-- `/` -/
def separator : UInt8 := 0x2F

/-- `Path::new` on a string. -/
def ofStr (text : String) : PathBuf :=
  { bytes := asBytes text }

/-- `Path::to_string_lossy` -/
def toStringLossy (path : PathBuf) : String :=
  fromUtf8Lossy path.bytes

/-- `Path::is_absolute` -/
def isAbsolute (path : PathBuf) : Bool :=
  path.bytes.head? = some separator

/-- The texts between separators. -/
def parts (path : PathBuf) : List OsString :=
  path.bytes.splitOn separator

/-- A part inside a path: empty parts and `.` are no components there. -/
def innerComponent (part : OsString) : Option (Component OsString) :=
  if part = [] ∨ part = [0x2E] then none
  else if part = [0x2E, 0x2E] then some .parentDir
  else some (.normal part)

/-- `Path::components`: a root or a leading `.`, then the inner components. -/
def components (path : PathBuf) : List (Component OsString) :=
  let inner := path.parts.filterMap innerComponent
  if path.isAbsolute then .rootDir :: inner
  else if path.parts.head? = some [0x2E] then .curDir :: inner
  else inner

/-- `Path::starts_with`: component-wise, so a `..` counts as a component of its own. -/
def startsWith (path base : PathBuf) : Bool :=
  base.components.isPrefixOf path.components

/-- `Path::join` -/
def join (base path : PathBuf) : PathBuf :=
  if path.isAbsolute then path
  else if base.bytes = [] ∨ base.bytes.getLast? = some separator then
    { bytes := base.bytes ++ path.bytes }
  else { bytes := base.bytes ++ separator :: path.bytes }

/-- Position of a component in the order of the standard library, then its name. -/
def componentKey : Component OsString → List Nat
  | .rootDir => [0]
  | .curDir => [1]
  | .parentDir => [2]
  | .normal name => 3 :: name.map UInt8.toNat

/-- Paths are equal when their keys are, and are ordered as their keys are. -/
def key (path : PathBuf) : List (List Nat) :=
  path.components.map componentKey

theorem componentKey_injective : Function.Injective componentKey := by
  have names : Function.Injective (List.map UInt8.toNat) :=
    List.map_injective_iff.mpr fun _ _ => UInt8.toNat.inj
  intro left right same
  cases left <;> cases right <;> simp [componentKey] at same ⊢
  exact names same

theorem map_componentKey_injective : Function.Injective (List.map componentKey) :=
  List.map_injective_iff.mpr componentKey_injective

/-- Equal keys mean equal components. -/
theorem key_eq_iff {left right : PathBuf}
    : left.key = right.key ↔ left.components = right.components :=
  map_componentKey_injective.eq_iff

theorem map_key_eq_iff {lefts rights : List PathBuf}
    : lefts.map key = rights.map key ↔ lefts.map components = rights.map components := by
  have keys (paths : List PathBuf)
      : paths.map key = (paths.map components).map (List.map componentKey) := by
    rw [List.map_map]
    rfl
  rw [keys, keys, (List.map_injective_iff.mpr map_componentKey_injective).eq_iff]

theorem startsWith_iff {path base : PathBuf}
    : path.startsWith base ↔ base.components <+: path.components := by
  simp [startsWith]

@[simp] theorem toStringLossy_ofStr (text : String) : (ofStr text).toStringLossy = text :=
  fromUtf8Lossy_asBytes text

/-- Components that a relative path adds to the path before it. -/
def inner (path : PathBuf) : List (Component OsString) :=
  path.parts.filterMap innerComponent

theorem components_of_absolute {path : PathBuf} (absolute : path.isAbsolute)
    : path.components = .rootDir :: path.inner := by
  simp [components, inner, absolute]

theorem bytes_ne_nil_of_absolute {path : PathBuf} (absolute : path.isAbsolute)
    : path.bytes ≠ [] := by
  intro empty
  simp [isAbsolute, empty] at absolute

theorem bytes_join {base path : PathBuf} (absolute : base.isAbsolute)
    (relative : path.isAbsolute = false)
    : (base.join path).bytes
      = base.bytes
        ++ if base.bytes.getLast? = some separator then path.bytes
          else separator :: path.bytes := by
  have nonempty := bytes_ne_nil_of_absolute absolute
  by_cases closed : base.bytes.getLast? = some separator
  · simp [join, relative, closed]
  · simp [join, relative, nonempty, closed]

theorem join_absolute {base path : PathBuf} (absolute : base.isAbsolute)
    (relative : path.isAbsolute = false)
    : (base.join path).isAbsolute := by
  rw [isAbsolute, bytes_join absolute relative,
    List.head?_append_of_ne_nil _ (bytes_ne_nil_of_absolute absolute)]
  exact absolute

/-- Joining appends the inner components, whether or not the base ends in a separator. -/
theorem inner_join {base path : PathBuf} (absolute : base.isAbsolute)
    (relative : path.isAbsolute = false)
    : (base.join path).inner = base.inner ++ path.inner := by
  rw [inner, parts, bytes_join absolute relative]
  split
  case isTrue closed =>
    obtain ⟨before, same⟩ := List.getLast?_eq_some_iff.mp closed
    have ending : base.inner = (before.splitOn separator).filterMap innerComponent := by
      simp [inner, parts, same, List.splitOn_append_cons_self, List.filterMap_append,
        List.splitOn_nil, innerComponent]
    rw [ending, same, List.append_assoc, List.singleton_append,
      List.splitOn_append_cons_self, List.filterMap_append, inner, parts]
  case isFalse =>
    rw [List.splitOn_append_cons_self, List.filterMap_append, inner, inner, parts, parts]

theorem components_join {base path : PathBuf} (absolute : base.isAbsolute)
    (relative : path.isAbsolute = false)
    : (base.join path).components = base.components ++ path.inner := by
  rw [components_of_absolute (join_absolute absolute relative), inner_join absolute relative,
    components_of_absolute absolute, List.cons_append]

end PathBuf

end Cafce
