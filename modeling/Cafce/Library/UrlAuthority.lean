import Mathlib

/-! The server that a URL of a web scheme names: the text between the slashes after the scheme
and the next delimiter, without user information, split into a host and a port.
-/

namespace UrlAuthority

def isSlash (char : Char) : Bool :=
  char = '/' || char = '\\'

/-- What ends an authority. -/
def isDelimiter (char : Char) : Bool :=
  isSlash char || char = '?' || char = '#'

/-- Tabs and line breaks are removed wherever they stand. -/
def isIgnored (char : Char) : Bool :=
  char = '\t' || char = '\n' || char = '\r'

/-- What a URL parser reads of a text at the end of its input. -/
def cleaned (text : List Char) : List Char :=
  (text.rdropWhile (· ≤ ' ')).filter (! isIgnored ·)

/-- Further slashes are skipped. -/
def afterSlashes (text : List Char) : List Char :=
  (cleaned text).dropWhile isSlash

def authority (text : List Char) : List Char :=
  (afterSlashes text).takeWhile (! isDelimiter ·)

/-- Path, query and fragment. -/
def afterAuthority (text : List Char) : List Char :=
  (afterSlashes text).dropWhile (! isDelimiter ·)

/-- User information ends at the last `@`. -/
def hostPort (text : List Char) : List Char :=
  (authority text).rtakeWhile (· ≠ '@')

/-- Whether a position is in brackets after one more character. -/
def bracketed (inside : Bool) (char : Char) : Bool :=
  if char = '[' then true else if char = ']' then false else inside

/-- The host and what follows it: nothing, or a colon outside brackets and the port. -/
def splitHost : Bool → List Char → Option (List Char × List Char)
  | inside, [] => if inside then none else some ([], [])
  | inside, char :: text =>
      if char = ':' ∧ inside = false then some ([], char :: text)
      else (splitHost (bracketed inside char) text).map fun parts => (char :: parts.1, parts.2)

def portNumber (digits : List Char) : Nat :=
  digits.foldl (fun number digit => 10 * number + (digit.toNat - '0'.toNat)) 0

/-- The port after a host. An empty one and the one that the scheme implies are dropped. -/
def port? (implied : Nat) : List Char → Option (Option Nat)
  | [] => some none
  | colon :: digits =>
      if colon = ':' ∧ digits.all Char.isDigit ∧ portNumber digits < 65536 then
        some (if digits = [] ∨ portNumber digits = implied then none
          else some (portNumber digits))
      else none

/-- A host in its normal form and a port. -/
structure Server (Host : Type) where
  host : Host
  port : Option Nat
deriving DecidableEq, Repr

variable {Host : Type}

/-- The server that a text names after the scheme, if it names one. -/
def server (hostOf : List Char → Option Host) (implied : Nat) (text : List Char)
    : Option (Server Host) := do
  let (host, port) ← splitHost false (hostPort text)
  if host = [] then none
  else
    let host ← hostOf host
    let port ← port? implied port
    return { host, port }

/-- A character that is part of hosts and ports only. -/
def isPlain (char : Char) : Bool :=
  ' ' < char && ! isDelimiter char && char ≠ '@'

/-- Colons stand in brackets, and brackets are closed. -/
def ColonsBracketed : Bool → List Char → Prop
  | inside, [] => inside = false
  | inside, char :: text =>
      ¬ (char = ':' ∧ inside = false) ∧ ColonsBracketed (bracketed inside char) text

/-- The text of a host: a name, an address or an address in brackets. -/
structure IsHost (host : List Char) : Prop where
  nonempty : host ≠ []
  plain : ∀ char ∈ host, isPlain char
  colons : ColonsBracketed false host

/-- Nothing, or a colon and digits, of which there may be none. -/
def IsPort (port : List Char) : Prop :=
  port = [] ∨ ∃ digits, port = ':' :: digits ∧ digits.all Char.isDigit

/-- The shape `host[:port]`. -/
def IsHostPort (text : List Char) : Prop :=
  ∃ host port, text = host ++ port ∧ IsHost host ∧ IsPort port

theorem isPlain_iff {char : Char}
    : isPlain char
      ↔ ' ' < char ∧ char ≠ '/' ∧ char ≠ '\\' ∧ char ≠ '?' ∧ char ≠ '#' ∧ char ≠ '@' := by
  simp [isPlain, isDelimiter, isSlash, and_assoc]

/-- Letters and digits are plain. -/
theorem isPlain_of_isAlphanum {char : Char} (named : char.isAlphanum) : isPlain char := by
  rw [isPlain_iff]
  refine ⟨?_, ?_⟩
  · by_contra low
    have bounded : char.val.toNat ≤ 32 := UInt32.le_iff_toNat_le.mp (not_lt.mp low)
    simp only [Char.isAlphanum, Char.isAlpha, Char.isUpper, Char.isLower, Char.isDigit,
      Bool.or_eq_true, Bool.and_eq_true, decide_eq_true_eq, ge_iff_le,
      UInt32.le_iff_toNat_le] at named
    have upper : 'A'.val.toNat = 65 := rfl
    have lower : 'a'.val.toNat = 97 := rfl
    have zero : '0'.val.toNat = 48 := rfl
    omega
  · refine ⟨?_, ?_, ?_, ?_, ?_⟩ <;> rintro rfl <;> exact absurd named (by decide)

section Plain

variable {text : List Char} (plain : ∀ char ∈ text, isPlain char)
include plain

/-- A plain text has no part that is removed. -/
theorem cleaned_of_plain : cleaned text = text := by
  have kept : text.rdropWhile (· ≤ ' ') = text := by
    rw [List.rdropWhile_eq_self_iff]
    intro nonempty low
    have last := plain _ (List.getLast_mem nonempty)
    simp only [isPlain, Bool.and_eq_true, decide_eq_true_eq] at last low
    exact absurd low (not_le.mpr last.1.1)
  rw [cleaned, kept, List.filter_eq_self]
  intro char member
  have above := plain char member
  simp only [isPlain, Bool.and_eq_true, decide_eq_true_eq] at above
  by_contra ignored
  simp only [isIgnored, Bool.not_eq_true', Bool.not_eq_false, Bool.or_eq_true,
    decide_eq_true_eq] at ignored
  rcases ignored with (rfl | rfl) | rfl <;> exact absurd above.1.1 (by decide)

theorem afterSlashes_of_plain : afterSlashes text = text := by
  rw [afterSlashes, cleaned_of_plain plain, List.dropWhile_eq_self_iff]
  intro nonempty slash
  have first := plain _ (List.getElem_mem nonempty)
  simp [isPlain, isDelimiter, slash] at first

theorem not_isDelimiter_of_plain {char : Char} (member : char ∈ text)
    : (! isDelimiter char) = true := by
  have kept := plain char member
  simp only [isPlain, Bool.and_eq_true] at kept
  exact kept.1.2

/-- The whole of it is the authority. -/
theorem authority_of_plain : authority text = text := by
  rw [authority, afterSlashes_of_plain plain, List.takeWhile_eq_self_iff]
  exact fun _ member => not_isDelimiter_of_plain plain member

theorem afterAuthority_of_plain : afterAuthority text = [] := by
  rw [afterAuthority, afterSlashes_of_plain plain, List.dropWhile_eq_nil_iff]
  exact fun _ member => not_isDelimiter_of_plain plain member

theorem at_notMem_of_plain : '@' ∉ authority text := by
  rw [authority_of_plain plain]
  intro member
  have first := plain '@' member
  simp [isPlain] at first

theorem hostPort_of_plain : hostPort text = text := by
  have free := at_notMem_of_plain plain
  rw [authority_of_plain plain] at free
  rw [hostPort, authority_of_plain plain, List.rtakeWhile_eq_self_iff]
  intro char member
  rw [decide_eq_true_eq]
  rintro rfl
  exact free member

end Plain

/-- A text splits at the end or at the first colon outside brackets. -/
theorem splitHost_eq_some_iff {inside : Bool} {text host port : List Char}
    : splitHost inside text = some (host, port)
      ↔ text = host ++ port ∧ ColonsBracketed inside host
        ∧ (port = [] ∨ ∃ digits, port = ':' :: digits) := by
  induction text generalizing inside host with
  | nil =>
      cases inside <;> cases host <;> simp +contextual [splitHost, ColonsBracketed, eq_comm]
  | cons char text ih =>
      rw [splitHost]
      split
      case isTrue colon =>
        obtain ⟨rfl, rfl⟩ := colon
        cases host with
        | nil => simp +contextual [ColonsBracketed, eq_comm]
        | cons first host =>
            simp only [Option.some.injEq, Prod.mk.injEq, List.cons_append, List.cons.injEq]
            refine ⟨fun same => (List.cons_ne_nil _ _ same.1.symm).elim, ?_⟩
            rintro ⟨⟨rfl, _⟩, ⟨notColon, _⟩, _⟩
            exact absurd ⟨rfl, rfl⟩ notColon
      case isFalse noColon =>
        simp only [Option.map_eq_some_iff, Prod.exists, Prod.mk.injEq]
        refine ⟨?_, ?_⟩
        · rintro ⟨rest, port, split, rfl, rfl⟩
          obtain ⟨rfl, colons, ends⟩ := ih.mp split
          exact ⟨rfl, ⟨noColon, colons⟩, ends⟩
        · rintro ⟨same, colons, ends⟩
          cases host with
          | nil =>
              obtain rfl : inside = false := colons
              rcases ends with rfl | ⟨digits, rfl⟩
              · simp at same
              · exact absurd ⟨(List.cons.inj same).1, rfl⟩ noColon
          | cons first host =>
              obtain ⟨rfl, rfl⟩ := List.cons.inj same
              exact ⟨host, port, ih.mpr ⟨rfl, colons.2, ends⟩, rfl, rfl⟩

/-- What a port that is read looks like: nothing, or a colon and digits of a small number, which
is kept unless the scheme implies it.
-/
theorem port?_eq_some {implied : Nat} {port : List Char} {number : Option Nat}
    (read : port? implied port = some number)
    : port = [] ∧ number = none
      ∨ ∃ digits, port = ':' :: digits
        ∧ digits.all Char.isDigit
        ∧ portNumber digits < 65536
        ∧ number = if digits = [] ∨ portNumber digits = implied then none
          else some (portNumber digits) := by
  cases port with
  | nil => exact .inl ⟨rfl, (Option.some.inj read).symm⟩
  | cons colon digits =>
      rw [port?] at read
      split at read
      · rename_i valid
        obtain ⟨rfl, numeric, small⟩ := valid
        exact .inr ⟨digits, rfl, numeric, small, (Option.some.inj read).symm⟩
      · cases read

/-- A port that is read has the form of one. -/
theorem isPort_of_port? {implied : Nat} {port : List Char} {number : Option Nat}
    (read : port? implied port = some number)
    : IsPort port := by
  rcases port?_eq_some read with ⟨rfl, _⟩ | ⟨digits, rfl, numeric, _⟩
  · exact .inl rfl
  · exact .inr ⟨digits, rfl, numeric⟩

/-- Which port a scheme implies has no say in whether a port is read. -/
theorem exists_port? {implied : Nat} {port : List Char} {number : Option Nat}
    (read : port? implied port = some number) (other : Nat)
    : ∃ number', port? other port = some number' := by
  rcases port?_eq_some read with ⟨rfl, _⟩ | ⟨digits, rfl, numeric, small, _⟩
  · exact ⟨none, rfl⟩
  · exact ⟨_, if_pos ⟨rfl, numeric, small⟩⟩

/-- The port that the scheme implies is dropped. -/
theorem port?_ne_implied {implied : Nat} {port : List Char}
    : port? implied port ≠ some (some implied) := by
  intro read
  rcases port?_eq_some read with ⟨_, ⟨⟩⟩ | ⟨digits, _, _, _, kept⟩
  split at kept
  · cases kept
  · rename_i unimplied
    exact unimplied (.inr (Option.some.inj kept).symm)

/-- A server is named by a nonempty host that is accepted and a port that is read. -/
theorem server_eq_some {hostOf : List Char → Option Host} {implied : Nat} {text : List Char}
    {named : Server Host} (names : server hostOf implied text = some named)
    : ∃ host port, splitHost false (hostPort text) = some (host, port) ∧ host ≠ []
        ∧ hostOf host = some named.host ∧ port? implied port = some named.port := by
  rw [server, Option.bind_eq_bind, Option.bind_eq_some_iff] at names
  obtain ⟨⟨host, port⟩, split, names⟩ := names
  simp only at names
  split at names
  · cases names
  · rename_i nonempty
    simp only [Option.bind_eq_bind, Option.bind_eq_some_iff] at names
    obtain ⟨name, accepted, number, read, same⟩ := names
    cases same
    exact ⟨host, port, split, nonempty, accepted, read⟩

/-- Digits and the colon before them are plain. -/
theorem IsPort.plain {port : List Char} (isPort : IsPort port)
    : ∀ char ∈ port, isPlain char := by
  rcases isPort with rfl | ⟨digits, rfl, numeric⟩
  · simp
  · intro char member
    rcases List.mem_cons.mp member with rfl | digit
    · decide
    · have isDigit := List.all_eq_true.mp numeric char digit
      exact isPlain_of_isAlphanum (by simp [Char.isAlphanum, isDigit])

theorem IsHostPort.plain {text : List Char} (shape : IsHostPort text)
    : ∀ char ∈ text, isPlain char := by
  obtain ⟨host, port, rfl, isHost, isPort⟩ := shape
  intro char member
  rcases List.mem_append.mp member with inHost | inPort
  · exact isHost.plain char inHost
  · exact isPort.plain char inPort

/-- A host and a port name a server when both are accepted. -/
theorem server_append {hostOf : List Char → Option Host} {implied : Nat}
    {host port : List Char} (isHost : IsHost host) (isPort : IsPort port)
    : server hostOf implied (host ++ port)
      = (hostOf host).bind fun name =>
          (port? implied port).map fun number => { host := name, port := number } := by
  have plain := IsHostPort.plain ⟨host, port, rfl, isHost, isPort⟩
  have ends : port = [] ∨ ∃ digits, port = ':' :: digits :=
    isPort.imp_right fun ⟨digits, same, _⟩ => ⟨digits, same⟩
  have split : splitHost false (host ++ port) = some (host, port) :=
    splitHost_eq_some_iff.mpr ⟨rfl, isHost.colons, ends⟩
  rw [server, hostPort_of_plain plain, split]
  simp only [Option.bind_eq_bind, Option.bind_some, if_neg isHost.nonempty]
  cases hostOf host <;> cases port? implied port <;> rfl

/-- A plain text that names a server has a host and a port and no other parts. -/
theorem isHostPort_of_server {hostOf : List Char → Option Host} {implied : Nat}
    {text : List Char} {named : Server Host} (plain : ∀ char ∈ text, isPlain char)
    (names : server hostOf implied text = some named)
    : ∃ host port, text = host ++ port ∧ IsHost host ∧ IsPort port
        ∧ hostOf host = some named.host := by
  obtain ⟨host, port, split, nonempty, accepted, read⟩ := server_eq_some names
  rw [hostPort_of_plain plain] at split
  obtain ⟨rfl, colons, _⟩ := splitHost_eq_some_iff.mp split
  have isHost : IsHost host :=
    ⟨nonempty, fun char member => plain char (List.mem_append_left _ member), colons⟩
  exact ⟨host, port, rfl, isHost, isPort_of_port? read, accepted⟩

theorem port_ne_implied {hostOf : List Char → Option Host} {implied : Nat} {text : List Char}
    {named : Server Host} (names : server hostOf implied text = some named)
    : named.port ≠ some implied := by
  obtain ⟨host, port, _, _, _, read⟩ := server_eq_some names
  intro implies
  rw [implies] at read
  exact port?_ne_implied read

section LetterCase

variable {char special : Char} {inside : Bool} {text host cased : List Char}

theorem isAlpha_of_isUpper (upper : char.isUpper) : char.isAlpha := by
  simp [Char.isAlpha, upper]

theorem isAlphanum_toLower (char : Char) : char.toLower.isAlphanum = char.isAlphanum := by
  by_cases upper : char.isUpper
  · simp [Char.isAlphanum, isAlpha_of_isUpper upper]
  · rw [Char.toLower_eq_of_not_isUpper upper]

/-- What is no letter is left alone, and nothing else becomes it. -/
theorem toLower_eq_iff_of_not_isAlpha (noLetter : special.isAlpha = false)
    : char.toLower = special ↔ char = special := by
  by_cases upper : char.isUpper
  · have letter := isAlpha_of_isUpper upper
    refine ⟨?_, ?_⟩
    · rintro rfl
      simp [letter] at noLetter
    · rintro rfl
      simp [letter] at noLetter
  · rw [Char.toLower_eq_of_not_isUpper upper]

theorem isPlain_toLower : isPlain char.toLower = isPlain char := by
  by_cases upper : char.isUpper
  · have named : char.isAlphanum := by simp [Char.isAlphanum, isAlpha_of_isUpper upper]
    have lowerNamed : char.toLower.isAlphanum := by rw [isAlphanum_toLower, named]
    rw [isPlain_of_isAlphanum lowerNamed, isPlain_of_isAlphanum named]
  · rw [Char.toLower_eq_of_not_isUpper upper]

theorem bracketed_toLower : bracketed inside char.toLower = bracketed inside char := by
  simp only [bracketed, toLower_eq_iff_of_not_isAlpha (show '['.isAlpha = false from rfl),
    toLower_eq_iff_of_not_isAlpha (show ']'.isAlpha = false from rfl)]

theorem colonsBracketed_map_toLower
    : ColonsBracketed inside (text.map Char.toLower) ↔ ColonsBracketed inside text := by
  induction text generalizing inside with
  | nil => rfl
  | cons char text ih =>
      simp only [List.map_cons, ColonsBracketed, bracketed_toLower, ih,
        toLower_eq_iff_of_not_isAlpha (show ':'.isAlpha = false from rfl)]

/-- A host stays one in any letter case. -/
theorem isHost_map_toLower : IsHost (host.map Char.toLower) ↔ IsHost host := by
  refine ⟨?_, ?_⟩
  · intro lower
    refine ⟨?_, ?_, colonsBracketed_map_toLower.mp lower.colons⟩
    · exact fun empty => lower.nonempty (by rw [empty, List.map_nil])
    · intro char member
      rw [← isPlain_toLower]
      exact lower.plain _ (List.mem_map_of_mem member)
  · intro isHost
    refine ⟨?_, ?_, colonsBracketed_map_toLower.mpr isHost.colons⟩
    · exact fun empty => isHost.nonempty (List.map_eq_nil_iff.mp empty)
    · intro char member
      obtain ⟨original, inHost, rfl⟩ := List.mem_map.mp member
      rw [isPlain_toLower]
      exact isHost.plain original inHost

theorem IsHost.of_letterCase (isHost : IsHost host)
    (same : cased.map Char.toLower = host.map Char.toLower)
    : IsHost cased := by
  rw [← isHost_map_toLower, same, isHost_map_toLower]
  exact isHost

end LetterCase

end UrlAuthority
