import Cafce.Correctness.Endpoint

/-! Two spellings of one server address. The literal comparison, the endpoint and the choice of
a style read the same address in three ways.
-/

namespace Cafce

open UrlAuthority

/-- The port of a web scheme, as it is written. -/
def impliedPortText (scheme : String) : List Char :=
  if scheme = "http" then ":80".toList else ":443".toList

/-- An address of a host: in some letter case, with or without the port of the scheme. -/
def Addresses (scheme : String) (host addr : String) : Prop :=
  ∃ cased, cased.map Char.toLower = host.toList.map Char.toLower
    ∧ (addr.toList = cased ∨ addr.toList = cased ++ impliedPortText scheme)

/-- Two addresses of a host give the same endpoint and the same addressing style. -/
structure TreatedAlike (url : UrlCrate) (env : Env) (host left right : String)
    : Prop where
  endpoint : (∃ error error', (env.withAddress left).buildEndpoint url = .error error
      ∧ (env.withAddress right).buildEndpoint url = .error error')
    ∨ ∃ result, (env.withAddress left).buildEndpoint url = .ok result
      ∧ (env.withAddress right).buildEndpoint url = .ok result
  pathStyle : (env.withAddress left).shouldUsePathStyle url
    = (env.withAddress right).shouldUsePathStyle url
  sdk : host.toLower = "s3.amazonaws.com" →
    (env.withAddress left).buildEndpoint url = .ok none
      ∧ (env.withAddress right).buildEndpoint url = .ok none

section Spellings

variable {url : UrlCrate} {hostOf : List Char → Option String} {env : Env}
  {scheme host addr left right : String}

theorem port?_impliedPortText
    : port? (impliedPort scheme) (impliedPortText scheme) = some none := by
  rw [impliedPort, impliedPortText]
  split <;> rfl

/-- An address of a host is the host in its letters and a port that is dropped. -/
theorem Addresses.exists_split (addresses : Addresses scheme host addr)
    (isHost : IsHost host.toList)
    : ∃ cased port, addr.toList = cased ++ port ∧ IsHost cased
        ∧ cased.map Char.toLower = host.toList.map Char.toLower
        ∧ port? (impliedPort scheme) port = some none := by
  obtain ⟨cased, same, bare | withPort⟩ := addresses
  · exact ⟨cased, [], by rw [bare, List.append_nil], isHost.of_letterCase same, same, rfl⟩
  · exact ⟨cased, _, withPort, isHost.of_letterCase same, same, port?_impliedPortText⟩

/-- Under any web scheme it names the host, and under its own without a port. -/
theorem Addresses.exists_server_eq (addresses : Addresses scheme host addr)
    (isHost : IsHost host.toList)
    (lowercases : ∀ host, hostOf (host.map Char.toLower) = hostOf host) (implied : Nat)
    : ∃ number, (implied = impliedPort scheme → number = none)
        ∧ server hostOf implied addr.toList
          = (hostOf host.toList).map fun name => { host := name, port := number } := by
  obtain ⟨cased, port, split, casedHost, same, dropped⟩ := addresses.exists_split isHost
  have named : hostOf cased = hostOf host.toList := by
    rw [← lowercases, same, lowercases]
  obtain ⟨number, read⟩ := exists_port? dropped implied
  refine ⟨number, ?_, ?_⟩
  · rintro rfl
    exact Option.some.inj (read.symm.trans dropped)
  · rw [split, server_append casedHost (isPort_of_port? dropped), named, read]
    cases hostOf host.toList <;> rfl

theorem Addresses.server_eq (addresses : Addresses scheme host addr)
    (isHost : IsHost host.toList)
    (lowercases : ∀ host, hostOf (host.map Char.toLower) = hostOf host)
    : server hostOf (impliedPort scheme) addr.toList
      = (hostOf host.toList).map fun name => { host := name, port := none } := by
  obtain ⟨number, own, same⟩ :=
    addresses.exists_server_eq isHost lowercases (impliedPort scheme)
  rw [same, own rfl]

theorem Addresses.filled (addresses : Addresses scheme host addr)
    (isHost : IsHost host.toList)
    : addr ≠ "" := by
  rintro rfl
  obtain ⟨cased, port, split, casedHost, _⟩ := addresses.exists_split isHost
  exact casedHost.nonempty (List.append_eq_nil_iff.mp split.symm).1

/-- It has no characters beside those of the host and the port. -/
theorem Addresses.plain (addresses : Addresses scheme host addr)
    (isHost : IsHost host.toList)
    : ∀ char ∈ addr.toList, isPlain char := by
  obtain ⟨cased, port, split, casedHost, _, dropped⟩ := addresses.exists_split isHost
  exact IsHostPort.plain ⟨cased, port, split, casedHost, isPort_of_port? dropped⟩

/-- The host is what the style is chosen by. -/
theorem Addresses.getHost_eq (law : ReadsServers url hostOf)
    (addresses : Addresses scheme host addr) (isHost : IsHost host.toList)
    (lowercases : ∀ host, hostOf (host.map Char.toLower) = hostOf host)
    : (env.withAddress addr).getHost url = hostOf host.toList := by
  obtain ⟨number, _, names⟩ := addresses.exists_server_eq isHost lowercases 80
  have read : (env.withAddress addr).getHost url
      = (url.parse ("http" ++ "://" ++ addr)).toOption.bind Url.hostStr := by
    simp only [Env.getHost, Env.withAddress, Option.bind_eq_bind, Option.bind_some,
      String.isEmpty_iff, if_neg (addresses.filled isHost)]
    rfl
  rw [read]
  cases accepted : hostOf host.toList with
  | none =>
      rw [accepted] at names
      obtain ⟨error, failure⟩ := law.refuses (.inl rfl) names
      rw [failure]
      rfl
  | some name =>
      rw [accepted] at names
      obtain ⟨parsed, success, describes⟩ := law.accepts (.inl rfl) names
      rw [success]
      exact describes.host

theorem Addresses.exists_endpoint_error (law : ReadsServers url hostOf)
    (addresses : Addresses env.scheme host addr) (isHost : IsHost host.toList)
    (lowercases : ∀ host, hostOf (host.map Char.toLower) = hostOf host)
    (other : addr ≠ "s3.amazonaws.com") (unknown : hostOf host.toList = none)
    : ∃ error, (env.withAddress addr).buildEndpoint url = .error error := by
  have unnamed := addresses.server_eq isHost lowercases
  rw [unknown] at unnamed
  obtain ⟨error, refused⟩ :=
    buildEndpoint_of_refused law (addresses.filled isHost) other unnamed
  exact ⟨_, refused⟩

/-- The endpoint depends on the host only. -/
theorem Addresses.endpoint_eq (law : ReadsServers url hostOf)
    (addresses : Addresses env.scheme host addr) (isHost : IsHost host.toList)
    (lowercases : ∀ host, hostOf (host.map Char.toLower) = hostOf host)
    (other : addr ≠ "s3.amazonaws.com") {name : String}
    (known : hostOf host.toList = some name)
    : (env.withAddress addr).buildEndpoint url = .ok (some {
        scheme := env.scheme
        username := ""
        password := none
        hostStr := some name
        port := none
        path := "/"
        query := none
        fragment := none
      }) := by
  have names := addresses.server_eq isHost lowercases
  rw [known] at names
  obtain ⟨parsed, success, describes⟩ :=
    buildEndpoint_of_named law (addresses.filled isHost) other names
  rw [success, describes.eq (addresses.plain isHost)]

/-- The literal address has no port, and its host is AWS. -/
theorem Addresses.toLower_of_literal (addresses : Addresses scheme host "s3.amazonaws.com")
    : host.toLower = "s3.amazonaws.com" := by
  obtain ⟨cased, same, bare | withPort⟩ := addresses
  · rw [← String.toList_inj, String.toLower, String.toList_map, ← same, ← bare]
    rfl
  · have colon : ':' ∈ impliedPortText scheme := by
      rw [impliedPortText]
      split <;> decide
    have inside : ':' ∈ "s3.amazonaws.com".toList := by
      rw [withPort]
      exact List.mem_append_right _ colon
    exact absurd inside (by decide)

theorem Addresses.ne_literal (addresses : Addresses scheme host addr)
    (elsewhere : host.toLower ≠ "s3.amazonaws.com")
    : addr ≠ "s3.amazonaws.com" := by
  rintro rfl
  exact elsewhere addresses.toLower_of_literal

/-- Only the literal address is left to the SDK; any other gets an endpoint or an error. -/
theorem Addresses.eq_literal_of_none (law : ReadsServers url hostOf)
    (addresses : Addresses env.scheme host addr) (isHost : IsHost host.toList)
    (lowercases : ∀ host, hostOf (host.map Char.toLower) = hostOf host)
    (sdk : (env.withAddress addr).buildEndpoint url = .ok none)
    : addr = "s3.amazonaws.com" := by
  by_contra other
  cases known : hostOf host.toList with
  | none =>
      obtain ⟨error, failure⟩ :=
        addresses.exists_endpoint_error law isHost lowercases other known
      rw [failure] at sdk
      cases sdk
  | some name =>
      rw [addresses.endpoint_eq law isHost lowercases other known] at sdk
      cases sdk

/-- The style never depends on the spelling. -/
theorem shouldUsePathStyle_eq_of_addresses (law : ReadsServers url hostOf)
    (isHost : IsHost host.toList)
    (lowercases : ∀ host, hostOf (host.map Char.toLower) = hostOf host)
    (one : Addresses scheme host left) (another : Addresses scheme host right)
    : (env.withAddress left).shouldUsePathStyle url
      = (env.withAddress right).shouldUsePathStyle url := by
  simp only [Env.shouldUsePathStyle, one.getHost_eq law isHost lowercases,
    another.getHost_eq law isHost lowercases]
  rfl

end Spellings

/-- Only the literal name of AWS in small letters and without a port is recognized. All other
hosts are treated alike in every spelling.
-/
theorem treatedAlike_iff {url : UrlCrate} {hostOf : List Char → Option String}
    (law : ReadsServers url hostOf)
    (lowercases : ∀ host, hostOf (host.map Char.toLower) = hostOf host)
    (env : Env) {host left right : String} (isHost : IsHost host.toList)
    (one : Addresses env.scheme host left) (another : Addresses env.scheme host right)
    : TreatedAlike url env host left right
      ↔ host.toLower ≠ "s3.amazonaws.com"
        ∨ left = "s3.amazonaws.com" ∧ right = "s3.amazonaws.com" := by
  have style : (env.withAddress left).shouldUsePathStyle url
      = (env.withAddress right).shouldUsePathStyle url :=
    shouldUsePathStyle_eq_of_addresses law isHost lowercases one another
  refine ⟨?_, ?_⟩
  · intro alike
    by_contra neither
    obtain ⟨aws, spelled⟩ := not_or.mp neither
    obtain ⟨leftSdk, rightSdk⟩ := alike.sdk (not_not.mp aws)
    exact spelled ⟨one.eq_literal_of_none law isHost lowercases leftSdk,
      another.eq_literal_of_none law isHost lowercases rightSdk⟩
  · intro condition
    rcases condition with elsewhere | ⟨rfl, rfl⟩
    · have leftOther := one.ne_literal elsewhere
      have rightOther := another.ne_literal elsewhere
      refine ⟨?_, style, fun aws => absurd aws elsewhere⟩
      cases known : hostOf host.toList with
      | none =>
          obtain ⟨error, failure⟩ :=
            one.exists_endpoint_error law isHost lowercases leftOther known
          obtain ⟨error', failure'⟩ :=
            another.exists_endpoint_error law isHost lowercases rightOther known
          exact .inl ⟨error, error', failure, failure'⟩
      | some name =>
          exact .inr ⟨_, one.endpoint_eq law isHost lowercases leftOther known,
            another.endpoint_eq law isHost lowercases rightOther known⟩
    · exact ⟨.inr ⟨none, rfl, rfl⟩, style, fun _ => ⟨rfl, rfl⟩⟩

theorem dnsName_lowercases (host : List Char)
    : dnsName (host.map Char.toLower) = dnsName host := by
  have lower : (host.map Char.toLower).map Char.toLower = host.map Char.toLower := by
    simp only [List.map_map, Function.comp_def, Char.toLower_toLower_eq_toLower]
  have hyphen : '-'.isAlpha = false := rfl
  have dot : '.'.isAlpha = false := rfl
  rw [dnsName, lower, dnsName]
  simp only [List.all_map, Function.comp_def, isAlphanum_toLower,
    toLower_eq_iff_of_not_isAlpha hyphen, toLower_eq_iff_of_not_isAlpha dot]

theorem treatedAlike_iff_port
    : TreatedAlike webUrls noAddress "minio.local" "MinIO.local:443" "minio.local"
      ↔ "minio.local".toLower ≠ "s3.amazonaws.com"
        ∨ "MinIO.local:443" = "s3.amazonaws.com" ∧ "minio.local" = "s3.amazonaws.com" :=
  treatedAlike_iff readsServers_webUrls dnsName_lowercases noAddress
    ⟨by decide, List.all_eq_true.mp (by decide), by simp [ColonsBracketed, bracketed]⟩
    ⟨"MinIO.local".toList, by decide, .inr rfl⟩ ⟨"minio.local".toList, rfl, .inl rfl⟩

/-- A capital letter makes an endpoint of the address of AWS. -/
theorem capital_address_of_aws
    : IsHost "s3.amazonaws.com".toList
      ∧ Addresses noAddress.scheme "s3.amazonaws.com" "S3.amazonaws.com"
      ∧ Addresses noAddress.scheme "s3.amazonaws.com" "s3.amazonaws.com"
      ∧ ¬ TreatedAlike webUrls noAddress "s3.amazonaws.com" "S3.amazonaws.com"
          "s3.amazonaws.com" := by
  refine ⟨isHost_sdk, ⟨"S3.amazonaws.com".toList, by decide, .inl rfl⟩,
    ⟨"s3.amazonaws.com".toList, rfl, .inl rfl⟩, fun alike => ?_⟩
  have lower : "s3.amazonaws.com".toLower = "s3.amazonaws.com" := by
    rw [← String.toList_inj, String.toLower, String.toList_map]
    rfl
  cases (alike.sdk lower).1

end Cafce
