import Cafce.Library.Fallible
import Cafce.Library.UrlAuthority
import Cafce.Model.Env

/-! Which server addresses become endpoints. The address is put after the scheme and read as a
URL, so that it may say more than a host and a port.
-/

namespace Cafce

open UrlAuthority

/-- The port of a web scheme. -/
def impliedPort (scheme : String) : Nat :=
  if scheme = "http" then 80 else 443

/-- The scheme that the flag chooses. -/
def Env.scheme (env : Env) : String :=
  if env.awsInsecure then "http" else "https"

def Env.withAddress (env : Env) (addr : String) : Env :=
  { env with awsServerAddress := some addr }

/-- The URL of a server: user information only before an `@`, and the root without query and
fragment where nothing follows the server.
-/
structure Describes (scheme : String) (text : List Char) (named : Server String) (parsed : Url)
    : Prop where
  scheme : parsed.scheme = scheme
  host : parsed.hostStr = some named.host
  port : parsed.port = named.port
  userInfo : '@' ∉ authority text → parsed.username = "" ∧ parsed.password = none
  rest : afterAuthority text = [] →
    parsed.path = "/" ∧ parsed.query = none ∧ parsed.fragment = none

/-- How the url crate reads web URLs: they name a server up to the first delimiter, and
`hostOf` decides about its host.
-/
structure ReadsServers (url : UrlCrate) (hostOf : List Char → Option String)
    : Prop where
  refuses : ∀ {scheme text}, scheme = "http" ∨ scheme = "https" →
    server hostOf (impliedPort scheme) text.toList = none →
      ∃ error, url.parse (scheme ++ "://" ++ text) = .error error
  accepts : ∀ {scheme text named}, scheme = "http" ∨ scheme = "https" →
    server hostOf (impliedPort scheme) text.toList = some named →
      ∃ parsed, url.parse (scheme ++ "://" ++ text) = .ok parsed
        ∧ Describes scheme text.toList named parsed

section Reading

variable {url : UrlCrate} {hostOf : List Char → Option String} {env : Env} {addr : String}
  {named : Server String}

theorem Env.scheme_web (env : Env) : env.scheme = "http" ∨ env.scheme = "https" := by
  rw [scheme]
  split
  · exact .inl rfl
  · exact .inr rfl

/-- An unset address and the one of AWS are left to the SDK. -/
theorem buildEndpoint_of_sdk (sdk : addr = "" ∨ addr = "s3.amazonaws.com")
    : (env.withAddress addr).buildEndpoint url = .ok none := by
  rcases sdk with rfl | rfl <;> rfl

theorem buildEndpoint_withAddress (filled : addr ≠ "") (other : addr ≠ "s3.amazonaws.com")
    : (env.withAddress addr).buildEndpoint url
      = match url.parse (env.scheme ++ "://" ++ addr) with
        | .error error => .error (.invalidAddress error)
        | .ok parsed =>
            if (parsed.scheme = "http" && parsed.port = some 80)
              || (parsed.scheme = "https" && parsed.port = some 443) then
              match url.setPort parsed none with
              | none => .error .portSetFailed
              | some normalized => .ok (some normalized)
            else .ok (some parsed) := by
  simp only [Env.buildEndpoint, Env.withAddress, String.isEmpty_iff, if_neg filled, if_neg other]
  rfl

theorem buildEndpoint_of_refused (law : ReadsServers url hostOf) (filled : addr ≠ "")
    (other : addr ≠ "s3.amazonaws.com")
    (refused : server hostOf (impliedPort env.scheme) addr.toList = none)
    : ∃ error, (env.withAddress addr).buildEndpoint url = .error (.invalidAddress error) := by
  obtain ⟨error, failure⟩ := law.refuses env.scheme_web refused
  exact ⟨error, by rw [buildEndpoint_withAddress filled other, failure]⟩

/-- The port that the scheme implies is gone after parsing, so no port has to be dropped. -/
theorem buildEndpoint_of_named (law : ReadsServers url hostOf) (filled : addr ≠ "")
    (other : addr ≠ "s3.amazonaws.com")
    (names : server hostOf (impliedPort env.scheme) addr.toList = some named)
    : ∃ parsed, (env.withAddress addr).buildEndpoint url = .ok (some parsed)
        ∧ Describes env.scheme addr.toList named parsed := by
  obtain ⟨parsed, success, describes⟩ := law.accepts env.scheme_web names
  refine ⟨parsed, ?_, describes⟩
  have unimplied : parsed.port ≠ some (impliedPort env.scheme) := by
    rw [describes.port]
    exact port_ne_implied names
  rw [buildEndpoint_withAddress filled other, success]
  refine if_neg ?_
  rcases env.scheme_web with scheme | scheme
    <;> simp [describes.scheme, scheme, impliedPort] at unimplied ⊢
    <;> exact unimplied

/-- The URL of a server without user information, path, query and fragment. -/
theorem Describes.eq {scheme : String} {text : List Char} {parsed : Url}
    (describes : Describes scheme text named parsed)
    (plain : ∀ char ∈ text, isPlain char)
    : parsed = {
        scheme
        username := ""
        password := none
        hostStr := some named.host
        port := named.port
        path := "/"
        query := none
        fragment := none
      } := by
  obtain ⟨username, password⟩ := describes.userInfo (at_notMem_of_plain plain)
  obtain ⟨path, query, fragment⟩ := describes.rest (afterAuthority_of_plain plain)
  cases parsed
  simp only [Url.mk.injEq]
  exact ⟨describes.scheme, username, password, describes.host, describes.port, path, query,
    fragment⟩

end Reading

/-- Endpoints are the servers that addresses of the shape `host[:port]` name, and any other
address is refused.
-/
structure OnlyServers (url : UrlCrate) (hostOf : List Char → Option String) (env : Env)
    (addr : String)
    : Prop where
  endpoint : ∀ endpoint, (env.withAddress addr).buildEndpoint url = .ok (some endpoint) →
    endpoint.scheme = env.scheme ∧ endpoint.path = "/"
      ∧ endpoint.username = "" ∧ endpoint.password = none
      ∧ endpoint.query = none ∧ endpoint.fragment = none
      ∧ ∃ host port, addr.toList = host ++ port ∧ IsHost host ∧ IsPort port
        ∧ hostOf host = endpoint.hostStr
  refuses : addr ≠ "" → ¬ IsHostPort addr.toList →
    ∃ error, (env.withAddress addr).buildEndpoint url = .error (.invalidAddress error)

theorem isHost_sdk : IsHost "s3.amazonaws.com".toList where
  nonempty := by decide
  plain := List.all_eq_true.mp (by decide)
  colons := by simp [ColonsBracketed, bracketed]

section Shape

variable {url : UrlCrate} {hostOf : List Char → Option String} {env : Env} {addr : String}
  {named : Server String}

theorem onlyServers_of_sdk (sdk : addr = "" ∨ addr = "s3.amazonaws.com")
    : OnlyServers url hostOf env addr where
  endpoint := by
    intro endpoint success
    rw [buildEndpoint_of_sdk sdk] at success
    cases success
  refuses := by
    intro filled shape
    rcases sdk with empty | rfl
    · exact absurd empty filled
    · exact absurd ⟨_, [], (List.append_nil _).symm, isHost_sdk, .inl rfl⟩ shape

theorem onlyServers_of_refused {error : ForeignError}
    (refused : (env.withAddress addr).buildEndpoint url = .error (.invalidAddress error))
    : OnlyServers url hostOf env addr where
  endpoint := by
    intro endpoint success
    rw [refused] at success
    cases success
  refuses _ _ := ⟨error, refused⟩

/-- Without delimiters a server is named by its host and port alone. -/
theorem onlyServers_of_plain (law : ReadsServers url hostOf) (filled : addr ≠ "")
    (other : addr ≠ "s3.amazonaws.com") (plain : ∀ char ∈ addr.toList, isPlain char)
    (names : server hostOf (impliedPort env.scheme) addr.toList = some named)
    : OnlyServers url hostOf env addr := by
  obtain ⟨host, port, split, isHost, isPort, accepted⟩ := isHostPort_of_server plain names
  obtain ⟨parsed, success, describes⟩ := buildEndpoint_of_named law filled other names
  refine ⟨?_, fun _ shape => absurd ⟨host, port, split, isHost, isPort⟩ shape⟩
  intro endpoint same
  rw [success] at same
  cases same
  obtain ⟨username, password⟩ := describes.userInfo (at_notMem_of_plain plain)
  obtain ⟨path, query, fragment⟩ := describes.rest (afterAuthority_of_plain plain)
  exact ⟨describes.scheme, path, username, password, query, fragment, host, port, split,
    isHost, isPort, accepted.trans describes.host.symm⟩

/-- An address that names a server beside other characters is taken. -/
theorem not_onlyServers (law : ReadsServers url hostOf) (filled : addr ≠ "")
    (other : addr ≠ "s3.amazonaws.com") (special : ¬ ∀ char ∈ addr.toList, isPlain char)
    (names : server hostOf (impliedPort env.scheme) addr.toList = some named)
    : ¬ OnlyServers url hostOf env addr := by
  intro only
  obtain ⟨error, refused⟩ := only.refuses filled fun shape => special shape.plain
  obtain ⟨parsed, success, _⟩ := buildEndpoint_of_named law filled other names
  rw [success] at refused
  cases refused

end Shape

/-- An address is taken with whatever else it says when it names a server beside delimiters,
spaces or an `@`. Witness: without them the text is the server.
-/
theorem onlyServers_iff {url : UrlCrate} {hostOf : List Char → Option String}
    (law : ReadsServers url hostOf) (env : Env) (addr : String)
    : OnlyServers url hostOf env addr
      ↔ (∀ char ∈ addr.toList, isPlain char)
        ∨ server hostOf (impliedPort env.scheme) addr.toList = none := by
  by_cases sdk : addr = "" ∨ addr = "s3.amazonaws.com"
  · have plain : ∀ char ∈ addr.toList, isPlain char := by
      rcases sdk with rfl | rfl
      · simp
      · exact isHost_sdk.plain
    exact iff_of_true (onlyServers_of_sdk sdk) (.inl plain)
  · obtain ⟨filled, other⟩ := not_or.mp sdk
    cases names : server hostOf (impliedPort env.scheme) addr.toList with
    | none =>
        obtain ⟨error, refused⟩ := buildEndpoint_of_refused law filled other names
        exact iff_of_true (onlyServers_of_refused refused) (.inr rfl)
    | some named =>
        by_cases plain : ∀ char ∈ addr.toList, isPlain char
        · exact iff_of_true (onlyServers_of_plain law filled other plain names) (.inl plain)
        · refine iff_of_false (not_onlyServers law filled other plain names) ?_
          simp [plain]

/-- Hosts by their names, in lower case. -/
def dnsName (host : List Char) : Option String :=
  if host.all fun char => char.isAlphanum || char = '-' || char = '.' then
    some (String.ofList (host.map Char.toLower))
  else none

/-- The URL of a text after its scheme, as far as no path is normalized. -/
def webUrl (scheme : String) (text : List Char) : Except ForeignError Url :=
  match server dnsName (impliedPort scheme) text with
  | none => .error { message := "invalid URL" }
  | some named =>
      let userInfo := ((authority text).rdropWhile (· ≠ '@')).dropLast
      let path := (afterAuthority text).takeWhile fun char => char ≠ '?' && char ≠ '#'
      let rest := (afterAuthority text).dropWhile fun char => char ≠ '?' && char ≠ '#'
      let query := rest.takeWhile (· ≠ '#')
      let fragment := rest.dropWhile (· ≠ '#')
      .ok {
        scheme
        username := String.ofList (userInfo.takeWhile (· ≠ ':'))
        password := (userInfo.dropWhile (· ≠ ':')).tail?.map String.ofList
        hostStr := some named.host
        port := named.port
        path := if path = [] then "/" else String.ofList path
        query := query.tail?.map String.ofList
        fragment := fragment.tail?.map String.ofList
      }

def parseWebUrl : List Char → Except ForeignError Url
  | 'h' :: 't' :: 't' :: 'p' :: ':' :: '/' :: '/' :: text => webUrl "http" text
  | 'h' :: 't' :: 't' :: 'p' :: 's' :: ':' :: '/' :: '/' :: text => webUrl "https" text
  | _ => .error { message := "relative URL without a base" }

/-- A url crate for the web schemes. -/
def webUrls : UrlCrate where
  parse text := parseWebUrl text.toList
  setPort parsed port := some { parsed with port }
  toText parsed := parsed.scheme ++ "://" ++ parsed.hostStr.getD "" ++ parsed.path

theorem parse_webUrls {scheme : String} (web : scheme = "http" ∨ scheme = "https")
    (text : String)
    : webUrls.parse (scheme ++ "://" ++ text) = webUrl scheme text.toList := by
  change parseWebUrl (scheme ++ "://" ++ text).toList = _
  rw [String.toList_append]
  rcases web with rfl | rfl <;> rfl

theorem readsServers_webUrls : ReadsServers webUrls dnsName where
  refuses := by
    intro scheme text web unnamed
    exact ⟨_, by rw [parse_webUrls web, webUrl, unnamed]⟩
  accepts := by
    intro scheme text named web names
    rw [parse_webUrls web, webUrl, names]
    refine ⟨_, rfl, rfl, rfl, rfl, ?_, ?_⟩
    · intro free
      have anonymous : (authority text.toList).rdropWhile (· ≠ '@') = [] := by
        rw [List.rdropWhile_eq_nil_iff]
        intro char member
        rw [decide_eq_true_eq]
        rintro rfl
        exact free member
      simp only [anonymous]
      exact ⟨rfl, rfl⟩
    · intro empty
      simp only [empty]
      exact ⟨rfl, rfl, rfl⟩

/-- Settings without an address. -/
def noAddress : Env where
  awsServerAddress := none
  awsAccessKey := none
  awsSecretKey := none
  awsSessionToken := none
  awsRoleArn := none
  awsRoleSessionName := none
  awsProfile := none
  awsInsecure := false
  awsRegion := none
  awsForcePathStyle := none
  awsBucket := some "cache"
  s3Prefix := none

theorem onlyServers_iff_localhost
    : OnlyServers webUrls dnsName noAddress "localhost:9000"
      ↔ (∀ char ∈ "localhost:9000".toList, isPlain char)
        ∨ server dnsName (impliedPort noAddress.scheme) "localhost:9000".toList = none :=
  onlyServers_iff readsServers_webUrls noAddress "localhost:9000"

/-- An address with a scheme of its own is taken for a server of that name. -/
theorem schemed_address_taken : ¬ OnlyServers webUrls dnsName noAddress "http://localhost" := by
  intro only
  have path := (only.endpoint _ rfl).2.1
  revert path
  decide

end Cafce
