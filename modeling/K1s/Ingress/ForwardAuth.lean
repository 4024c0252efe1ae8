import K1s.Ingress.Envoy

/-!
# Which routes are authenticated

One URL is chosen for the whole proxy, the least among those of the routes in two of
the modes, and a route is authenticated if its policy names that URL.  This module
says for which records and policies every route whose policy asks for it is
authenticated at the URL of the policy.
-/

namespace K1s
namespace Ingress

open Py Url

/-! ## The URL of the filter -/

/-- The filter sends requests to the URL: a path of a slash alone is left out. -/
def ExtAuthzConfig.PointsTo (config : ExtAuthzConfig) (url : String) : Prop :=
  config.uri ++ config.pathPrefix = url ∨ config.pathPrefix = "" ∧ config.uri ++ "/" = url

/-- The parts that a normalized URL is put together from. -/
structure UrlParts (url : String) where
  parsed : ParseResult
  scheme : List Char
  port : Nat
  clean : parsed.Clean
  http : isHttp scheme
  given : parsed.hostname ≠ []
  params : dropParams parsed.path = parsed.path
  positive : 0 < port
  whole : url.toList = serverUri scheme parsed.hostname port ++ parsed.path

theorem portOr_pos (port : Option Nat) (scheme : List Char) :
    0 < portOr port (defaultPort scheme) := by
  unfold portOr defaultPort
  split
  · split <;> decide
  · omega

theorem nonempty_urlParts
    {library : Library} {rawUrl url : String}
    (normalized : normalizeForwardAuthUrl library rawUrl = some (some url)) :
    Nonempty (UrlParts url) := by
  unfold normalizeForwardAuthUrl at normalized
  split at normalized
  · cases Option.some.inj normalized
  · dsimp only at normalized
    split at normalized
    · cases normalized
    · next parsed made =>
        split at normalized
        · cases Option.some.inj normalized
        · next scheme =>
            split at normalized
            · cases Option.some.inj normalized
            · next given =>
                obtain ⟨port, -, equal⟩ := Option.map_eq_some_iff.mp normalized
                have clean := clean_of_urlparse made
                have http : isHttp (schemeOr "http" parsed.scheme) := by
                  unfold isHttp
                  by_contra other
                  exact scheme (not_or.mp other)
                refine ⟨⟨parsed, schemeOr "http" parsed.scheme, _, clean, http, ?_, ?_,
                  portOr_pos port (schemeOr "http" parsed.scheme), ?_⟩⟩
                · simpa using given
                · refine clean.params ?_
                  unfold schemeOr at http
                  split at http
                  · next none =>
                      rw [List.isEmpty_iff.mp none]
                      decide
                  · rw [clean.lowered] at http
                    rcases http with http | http <;> rw [http] <;> decide
                · rw [← Option.some.inj equal, String.toList_ofList]

namespace UrlParts

variable {url : String} (parts : UrlParts url)

/-- The authority of the URL. -/
def netloc : List Char := parts.parsed.hostname ++ ':' :: Nat.toDigits 10 parts.port

/-- The URL, as it is taken apart again. -/
def again : ParseResult := ⟨parts.scheme, parts.netloc, parts.parsed.path⟩

variable {char : Char}

theorem isDigit_of_mem (member : char ∈ Nat.toDigits 10 parts.port) : char.isDigit = true :=
  Nat.isDigit_of_mem_toDigits (by decide) (by decide) member

theorem mem_netloc (member : char ∈ parts.netloc) :
    char ∈ parts.parsed.hostname ∨ char = ':' ∨ char.isDigit = true := by
  rcases List.mem_append.mp member with host | rest
  · exact .inl host
  · rcases List.mem_cons.mp rest with colon | digit
    · exact .inr (.inl colon)
    · exact .inr (.inr (parts.isDigit_of_mem digit))

/-- A sign other than a colon that is not in the authority of the first URL is not
in that of the second. -/
theorem not_mem_netloc
    (absent : char ∉ parts.parsed.netloc)
    (symbol : char.isLower = false ∧ char ≠ ':' ∧ char.isDigit = false) :
    char ∉ parts.netloc := by
  intro member
  rcases parts.mem_netloc member with host | colon | digit
  · exact not_mem_hostname absent symbol.1 host
  · exact symbol.2.1 colon
  · rw [symbol.2.2] at digit
    cases digit

/-- Signs that end an authority, that are removed, or that enclose an address. -/
theorem symbols : ∀ char ∈ ['/', '?', '#'] ++ (unsafeChars ++ ['[', ']']),
    char.isLower = false ∧ char ≠ ':' ∧ char.isDigit = false := by
  intro char member
  simp only [unsafeChars, List.cons_append, List.nil_append, List.mem_cons, List.not_mem_nil,
    or_false] at member
  rcases member with rfl | rfl | rfl | rfl | rfl | rfl | rfl | rfl <;> decide

theorem urlparse_url (refused : List Char → Bool) :
    urlparse refused url.toList =
      if ('[' ∈ parts.netloc ↔ ']' ∈ parts.netloc) ∧ refused parts.netloc = false then
        some parts.again
      else none := by
  have clean := parts.clean
  have whole : url.toList = parts.scheme ++ "://".toList ++ parts.netloc ++
      parts.parsed.path := by
    rw [parts.whole, serverUri, netloc]
    simp only [List.append_assoc]
  rw [whole]
  refine urlparse_append parts.http ?_ (clean.rooted (netloc_ne_nil parts.given)) clean.plain
    parts.params ?_
  · intro char member
    by_contra delimiter
    have listed : char ∈ ['/', '?', '#'] := by
      by_contra other
      exact delimiter (by simpa [netlocChar] using other)
    exact parts.not_mem_netloc (fun inside => delimiter (clean.ordinary char inside))
      (symbols char (List.mem_append_left _ listed)) member
  · intro char member listed
    rcases List.mem_append.mp member with inNetloc | inPath
    · exact parts.not_mem_netloc
        (fun inside => clean.safe char (List.mem_append_left _ inside) listed)
        (symbols char (List.mem_append_right _ (List.mem_append_left _ listed))) inNetloc
    · exact clean.safe char (List.mem_append_right _ inPath) listed

theorem hostinfo_again : parts.again.hostinfo = parts.netloc := by
  have absent : '@' ∉ parts.netloc := by
    intro member
    rcases parts.mem_netloc member with host | colon | digit
    · have inside := mem_host_of_mem_hostname host (by decide)
      exact (mem_netloc_of_mem_hostinfo (mem_hostinfo_of_mem_host inside)).2 rfl
    · cases colon
    · cases digit
  have kept : parts.netloc.reverse.takeWhile (· ≠ '@') = parts.netloc.reverse := by
    refine List.takeWhile_eq_self_iff.mpr fun char member => ?_
    have distinct : char ≠ '@' := fun equal => absent (equal ▸ List.mem_reverse.mp member)
    simpa using distinct
  rw [ParseResult.hostinfo, again, kept, List.reverse_reverse]

/-- Host and port are read again from a URL whose host has no colon. -/
theorem hostPort_again
    (brackets : '[' ∈ parts.netloc ↔ ']' ∈ parts.netloc) (readable : parts.again.port ≠ none) :
    parts.again.hostPort = (parts.parsed.hostname, Nat.toDigits 10 parts.port) := by
  have opening : '[' ∉ parts.netloc := by
    intro opening
    have inHost : ∀ char ∈ ['[', ']'], char ∈ parts.netloc → char ∈ parts.parsed.hostPort.1 := by
      intro char listed member
      have symbol := symbols char (List.mem_append_right _ (List.mem_append_right _ listed))
      by_contra absent
      rcases parts.mem_netloc member with host | colon | digit
      · exact absent (mem_host_of_mem_hostname host symbol.1)
      · exact symbol.2.1 colon
      · rw [symbol.2.2] at digit
        cases digit
    exact not_brackets_host ⟨inHost '[' (by simp) opening,
      inHost ']' (by simp) (brackets.mp opening)⟩
  have split : parts.again.hostPort =
      (parts.netloc.takeWhile (· ≠ ':'), behind ':' parts.netloc) := by
    rw [ParseResult.hostPort, hostinfo_again, if_neg opening]
  have colon : ':' ∉ parts.parsed.hostname := by
    intro colon
    obtain ⟨before, after, host, absent⟩ := List.eq_append_cons_of_mem colon
    have text : behind ':' parts.netloc = after ++ ':' :: Nat.toDigits 10 parts.port := by
      rw [netloc, host, List.append_assoc, List.cons_append, behind_append absent]
    refine readable ?_
    unfold ParseResult.port
    rw [split, text]
    simp
  have stops : ∀ char ∈ parts.parsed.hostname, decide (char ≠ ':') = true := by
    intro char member
    have distinct : char ≠ ':' := fun equal => colon (equal ▸ member)
    simpa using distinct
  rw [split, netloc, behind_append colon, List.takeWhile_append_of_pos stops,
    List.takeWhile_cons_of_neg (by simp), List.append_nil]

theorem port_again
    (text : parts.again.hostPort.2 = Nat.toDigits 10 parts.port)
    (readable : parts.again.port ≠ none) : parts.again.port = some (some parts.port) := by
  have value : digitsValue (Nat.toDigits 10 parts.port) = parts.port := by
    have digits := Nat.ofDigitChars_toDigits (n := parts.port) (b := 10) (by decide) (by decide)
    rwa [Nat.ofDigitChars_eq_foldl] at digits
  have filled : (Nat.toDigits 10 parts.port).isEmpty = false := by
    simp
  have digits : (Nat.toDigits 10 parts.port).all Char.isDigit = true :=
    List.all_eq_true.mpr fun char => parts.isDigit_of_mem
  unfold ParseResult.port at readable ⊢
  dsimp only at readable ⊢
  rw [text, filled, digits, value] at readable ⊢
  simp only [Bool.false_eq_true, if_false, if_true] at readable ⊢
  split at readable
  · next fits => rw [if_pos fits]
  · exact absurd rfl readable

end UrlParts

theorem pointsTo_of_forwardAuth
    {library : Library} {url : String} {cluster : CoreProxyCluster}
    {config : ExtAuthzConfig} (parts : UrlParts url)
    (made : forwardAuth library url = some (some (cluster, config))) :
    config.PointsTo url := by
  unfold forwardAuth at made
  rw [parts.urlparse_url] at made
  split at made
  · cases made
  · next parsed taken =>
      split at taken
      · next allowed =>
          obtain rfl := Option.some.inj taken
          split at made
          · cases Option.some.inj made
          · obtain ⟨port, read, equal⟩ := Option.map_eq_some_iff.mp made
            have readable : parts.again.port ≠ none := by
              rw [read]
              exact Option.some_ne_none _
            have hostPort := parts.hostPort_again allowed.1 readable
            have host : parts.again.hostname = parts.parsed.hostname :=
              hostname_hostname (congrArg Prod.fst hostPort)
            have same := parts.port_again (congrArg Prod.snd hostPort) readable
            obtain rfl := Option.some.inj (read.symm.trans same)
            have scheme : schemeOr "http" parts.scheme = parts.scheme := by
              rcases parts.http with http | http <;> rw [http] <;> decide
            have port : portOr (some parts.port) (defaultPort parts.scheme) = parts.port := by
              simp [portOr, parts.positive.ne']
            obtain ⟨-, rfl⟩ := Prod.mk.inj (Option.some.inj equal)
            have whole : String.ofList (serverUri parts.scheme parts.parsed.hostname
                parts.port ++ parts.parsed.path) = url := by
              rw [← parts.whole, String.ofList_toList]
            unfold ExtAuthzConfig.PointsTo
            dsimp only [UrlParts.again] at host ⊢
            rw [scheme, port, host, authPathPrefix]
            by_cases slash : parts.parsed.path = ['/']
            · rw [if_pos slash]
              rw [slash, String.ofList_append] at whole
              exact .inr ⟨rfl, whole⟩
            · rw [if_neg slash]
              rw [String.ofList_append] at whole
              exact .inl whole
      · cases taken

/-! ## The property and its condition -/

/-- The policy of the record asks for authentication. -/
def Demands (store : StateStore) (record : EdgeIngressRouteRecord) : Prop :=
  ∃ policy, policyForRoute store record = some policy ∧ authMode policy = "forward-auth"

def entryAt (parts : ProxyParts) (listener : Listener) (route : CoreProxyRoute) :
    RouteEntry :=
  routeEntry parts.extAuthzConfig (decide (listener.name = "edge_listener_http")) route

/-- The requests that the entry lets through are authenticated at the URL: the filter
is there, points to it and is not switched off. -/
def Authenticates (listener : Listener) (entry : RouteEntry) (url : String) : Prop :=
  match entry.action with
  | .httpsRedirect => True
  | .directResponse _ => False
  | .forward _ _ filters =>
      filters.extAuthzDisabled = some false ∧
        ∃ config, HttpFilter.extAuthz config ∈ listener.httpFilters ∧ config.PointsTo url

/-- Every listener has the route, and authenticates its requests at the URL. -/
def Enforced
    (parts : ProxyParts) (config : EdgeCoreProxyConfig) (route : CoreProxyRoute)
    (url : String) : Prop :=
  ∀ listener ∈ (renderEnvoyConfig parts config).listeners,
    (∃ vhost ∈ listener.virtualHosts, vhost.name = "vhost_" ++ route.host ∧
      entryAt parts listener route ∈ vhost.routes) ∧
    Authenticates listener (entryAt parts listener route) url

/-- The least URL of the routes in the two modes that take part in the choice. -/
def Chosen (library : Library) (store : StateStore) (url : String) : Prop :=
  IsLeast {other | ∃ record ∈ store.edgeIngressRoutes, modeOf record ∈ choosingModes ∧
    routeForwardAuthUrl library store record = some (some other)} url

def HostRead (library : Library) (url : String) : Prop :=
  ∃ parsed, urlparse library.netlocRefused url.toList = some parsed ∧ parsed.hostname ≠ []

/-- The route redirects all plain requests, and there is no listener for others. -/
def OnlyRedirected
    (setting : ProxySetting) (config : EdgeCoreProxyConfig)
    (record : EdgeIngressRouteRecord) : Prop :=
  config.tlsListenPort = some 0 ∧ setting.tlsEnabled = true ∧
    routeRedirectHttps (exposureOf record) = true

/-- The URL of the record is valid and the one that is chosen for the proxy. -/
def Agrees
    (setting : ProxySetting) (config : EdgeCoreProxyConfig)
    (record : EdgeIngressRouteRecord) : Prop :=
  ∃ url, routeForwardAuthUrl setting.library setting.store record = some (some url) ∧
    (OnlyRedirected setting config record ∨
      Chosen setting.library setting.store url ∧ HostRead setting.library url)

/-! ## The choice -/

theorem eq_some_iff_chosen
    {library : Library} {store : StateStore} {selected : Option String}
    (select : selectForwardAuthUrl library store = some selected)
    (url : String) : selected = some url ↔ Chosen library store url := by
  obtain ⟨urls, read, rfl⟩ := Option.map_eq_some_iff.mp select
  obtain ⟨results, all, rfl⟩ := Option.map_eq_some_iff.mp read
  have members : ∀ other, other ∈ results.reduceOption ↔
      ∃ record ∈ store.edgeIngressRoutes, modeOf record ∈ choosingModes ∧
        routeForwardAuthUrl library store record = some (some other) := by
    intro other
    rw [List.reduceOption_mem_iff, mem_of_mapM all]
    simp [and_assoc]
  rw [List.min?_eq_some_iff, Chosen, IsLeast, mem_lowerBounds]
  simp only [Set.mem_ofPred_eq, members]

theorem hostRead_of_forwardAuth
    {library : Library} {url : String} {auth : CoreProxyCluster × ExtAuthzConfig}
    (made : forwardAuth library url = some (some auth)) : HostRead library url := by
  unfold forwardAuth at made
  split at made
  · cases made
  · next parsed taken =>
      split at made
      · cases Option.some.inj made
      · next given => exact ⟨parsed, taken, by simpa using given⟩

theorem exists_forwardAuth_of_hostRead
    {library : Library} {url : String} {auth : Option (CoreProxyCluster × ExtAuthzConfig)}
    (made : forwardAuth library url = some auth)
    (read : HostRead library url) : ∃ cluster config, auth = some (cluster, config) := by
  obtain ⟨parsed, taken, given⟩ := read
  unfold forwardAuth at made
  rw [taken] at made
  dsimp only at made
  rw [if_neg (by simpa using given)] at made
  obtain ⟨port, -, rfl⟩ := Option.map_eq_some_iff.mp made
  exact ⟨_, _, rfl⟩

variable {record : EdgeIngressRouteRecord}

theorem nonempty_urlParts_of_route
    {library : Library} {store : StateStore} {url : String}
    (own : routeForwardAuthUrl library store record = some (some url)) :
    Nonempty (UrlParts url) := by
  unfold routeForwardAuthUrl at own
  split at own
  · cases Option.some.inj own
  · unfold policyForwardAuthUrl at own
    split at own
    · cases Option.some.inj own
    · exact nonempty_urlParts own

/-! ## What is built and rendered -/

section Proxy

variable {library : Library} {files : TlsFiles} {store : StateStore}
variable {config : EdgeCoreProxyConfig} {setting : ProxySetting} {parts : ProxyParts}

structure BuiltFrom
    (library : Library) (files : TlsFiles) (store : StateStore)
    (config : EdgeCoreProxyConfig) (setting : ProxySetting)
    (parts : ProxyParts) : Prop where
  settled : proxySetting library files store config = some setting
  built : buildRoutesAndClusters library files store config = some parts

variable {route : CoreProxyRoute}

namespace BuiltFrom

variable (proxy : BuiltFrom library files store config setting parts)
include proxy

theorem setting_eq :
    selectForwardAuthUrl library store = some setting.forwardAuthUrl ∧
      setting.library = library ∧ setting.store = store ∧
      setting.tlsEnabled =
        (!(tlsFor files store config).1.isEmpty || (tlsFor files store config).2.isSome) := by
  obtain ⟨url, select, rfl⟩ := Option.map_eq_some_iff.mp proxy.settled
  exact ⟨select, rfl, rfl, rfl⟩

theorem parts_eq :
    ∃ records auth, store.edgeIngressRoutes.mapM (recordBuilt setting) = some records ∧
      chosenAuth setting = some auth ∧ parts.extAuthzConfig = auth.map Prod.snd ∧
      parts.downstreamTls = (tlsFor files store config).1 ∧
      parts.fallbackTls = (tlsFor files store config).2 ∧
      ∀ built ∈ records, ∀ route ∈ built.1.routes, route ∈ parts.routes := by
  obtain ⟨other, same, rest⟩ := Option.bind_eq_some_iff.mp proxy.built
  obtain rfl := Option.some.inj (proxy.settled.symm.trans same)
  obtain ⟨records, all, rest⟩ := Option.bind_eq_some_iff.mp rest
  obtain ⟨auth, chosen, rest⟩ := Option.bind_eq_some_iff.mp rest
  obtain rfl := Option.some.inj rest
  refine ⟨records, auth, all, chosen, rfl, rfl, rfl, fun built member route listed => ?_⟩
  refine List.mem_append_left _ ?_
  rw [routes_foldl_append]
  refine List.mem_append_right _ (List.mem_flatMap.mpr ⟨built.1, ?_, listed⟩)
  exact List.mem_map_of_mem member

/-- The routes of a record are among those of the proxy. -/
theorem mem_routes
    (listed : record ∈ store.edgeIngressRoutes)
    (member : route ∈ recordRoutes setting record) : route ∈ parts.routes := by
  obtain ⟨records, auth, all, -, -, -, -, routes⟩ := proxy.parts_eq
  unfold recordRoutes at member
  cases made : recordBuilt setting record with
  | none => simp [made] at member
  | some built =>
      rw [made, Option.map_some, Option.getD_some] at member
      exact routes built ((mem_of_mapM all built).mpr ⟨record, listed, made⟩) route member

/-- A route that redirects has no other listener only if the port for TLS is
zero. -/
theorem onlyRedirected
    (redirects : (setting.tlsEnabled && routeRedirectHttps (exposureOf record)) = true)
    (none : (tlsPort parts config).filter (· ≠ 0) = none) :
    OnlyRedirected setting config record := by
  obtain ⟨enabled, asked⟩ := Bool.and_eq_true_iff.mp redirects
  refine ⟨?_, enabled, asked⟩
  obtain ⟨-, -, -, tls⟩ := proxy.setting_eq
  obtain ⟨records, auth, -, -, -, downstream, fallback, -⟩ := proxy.parts_eq
  rw [tls] at enabled
  have port : tlsPort parts config = config.tlsListenPort := by
    rw [tlsPort, downstream, fallback, if_neg]
    rw [Bool.and_eq_true_iff]
    rintro ⟨empty, missing⟩
    simp_all
  rw [port] at none
  cases listen : config.tlsListenPort with
  | none => simp [tlsFor, collectDownstreamTls, listen] at enabled
  | some number => simpa [listen, Option.filter] using none

/-- The proxy authenticates at the URL that has been chosen. -/
theorem extAuthzConfig_iff (url : String) :
    (setting.forwardAuthUrl = some url ∧ parts.extAuthzConfig.isSome = true) ↔
      Chosen library store url ∧ HostRead library url := by
  obtain ⟨select, sameLibrary, -, -⟩ := proxy.setting_eq
  obtain ⟨records, auth, -, chosen, filter, -⟩ := proxy.parts_eq
  rw [eq_some_iff_chosen select url]
  refine and_congr_right fun least => ?_
  have selected := (eq_some_iff_chosen select url).mpr least
  rw [chosenAuth, selected, sameLibrary] at chosen
  rw [filter, Option.isSome_map]
  constructor
  · intro given
    obtain ⟨found, rfl⟩ := Option.isSome_iff_exists.mp given
    exact hostRead_of_forwardAuth chosen
  · intro read
    obtain ⟨cluster, config, rfl⟩ := exists_forwardAuth_of_hostRead chosen read
    rfl

theorem pointsTo
    {url : String} {filter : ExtAuthzConfig}
    (own : routeForwardAuthUrl library store record = some (some url))
    (selected : setting.forwardAuthUrl = some url)
    (given : parts.extAuthzConfig = some filter) : filter.PointsTo url := by
  obtain ⟨-, sameLibrary, -, -⟩ := proxy.setting_eq
  obtain ⟨records, auth, -, chosen, config, -⟩ := proxy.parts_eq
  rw [chosenAuth, selected, sameLibrary] at chosen
  rw [config] at given
  obtain ⟨⟨cluster, found⟩, rfl, rfl⟩ := Option.map_eq_some_iff.mp given
  obtain ⟨urlParts⟩ := nonempty_urlParts_of_route own
  exact pointsTo_of_forwardAuth urlParts chosen

/-- The flag of a record's routes: a URL of its own that is the chosen one. -/
theorem extAuthzEnabled_iff
    {own : RecordSetting} {url : String} (read : recordSetting setting record = some own)
    (url_eq : routeForwardAuthUrl library store record = some (some url)) :
    own.extAuthzEnabled = true ↔ setting.forwardAuthUrl = some url := by
  obtain ⟨-, sameLibrary, sameStore, -⟩ := proxy.setting_eq
  obtain ⟨options, -, rest⟩ := Option.bind_eq_some_iff.mp read
  obtain ⟨found, looked, rest⟩ := Option.bind_eq_some_iff.mp rest
  obtain rfl := Option.some.inj rest
  rw [comparedUrl, sameLibrary, sameStore, url_eq] at looked
  cases selected : setting.forwardAuthUrl with
  | none =>
      rw [selected] at looked
      obtain rfl := Option.some.inj looked
      simp
  | some other =>
      rw [selected] at looked
      obtain rfl := Option.some.inj looked
      simp [eq_comm]

end BuiltFrom

variable {listener : Listener}

/-- A route of the proxy that forwards is authenticated exactly when its flag is set
and the filter is there and points to the URL. -/
theorem authenticates_forward_iff
    {url : String} (filters : listener.httpFilters = httpFilters parts)
    (forwards : ¬ (listener.name = "edge_listener_http" ∧ route.redirectToHttps = true))
    (plain : route.directResponseStatus = none) :
    Authenticates listener (entryAt parts listener route) url ↔ route.extAuthzEnabled = true ∧
        ∃ filter, parts.extAuthzConfig = some filter ∧ filter.PointsTo url := by
  have action : (entryAt parts listener route).action = .forward route.cluster route.options
        ⟨parts.extAuthzConfig.map fun _ => !route.extAuthzEnabled,
          route.options.localRateLimit⟩ := by
    unfold entryAt routeEntry routeAction
    rw [plain]
    exact if_neg (by simpa using forwards)
  unfold Authenticates
  rw [action, filters]
  have listed : ∀ filter, HttpFilter.extAuthz filter ∈ httpFilters parts ↔
      parts.extAuthzConfig = some filter := by
    intro filter
    unfold httpFilters
    split <;> simp
  simp only [listed]
  cases parts.extAuthzConfig with
  | none => simp
  | some filter => simp

theorem listeners_cases (member : listener ∈ (renderEnvoyConfig parts config).listeners) :
    listener = httpListener parts config ∨
      ∃ port, (tlsPort parts config).filter (· ≠ 0) = some port ∧
        listener = tlsListener parts config port := by
  rcases List.mem_cons.mp member with http | tls
  · exact .inl http
  · obtain ⟨port, found, rfl⟩ := Option.map_eq_some_iff.mp (Option.mem_toList.mp tls)
    exact .inr ⟨port, found, rfl⟩

theorem exists_vhost
    (listed : listener ∈ (renderEnvoyConfig parts config).listeners)
    (member : route ∈ parts.routes) (named : route.host ≠ "") :
    ∃ vhost ∈ listener.virtualHosts, vhost.name = "vhost_" ++ route.host ∧
      entryAt parts listener route ∈ vhost.routes := by
  rcases listeners_cases listed with rfl | ⟨port, -, rfl⟩
  · exact mem_buildVhosts member named true _
  · exact mem_buildVhosts member named false _

/-- A route of a record is authenticated at the URL of the record's policy exactly
when it is redirected only, or the URL is the chosen one and has a host. -/
theorem BuiltFrom.enforced_iff
    {url : String} (proxy : BuiltFrom library files store config setting parts)
    (listed : record ∈ store.edgeIngressRoutes) (member : route ∈ recordRoutes setting record)
    (url_eq : routeForwardAuthUrl library store record = some (some url)) :
    Enforced parts config route url ↔ OnlyRedirected setting config record ∨
        Chosen library store url ∧ HostRead library url := by
  obtain ⟨named, own, read, path, cluster, rfl⟩ := route_of_recordRoutes member
  obtain ⟨host, redirects⟩ : own.host = hostOf record ∧ own.redirectToHttps =
      (setting.tlsEnabled && routeRedirectHttps (exposureOf record)) := by
    obtain ⟨options, -, rest⟩ := Option.bind_eq_some_iff.mp read
    obtain ⟨found, -, rest⟩ := Option.bind_eq_some_iff.mp rest
    obtain rfl := Option.some.inj rest
    exact ⟨rfl, rfl⟩
  have enabled : own.extAuthzEnabled = true ∧
      (∃ filter, parts.extAuthzConfig = some filter ∧ filter.PointsTo url) ↔
        Chosen library store url ∧ HostRead library url := by
    rw [proxy.extAuthzEnabled_iff read url_eq, ← proxy.extAuthzConfig_iff url]
    refine and_congr_right fun selected => ?_
    rw [Option.isSome_iff_exists]
    refine exists_congr fun filter => ⟨And.left, fun given => ⟨given, ?_⟩⟩
    exact proxy.pointsTo url_eq selected given
  constructor
  · intro enforced
    by_cases redirected : own.redirectToHttps = true
    · cases port : (tlsPort parts config).filter (· ≠ 0) with
      | none => exact .inl (proxy.onlyRedirected (redirects ▸ redirected) port)
      | some number =>
          have tls : tlsListener parts config number ∈
              (renderEnvoyConfig parts config).listeners := by
            refine List.mem_cons_of_mem _ ?_
            rw [port]
            exact List.mem_singleton_self _
          refine .inr (enabled.mp ?_)
          exact (authenticates_forward_iff rfl (by simp [tlsListener]) rfl).mp (enforced _ tls).2
    · refine .inr (enabled.mp ?_)
      exact (authenticates_forward_iff rfl (fun both => redirected both.2) rfl).mp
        (enforced _ List.mem_cons_self).2
  · intro agrees listener at'
    have routed := proxy.mem_routes listed member
    refine ⟨exists_vhost at' routed (by simpa [RecordSetting.route, host] using named), ?_⟩
    by_cases redirected : listener.name = "edge_listener_http" ∧ own.redirectToHttps = true
    · have action : (entryAt parts listener (own.route path cluster)).action =
          .httpsRedirect := by
        unfold entryAt routeEntry
        exact if_pos (by simpa [RecordSetting.route] using redirected)
      rw [Authenticates, action]
      trivial
    · rcases agrees with ⟨zero, secure, asked⟩ | agrees
      · rcases listeners_cases at' with rfl | ⟨port, nonzero, rfl⟩
        · exact absurd ⟨rfl, by simp [redirects, secure, asked]⟩ redirected
        · unfold tlsPort at nonzero
          split at nonzero
          · simp at nonzero
          · rw [zero] at nonzero
            cases nonzero
      · have filters : listener.httpFilters = httpFilters parts := by
          rcases listeners_cases at' with rfl | ⟨port, -, rfl⟩ <;> rfl
        exact (authenticates_forward_iff filters redirected rfl).mpr (enabled.mpr agrees)

/-- Every route whose policy asks for it is authenticated at the URL of the policy
exactly when every record with such routes has the URL that the proxy chooses. -/
theorem enforced_iff_agrees (proxy : BuiltFrom library files store config setting parts) :
    (∀ record ∈ store.edgeIngressRoutes, Demands store record →
        ∀ route ∈ recordRoutes setting record, ∃ url,
          routeForwardAuthUrl library store record = some (some url) ∧
            Enforced parts config route url) ↔
      ∀ record ∈ store.edgeIngressRoutes, Demands store record →
        recordRoutes setting record ≠ [] → Agrees setting config record := by
  obtain ⟨-, sameLibrary, sameStore, -⟩ := proxy.setting_eq
  refine forall₃_congr fun record listed _ => ?_
  unfold Agrees
  rw [sameLibrary, sameStore]
  constructor
  · intro enforced given
    obtain ⟨route, member⟩ := List.exists_mem_of_ne_nil _ given
    obtain ⟨url, own, holds⟩ := enforced route member
    exact ⟨url, own, (proxy.enforced_iff listed member own).mp holds⟩
  · intro agrees route member
    obtain ⟨url, own, holds⟩ := agrees (List.ne_nil_of_mem member)
    exact ⟨url, own, (proxy.enforced_iff listed member own).mpr holds⟩

end Proxy

/-! ## A service of the core and a site -/

/-- A route with a policy that asks for authentication, in a mode. -/
def loginRecord (mode : String) : EdgeIngressRouteRecord where
  name := "web"
  namespace_ := "default"
  siteId := "site-1"
  policyName := some "login"
  policyNamespace := none
  spec :=
    [("host", .str "web.example"), ("exposure", .dict [("mode", .str mode)]),
      ("serviceRef", .dict [("name", .str "web"), ("port", .int 80)])]

def loginStore (mode : String) : StateStore where
  edgeIngressRoutes := [loginRecord mode]
  edgeIngressPolicies :=
    [{ name := "login"
       namespace_ := "default"
       spec :=
        [("auth", .dict [("mode", .str "forward-auth"),
          ("forwardAuth", .dict [("url", .str "http://auth:9000/verify")])])] }]
  siteIngressEndpoints := [⟨"site-1", some 7000, []⟩]
  servicePorts := fun _ => none
  serviceEndpoints := fun _ => [⟨"10.0.0.1", 80, 8080⟩]
  pods := fun _ => []

def plainLibrary : Library := ⟨fun _ => false, id⟩

def noFiles : TlsFiles := ⟨fun _ => none, none⟩

def plainConfig : EdgeCoreProxyConfig where
  siteDomainSuffix := "edge.local"
  httpListenPort := 10080
  tlsListenPort := none
  tlsDefaultSecret := none
  tlsFallback := true
  controlplanePublicEnable := false
  controlplaneProxy := ("127.0.0.1", 10081)
  controlplaneDashHost := "dash.home.arpa"
  controlplaneDocsHost := "docs.home.arpa"
  controlplaneApiHost := "api.home.arpa"
  controlplaneApiController := ("127.0.0.1", 9108)
  controlplaneApiApishim := ("127.0.0.1", 8445)
  controlplaneApiApishimUseTls := true

theorem exists_builtFrom
    {library : Library} {files : TlsFiles} {store : StateStore} {config : EdgeCoreProxyConfig}
    (built : (buildRoutesAndClusters library files store config).isSome = true) :
    ∃ setting parts, BuiltFrom library files store config setting parts := by
  obtain ⟨parts, built⟩ := Option.isSome_iff_exists.mp built
  obtain ⟨setting, settled, -⟩ := Option.bind_eq_some_iff.mp built
  exact ⟨setting, parts, settled, built⟩

theorem demands_loginRecord (mode : String) : Demands (loginStore mode) (loginRecord mode) :=
  ⟨_, rfl, by decide +kernel⟩

theorem routeForwardAuthUrl_loginRecord (mode : String) :
    routeForwardAuthUrl plainLibrary (loginStore mode) (loginRecord mode) =
      some (some "http://auth:9000/verify") := by
  change policyForwardAuthUrl plainLibrary [("auth", .dict [("mode", .str "forward-auth"),
      ("forwardAuth", .dict [("url", .str "http://auth:9000/verify")])])] = _
  decide +kernel

/-- The route to a site is authenticated. -/
theorem enforced_coreProxy :
    ∃ setting parts,
      BuiltFrom plainLibrary noFiles (loginStore "core-proxy") plainConfig setting parts ∧
      ∀ record ∈ (loginStore "core-proxy").edgeIngressRoutes,
        Demands (loginStore "core-proxy") record →
        ∀ route ∈ recordRoutes setting record, ∃ url,
          routeForwardAuthUrl plainLibrary (loginStore "core-proxy") record =
            some (some url) ∧ Enforced parts plainConfig route url := by
  obtain ⟨setting, parts, proxy⟩ : ∃ setting parts,
      BuiltFrom plainLibrary noFiles (loginStore "core-proxy") plainConfig setting parts :=
    exists_builtFrom (by decide +kernel)
  refine ⟨setting, parts, proxy, (enforced_iff_agrees proxy).mpr ?_⟩
  obtain ⟨-, sameLibrary, sameStore, -⟩ := proxy.setting_eq
  intro record member _ _
  obtain rfl := List.mem_singleton.mp member
  unfold Agrees
  rw [sameLibrary, sameStore]
  refine ⟨_, routeForwardAuthUrl_loginRecord _, .inr ⟨⟨?_, ?_⟩, ?_⟩⟩
  · exact ⟨_, List.mem_singleton_self _, by decide +kernel, routeForwardAuthUrl_loginRecord _⟩
  · rintro other ⟨record, listed, -, url⟩
    obtain rfl := List.mem_singleton.mp listed
    rw [routeForwardAuthUrl_loginRecord] at url
    exact le_of_eq (Option.some.inj (Option.some.inj url))
  · exact ⟨⟨"http".toList, "auth:9000".toList, "/verify".toList⟩, by decide +kernel,
      by decide +kernel⟩

/-- The route to a service of the core is not: no URL is chosen. -/
theorem not_enforced_coreLocal :
    ∃ setting parts,
      BuiltFrom plainLibrary noFiles (loginStore "core-local") plainConfig setting parts ∧
      ¬ ∀ record ∈ (loginStore "core-local").edgeIngressRoutes,
        Demands (loginStore "core-local") record →
        ∀ route ∈ recordRoutes setting record, ∃ url,
          routeForwardAuthUrl plainLibrary (loginStore "core-local") record =
            some (some url) ∧ Enforced parts plainConfig route url := by
  obtain ⟨setting, parts, proxy⟩ : ∃ setting parts,
      BuiltFrom plainLibrary noFiles (loginStore "core-local") plainConfig setting parts :=
    exists_builtFrom (by decide +kernel)
  refine ⟨setting, parts, proxy, fun enforced => ?_⟩
  have routed : ((proxySetting plainLibrary noFiles (loginStore "core-local")
      plainConfig).any fun setting =>
        !(recordRoutes setting (loginRecord "core-local")).isEmpty) = true := by
    decide +kernel
  rw [proxy.settled] at routed
  obtain ⟨route, member⟩ : ∃ route, route ∈ recordRoutes setting (loginRecord "core-local") :=
    List.exists_mem_of_ne_nil _ (by simpa using routed)
  have listed : loginRecord "core-local" ∈ (loginStore "core-local").edgeIngressRoutes :=
    List.mem_singleton_self _
  obtain ⟨url, own, holds⟩ := enforced _ listed (demands_loginRecord _) route member
  rcases (proxy.enforced_iff listed member own).mp holds with redirected | ⟨chosen, -⟩
  · cases redirected.1
  · obtain ⟨record, member, mode, -⟩ := chosen.1
    obtain rfl := List.mem_singleton.mp member
    revert mode
    decide +kernel

end Ingress
end K1s
