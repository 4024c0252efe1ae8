import K1s.Adapter.Operations
import K1s.Ingress.Policies
import K1s.Lib.OptionLists

/-!
# The routes and clusters of the core proxy

`_build_routes_and_clusters`: a route for every site, routes for every record in
one of three modes, and the routes of the control plane itself.  One URL is chosen
for the whole proxy to authenticate requests at.
-/

namespace K1s
namespace Ingress

open Py

structure CoreProxyRoute where
  host : String
  pathPrefix : String
  cluster : String
  redirectToHttps : Bool := false
  directResponseStatus : Option Int := none
  options : RouteOptions := {}
  extAuthzEnabled : Bool := false
  deriving DecidableEq

structure CoreProxyCluster where
  name : String
  endpoints : List (String × Int)
  clusterType : String := "STATIC"
  lbPolicy : LbPolicy := .roundRobin
  useTls : Bool := false
  sni : Option String := none
  caCertPath : Json := .null
  expectedSans : List Json := []
  deriving DecidableEq

/-- A certificate for the names of a server. -/
structure DownstreamTlsCert where
  certChain : String
  privateKey : String
  serverNames : List String := []
  deriving DecidableEq

/-- What is read of the configuration. -/
structure EdgeCoreProxyConfig where
  siteDomainSuffix : String
  httpListenPort : Int
  tlsListenPort : Option Int
  tlsDefaultSecret : Option String
  tlsFallback : Bool
  controlplanePublicEnable : Bool
  controlplaneProxy : String × Int
  controlplaneDashHost : String
  controlplaneDocsHost : String
  controlplaneApiHost : String
  controlplaneApiController : String × Int
  controlplaneApiApishim : String × Int
  controlplaneApiApishimUseTls : Bool

/-- The files of certificates, each with that of its key. -/
structure TlsFiles where
  /-- The files of a secret. -/
  resolve : String → Option (String × String)
  /-- The files that `_ensure_fallback_tls` finds or makes. -/
  fallback : Option (String × String)

/-! ## Paths -/

/-- A path of a route, with the service behind it. -/
structure PathEntry where
  path : String
  serviceRef : Dict
  port : Option Int

def pathEntryOf : Json → Option PathEntry
  | .dict entry =>
      let given := textAt entry "path"
      let serviceRef := dictAt entry "serviceRef"
      some
        { path :=
            if given = "" then "/" else if startsWith "/" given then given else "/" ++ given
          serviceRef := serviceRef
          port := orInt (intAt entry "port") (intAt serviceRef "port") }
  | _ => none

def routePathEntries (spec : Dict) : List PathEntry :=
  match (listAt spec "paths").filterMap pathEntryOf with
  | [] =>
      let serviceRef := dictAt spec "serviceRef"
      [⟨"/", serviceRef, intAt serviceRef "port"⟩]
  | entries => entries

def routeRedirectHttps (exposure : Dict) : Bool :=
  let tls := dictAt exposure "tls"
  let term :=
    if (dictAt tls "terminateCore").isEmpty then dictAt tls "terminate_core"
    else dictAt tls "terminateCore"
  let raw := [Dict.get term "redirectHttpToHttps", Dict.get term "redirect_http_to_https",
    Dict.get tls "redirectHttpToHttps"].find? (· ≠ .null)
  raw.any fun raw => lower raw.toStr ∈ ["1", "true", "yes", "on"]

/-! ## Services of the core -/

def serviceNs (serviceRef : Dict) (ns : String) : String :=
  let named := strip ((Dict.get serviceRef "namespace").or
    ((Json.str ns).or (.str "default"))).toStr
  if named = "" then "default" else named

def coreLocalClusterName (serviceRef : Dict) (ns : String) (port : Option Int) : String :=
  let label := (port.map toString).getD "any"
  let name := serviceNs serviceRef ns ++ "_" ++ textAt serviceRef "name" ++ "_" ++ label
  "core_" ++ String.ofList (name.toList.map fun char => if char = '/' then '-' else char)

variable (store : StateStore) (library : Library) (config : EdgeCoreProxyConfig)
  (files : TlsFiles)

def servicePortFromStore (app : String) : Option Int :=
  match store.servicePorts app with
  | some (.dict ports) =>
      match listAt ports "ports" with
      | first :: _ => first.get "port" >>= Json.toInt
      | [] => intAt ports "port"
  | _ => none

/-- The first target port of the list that belongs to a port; an outer `none` for
an entry that is no mapping, which raises. -/
def targetPortOf (servicePort : Option Int) : List Json → Option (Option (Option Int))
  | [] => some none
  | .dict entry :: rest =>
      let port := intAt entry "port"
      if servicePort.isSome ∧ port.isSome ∧ port ≠ servicePort then
        targetPortOf servicePort rest
      else
        let target := Dict.get entry "targetPort"
        let target := if target = .null then Dict.get entry "target_port" else target
        some (some (if target = .null then port else target.toInt.or port))
  | _ => none

/-- `_service_target_port_from_store`, with an outer `none` for an exception. -/
def serviceTargetPortFromStore
    (app : String) (servicePort : Option Int) : Option (Option Int) :=
  match store.servicePorts app with
  | some (.dict ports) =>
      (targetPortOf servicePort (listAt ports "ports")).map fun found =>
        match found with
        | some target => target
        | none =>
            let target := Dict.get ports "targetPort"
            (if target = .null then Dict.get ports "target_port" else target).toInt
  | _ => some none

/-- The host and the port of a text, split at the last colon that ends the host. -/
def splitHostPort (endpoint : String) : Option (String × Int) :=
  let digits := (endpoint.toList.reverse.takeWhile (· ≠ ':')).reverse
  let host := endpoint.toList.take (endpoint.toList.length - digits.length - 1)
  if ':' ∉ endpoint.toList then none
  else if startsWith "[" endpoint then
    match host.getLast? with
    | some ']' =>
        (intOfText (String.ofList digits)).map fun port =>
          (String.ofList ((host.take (host.length - 1)).dropWhile (· = '[')), port)
    | _ => none
  else (intOfText (String.ofList digits)).map fun port => (String.ofList host, port)

/-- The target port of a service, looked up where the reference gives none. -/
def targetPort
    (serviceRef : Dict) (app : String) (svcPort : Option Int) : Option (Option Int) :=
  let given := orInt (intAt serviceRef "targetPort") (intAt serviceRef "target_port")
  if given.getD 0 ≠ 0 then some given else serviceTargetPortFromStore store app svcPort

/-- `_resolve_core_local_endpoints`; `none` for an exception. -/
def resolveCoreLocalEndpoints
    (serviceRef : Dict) (ns : String) (portHint : Option Int) : Option (List (String × Int)) :=
  let name := textAt serviceRef "name"
  if name = "" then some []
  else
    let app := Adapter.appKey name (some (serviceNs serviceRef ns))
    let svcPort := orInt portHint (servicePortFromStore store app)
    (targetPort store serviceRef app svcPort).map fun target =>
      let known := (store.serviceEndpoints app).filter fun endpoint =>
        svcPort.all (endpoint.port = ·)
      if known.isEmpty then
        let expected := [target, svcPort].reduceOption
        ((store.pods app).filter Pod.ready).filterMap fun pod =>
          ((pod.endpoint.filter (· ≠ "")).bind splitHostPort).filter fun found =>
            expected.isEmpty || decide (found.2 ∈ expected)
      else known.map fun endpoint => (endpoint.ip, endpoint.targetPort)

/-! ## Sites -/

/-- Where a site is reached from outside. -/
structure PublicEndpoint where
  host : String
  port : Nat
  useTls : Bool
  caBundlePath : Json
  expectedSans : List Json

/-- `_public_endpoint`, with an outer `none` for an exception. -/
def publicEndpoint (publicUrls : List Json) : Option (Option PublicEndpoint) :=
  match publicUrls with
  | [] => some none
  | entry :: _ =>
      let (url, caBundlePath, expectedSans) :=
        match entry with
        | .dict entry =>
            (strip (((Dict.get entry "url").or (Dict.get entry "address")).or (.str "")).toStr,
              (Dict.get entry "caBundlePath").or (Dict.get entry "ca_bundle_path"),
              ((Dict.get entry "expectedSANs").or (Dict.get entry "expected_sans")).items)
        | entry => (strip (entry.or (.str "")).toStr, .null, [])
      if url = "" then some none
      else
        match urlparse library.netlocRefused url.toList with
        | none => none
        | some parsed =>
            if parsed.hostname.isEmpty then some none
            else
              let scheme := schemeOr "https" parsed.scheme
              parsed.port.map fun port =>
                some
                  { host := String.ofList parsed.hostname
                    port := portOr port (defaultPort scheme)
                    useTls := decide (scheme = "https".toList)
                    caBundlePath := caBundlePath
                    expectedSans := expectedSans }

def clusterNameWithLbPolicy (base : String) (options : RouteOptions) : String :=
  if options.lbPolicy = .roundRobin ∧ options.stickyCookieName = none then base
  else
    let ttl := ((nonzero options.stickyCookieTtlSeconds).map toString).getD ""
    let source := options.lbPolicy.text ++ "|" ++ options.stickyCookieName.getD "" ++ "|" ++ ttl
    base ++ "_" ++ String.ofList ((library.sha1 source).toList.take 10)

/-! ## Records -/

/-- What the routes of all records have in common. -/
structure ProxySetting where
  library : Library
  store : StateStore
  /-- The URL at which requests are authenticated. -/
  forwardAuthUrl : Option String
  reservedHosts : List String
  tlsEnabled : Bool

/-- Routes and clusters, as they are added. -/
structure Built where
  routes : List CoreProxyRoute
  clusters : List CoreProxyCluster

def Built.empty : Built := ⟨[], []⟩

def Built.append (first second : Built) : Built :=
  ⟨first.routes ++ second.routes, first.clusters ++ second.clusters⟩

/-- What a record says about all of its routes. -/
structure RecordSetting where
  host : String
  redirectToHttps : Bool
  extAuthzEnabled : Bool
  options : RouteOptions

def RecordSetting.route (setting : RecordSetting) (path cluster : String) :
    CoreProxyRoute where
  host := setting.host
  pathPrefix := path
  cluster := cluster
  redirectToHttps := setting.redirectToHttps
  options := setting.options
  extAuthzEnabled := setting.extAuthzEnabled

def hostOf (record : EdgeIngressRouteRecord) : String :=
  lower (textAt (edgeRouteSpec record) "host")

def siteOf (record : EdgeIngressRouteRecord) : String :=
  let placed := Dict.get (dictAt (exposureOf record) "placement") "site"
  strip (placed.or ((Json.str record.siteId).or (.str ""))).toStr

/-- The URL of the record, which is read only where one has been chosen. -/
def comparedUrl (setting : ProxySetting) (record : EdgeIngressRouteRecord) :
    Option (Option String) :=
  if setting.forwardAuthUrl.isSome then
    routeForwardAuthUrl setting.library setting.store record
  else some none

/-- The host, the flags and the options that the record gives to its routes; `none`
for an exception. -/
def recordSetting (setting : ProxySetting) (record : EdgeIngressRouteRecord) :
    Option RecordSetting := do
  let policy := policyForRoute setting.store record
  let options ← (policy.map policyRouteOptions).getD (some {})
  let own ← comparedUrl setting record
  return {
    host := hostOf record
    redirectToHttps := setting.tlsEnabled && routeRedirectHttps (exposureOf record)
    extAuthzEnabled := own.isSome && decide (own = setting.forwardAuthUrl)
    options := options }

def siteEndpoint (setting : ProxySetting) (record : EdgeIngressRouteRecord) :
    Option SiteIngressListItem :=
  if siteOf record = "" then none
  else setting.store.siteIngressEndpoints.reverse.find? fun ep => ep.siteId = siteOf record

def routesTo
    (record : EdgeIngressRouteRecord) (own : RecordSetting)
    (cluster : CoreProxyCluster) : Built where
  routes := (routePathEntries (edgeRouteSpec record)).map fun entry =>
    own.route entry.path cluster.name
  clusters := [cluster]

/-- The mode `core-proxy`. -/
def coreProxyRoutes
    (setting : ProxySetting) (record : EdgeIngressRouteRecord)
    (own : RecordSetting) : Built :=
  match (siteEndpoint setting record).bind SiteIngressListItem.coreProxyPort with
  | none => .empty
  | some port =>
      routesTo record own
        { name := clusterNameWithLbPolicy setting.library ("site_" ++ siteOf record) own.options
          endpoints := [("127.0.0.1", port)]
          lbPolicy := own.options.lbPolicy }

/-- The mode `core-to-edge-public`; `none` for an exception. -/
def edgePublicRoutes
    (setting : ProxySetting) (record : EdgeIngressRouteRecord)
    (own : RecordSetting) : Option Built :=
  let urls := ((siteEndpoint setting record).map SiteIngressListItem.publicUrls).getD []
  (publicEndpoint setting.library urls).map fun found =>
    match found with
    | none => .empty
    | some reached =>
        routesTo record own
          { name := clusterNameWithLbPolicy setting.library ("public_" ++ siteOf record)
              own.options
            endpoints := [(reached.host, reached.port)]
            clusterType := "STRICT_DNS"
            lbPolicy := own.options.lbPolicy
            useTls := reached.useTls
            sni := if reached.useTls then some reached.host else none
            caCertPath := reached.caBundlePath
            expectedSans := reached.expectedSans }

/-- A path of the modes `core-local` and `core`; `none` for an exception. -/
def coreLocalRoute
    (setting : ProxySetting) (record : EdgeIngressRouteRecord) (own : RecordSetting)
    (entry : PathEntry) : Option Built :=
  (resolveCoreLocalEndpoints setting.store entry.serviceRef record.namespace_
    entry.port).map fun endpoints =>
      if endpoints.isEmpty then .empty
      else
        let name := clusterNameWithLbPolicy setting.library
          (coreLocalClusterName entry.serviceRef record.namespace_ entry.port) own.options
        { routes := [own.route entry.path name]
          clusters :=
            [{ name := name, endpoints := endpoints, lbPolicy := own.options.lbPolicy }] }

/-- The routes and clusters of a record in its mode; `none` for an exception. -/
def modeBuilt
    (setting : ProxySetting) (record : EdgeIngressRouteRecord)
    (own : RecordSetting) : Option Built :=
  match modeOf record with
  | "core-proxy" => some (coreProxyRoutes setting record own)
  | "core-to-edge-public" => edgePublicRoutes setting record own
  | "core-local" | "core" =>
      ((routePathEntries (edgeRouteSpec record)).mapM (coreLocalRoute setting record own)).map
        (List.foldl Built.append .empty)
  | _ => some .empty

/-- The record has no host, or one of the control plane's. -/
def skipped (setting : ProxySetting) (record : EdgeIngressRouteRecord) : Bool :=
  hostOf record = "" || decide (hostOf record ∈ setting.reservedHosts)

/-- What the loop of `_build_routes_and_clusters` adds for a record, and whether its
policy limits the rate; `none` for an exception. -/
def recordBuilt (setting : ProxySetting) (record : EdgeIngressRouteRecord) :
    Option (Built × Bool) :=
  if skipped setting record then some (.empty, false)
  else do
    let own ← recordSetting setting record
    let built ← modeBuilt setting record own
    return (built, own.options.localRateLimit.isSome)

/-! ## The whole proxy -/

/-- The domain that the hosts of sites end in. -/
def domainSuffix : String :=
  let suffix := rstrip '.' (String.ofList
    (config.siteDomainSuffix.toList.dropWhile (· = '.')))
  if suffix = "" then "edge.local" else suffix

/-- The route to a site under its own host. -/
def siteBuilt (ep : SiteIngressListItem) : Built :=
  match ep.coreProxyPort with
  | none => .empty
  | some port =>
      { routes :=
          [{ host := ep.siteId ++ "." ++ domainSuffix config
             pathPrefix := "/"
             cluster := "site_" ++ ep.siteId }]
        clusters := [{ name := "site_" ++ ep.siteId, endpoints := [("127.0.0.1", port)] }] }

/-- A host as the control plane's routes have it. -/
def cleanHost (host : String) : String := lower (strip host)

def reservedControlplaneHosts : List String :=
  if config.controlplanePublicEnable then
    ([config.controlplaneDashHost, config.controlplaneDocsHost,
      config.controlplaneApiHost].map cleanHost).filter (· ≠ "")
  else []

def controllerPrefixes : List String :=
  ["/swagger", "/redoc", "/openapi", "/openapi.json", "/swagger.json", "/system", "/health",
    "/status", "/events", "/logs", "/metrics", "/ui/features"]

/-- The routes for the control plane's API. -/
def controlplaneApiBuilt (redirectHttps : Bool) : Built :=
  let host := cleanHost config.controlplaneApiHost
  let route (path cluster : String) (status : Option Int) : CoreProxyRoute :=
    { host := host
      pathPrefix := path
      cluster := cluster
      redirectToHttps := redirectHttps
      directResponseStatus := status }
  if host = "" then .empty
  else
    { routes :=
        [route "/dashboard" "controlplane_api_controller" (some 404),
          route "/playground" "controlplane_api_controller" (some 404)] ++
        controllerPrefixes.map (route · "controlplane_api_controller" none) ++
        [route "/api/v1" "controlplane_api_apishim" none,
          route "/apis" "controlplane_api_apishim" none,
          route "/" "controlplane_api_controller" none]
      clusters :=
        [{ name := "controlplane_api_controller"
           endpoints := [config.controlplaneApiController] },
          { name := "controlplane_api_apishim"
            endpoints := [config.controlplaneApiApishim]
            useTls := config.controlplaneApiApishimUseTls }] }

/-- `_append_controlplane_public_routes`. -/
def controlplaneBuilt (tlsEnabled : Bool) : Built :=
  if config.controlplanePublicEnable then
    let proto := if tlsEnabled then "https" else "http"
    let hosts := ([config.controlplaneDashHost, config.controlplaneDocsHost].map
      cleanHost).filter (· ≠ "")
    Built.append
      { routes := hosts.map fun host =>
          { host := host
            pathPrefix := "/"
            cluster := "controlplane_proxy"
            redirectToHttps := tlsEnabled
            options := { requestHeadersAdd := [("x-forwarded-proto", proto)] } }
        clusters := [{ name := "controlplane_proxy", endpoints := [config.controlplaneProxy] }] }
      (controlplaneApiBuilt config tlsEnabled)
  else .empty

/-- `clusters.setdefault(name, cluster)`. -/
def setdefaultCluster (clusters : List CoreProxyCluster) (cluster : CoreProxyCluster) :
    List CoreProxyCluster :=
  if clusters.any (·.name = cluster.name) then clusters else clusters ++ [cluster]

/-! ### Certificates -/

def tlsSecretName (tls : Dict) : Option String :=
  let term :=
    if (dictAt tls "terminateCore").isEmpty then dictAt tls "terminate_core"
    else dictAt tls "terminateCore"
  let secret := [tls, term].flatMap fun doc =>
    ["secretName", "tlsSecretName", "secret_name"].map (Dict.get doc)
  (secret.find? Json.truthy).map fun secret => strip secret.toStr

/-- The documents about the certificates of the records that end TLS here. -/
def terminated (records : List EdgeIngressRouteRecord) : List (EdgeIngressRouteRecord × Dict) :=
  (records.map fun record => (record, dictAt (exposureOf record) "tls")).filter fun found =>
    lower (textAt found.2 "mode") = "terminate-core"

def hostFiles (found : EdgeIngressRouteRecord × Dict) :
    Option ((String × String) × String) :=
  let host := textAt (edgeRouteSpec found.1) "host"
  if host = "" then none
  else (((tlsSecretName found.2).filter (· ≠ "")).bind files.resolve).map fun pair =>
    (pair, host)

/-- The texts without repetition, in order. -/
def sortedTexts (texts : List String) : List String :=
  texts.dedup.mergeSort (fun first second => decide (first ≤ second))

/-- The certificates of the hosts, in the order of their files. -/
def downstreamCerts (pairs : List ((String × String) × String)) : List DownstreamTlsCert :=
  let keys := (pairs.map Prod.fst).dedup.mergeSort fun first second =>
    decide (first.1 < second.1 ∨ (first.1 = second.1 ∧ first.2 ≤ second.2))
  keys.map fun key =>
    { certChain := key.1
      privateKey := key.2
      serverNames := sortedTexts ((pairs.filter (·.1 = key)).map Prod.snd) }

def collectDownstreamTls
    (records : List EdgeIngressRouteRecord)
    (config : EdgeCoreProxyConfig) : List DownstreamTlsCert × Option DownstreamTlsCert :=
  let certOf (pair : String × String) : DownstreamTlsCert := ⟨pair.1, pair.2, []⟩
  let default := config.tlsDefaultSecret.filter (· ≠ "")
  let wantTls := config.controlplanePublicEnable || !(terminated records).isEmpty ||
    default.isSome
  if config.tlsListenPort = none ∨ wantTls = false then ([], none)
  else
    let found := (default.bind files.resolve).map certOf
    let fallback := if config.tlsFallback then files.fallback.map certOf else none
    (downstreamCerts ((terminated records).filterMap (hostFiles files)), found.or fallback)

/-! ### The URL of authentication -/

/-- What the filter is told about the service that authenticates. -/
structure ExtAuthzConfig where
  uri : String
  cluster : String
  pathPrefix : String
  failureModeAllow : Bool
  deriving DecidableEq

/-- The prefix for a path: that of a slash alone is left out. -/
def authPathPrefix (path : List Char) : String :=
  if path = ['/'] then "" else String.ofList path

/-- `_forward_auth_cluster` and `_forward_auth_ext_authz_config`, which read the URL
in the same way; an outer `none` for an exception. -/
def forwardAuth (url : String) : Option (Option (CoreProxyCluster × ExtAuthzConfig)) :=
  match urlparse library.netlocRefused url.toList with
  | none => none
  | some parsed =>
      if parsed.hostname.isEmpty then some none
      else
        let scheme := schemeOr "http" parsed.scheme
        let host := String.ofList parsed.hostname
        let useTls := decide (scheme = "https".toList)
        parsed.port.map fun port =>
          let port := portOr port (defaultPort scheme)
          some
            ({ name := "auth_forward"
               endpoints := [(host, port)]
               useTls := useTls
               sni := if useTls then some host else none },
              { uri := String.ofList (serverUri scheme parsed.hostname port)
                cluster := "auth_forward"
                pathPrefix := authPathPrefix parsed.path
                failureModeAllow := false })

/-! ### All routes and clusters -/

/-- What `_build_routes_and_clusters` returns. -/
structure ProxyParts where
  routes : List CoreProxyRoute
  clusters : List CoreProxyCluster
  extAuthzConfig : Option ExtAuthzConfig
  enableLocalRatelimit : Bool
  downstreamTls : List DownstreamTlsCert
  fallbackTls : Option DownstreamTlsCert

/-- The certificates that are found for the routes of a store. -/
def tlsFor (store : StateStore) (config : EdgeCoreProxyConfig) :
    List DownstreamTlsCert × Option DownstreamTlsCert :=
  collectDownstreamTls files store.edgeIngressRoutes config

/-- The setting that the records are read in; `none` for an exception. -/
def proxySetting
    (store : StateStore)
    (config : EdgeCoreProxyConfig) : Option ProxySetting :=
  (selectForwardAuthUrl library store).map fun url =>
    { library := library
      store := store
      forwardAuthUrl := url
      reservedHosts := reservedControlplaneHosts config
      tlsEnabled := !(tlsFor files store config).1.isEmpty || (tlsFor files store config).2.isSome }

/-- The service that authenticates, if a URL has been chosen; an outer `none` for an
exception. -/
def chosenAuth (setting : ProxySetting) :
    Option (Option (CoreProxyCluster × ExtAuthzConfig)) :=
  match setting.forwardAuthUrl with
  | none => some none
  | some url => forwardAuth setting.library url

/-- `_build_routes_and_clusters`; `none` for an exception. -/
def buildRoutesAndClusters
    (store : StateStore)
    (config : EdgeCoreProxyConfig) : Option ProxyParts := do
  let setting ← proxySetting library files store config
  let sites := (store.siteIngressEndpoints.map (siteBuilt config)).foldl Built.append .empty
  let records ← store.edgeIngressRoutes.mapM (recordBuilt setting)
  let built := (records.map Prod.fst).foldl Built.append sites
  let auth ← chosenAuth setting
  let controlplane := controlplaneBuilt config setting.tlsEnabled
  return {
    routes := built.routes ++ controlplane.routes
    clusters :=
      (built.clusters ++ (auth.map Prod.fst).toList ++ controlplane.clusters).foldl
        setdefaultCluster []
    extAuthzConfig := auth.map Prod.snd
    enableLocalRatelimit := records.any Prod.snd
    downstreamTls := (tlsFor files store config).1
    fallbackTls := (tlsFor files store config).2 }

/-! ## Which routes are built -/

theorem routes_foldl_append (builts : List Built) (start : Built) :
    (builts.foldl Built.append start).routes = start.routes ++ builts.flatMap Built.routes := by
  induction builts generalizing start with
  | nil => simp
  | cons first rest ih =>
      rw [List.foldl_cons, ih, List.flatMap_cons, Built.append, List.append_assoc]

def recordRoutes (setting : ProxySetting) (record : EdgeIngressRouteRecord) :
    List CoreProxyRoute :=
  ((recordBuilt setting record).map fun built => built.1.routes).getD []

section Records

variable {setting : ProxySetting} {record : EdgeIngressRouteRecord} {own : RecordSetting}
variable {route : CoreProxyRoute}

theorem route_of_routesTo
    {cluster : CoreProxyCluster} (member : route ∈ (routesTo record own cluster).routes) :
    ∃ path cluster, route = own.route path cluster := by
  obtain ⟨entry, -, rfl⟩ := List.mem_map.mp member
  exact ⟨entry.path, cluster.name, rfl⟩

/-- Whatever the mode, the host, the flags and the options of the routes are those
of the record. -/
theorem route_of_modeBuilt
    {built : Built} (made : modeBuilt setting record own = some built)
    (member : route ∈ built.routes) : ∃ path cluster, route = own.route path cluster := by
  have coreLocal : ∀ {built : Built}, ((routePathEntries (edgeRouteSpec record)).mapM
      (coreLocalRoute setting record own)).map (List.foldl Built.append .empty) = some built →
      route ∈ built.routes → ∃ path cluster, route = own.route path cluster := by
    intro built made member
    obtain ⟨builts, all, rfl⟩ := Option.map_eq_some_iff.mp made
    rw [routes_foldl_append] at member
    rcases List.mem_append.mp member with none | later
    · cases none
    · obtain ⟨part, listed, member⟩ := List.mem_flatMap.mp later
      obtain ⟨entry, -, found⟩ := (mem_of_mapM all part).mp listed
      obtain ⟨endpoints, -, rfl⟩ := Option.map_eq_some_iff.mp found
      split at member
      · cases member
      · exact ⟨_, _, List.mem_singleton.mp member⟩
  unfold modeBuilt at made
  split at made
  · obtain rfl := Option.some.inj made
    unfold coreProxyRoutes at member
    split at member
    · cases member
    · exact route_of_routesTo member
  · unfold edgePublicRoutes at made
    obtain ⟨found, -, rfl⟩ := Option.map_eq_some_iff.mp made
    split at member
    · cases member
    · exact route_of_routesTo member
  · exact coreLocal made member
  · exact coreLocal made member
  · obtain rfl := Option.some.inj made
    cases member

theorem route_of_recordRoutes (member : route ∈ recordRoutes setting record) :
    hostOf record ≠ "" ∧ ∃ own, recordSetting setting record = some own ∧
      ∃ path cluster, route = own.route path cluster := by
  unfold recordRoutes recordBuilt at member
  split at member
  · cases member
  · next kept =>
      refine ⟨fun none => kept (by simp [skipped, none]), ?_⟩
      cases read : recordSetting setting record with
      | none => simp [read] at member
      | some own =>
          cases made : modeBuilt setting record own with
          | none => simp [read, made] at member
          | some built =>
              simp only [read, made, Option.bind_eq_bind, Option.bind_some, Option.pure_def,
                Option.map_some, Option.getD_some] at member
              exact ⟨own, rfl, route_of_modeBuilt made member⟩

end Records

end Ingress
end K1s
