import K1s.Lib.Dictionary
import K1s.Ingress.CoreProxy

/-!
# The configuration that the core proxy is rendered to

`render_envoy_config`: the routes are grouped by host, longest prefix first, once
for the plain listener, where routes may redirect, and once for the one with TLS.
A filter that authenticates is set up for the whole listener and switched off per
route.
-/

namespace K1s
namespace Ingress

structure PerFilterConfig where
  /-- Whether the filter that authenticates is switched off, where there is one. -/
  extAuthzDisabled : Option Bool
  localRateLimit : Option RateLimit
  deriving DecidableEq

/-- What is done with the requests of a route. -/
inductive RouteAction
  | httpsRedirect
  | directResponse (status : Int)
  | forward (cluster : String) (options : RouteOptions) (filters : PerFilterConfig)
  deriving DecidableEq

structure RouteEntry where
  matchPrefix : String
  action : RouteAction
  deriving DecidableEq

structure VirtualHost where
  name : String
  domains : List String
  routes : List RouteEntry
  deriving DecidableEq

inductive HttpFilter
  | extAuthz (config : ExtAuthzConfig)
  | localRatelimit
  | router
  deriving DecidableEq

structure Listener where
  name : String
  port : Int
  virtualHosts : List VirtualHost
  httpFilters : List HttpFilter
  certificates : List DownstreamTlsCert
  deriving DecidableEq

structure EnvoyConfig where
  listeners : List Listener
  clusters : List CoreProxyCluster
  websocketUpgradeEnabled : Bool
  deriving DecidableEq

def domainsForHost (host : String) (port : Option Int) : List String :=
  host :: (port.map fun port => host ++ ":" ++ toString port).toList

variable (extAuthz : Option ExtAuthzConfig) (parts : ProxyParts) (config : EdgeCoreProxyConfig)

/-- What is done with the requests of a route that is not redirected. -/
def routeAction (route : CoreProxyRoute) : RouteAction :=
  match route.directResponseStatus with
  | some status => .directResponse status
  | none =>
      .forward route.cluster route.options
        { extAuthzDisabled := extAuthz.map fun _ => !route.extAuthzEnabled
          localRateLimit := route.options.localRateLimit }

/-- A route, as it is rendered for a listener that redirects or not. -/
def routeEntry
    (redirectHttps : Bool)
    (route : CoreProxyRoute) : RouteEntry where
  matchPrefix := if route.pathPrefix = "" then "/" else route.pathPrefix
  action :=
    if redirectHttps && route.redirectToHttps then .httpsRedirect
    else routeAction extAuthz route

/-- The longest prefixes first, and otherwise in the order of the routes. -/
def longestFirst (routes : List CoreProxyRoute) : List CoreProxyRoute :=
  routes.mergeSort fun first second =>
    decide (second.pathPrefix.length ≤ first.pathPrefix.length)

def addToHost
    (render : CoreProxyRoute → RouteEntry) (hosts : Dictionary String (List RouteEntry))
    (route : CoreProxyRoute) : Dictionary String (List RouteEntry) :=
  if route.host = "" then hosts
  else hosts.set route.host ((hosts.find? route.host).getD [] ++ [render route])

/-- The virtual host of a proxy without routes. -/
def defaultHost : VirtualHost := ⟨"default", ["*"], [⟨"/", .directResponse 503⟩]⟩

def buildVhosts
    (routes : List CoreProxyRoute) (redirectHttps : Bool)
    (portAlias : Option Int) : List VirtualHost :=
  let hosts := (longestFirst routes).foldl
    (addToHost (routeEntry extAuthz redirectHttps)) .empty
  let vhosts := hosts.entries.map fun (host, entries) =>
    ⟨"vhost_" ++ host, domainsForHost host portAlias, entries⟩
  if vhosts.isEmpty then [defaultHost] else vhosts

def httpFilters : List HttpFilter :=
  (parts.extAuthzConfig.map HttpFilter.extAuthz).toList ++
    (if parts.enableLocalRatelimit then [.localRatelimit] else []) ++ [.router]

def tlsPort : Option Int :=
  if parts.downstreamTls.isEmpty && parts.fallbackTls.isNone then none
  else config.tlsListenPort

def httpListener : Listener where
  name := "edge_listener_http"
  port := config.httpListenPort
  virtualHosts := buildVhosts parts.extAuthzConfig parts.routes true (some config.httpListenPort)
  httpFilters := httpFilters parts
  certificates := []

def tlsListener (port : Int) :
    Listener where
  name := "edge_listener_tls"
  port := port
  virtualHosts := buildVhosts parts.extAuthzConfig parts.routes false (tlsPort parts config)
  httpFilters := httpFilters parts
  certificates := parts.downstreamTls ++ parts.fallbackTls.toList

/-- `render_envoy_config`, for what `_render_locked` passes to it. -/
def renderEnvoyConfig : EnvoyConfig where
  listeners :=
    httpListener parts config ::
      (((tlsPort parts config).filter (· ≠ 0)).map (tlsListener parts config)).toList
  clusters := parts.clusters.filter fun cluster => !cluster.endpoints.isEmpty
  websocketUpgradeEnabled := parts.routes.any fun route =>
    decide (route.options.websocketEnabled ≠ some false)

/-! ## Which entries are rendered -/

/-- A host has the entries of its routes, in their order. -/
theorem find?_foldl_addToHost
    (render : CoreProxyRoute → RouteEntry) (routes : List CoreProxyRoute) (host : String)
    (hosts : Dictionary String (List RouteEntry)) :
    (routes.foldl (addToHost render) hosts).find? host =
      if ∃ route ∈ routes, route.host = host ∧ host ≠ "" then
        some ((hosts.find? host).getD [] ++
          (routes.filter fun route => route.host = host).map render)
      else hosts.find? host := by
  induction routes generalizing hosts with
  | nil => simp
  | cons first rest ih =>
      rw [List.foldl_cons, ih]
      by_cases here : first.host = host
      · subst here
        unfold addToHost
        by_cases unnamed : first.host = ""
        · simp [unnamed]
        · by_cases more : ∃ route ∈ rest, route.host = first.host
          · simp [unnamed, more]
          · have gone : rest.filter (fun route => route.host = first.host) = [] := by
              simpa using more
            simp [unnamed, more, gone]
      · have unchanged : (addToHost render hosts first).find? host = hosts.find? host := by
          unfold addToHost
          split
          · rfl
          · rw [Dictionary.find?_set, if_neg here]
        rw [unchanged]
        simp [here]

def hostEntries
    (extAuthz : Option ExtAuthzConfig) (routes : List CoreProxyRoute)
    (redirectHttps : Bool) : Dictionary String (List RouteEntry) :=
  (longestFirst routes).foldl (addToHost (routeEntry extAuthz redirectHttps)) .empty

theorem find?_hostEntries
    (extAuthz : Option ExtAuthzConfig) (routes : List CoreProxyRoute) (redirectHttps : Bool)
    (host : String) :
    (hostEntries extAuthz routes redirectHttps).find? host =
      if ∃ route ∈ routes, route.host = host ∧ host ≠ "" then
        some (((longestFirst routes).filter fun route => route.host = host).map
          (routeEntry extAuthz redirectHttps))
      else none := by
  rw [hostEntries, find?_foldl_addToHost]
  simp [longestFirst]

/-- The entry of a route stands in the virtual host of its host. -/
theorem mem_buildVhosts
    {extAuthz : Option ExtAuthzConfig} {routes : List CoreProxyRoute}
    {route : CoreProxyRoute} (member : route ∈ routes) (named : route.host ≠ "")
    (redirectHttps : Bool) (portAlias : Option Int) :
    ∃ vhost ∈ buildVhosts extAuthz routes redirectHttps portAlias,
      vhost.name = "vhost_" ++ route.host ∧
        routeEntry extAuthz redirectHttps route ∈ vhost.routes := by
  have found := find?_hostEntries extAuthz routes redirectHttps route.host
  rw [if_pos ⟨route, member, rfl, named⟩, Dictionary.find?_eq_some_iff] at found
  have vhost := List.mem_map_of_mem
    (f := fun (host, entries) => (⟨"vhost_" ++ host, domainsForHost host portAlias, entries⟩ :
      VirtualHost)) found
  unfold hostEntries at vhost
  unfold buildVhosts
  dsimp only
  split
  · next empty =>
      rw [List.isEmpty_iff.mp empty] at vhost
      cases vhost
  · refine ⟨_, vhost, rfl, List.mem_map_of_mem ?_⟩
    rw [List.mem_filter]
    exact ⟨List.mem_mergeSort.mpr member, decide_eq_true rfl⟩

end Ingress
end K1s
