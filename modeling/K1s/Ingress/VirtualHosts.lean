import K1s.Ingress.ForwardAuth

/-!
# Which virtual host and which entry serve a request

The routes of a host are rendered with the longest prefix first, and the first entry whose
prefix matches a path serves it.  A virtual host also has its host with the port of the
listener as a domain, which another route may have as its host.
-/

namespace K1s
namespace Ingress

open Py

def RouteEntry.serves (entry : RouteEntry) (path : String) : Bool :=
  startsWith entry.matchPrefix path

variable (parts : ProxyParts) (config : EdgeCoreProxyConfig) (listener : Listener)

/-- The first entry that serves the path is that of a route of the host with a longest
prefix, and without one no route of the host serves the path. -/
def ServesLongest (host path : String) (entries : List RouteEntry) : Prop :=
  match entries.find? (·.serves path) with
  | none => ∀ route ∈ parts.routes, route.host = host →
      (entryAt parts listener route).serves path = false
  | some entry => ∃ route ∈ parts.routes, route.host = host ∧
      entryAt parts listener route = entry ∧ ∀ other ∈ parts.routes, other.host = host →
        (entryAt parts listener other).serves path = true →
          (entryAt parts listener other).matchPrefix.length ≤ entry.matchPrefix.length

/-- The domains of the virtual hosts are distinct, and the virtual host of the host of a
route serves every path by a longest prefix. -/
structure RoutesRequests : Prop where
  distinct : (listener.virtualHosts.flatMap (·.domains)).Nodup
  served : ∀ route ∈ parts.routes, route.host ≠ "" →
    (∃ vhost ∈ listener.virtualHosts, route.host ∈ vhost.domains) ∧
    ∀ vhost ∈ listener.virtualHosts, route.host ∈ vhost.domains →
      ∀ path, ServesLongest parts listener route.host path vhost.routes

/-- No host of a route is another one with the port. -/
def NoHostWithPort (port : Int) : Prop :=
  ∀ first ∈ parts.routes, ∀ second ∈ parts.routes, first.host ≠ "" →
    second.host ≠ first.host ++ ":" ++ toString port

/-! ## The longest prefix -/

theorem length_matchPrefix_le {first second : CoreProxyRoute}
    (shorter : second.pathPrefix.length ≤ first.pathPrefix.length) :
    (entryAt parts listener second).matchPrefix.length ≤
      (entryAt parts listener first).matchPrefix.length := by
  unfold entryAt routeEntry
  dsimp only
  have one : "/".length = 1 := rfl
  by_cases root : first.pathPrefix = ""
  · have other : second.pathPrefix = "" := by
      simpa [root] using shorter
    rw [if_pos root, if_pos other]
  · have long : 0 < first.pathPrefix.length := by
      simpa [Nat.pos_iff_ne_zero] using root
    rw [if_neg root]
    split <;> omega

theorem pairwise_longestFirst (routes : List CoreProxyRoute) :
    (longestFirst routes).Pairwise fun first second =>
      second.pathPrefix.length ≤ first.pathPrefix.length := by
  refine (List.pairwise_mergeSort ?_ ?_ routes).imp (fun sorted => of_decide_eq_true sorted)
  · intro first second third
    simpa using fun left right => le_trans right left
  · intro first second
    simpa using le_total second.pathPrefix.length first.pathPrefix.length

theorem servesLongest (host path : String) :
    ServesLongest parts listener host path
      (((longestFirst parts.routes).filter fun route => route.host = host).map
        (entryAt parts listener)) := by
  have listed : ∀ {route}, route ∈ (longestFirst parts.routes).filter (fun route => route.host = host) ↔
      route ∈ parts.routes ∧ route.host = host := by
    simp [longestFirst]
  rw [ServesLongest, List.find?_map]
  cases found : ((longestFirst parts.routes).filter fun route => route.host = host).find?
      ((·.serves path) ∘ entryAt parts listener) with
  | none =>
      intro route member here
      have missed := List.find?_eq_none.mp found route (listed.mpr ⟨member, here⟩)
      simpa using missed
  | some route =>
      obtain ⟨serves, before, after, whole, missed⟩ := List.find?_eq_some_iff_append.mp found
      have sorted := (pairwise_longestFirst parts.routes).filter fun route => route.host = host
      obtain ⟨member, here⟩ := listed.mp (List.mem_of_find?_eq_some found)
      refine ⟨route, member, here, rfl, fun other otherMember otherHere otherServes => ?_⟩
      have inList := listed.mpr ⟨otherMember, otherHere⟩
      rw [whole] at inList sorted
      apply length_matchPrefix_le
      rcases List.mem_append.mp inList with early | later
      · have skipped := missed other early
        simp [otherServes] at skipped
      · rcases List.mem_cons.mp later with rfl | later
        · exact le_rfl
        · exact (List.pairwise_cons.mp (List.pairwise_append.mp sorted).2.1).1 other later

/-! ## The virtual hosts of a listener -/

/-- Keys and aliases that end in the same text are distinct exactly when no key is an alias. -/
theorem nodup_aliases_iff {hosts : List String} (distinct : hosts.Nodup) {port : String}
    (some : port ≠ "") :
    (hosts.flatMap fun host => [host, host ++ port]).Nodup ↔
      ∀ first ∈ hosts, ∀ second ∈ hosts, second ≠ first ++ port := by
  have longer : ∀ host : String, host ≠ host ++ port := fun host same => by
    have lengths := congrArg String.length same
    simp [some] at lengths
  rw [List.nodup_flatMap]
  constructor
  · rintro ⟨-, apart⟩ first firstIn second secondIn same
    have different : second ≠ first := fun equal => longer first (equal ▸ same)
    have : Std.Symm (Function.onFun List.Disjoint fun host : String => [host, host ++ port]) :=
      ⟨fun _ _ disjoint => disjoint.symm⟩
    exact apart.forall secondIn firstIn different (List.mem_cons_self ..) (by simp [← same])
  · intro free
    refine ⟨fun host _ => by simp [longer], distinct.pairwise_of_forall_ne ?_⟩
    intro first firstIn second secondIn different domain inFirst inSecond
    have noFirst := free first firstIn second secondIn
    have noSecond := free second secondIn first firstIn
    have noAlias := (String.append_left_inj port).not.mpr different
    simp only [List.mem_cons, List.not_mem_nil, or_false] at inFirst inSecond
    grind

variable {parts config listener}

theorem virtualHosts_eq (listed : listener ∈ (renderEnvoyConfig parts config).listeners) :
    listener.virtualHosts = buildVhosts parts.extAuthzConfig parts.routes
      (decide (listener.name = "edge_listener_http")) (some listener.port) := by
  rcases listeners_cases listed with rfl | ⟨port, found, rfl⟩
  · rfl
  · have given := (Option.filter_eq_some_iff.mp found).1
    simp [tlsListener, given]

section Entries

variable (parts listener)

/-- The entries of the virtual hosts of the listener, by host. -/
def listenerEntries : Dictionary String (List RouteEntry) :=
  hostEntries parts.extAuthzConfig parts.routes (decide (listener.name = "edge_listener_http"))

theorem find?_listenerEntries (host : String) :
    (listenerEntries parts listener).find? host =
      if ∃ route ∈ parts.routes, route.host = host ∧ host ≠ "" then
        some (((longestFirst parts.routes).filter fun route => route.host = host).map
          (entryAt parts listener))
      else none :=
  find?_hostEntries _ _ _ _

theorem mem_keys_iff (host : String) :
    host ∈ (listenerEntries parts listener).entries.map Prod.fst ↔
      ∃ route ∈ parts.routes, route.host = host ∧ host ≠ "" := by
  have absent := (listenerEntries parts listener).find?_eq_none_iff host
  rw [find?_listenerEntries] at absent
  by_cases has : ∃ route ∈ parts.routes, route.host = host ∧ host ≠ ""
  · simpa [has] using absent
  · simpa [has] using absent

theorem noHostWithPort_iff (port : Int) :
    NoHostWithPort parts port ↔ ∀ first ∈ (listenerEntries parts listener).entries.map Prod.fst,
        ∀ second ∈ (listenerEntries parts listener).entries.map Prod.fst,
          second ≠ first ++ (":" ++ toString port) := by
  simp only [mem_keys_iff, NoHostWithPort, ← String.append_assoc]
  constructor
  · rintro free _ ⟨first, firstIn, rfl, named⟩ _ ⟨second, secondIn, rfl, -⟩
    exact free first firstIn second secondIn named
  · intro free first firstIn second secondIn named same
    exact free _ ⟨first, firstIn, rfl, named⟩ _ ⟨second, secondIn, rfl, by simp [same]⟩ same

end Entries

theorem virtualHosts_cases (listed : listener ∈ (renderEnvoyConfig parts config).listeners) :
    (listener.virtualHosts = [defaultHost] ∧ ∀ route ∈ parts.routes, route.host = "") ∨
      listener.virtualHosts = (listenerEntries parts listener).entries.map fun entry =>
        ⟨"vhost_" ++ entry.1, domainsForHost entry.1 (some listener.port), entry.2⟩ := by
  have vhosts := virtualHosts_eq listed
  rw [buildVhosts, ← hostEntries, ← listenerEntries] at vhosts
  dsimp only at vhosts
  split at vhosts
  · next empty =>
      rw [List.isEmpty_map, Dictionary.isEmpty_entries_iff] at empty
      refine .inl ⟨vhosts, fun route member => by_contra fun named => ?_⟩
      have found := find?_listenerEntries parts listener route.host
      rw [empty, if_pos ⟨route, member, rfl, named⟩] at found
      cases found
  · exact .inr vhosts

theorem nodup_domains_iff (listed : listener ∈ (renderEnvoyConfig parts config).listeners) :
    (listener.virtualHosts.flatMap (·.domains)).Nodup ↔ NoHostWithPort parts listener.port := by
  rcases virtualHosts_cases listed with ⟨vhosts, none⟩ | vhosts
  · refine iff_of_true ?_ fun first firstIn _ _ named => absurd (none first firstIn) named
    simp [vhosts, defaultHost]
  · have apart := nodup_aliases_iff (listenerEntries parts listener).distinct
      (by simp : ":" ++ toString listener.port ≠ "")
    rw [← noHostWithPort_iff] at apart
    rw [← apart, vhosts, List.flatMap_map, List.flatMap_map]
    simp [domainsForHost, String.append_assoc]

/-- A listener routes every request by host and longest prefix exactly when no host of a
route is another one with the port of the listener. -/
theorem routesRequests_iff (listed : listener ∈ (renderEnvoyConfig parts config).listeners) :
    RoutesRequests parts listener ↔ NoHostWithPort parts listener.port := by
  rw [← nodup_domains_iff listed]
  refine ⟨RoutesRequests.distinct, fun distinct => ⟨distinct, fun route member named => ?_⟩⟩
  have free := (nodup_domains_iff listed).mp distinct
  rcases virtualHosts_cases listed with ⟨-, none⟩ | vhosts
  · exact absurd (none route member) named
  · have found := find?_listenerEntries parts listener route.host
    rw [if_pos ⟨route, member, rfl, named⟩] at found
    have inEntries := (Dictionary.find?_eq_some_iff _ _ _).mp found
    rw [vhosts]
    refine ⟨⟨_, List.mem_map_of_mem inEntries, List.mem_cons_self ..⟩, ?_⟩
    rintro vhost inVhosts domain path
    obtain ⟨⟨host, entries⟩, inEntries, rfl⟩ := List.mem_map.mp inVhosts
    have key := (mem_keys_iff parts listener host).mp (List.mem_map_of_mem inEntries)
    obtain ⟨first, firstIn, rfl, hostNamed⟩ := key
    have same : route.host = first.host := by
      refine (List.mem_cons.mp domain).resolve_right fun ported => ?_
      exact free first firstIn route member hostNamed (by simpa [domainsForHost] using ported)
    rw [← Dictionary.find?_eq_some_iff, ← same, found] at inEntries
    obtain rfl := Option.some.inj inEntries
    exact servesLongest parts listener route.host path

def portedHosts : ProxyParts where
  routes := [{ host := "a", pathPrefix := "/", cluster := "one" },
    { host := "a:10080", pathPrefix := "/", cluster := "two" }]
  clusters := []
  extAuthzConfig := none
  enableLocalRatelimit := false
  downstreamTls := []
  fallbackTls := none

theorem routesRequests_iff_portedHosts :
    RoutesRequests portedHosts (httpListener portedHosts plainConfig) ↔
      NoHostWithPort portedHosts 10080 :=
  routesRequests_iff (List.mem_cons_self .. :
    _ ∈ (renderEnvoyConfig portedHosts plainConfig).listeners)

theorem not_routesRequests_portedHosts :
    ¬ RoutesRequests portedHosts (httpListener portedHosts plainConfig) := by
  intro requests
  have free := (nodup_domains_iff (List.mem_cons_self .. :
    _ ∈ (renderEnvoyConfig portedHosts plainConfig).listeners)).mp requests.distinct
  exact free _ (List.mem_cons_self ..) _ (List.mem_cons_of_mem _ (List.mem_cons_self ..))
    (by decide) (by decide +kernel)

end Ingress
end K1s
