import K1s.Py.Float
import K1s.Py.Url

/-!
# Ingress routes and policies

The records of the control plane's store that the core proxy is made from, and how
their documents are read: the options that a policy gives to a route, and the URL
that it has requests authenticated at.
-/

namespace K1s
namespace Ingress

open Py

/-! ## Records -/

structure EdgeIngressRouteRecord where
  name : String
  namespace_ : String
  siteId : String
  policyName : Option String
  policyNamespace : Option String
  spec : Dict

structure EdgeIngressPolicyRecord where
  name : String
  namespace_ : String
  spec : Dict

structure SiteIngressListItem where
  siteId : String
  coreProxyPort : Option Int
  publicUrls : List Json

structure ServiceEndpoint where
  ip : String
  port : Int
  targetPort : Int

/-- What is read of a pod. -/
structure Pod where
  ready : Bool
  endpoint : Option String

/-- What is read of the control plane's store. -/
structure StateStore where
  edgeIngressRoutes : List EdgeIngressRouteRecord
  edgeIngressPolicies : List EdgeIngressPolicyRecord
  siteIngressEndpoints : List SiteIngressListItem
  /-- The ports of a service. -/
  servicePorts : String → Option Json
  serviceEndpoints : String → List ServiceEndpoint
  pods : String → List Pod

/-- `get_edge_ingress_policy`: name and namespace are the key of the table. -/
def StateStore.getEdgeIngressPolicy (store : StateStore) (name ns : String) :
    Option EdgeIngressPolicyRecord :=
  store.edgeIngressPolicies.find? fun policy => policy.name = name ∧ policy.namespace_ = ns

/-! ## Reading documents -/

/-- `doc.get(key) if isinstance(doc.get(key), dict) else {}`. -/
def dictAt (doc : Dict) (key : String) : Dict := (Dict.get doc key).entries

/-- `doc.get(key) if isinstance(doc.get(key), list) else []`. -/
def listAt (doc : Dict) (key : String) : List Json := (Dict.get doc key).items

/-- `str(doc.get(key) or "").strip()`. -/
def textAt (doc : Dict) (key : String) : String :=
  strip ((Dict.get doc key).or (.str "")).toStr

/-- `_coerce_int(doc.get(key))`. -/
def intAt (doc : Dict) (key : String) : Option Int := (Dict.get doc key).toInt

/-- `first or second` on numbers that may be missing. -/
def orInt (first second : Option Int) : Option Int :=
  if first.getD 0 ≠ 0 then first else second

/-- A number that is neither missing nor zero. -/
def nonzero (value : Option Int) : Option Int := value.filter (· ≠ 0)

variable (record : EdgeIngressRouteRecord) (policy : Dict) (library : Library)

def edgeRouteSpec : Dict :=
  if Dict.has record.spec "spec" then dictAt record.spec "spec" else record.spec

def edgePolicySpec (record : EdgeIngressPolicyRecord) : Dict :=
  match Dict.get record.spec "spec" with
  | .dict spec => spec
  | _ => record.spec

/-- `_policy_for_route`.  The cache of the source only saves look-ups. -/
def policyForRoute (store : StateStore) (record : EdgeIngressRouteRecord) : Option Dict :=
  let name := record.policyName.getD ""
  if name = "" then none
  else
    let named := record.policyNamespace.getD ""
    let ns := if named = "" then record.namespace_ else named
    ((store.getEdgeIngressPolicy name ns).map edgePolicySpec).filter fun spec => !spec.isEmpty

/-- `spec.get("exposure")`, if it is a mapping. -/
def exposureOf : Dict :=
  dictAt (edgeRouteSpec record) "exposure"

def modeOf : String :=
  lower (textAt (exposureOf record) "mode")

/-! ## Route options -/

/-- How a cluster spreads its requests. -/
inductive LbPolicy
  | roundRobin
  | leastRequest
  | ringHash
  deriving DecidableEq

def LbPolicy.text : LbPolicy → String
  | .roundRobin => "ROUND_ROBIN"
  | .leastRequest => "LEAST_REQUEST"
  | .ringHash => "RING_HASH"

/-- A token bucket that is filled every second. -/
structure RateLimit where
  maxTokens : Int
  tokensPerFill : Int
  deriving DecidableEq

def headerAdd (headers : Dict) : List (String × String) :=
  ((dictAt headers "add").filter fun entry => entry.1 ≠ "").map fun entry =>
    (entry.1, entry.2.toStr)

def headerRemove (headers : Dict) : List String :=
  ((listAt headers "remove").filter Json.truthy).map Json.toStr

/-- `_coerce_bool`, with `none` for the exception of `int` on a float without
integer part. -/
def coerceBool (value : Json) : Option (Option Bool) :=
  let ofInt (value : Int) : Option Bool :=
    if value = 1 then some true else if value = 0 then some false else none
  match value with
  | .bool value => some (some value)
  | .int value => some (ofInt value)
  | .float text => (Json.float text).toInt.map ofInt
  | .str text =>
      let token := lower (strip text)
      some (if token ∈ ["1", "true", "yes", "on"] then some true
        else if token ∈ ["0", "false", "no", "off"] then some false
        else none)
  | _ => some none

def normalizeLbStrategy (strategy : Json) : Option LbPolicy :=
  let token := String.ofList
    ((lower (strip (strategy.or (.str "")).toStr)).toList.map fun char =>
      if char = '-' then '_' else char)
  if token ∈ ["", "round_robin", "roundrobin", "rr"] then some .roundRobin
  else if token ∈ ["least_request", "leastrequest", "least_req", "leastreq"] then
    some .leastRequest
  else none

def policyRateLimit : Option RateLimit :=
  let waf := dictAt policy "waf"
  let mode := lower (textAt waf "mode")
  if mode ≠ "" ∧ mode ≠ "basic" then none
  else
    let rate := dictAt (dictAt waf "basic") "rateLimit"
    let rps := intAt rate "rps"
    let burst := intAt rate "burst"
    match rps.or burst, burst.or rps with
    | some rps, some burst => if rps ≤ 0 ∨ burst ≤ 0 then none else some ⟨burst, rps⟩
    | _, _ => none

/-- What a policy sets of a route. -/
structure RouteOptions where
  requestHeadersAdd : List (String × String) := []
  requestHeadersRemove : List String := []
  responseHeadersAdd : List (String × String) := []
  responseHeadersRemove : List String := []
  timeoutMs : Option Int := none
  idleTimeoutMs : Option Int := none
  websocketEnabled : Option Bool := none
  websocketIdleTimeoutMs : Option Int := none
  websocketMaxConnectionDurationMs : Option Int := none
  lbPolicy : LbPolicy := .roundRobin
  stickyCookieName : Option String := none
  stickyCookieTtlSeconds : Option Int := none
  localRateLimit : Option RateLimit := none
  deriving DecidableEq

/-- The name of the cookie that keeps a client at its endpoint. -/
def stickyCookieName : Option String :=
  let stickiness := dictAt policy "stickiness"
  let cookie := dictAt stickiness "cookie"
  let mode := lower (textAt stickiness "mode")
  if mode = "cookie" ∨ (mode = "" ∧ cookie ≠ []) then
    let name := textAt cookie "name"
    if name = "" then none else some name
  else none

/-- `_policy_route_options`, with the options as `_route_lb_policy` and
`_route_sticky_cookie` read them; `none` for an exception. -/
def policyRouteOptions : Option RouteOptions :=
  let headers := dictAt policy "headers"
  let timeouts := dictAt policy "timeouts"
  let websockets := dictAt policy "websockets"
  let cookie := dictAt (dictAt policy "stickiness") "cookie"
  (coerceBool (Dict.get websockets "enabled")).map fun websocketEnabled =>
    { requestHeadersAdd := headerAdd (dictAt headers "request")
      requestHeadersRemove := headerRemove (dictAt headers "request")
      responseHeadersAdd := headerAdd (dictAt headers "response")
      responseHeadersRemove := headerRemove (dictAt headers "response")
      timeoutMs := nonzero
        (orInt (intAt timeouts "requestBodyMs") (intAt timeouts "requestHeadersMs"))
      idleTimeoutMs := nonzero (intAt timeouts "idleMs")
      websocketEnabled := websocketEnabled
      websocketIdleTimeoutMs := nonzero (intAt websockets "idleMs")
      websocketMaxConnectionDurationMs := nonzero (intAt websockets "maxConnectionDurationMs")
      lbPolicy :=
        if (stickyCookieName policy).isSome then .ringHash
        else (normalizeLbStrategy (Dict.get (dictAt policy "loadBalancing") "strategy")).getD
          .roundRobin
      stickyCookieName := stickyCookieName policy
      stickyCookieTtlSeconds :=
        if (stickyCookieName policy).isSome then
          (intAt cookie "ttlSeconds").filter (0 < ·)
        else none
      localRateLimit := policyRateLimit policy }

/-! ## Forward authentication -/

/-- What the standard library is asked for. -/
structure Library where
  /-- The checks of `urlparse` on the characters of an authority. -/
  netlocRefused : List Char → Bool
  /-- `hashlib.sha1(text).hexdigest()`. -/
  sha1 : String → String

def defaultPort (scheme : List Char) : Nat :=
  if scheme = "https".toList then 443 else 80

/-- `parsed.port or default`. -/
def portOr (port : Option Nat) (default : Nat) : Nat :=
  if port.getD 0 = 0 then default else port.getD 0

/-- `parsed.scheme or default`, in lower case. -/
def schemeOr (default : String) (scheme : List Char) : List Char :=
  if scheme.isEmpty then default.toList else scheme.map Char.toLower

/-- `f"{scheme}://{host}:{port}"`. -/
def serverUri (scheme host : List Char) (port : Nat) : List Char :=
  scheme ++ "://".toList ++ host ++ ':' :: Nat.toDigits 10 port

/-- `_normalize_forward_auth_url`, with an outer `none` for an exception. -/
def normalizeForwardAuthUrl (rawUrl : String) : Option (Option String) :=
  if rawUrl = "" then some none
  else
    let candidate :=
      if decide ("://".toList <:+: rawUrl.toList) then rawUrl.toList
      else "http://".toList ++ rawUrl.toList
    match urlparse library.netlocRefused candidate with
    | none => none
    | some parsed =>
        let scheme := schemeOr "http" parsed.scheme
        if scheme ≠ "http".toList ∧ scheme ≠ "https".toList then some none
        else if parsed.hostname.isEmpty then some none
        else parsed.port.map fun port =>
          some (String.ofList (serverUri scheme parsed.hostname
            (portOr port (defaultPort scheme)) ++ parsed.path))

def authMode : String := lower (textAt (dictAt policy "auth") "mode")

/-- `_policy_forward_auth_url`, with an outer `none` for an exception. -/
def policyForwardAuthUrl (policy : Dict) : Option (Option String) :=
  if authMode policy ≠ "forward-auth" then some none
  else normalizeForwardAuthUrl library (textAt (dictAt (dictAt policy "auth") "forwardAuth") "url")

def routeForwardAuthUrl
    (store : StateStore) (record : EdgeIngressRouteRecord) : Option (Option String) :=
  match policyForRoute store record with
  | none => some none
  | some policy => policyForwardAuthUrl library policy

/-- The modes whose routes take part in the choice of a URL. -/
def choosingModes : List String := ["core-proxy", "core-to-edge-public"]

/-- The URLs that the choice is made from. -/
def forwardAuthUrls (store : StateStore) : Option (List String) :=
  ((store.edgeIngressRoutes.filter fun record => modeOf record ∈ choosingModes).mapM
    (routeForwardAuthUrl library store)).map List.reduceOption

/-- `_select_forward_auth_url`, with an outer `none` for an exception. -/
def selectForwardAuthUrl (store : StateStore) : Option (Option String) :=
  (forwardAuthUrls library store).map List.min?

end Ingress
end K1s
