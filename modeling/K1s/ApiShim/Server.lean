import K1s.ApiShim.Creates
import K1s.ApiShim.PatchRequests

/-!
# The handlers of `DELETE` and `GET`, and the server

Of the many branches of `do_GET` only one writes to the store: reading a service
account whose token is missing or has expired.  The server hands a request to the
handler of its method, and fills the map of tokens when it starts.
-/

namespace K1s
namespace ApiShim

open Py

/-! ## `DELETE` -/

/-- What a `DELETE` addresses. -/
structure DeleteRoute where
  gvr : Gvr
  ns : Option String
  /-- Without a name the whole collection is deleted. -/
  name : Option String
  cluster : Bool
  /-- Whether access control is asked. -/
  checked : Bool
  /-- The namespace that access control is asked about. -/
  askedNs : Option String
  /-- The object is the definition of a custom resource. -/
  definition : Bool

variable (handler : ShimHandler) (request : Request)

namespace DeleteRoute

def namespaced (group version : String) (path : PathName) : DeleteRoute where
  gvr := ⟨group, version, path.plural⟩
  ns := path.ns
  name := path.name
  cluster := false
  checked := true
  askedNs := none
  definition := false

/-- A branch for a path that addresses one of the kinds. -/
def forKinds
    (path : PathName) (kinds : List String)
    (route : PathName → DeleteRoute) : Option DeleteRoute :=
  if kinds.contains path.plural then some (route path) else none

/-- The branches of `do_DELETE` before custom resources. -/
def builtin (path : String) : Option DeleteRoute :=
  let core := nsName path
  let crd := gvClusterName path "apiextensions.k8s.io" "v1" "customresourcedefinitions"
  firstRoute [if coreKinds.contains core.plural && core.named then
        some { namespaced "" "v1" core with
          ns := if coreClusterKinds.contains core.plural then none else core.ns }
      else none,
      forKinds (batchNsName path) ["jobs", "cronjobs"] (namespaced "batch" "v1"),
      (scopedKind path storageGroup storageKinds fun _ => true).map fun (path, hasNs) =>
        { namespaced storageGroup "v1" path with cluster := !hasNs },
      (scopedKind path snapshotGroup snapshotKinds fun _ => true).map fun (path, hasNs) =>
        { namespaced snapshotGroup "v1" path with cluster := !hasNs },
      forKinds (appsNsName path) ["deployments", "statefulsets", "daemonsets"] fun apps =>
        { namespaced "apps" "v1" apps with askedNs := apps.ns },
      forKinds (netNsName path) ["ingresses"] (namespaced "networking.k8s.io" "v1"),
      forKinds (gvNsName path "autoscaling" "v2" "horizontalpodautoscalers")
        ["horizontalpodautoscalers"] fun path =>
        { namespaced "autoscaling" "v2" path with checked := false },
      if crd.plural = "customresourcedefinitions" ∧ crd.named = true then
        some { namespaced "apiextensions.k8s.io" "v1" crd with
          checked := false
          definition := true }
      else none]

/-- What is done about an object or a collection that may be deleted. -/
def decision (route : DeleteRoute) : Decision :=
  match route.name with
  | some name => .delete route.gvr route.ns name route.definition
  | none => .deleteAll route.gvr route.ns route.cluster

/-- Whether access control lets the objects be deleted. -/
def allowed
    (token : String) (cached : Option Principal)
    (route : DeleteRoute) : ShimProgram Bool :=
  if route.checked then
    rbacCheck handler token cached "delete" route.gvr.resource route.askedNs
  else .done true

end DeleteRoute

def namespaceRequired : Status :=
  ⟨400, "BadRequest", "namespaced resource delete requires namespace"⟩

/-- `_handle_custom_resource_delete`.  A missing name matches no object. -/
def customDelete (path : CustomPath) (crd : CrdMeta) : Decision :=
  if crd.namespaced ∧ path.target.ns = none then .respond namespaceRequired
  else
    match path.target.name with
    | none => .respond .notFound
    | some name =>
        .delete ⟨path.group, path.version, path.target.plural⟩
          (if crd.namespaced then path.target.ns else none) name false

/-- `do_DELETE` behind its gate.  Custom resources are looked for under the target
as it was sent. -/
def deleteDecision (cached : Option Principal) : ShimProgram Decision :=
  match DeleteRoute.builtin request.path with
  | some route => do
      let allowed ← route.allowed handler request.token cached
      return if allowed then route.decision else .respond .forbidden
  | none => do
      match ← lookupCustom request.target with
      | some (custom, crd) => return customDelete custom crd
      | none => return .respond .notFound

def doDelete : ShimProgram Decision := do
  match ← authz handler .read request.token with
  | none => return .respond .unauthorized
  | some cached => deleteDecision handler request cached

/-! ## `GET` -/

/-- The paths that anyone may read. -/
def publicPaths : List String :=
  ["/openapi/v2", "/openapi/v3", "/swagger.json", "/api", "/apis", "/version", "/__ae/version"]

/-- The role that `do_GET` asks for. -/
def getRole : Role :=
  if streamPath request.path = some "pods/exec" ∧ request.upgrades then .exec
  else if (streamPath request.path).isSome ∧ request.upgrades then .portforward
  else .read

/-- `float(anns.get("ae.apishim/token-exp", "0") or 0)`, `none` for an exception. -/
def recordedExp? (anns : Dict) : Option PyFloat :=
  (((Dict.find? anns tokenExpKey).getD (.str "0")).or (.int 0)).toFloat

/-- `not tok or exp < time.time()`. -/
def tokenStale (anns : Dict) (exp : PyFloat) : ShimProgram Bool :=
  if !(Dict.get anns tokenKey).truthy then .done true
  else do return exp.lt (.finite (← shimNow))

/-- The metadata of an account with a token of its own, unless its token is still
good. -/
def refreshSaToken
    (ns : Option String) (name : String)
    (object : K8sObject) : ShimProgram (Option Json) := do
  let md ← .ofOption (dictOf object.metadata)
  let md := Dict.setdefault md "annotations" (.dict [])
  match Dict.get md "annotations" with
  | .dict anns =>
      let exp ← .ofOption (recordedExp? anns)
      if ← tokenStale anns exp then
        let token ← issueSaToken handler (ns.getD "default") name
        let later ← shimNow
        let anns := Dict.set anns tokenKey (.str token)
        let anns := Dict.set anns tokenExpKey
          (.str (secondsText (later + handler.saTokenTtl)))
        return some (.dict (Dict.set md "annotations" (.dict anns)))
      else return none
  | _ => .raise

/-- The branch of `do_GET` for one service account. -/
def readServiceAccount
    (token : String) (cached : Option Principal) (ns : Option String)
    (name : String) : ShimProgram Decision := do
  if !(← rbacCheck handler token cached "get" "serviceaccounts" none) then
    return .respond .forbidden
  else
    match ← shimGet serviceAccountsResource ns name with
    | none => return .respond .notFound
    | some object =>
        match ← refreshSaToken handler ns name object with
        | none => return .answer
        | some md =>
            return .upsert (some object)
              ⟨serviceAccountsResource, ns, name, md, object.spec, object.status⟩ none

def accountPath (path : String) : Option (Option String × String) :=
  let core := nsName path
  if core.plural = "serviceaccounts" then core.name.map (core.ns, ·) else none

def doGet : ShimProgram Decision :=
  if publicPaths.contains request.path then .done .answer
  else do
    match ← authz handler (getRole request) request.token with
    | none => return .respond .unauthorized
    | some cached =>
        match accountPath request.path with
        | some (ns, name) => readServiceAccount handler request.token cached ns name
        | none => return .answer

/-! ## The server -/

/-- The first part of the handler of a request. -/
def decideRequest : ShimProgram Decision :=
  match request.method with
  | .get => doGet handler request
  | .post => doPost handler request
  | .put => doPut handler request
  | .patch => doPatch handler request
  | .delete => doDelete handler request

def handle : ShimProgram Response :=
  (decideRequest handler request).andThen Decision.carryOut

/-- The world after a request has been handled with no other under way. -/
def afterRequest
    (outside : ShimOutside) (request : Request)
    (world : ShimWorld) : ShimWorld :=
  (Program.runAlone (ShimOp.execute outside) (handle handler request) world).2

end ApiShim
end K1s
