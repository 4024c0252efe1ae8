import K1s.ApiShim.Writes

/-!
# The handler of `POST`

Objects of the core group may have their names made up, service accounts are
given a token, and services an address and ports.  The other kinds are stored
under a `DocRule`.  Reviews, `exec` and port forwarding do not write to the
store; what they answer is left out.
-/

namespace K1s
namespace ApiShim

open Py

/-! ## Names -/

/-- A made-up name that is valid and not taken, in so many attempts.  An empty
text stands for none. -/
def generateName
    (gvr : Gvr) (ns : Option String)
    (start : String) : Nat → ShimProgram String
  | 0 => .done ""
  | attempts + 1 => do
      let suffix ← shimNameSuffix
      if !validName (.str (start ++ suffix)) then generateName gvr ns start attempts
      else if (← shimGet gvr ns (start ++ suffix)).isSome then
        generateName gvr ns start attempts
      else return start ++ suffix

def resolveCreateName
    (gvr : Gvr) (ns : Option String) (md : Dict)
    (pathName : Option String) : ShimProgram String :=
  let explicit := (textOf ((Dict.get md "name").or (optional pathName))).getD ""
  let start := (textOf (Dict.get md "generateName")).getD ""
  if explicit ≠ "" then .done explicit
  else if start = "" then .done ""
  else generateName gvr ns (String.ofList (start.toList.take 248)) 32

/-! ## Services -/

def servicesResource : Gvr := ⟨"", "v1", "services"⟩

def storedClusterIps (existing : List K8sObject) : Option (List Json) :=
  (existing.mapM fun (service : K8sObject) => service.spec.get "clusterIP").bind fun ips =>
    let ips := ips.filter Json.truthy
    if ips.all Json.hashable then some ips else none

def nodePortsOf (service : K8sObject) : Option (List Int) :=
  (if service.spec.truthy then service.spec.getD "ports" (.list [])
    else some (.list [])).bind fun ports =>
  ports.iterate.bind fun ports =>
  (ports.mapM fun (port : Json) => port.get "nodePort").map fun ports =>
    ports.filterMap Json.toInt

def storedNodePorts (existing : List K8sObject) : Option (List Int) :=
  (existing.mapM nodePortsOf).map List.flatten

/-- The ports of a service with their node ports, given those that are taken. -/
def allocatePorts
    (handler : ShimHandler) (ns name : Json) : List Json → List Int → Except Refusal (List Json)
  | [], _ => .ok []
  | port :: rest, taken =>
      match dictOf port with
      | none => .error .raised
      | some port =>
          let asked := Dict.get port "nodePort"
          let given (number : Int) : Except Refusal (List Json) :=
            (allocatePorts handler ns name rest (number :: taken)).map
              (.dict (Dict.set port "nodePort" (.int number)) :: ·)
          if asked = .null then
            given (allocNodeport handler taken (ns.toStr ++ "/" ++ name.toStr ++ "/" ++
              (Dict.get port "name").toStr ++ "/" ++ (Dict.get port "port").toStr))
          else
            match asked.toInt with
            | none => .error (.status (.invalid "nodePort must be integer"))
            | some number =>
                if number ∈ taken then
                  .error (.status ⟨409, "AlreadyExists",
                    "nodePort " ++ toString number ++ " already allocated"⟩)
                else given number

variable (handler : ShimHandler) (path : String) (request : Request)

def withClusterIp
    (ns name : Json) (spec : Dict)
    (taken : List Json) : Except Refusal Dict :=
  let svcType := (Dict.get spec "type").or (.str "ClusterIP")
  let clusterIp := Dict.get spec "clusterIP"
  if svcType = .str "ExternalName" ∨ clusterIp = .str "None" then .ok spec
  else if !clusterIp.truthy then
    .ok (Dict.set spec "clusterIP" (.str (allocClusterIp handler ns name taken)))
  else if .str clusterIp.toStr ∈ taken then
    .error (.status ⟨409, "AlreadyExists",
      "clusterIP " ++ clusterIp.toStr ++ " already allocated"⟩)
  else .ok spec

def withNodePorts
    (ns name : Json) (spec : Dict)
    (taken : List Int) : Except Refusal Dict :=
  let svcType := (Dict.get spec "type").or (.str "ClusterIP")
  if !svcType.hashable then .error .raised
  else if svcType ∈ [.str "NodePort", .str "LoadBalancer"] then
    match ((Dict.get spec "ports").or (.list [])).iterate with
    | none => .error .raised
    | some ports => (allocatePorts handler ns name ports taken).map fun ports =>
        Dict.set spec "ports" (.list ports)
  else .ok spec

def newServiceStatus (spec : Dict) (status : Json) : Option Dict :=
  let svcType := (Dict.get spec "type").or (.str "ClusterIP")
  (if svcType ∈ [.str "NodePort", .str "LoadBalancer"] then
    (status.contains "status").map fun present =>
      if !present || !status.truthy then
        .dict [("loadBalancer", .dict [("ingress", .list [])])]
      else status
  else some status).bind (serviceLbStatus spec)

/-- The spec and the status of a new service. -/
def serviceContent
    (ns name : Json) (doc : Dict) (existing : List K8sObject)
    (state laterState : StateServices) : Except Refusal (Json × Json) := do
  let spec ← orRaise (dictOf (plainSpec doc))
  let ips ← orRaise (storedClusterIps existing)
  let ports ← orRaise (storedNodePorts existing)
  let spec ← withClusterIp handler ns name spec (ips ++ state.clusterIps.map .str)
  let spec ← withNodePorts handler ns name spec (ports ++ laterState.nodePorts)
  let status ← orRaise (newServiceStatus spec (plainStatus doc))
  return (.dict spec, .dict status)

/-! ## Core objects -/

/-- The metadata with the annotations that name a token. -/
def withSaToken
    (md : Dict) (ns : Json)
    (name : String) : ShimProgram Dict := do
  let md := Dict.setdefault md "annotations" (.dict [])
  let annotations ← preserveOrIssueSaToken handler
    ((textOf ns).getD "default") name (Dict.get md "annotations")
  return Dict.set md "annotations" annotations

/-- The metadata that a new core object is stored with. -/
def coreMetadata
    (plural : String) (md : Dict) (ns : Json)
    (name : String) : ShimProgram Dict :=
  if plural = "serviceaccounts" then withSaToken handler md ns name else .done md

/-- The spec and the status of a new core object. -/
def coreContent
    (plural : String) (ns : Json) (name : String)
    (doc : Dict) : ShimProgram (Except Refusal (Json × Json)) :=
  if plural = "services" then do
    let existing ← shimListAll servicesResource
    let state ← shimStateServices
    let laterState ← shimStateServices
    return serviceContent handler ns (.str name) doc existing state laterState
  else .done (.ok (coreSpec plural doc, plainStatus doc))

/-- The write for an object, unless its content was refused. -/
def writeContent
    (gvr : Gvr)
    (target : Target) : Except Refusal (Json × Json) → Except Refusal Write
  | .error refusal => .error refusal
  | .ok (spec, status) => orRaise (target.write handler gvr spec status)

/-- The branch of `do_POST` for a core object whose name is known. -/
def createNamed
    (path : PathName) (doc md : Dict)
    (name : String) : ShimProgram Decision :=
  let rule := coreRule path
  let ns :=
    if rule.cluster then .null else (Dict.get md "namespace").or (optional path.ns)
  let md := if rule.secret then setSecretType md (Dict.get doc "type") else md
  match rule.checks.find? fun check => !check.passes (.str name) ns with
  | some check => .done (.respond (.invalid check.message))
  | none => do
      let md ← coreMetadata handler path.plural md ns name
      let content ← coreContent handler path.plural ns name doc
      storing none none (writeContent handler rule.gvr ⟨md, .str name, ns⟩ content)

/-- The branch of `do_POST` for core objects. -/
def createCore
    (path : PathName)
    (doc : Json) : ShimProgram Decision :=
  match doc with
  | .dict doc =>
      match (Dict.get doc "metadata").or (.dict []) with
      | .dict md => do
          let name ← resolveCreateName ⟨"", "v1", path.plural⟩ path.ns md path.name
          if name = "" then return .respond (.invalid "metadata.name required")
          else createNamed handler path doc md name
      | _ => .raise
  | _ => .raise

/-! ## Routes of `POST` -/

/-- What a `POST` addresses. -/
inductive PostRoute
  | core (path : PathName)
  | document (rule : DocRule)

def kindRule
    (path : PathName) (kinds : List String)
    (rule : PathName → DocRule) : Option PostRoute :=
  if kinds.contains path.plural then some (.document (rule path)) else none

/-- The spec with the token of the service account projected into its pods. -/
def projectedSpec (doc : Dict) : Option Json := injectSaProjection (plainSpec doc)

/-- The branches of `do_POST` before custom resources. -/
def postRouteBefore : Option PostRoute :=
  let core := nsName path
  let apps := appsNsName path
  firstRoute [if coreKinds.contains core.plural then some (.core core) else none,
      kindRule apps ["deployments"] fun apps =>
        { plainRule "apps" "v1" apps with
          checks := [.name, .ns nsMessage]
          verb := some "create"
          spec := projectedSpec
          status := deployStatus },
      kindRule apps ["statefulsets"] fun apps =>
        { plainRule "apps" "v1" apps with
          checks := [.both]
          spec := projectedSpec
          status := deployStatus },
      kindRule apps ["daemonsets"] fun apps =>
        { plainRule "apps" "v1" apps with checks := [.both], spec := projectedSpec },
      kindRule (netNsName path) ["ingresses"] fun net =>
        { plainRule "networking.k8s.io" "v1" net with checks := [.name, .ns nsMessage] },
      kindRule (batchNsName path) ["jobs", "cronjobs"] fun batch =>
        { plainRule "batch" "v1" batch with checks := [.both], spec := projectedSpec },
      kindRule (gvClusterName path "apiextensions.k8s.io" "v1" "customresourcedefinitions")
        ["customresourcedefinitions"] fun crd =>
        { definitionRule crd with checks := [.name] }]

/-- The branches of `do_POST` after custom resources. -/
def postRouteAfter : Option PostRoute :=
  firstRoute [(scopedKind path snapshotGroup snapshotKinds fun path => !path.named).map
        fun (path, namespaced) => .document (scopedRule
          ((if namespaced then plainRule else payloadRule) snapshotGroup "v1" path) namespaced),
      (scopedKind path storageGroup storageKinds fun _ => true).map
        fun (path, namespaced) =>
          .document (scopedRule (payloadRule storageGroup "v1" path) namespaced),
      (scopedKind path rbacGroup rbacKinds fun _ => true).map fun (path, namespaced) =>
        .document (scopedRule (payloadRule rbacGroup "v1" path) namespaced),
      kindRule (gvNsName path "policy" "v1" "poddisruptionbudgets")
        ["poddisruptionbudgets"] fun path =>
        { payloadRule "policy" "v1" path with checks := [.both] },
      kindRule (gvNsName path "autoscaling" "v2" "horizontalpodautoscalers")
        ["horizontalpodautoscalers"] fun path =>
        { payloadRule "autoscaling" "v2" path with checks := [.both] }]

/-- What a `POST` addresses while these custom resources are registered. -/
def postRoute (crds : CrdRegistry) (path : String) : Option PostRoute :=
  firstRoute [postRouteBefore path,
      (customRoute crds path).map fun (custom, crd) => .document (customRule custom crd),
      postRouteAfter path]

def findPostRoute : ShimProgram (Option PostRoute) :=
  match postRouteBefore path with
  | some route => .done (some route)
  | none => do
      match ← lookupCustom path with
      | some (custom, crd) => return some (.document (customRule custom crd))
      | none => return postRouteAfter path

/-! ## The handler -/

/-- The subresource of a pod or service that a path addresses. -/
def streamPath : Option String :=
  match split '/' path with
  | ["", "api", "v1", "namespaces", ns, "pods", name, "exec"] =>
      if ns ≠ "" ∧ name ≠ "" then some "pods/exec" else none
  | ["", "api", "v1", "namespaces", ns, "pods", name, "portforward"] =>
      if ns ≠ "" ∧ name ≠ "" then some "pods/portforward" else none
  | ["", "api", "v1", "namespaces", ns, "services", name, "portforward"] =>
      if ns ≠ "" ∧ name ≠ "" then some "services/portforward" else none
  | _ => none

/-- Whether the client asks to leave HTTP. -/
def Request.upgrades : Bool := decide (request.upgrade.getD "" ≠ "")

def sessionTokensPath : String := "/api/v1/sessiontokens"

/-- The role that `do_POST` asks for. -/
def postRole : Role :=
  if request.path = sessionTokensPath then .mint
  else if startsWith "/apis/authorization.k8s.io/" request.path then .read
  else if streamPath request.path = some "pods/exec" ∧ request.upgrades then .exec
  else if (streamPath request.path).isSome ∧ request.upgrades then .portforward
  else .write

def reviewPaths : List String :=
  ["/apis/authorization.k8s.io/v1/selfsubjectaccessreviews",
    "/apis/authorization.k8s.io/v1/selfsubjectrulesreviews",
    "/apis/authorization.k8s.io/v1/subjectaccessreviews"]

/-- The branches of `do_POST` that store a document. -/
def postDecision
    (token : String) (cached : Option Principal) (path : String)
    (doc : Json) : ShimProgram Decision := do
  match ← findPostRoute path with
  | none => return .respond .notFound
  | some (.core path) => createCore handler path doc
  | some (.document rule) => rule.decision handler token cached doc

/-- Requests that are answered without a document being stored. -/
def answersOnly : Bool :=
  path = sessionTokensPath || reviewPaths.any (startsWith · path)

/-- `do_POST` behind its gate. -/
def createDecision (cached : Option Principal) : ShimProgram Decision :=
  match streamPath request.path with
  | some stream => do
      let allowed ← rbacCheck handler request.token cached "create" stream none
      return if allowed then .answer else .respond .forbidden
  | none =>
      if answersOnly request.path then .done .answer
      else do
        let doc ← .ofOption (request.document handler)
        postDecision handler request.token cached request.path doc

def doPost : ShimProgram Decision := do
  match ← authz handler (postRole request) request.token with
  | none => return .respond .unauthorized
  | some cached => createDecision handler request cached

end ApiShim
end K1s
