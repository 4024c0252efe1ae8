import K1s.ApiShim.Documents
import K1s.ApiShim.Paths
import K1s.ApiShim.Principals

/-!
# What a handler decides, and the handler of `PUT`

A handler reads, computes and then writes at most one object, deletes some, or
leaves the store alone.  `Decision` is the end of the first part; carrying it out
is the second.  How the stored object is shown to the client is left out.

The branches of `do_PUT`, and most of those of `do_POST`, take the name and the
namespace from the document or else from the path, check them, and store the
document.  They are one function with a `DocRule` for each branch.
-/

namespace K1s
namespace ApiShim

open Py

/-! ## Decisions -/

/-- A response that reports the outcome. -/
structure Status where
  code : Nat
  reason : String
  message : String
  deriving DecidableEq

namespace Status

def notFound : Status := ⟨404, "NotFound", "not found"⟩
def forbidden : Status := ⟨403, "Forbidden", "forbidden"⟩
def unauthorized : Status := ⟨401, "Unauthorized", "missing/invalid bearer token"⟩
def deleted : Status := ⟨200, "Success", "deleted"⟩
def invalid (message : String) : Status := ⟨422, "Invalid", message⟩

end Status

/-- The arguments of `store.upsert`. -/
structure Write where
  gvr : Gvr
  ns : Option String
  name : String
  metadata : Json
  spec : Json
  status : Json

/-- How the first part of a handler ends. -/
inductive Decision
  | respond (status : Status)
  /-- The store is left alone: a response made from what is there, or none. -/
  | answer
  /-- `crdName` is the name of the definition to register afterwards. -/
  | upsert (basis : Option K8sObject) (write : Write) (crdName : Option Json)
  | delete (gvr : Gvr) (ns : Option String) (name : String) (unregister : Bool)
  /-- The objects of a kind, in one namespace or in all.  Those of a kind without
  namespaces are deleted by name alone. -/
  | deleteAll (gvr : Gvr) (ns : Option String) (cluster : Bool)

/-- What the client is told. -/
inductive Response
  | status (status : Status)
  | stored (object : K8sObject)
  | answered

/-- The rows that deleting a collection goes through. -/
def shimListIn (gvr : Gvr) : Option String → ShimProgram (List K8sObject)
  | none => shimListAll gvr
  | some ns => shimList gvr (some ns)

/-- The second part of a handler. -/
def Decision.carryOut : Decision → ShimProgram Response
  | .respond status => .done (.status status)
  | .answer => .done .answered
  | .upsert basis write crdName => do
      let stored ← shimUpsert basis write.gvr write.ns write.name write.metadata
        write.spec write.status
      match crdName with
      | none => return .stored stored
      | some crdName =>
          if ← shimCrdRegister crdName write.spec then return .stored stored else .raise
  | .delete gvr ns name unregister => do
      if !(← shimDelete gvr ns name) then return .status .notFound
      else if unregister then
        shimCrdUnregister (.str name)
        return .status .deleted
      else return .status .deleted
  | .deleteAll gvr ns cluster => do
      let items ← shimListIn gvr ns
      Program.forEach items fun object => do
        let _ ← shimDelete gvr (if cluster then none else object.ns) object.name
        return ()
      return .status .deleted

/-- Why a document is not stored. -/
inductive Refusal
  | raised
  /-- The handler returns without a response. -/
  | silent
  | status (status : Status)

/-- The end of a handler that refuses. -/
def Refusal.program : Refusal → ShimProgram Decision
  | .raised => .raise
  | .silent => .done .answer
  | .status response => .done (.respond response)

/-- The end of a handler that stores an object, unless it was refused. -/
def storing
    (basis : Option K8sObject)
    (crdName : Option Json) : Except Refusal Write → ShimProgram Decision
  | .error refusal => refusal.program
  | .ok write => .done (.upsert basis write crdName)

def orRaise {α : Type} : Option α → Except Refusal α
  | some value => .ok value
  | none => .error .raised

/-! ## Documents that are stored under a rule -/

def nameMessage : String := "invalid metadata.name (DNS-1123 label)"
def nsMessage : String := "invalid metadata.namespace (DNS-1123 label)"

/-- A check on the name and the namespace of a document. -/
inductive Check
  | name
  /-- The namespace, if there is one. -/
  | givenNs
  | ns (message : String)
  | both
  deriving DecidableEq

def Check.passes : Check → Json → Json → Bool
  | .name, nameIn, _ => validName nameIn
  | .givenNs, _, nsIn => decide (nsIn = .null) || validName nsIn
  | .ns _, _, nsIn => validName nsIn
  | .both, nameIn, nsIn => validName nameIn && validName nsIn

def Check.message : Check → String
  | .name => nameMessage
  | .givenNs => nsMessage
  | .ns message => message
  | .both => "invalid metadata"

/-- How a branch stores a document. -/
structure DocRule where
  gvr : Gvr
  pathNs : Option String
  pathName : Option String
  /-- Objects of the kind are stored without a namespace. -/
  cluster : Bool
  /-- The type of a secret is kept in an annotation. -/
  secret : Bool
  checks : List Check
  /-- The verb that has to be allowed. -/
  verb : Option String
  /-- Apps have to be admitted. -/
  admission : Bool
  spec : Dict → Option Json
  status : Dict → Option Json
  /-- The object is the definition of a custom resource. -/
  definition : Bool

/-- A text that may be missing. -/
def optional : Option String → Json
  | some text => .str text
  | none => .null

def textOf : Json → Option String
  | .str text => some text
  | _ => none

/-- What a document is stored under, with its metadata. -/
structure Target where
  metadata : Dict
  name : Json
  ns : Json

namespace DocRule

/-- The metadata, name and namespace of a document. -/
def target (rule : DocRule) (doc : Dict) : Option Target :=
  match (Dict.get doc "metadata").or (.dict []) with
  | .dict md =>
      some
        { metadata := if rule.secret then setSecretType md (Dict.get doc "type") else md
          name := (Dict.get md "name").or (optional rule.pathName)
          ns :=
            if rule.cluster then .null
            else (Dict.get md "namespace").or (optional rule.pathNs) }
  | _ => none

def checked (rule : DocRule) (doc : Json) : Except Refusal (Dict × Target) :=
  match doc with
  | .dict doc =>
      match rule.target doc with
      | none => .error .raised
      | some target =>
          match rule.checks.find? fun check => !check.passes target.name target.ns with
          | some check => .error (.status (.invalid check.message))
          | none => .ok (doc, target)
  | _ => .error .raised

end DocRule

variable (handler : ShimHandler) (path : String)

def validateAppCustomResource (doc : Dict) : Option (Option String) :=
  match (Dict.get doc "apiVersion").or (.str "") with
  | .str version =>
      if lower version ≠ "ae.dev/v1alpha1" then
        some (some "unsupported apiVersion for Deployment (expected ae.dev/v1alpha1)")
      else
        match (Dict.get doc "kind").or (.str "") with
        | .str kind =>
            if lower kind ≠ "deployment" then
              some (some "unsupported kind for ae.dev/v1alpha1 (expected Deployment)")
            else some ((handler.manifestError doc).map ("Deployment validation failed: " ++ ·))
        | _ => none
  | _ => none

/-- `_app_admission_mode`, as whether a refused app is kept out. -/
def enforcesAdmission : Bool :=
  let mode := if handler.appAdmissionMode = "" then "enforce" else handler.appAdmissionMode
  !(["warn", "warning", "off", "disabled", "ignore"].contains (lower (strip mode)))

def applyAppAdmission (doc : Dict) : Except Refusal Unit :=
  match validateAppCustomResource handler doc with
  | none => .error .raised
  | some none => .ok ()
  | some (some message) =>
      if enforcesAdmission handler then .error (.status (.invalid message)) else .ok ()

/-- The columns that a name and a namespace are stored in: containers are refused
by the database driver. -/
def boundKey (ns name : Json) : Option (String × String) :=
  match (ns.or (.str "")).sqlText, name.sqlText with
  | some (some ns), some (some name) => some (ns, name)
  | _, _ => none

/-- The arguments of `store.upsert` for a target. -/
def Target.write
    (gvr : Gvr) (target : Target)
    (spec status : Json) : Option Write :=
  (boundKey target.ns target.name).map fun (ns, name) =>
    { gvr := gvr
      ns := some ns
      name := name
      metadata := .dict (normalizeMetadata handler target.metadata target.name target.ns
        gvr.resource)
      spec := spec
      status := status }

namespace DocRule

def write
    (handler : ShimHandler) (rule : DocRule) (doc : Dict)
    (target : Target) : Except Refusal Write :=
  match if rule.admission then applyAppAdmission handler doc else .ok () with
  | .error refusal => .error refusal
  | .ok () =>
      orRaise ((rule.spec doc).bind fun spec => (rule.status doc).bind fun status =>
        target.write handler rule.gvr spec status)

/-- Whether access control lets a document be stored. -/
def allowed
    (token : String) (cached : Option Principal) (rule : DocRule)
    (target : Target) : ShimProgram Bool :=
  match rule.verb with
  | none => .done true
  | some verb =>
      rbacCheck handler token cached verb rule.gvr.resource (textOf target.ns)

/-- A branch that stores a document. -/
def decision
    (token : String) (cached : Option Principal) (rule : DocRule)
    (doc : Json) : ShimProgram Decision :=
  match rule.checked doc with
  | .error refusal => refusal.program
  | .ok (doc, target) => do
      if ← rule.allowed handler token cached target then
        storing none (if rule.definition then some target.name else none)
          (rule.write handler doc target)
      else return .respond .forbidden

end DocRule

/-! ## Rules of the kinds -/

def plainSpec (doc : Dict) : Json := (Dict.get doc "spec").or (.dict [])

def plainStatus (doc : Dict) : Json := (Dict.get doc "status").or (.dict [])

/-- The status of a deployment as the handlers make it up. -/
def deployStatus (doc : Dict) : Option Json :=
  (synthesizeDeployStatus (plainSpec doc) (plainStatus doc)).map .dict

/-- The kinds of the core group that are kept in the store. -/
def coreKinds : List String :=
  ["namespaces", "configmaps", "secrets", "persistentvolumeclaims",
    "persistentvolumes", "serviceaccounts", "services"]

/-- The core kinds that are stored without a namespace. -/
def coreClusterKinds : List String := ["namespaces", "persistentvolumes"]

/-- What is stored as the spec of a core object. -/
def coreSpec (plural : String) (doc : Dict) : Json :=
  if plural ∈ ["configmaps", "secrets"] then Dict.get doc "data"
  else if plural = "serviceaccounts" then serviceAccountSpecPayload doc
  else plainSpec doc

/-- A rule without checks for a kind that a path addresses. -/
def plainRule (group version : String) (path : PathName) : DocRule where
  gvr := ⟨group, version, path.plural⟩
  pathNs := path.ns
  pathName := path.name
  cluster := false
  secret := false
  checks := []
  verb := none
  admission := false
  spec := fun doc => some (plainSpec doc)
  status := fun doc => some (plainStatus doc)
  definition := false

/-- The same with `_spec_payload` for the spec. -/
def payloadRule (group version : String) (path : PathName) : DocRule :=
  { plainRule group version path with
    spec := fun doc => some (specPayload path.plural doc) }

def coreRule (path : PathName) : DocRule :=
  { plainRule "" "v1" path with
    cluster := coreClusterKinds.contains path.plural
    secret := path.plural = "secrets"
    checks := [.name, .givenNs]
    spec := fun doc => some (coreSpec path.plural doc) }

def definitionRule (path : PathName) : DocRule :=
  { plainRule "apiextensions.k8s.io" "v1" path with
    cluster := true
    definition := true }

def customRule (path : CustomPath) (crd : CrdMeta) : DocRule :=
  { plainRule path.group path.version path.target with
    cluster := !crd.namespaced
    checks := .name :: if crd.namespaced then [.ns "invalid or missing namespace"] else []
    admission := path.group = "ae.dev" && path.target.plural = "apps" }

/-- The kinds of the storage group, and whether they have namespaces. -/
def storageKinds : List (String × Bool) :=
  [("storageclasses", false), ("volumeattachments", false), ("csidrivers", false),
    ("csinodes", false), ("csistoragecapacities", true)]

/-- The kinds of the snapshot group, and whether they have namespaces. -/
def snapshotKinds : List (String × Bool) :=
  [("volumesnapshots", true), ("volumesnapshotclasses", false), ("volumesnapshotcontents", false)]

def storageGroup : String := "storage.k8s.io"
def snapshotGroup : String := "snapshot.storage.k8s.io"
def rbacGroup : String := "rbac.authorization.k8s.io"

/-- What a path addresses among kinds with and without namespaces, and whether the
kind has them. -/
def scopedKind
    (path group : String) (kinds : List (String × Bool))
    (wanted : PathName → Bool) : Option (PathName × Bool) :=
  kinds.findSome? fun (plural, namespaced) =>
    let target :=
      if namespaced then gvNsName path group "v1" plural
      else gvClusterName path group "v1" plural
    if target.plural = plural ∧ wanted target = true then some (target, namespaced)
    else none

/-- The rule for a kind with or without namespaces whose names are checked. -/
def scopedRule (rule : DocRule) (namespaced : Bool) : DocRule :=
  { rule with
    cluster := !namespaced
    checks := .name :: if namespaced then [.ns nsMessage] else [] }

/-- The kinds of access control, and whether they have namespaces. -/
def rbacKinds : List (String × Bool) :=
  [("roles", true), ("rolebindings", true), ("clusterroles", false),
    ("clusterrolebindings", false)]

def PathName.named (path : PathName) : Bool := path.name.isSome

/-! ## Routes of `PUT` -/

/-- What a `PUT` addresses. -/
inductive PutRoute
  | document (rule : DocRule)
  | scale (ns : Option String) (name : String)

/-- The route of a path among alternatives in order. -/
def firstRoute {α : Type} : List (Option α) → Option α
  | [] => none
  | some route :: _ => some route
  | none :: rest => firstRoute rest

theorem mem_of_firstRoute
    {α : Type} {routes : List (Option α)} {route : α}
    (first : firstRoute routes = some route) : some route ∈ routes := by
  induction routes with
  | nil => cases first
  | cons candidate rest ih =>
      cases candidate with
      | none => exact List.mem_cons_of_mem _ (ih first)
      | some found =>
          obtain rfl := Option.some.inj first
          exact List.mem_cons_self

def namedRule
    (path : PathName) (kinds : List String)
    (rule : PathName → DocRule) : Option PutRoute :=
  if kinds.contains path.plural && path.named then some (.document (rule path)) else none

/-- The branches of `do_PUT` before custom resources. -/
def putRouteBefore : Option PutRoute :=
  let apps := appsNsName path
  firstRoute [namedRule (nsName path) coreKinds coreRule,
      namedRule apps ["deployments"] fun apps =>
        { plainRule "apps" "v1" apps with
          checks := [.name, .givenNs]
          verb := some "update"
          status := deployStatus },
      if apps.plural = "deployments/scale" then apps.name.map (.scale apps.ns) else none,
      namedRule apps ["statefulsets"] fun apps =>
        { plainRule "apps" "v1" apps with status := deployStatus },
      namedRule apps ["daemonsets"] (plainRule "apps" "v1"),
      namedRule (netNsName path) ["ingresses"] (plainRule "networking.k8s.io" "v1"),
      namedRule (gvClusterName path "apiextensions.k8s.io" "v1" "customresourcedefinitions")
        ["customresourcedefinitions"] definitionRule]

/-- The branches of `do_PUT` after custom resources. -/
def putRouteAfter : Option PutRoute :=
  firstRoute [namedRule (batchNsName path) ["jobs", "cronjobs"] (plainRule "batch" "v1"),
      (scopedKind path storageGroup storageKinds PathName.named).map fun (path, namespaced) =>
        .document (scopedRule (payloadRule storageGroup "v1" path) namespaced),
      (scopedKind path snapshotGroup snapshotKinds PathName.named).map fun (path, namespaced) =>
        .document (scopedRule ((if namespaced then plainRule else payloadRule)
          snapshotGroup "v1" path) namespaced),
      (scopedKind path rbacGroup rbacKinds PathName.named).map fun (path, namespaced) =>
        .document { payloadRule rbacGroup "v1" path with cluster := !namespaced },
      namedRule (gvNsName path "policy" "v1" "poddisruptionbudgets")
        ["poddisruptionbudgets"] (payloadRule "policy" "v1"),
      namedRule (gvNsName path "autoscaling" "v2" "horizontalpodautoscalers")
        ["horizontalpodautoscalers"] (payloadRule "autoscaling" "v2")]

/-- The custom resource that a path addresses, if it is registered. -/
def customRoute (crds : CrdRegistry) (path : String) : Option (CustomPath × CrdMeta) :=
  (parseCustomResourcePath path).bind fun custom =>
    (crds.registry ⟨.str custom.group, .str custom.version, .str custom.target.plural⟩).map
      fun crd => (custom, crd)

def lookupCustom : ShimProgram (Option (CustomPath × CrdMeta)) :=
  match parseCustomResourcePath path with
  | none => .done none
  | some custom => do
      let crd ← shimCrdLookup custom.group custom.version custom.target.plural
      return crd.map fun crd => (custom, crd)

/-- What a `PUT` addresses while these custom resources are registered. -/
def putRoute (crds : CrdRegistry) (path : String) : Option PutRoute :=
  firstRoute [putRouteBefore path,
      (customRoute crds path).map fun (custom, crd) => .document (customRule custom crd),
      putRouteAfter path]

def findPutRoute : ShimProgram (Option PutRoute) :=
  match putRouteBefore path with
  | some route => .done (some route)
  | none => do
      match ← lookupCustom path with
      | some (custom, crd) => return some (.document (customRule custom crd))
      | none => return putRouteAfter path

/-! ## The scale of a deployment -/

def deploymentsResource : Gvr := ⟨"apps", "v1", "deployments"⟩

/-- `isinstance(value, int) and value >= 0`. -/
def isScale : Json → Bool
  | .bool _ => true
  | .int value => decide (0 ≤ value)
  | _ => false

/-- The write that sets the number of replicas of a stored deployment. -/
def scaleWrite
    (ns : Option String) (name : String) (doc : Json)
    (object : K8sObject) : Except Refusal Write :=
  match (doc.getD "spec" (.dict [])).bind fun spec => spec.get "replicas" with
  | none => .error .raised
  | some desired =>
      if isScale desired then
        orRaise ((dictOf object.spec).bind fun spec =>
          let spec := Dict.set spec "replicas" desired
          (synthesizeDeployStatus (.dict spec) object.status).map fun status =>
            { gvr := deploymentsResource
              ns := ns
              name := name
              metadata := object.metadata
              spec := .dict spec
              status := .dict status })
      else .error (.status (.invalid "spec.replicas must be >= 0"))

/-- The branch for the scale of a deployment. -/
def scaleDecision
    (ns : Option String) (name : String)
    (doc : Json) : ShimProgram Decision := do
  match ← shimGet deploymentsResource ns name with
  | none => return .respond .notFound
  | some object => storing (some object) none (scaleWrite ns name doc object)

/-- `do_PUT` behind its gate. -/
def putDecision
    (token : String) (cached : Option Principal) (path : String)
    (doc : Json) : ShimProgram Decision := do
  match ← findPutRoute path with
  | none => return .respond .notFound
  | some (.scale ns name) => scaleDecision ns name doc
  | some (.document rule) => rule.decision handler token cached doc

def doPut (request : Request) : ShimProgram Decision := do
  match ← authz handler .read request.token with
  | none => return .respond .unauthorized
  | some cached =>
      let doc ← .ofOption (request.document handler)
      putDecision handler request.token cached request.path doc

end ApiShim
end K1s
