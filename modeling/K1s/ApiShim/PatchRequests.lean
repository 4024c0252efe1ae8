import K1s.ApiShim.Patches
import K1s.ApiShim.Writes

/-!
# The handler of `PATCH`

A patch is applied to the shown form of the stored object, and the result is
stored as a whole.  Core objects, registered custom resources and the kinds of a
table are patched in three different ways; an apply patch creates a missing
object of the table.
-/

namespace K1s
namespace ApiShim

open Py

/-- What a `PATCH` asks for. -/
structure PatchRequest where
  ctype : String
  manager : String
  force : Bool
  patch : Json

def Request.asPatch (request : Request) (patch : Json) : PatchRequest where
  ctype := strip ((split ';' (request.contentType.getD "")).headD "")
  manager :=
    let named := request.queryValue "fieldManager" "kubectl"
    if named = "" then "kubectl" else named
  force := ["1", "true", "yes"].contains (lower (request.queryValue "force" "false"))
  patch := patch

namespace PatchRequest

/-- The types whose fields are recorded as updated. -/
def updateTypes : List String :=
  ["application/merge-patch+json", "application/strategic-merge-patch+json",
    "application/json", ""]

variable (request : PatchRequest)

/-- Server-side apply. -/
def applies : Bool :=
  startsWith "application/apply-patch" request.ctype

/-- The paths that the patch names. -/
def paths : List String :=
  match request.patch with
  | .dict entries => extractFieldPaths "" (.dict entries)
  | _ => []

def invalidJsonPatch : Status := ⟨400, "Invalid", "invalid json patch"⟩

def unsupportedMediaType : Status :=
  ⟨415, "UnsupportedMediaType", "only merge/strategic-merge, json, apply, or json-patch supported"⟩

def managedFieldsConflict : Status :=
  ⟨409, "Conflict", "managedFields conflict on apply"⟩

/-- The result of a JSON patch, or the response that it is invalid. -/
def jsonPatched (base : Json) (ops : List Json) : Except Refusal Json :=
  match applyJsonPatch base ops with
  | some merged => .ok merged
  | none => .error (.status invalidJsonPatch)

def applyPatchMerge (base : Dict) : Except Refusal Json :=
  if request.ctype = "application/json-patch+json" then
    jsonPatched (.dict base) request.patch.items
  else
    match request.patch with
    | .list ops =>
        if request.ctype ∈ ["application/json", ""] then jsonPatched (.dict base) ops
        else if request.ctype ∈ ["application/merge-patch+json",
            "application/strategic-merge-patch+json", "application/apply-patch+yaml",
            "application/apply-patch+json"] then .error .raised
        else .error (.status unsupportedMediaType)
    | patch =>
        if request.ctype ∈ ["application/merge-patch+json",
            "application/strategic-merge-patch+json", "application/apply-patch+yaml",
            "application/apply-patch+json"] then
          match patch with
          | .dict entries => orRaise ((mergeDict base entries).map .dict)
          | _ => .error .raised
        else if request.ctype ∈ ["application/json", ""] then
          match patch with
          | .dict entries => .ok (.dict entries)
          | _ => .error .silent
        else .error (.status unsupportedMediaType)

/-- The merged document, which the handlers take to be a dictionary. -/
def merged (request : PatchRequest) (base : Dict) : Except Refusal Dict :=
  match request.applyPatchMerge base with
  | .error refusal => .error refusal
  | .ok (.dict merged) => .ok merged
  | .ok _ => .error .raised

/-- The metadata of an applied patch with the manager's entry. -/
def appliedMetadata
    (version now : String)
    (md : Dict) : Option Dict :=
  let paths := if request.paths.isEmpty then ["*"] else request.paths
  (updateManagedFields md version request.manager "Apply" now paths request.force).bind
    fun md => ensureManagedFieldsEntry md version request.manager "Apply" now paths

/-- The metadata of a merged document with the managed fields brought up to
date. -/
def metadata
    (version now : String)
    (stored md : Json) : Except Refusal Dict :=
  if request.applies then
    match managedConflict stored request.manager request.paths request.force with
    | none => .error .raised
    | some true => .error (.status managedFieldsConflict)
    | some false =>
        match dictOf stored, md with
        | some stored, .dict md => orRaise ((mergeDict stored md).bind
            (request.appliedMetadata version now))
        | _, _ => .error .raised
  else
    match md with
    | .dict md =>
        if request.ctype ∈ updateTypes then
          orRaise (updateManagedFields md version request.manager "Update" now request.paths false)
        else .ok md
    | _ => .error .raised

end PatchRequest

/-! ## Core objects -/

def mergedMetadata (secret : Bool) (merged : Dict) : Json :=
  match (Dict.get merged "metadata").or (.dict []) with
  | .dict md => .dict (if secret then setSecretType md (Dict.get merged "type") else md)
  | other => other

variable (handler : ShimHandler) (path : String) (kind : ExtendedKind)

def corePatch
    (path : PathName) (request : PatchRequest) (now : String)
    (object : K8sObject) : Except Refusal Write := do
  let base ← orRaise ((toObj object).map Json.entries)
  let merged ← request.merged base
  let rule := coreRule path
  let md ← request.metadata "v1" now object.metadata (mergedMetadata rule.secret merged)
  let target : Target :=
    { metadata := md
      name := (Dict.get md "name").or (optional path.name)
      ns :=
        if rule.cluster then .null
        else (Dict.get md "namespace").or (optional path.ns) }
  match rule.checks.find? fun check => !check.passes target.name target.ns with
  | some check => .error (.status (.invalid check.message))
  | none => orRaise (target.write handler rule.gvr
      ((coreSpec path.plural merged).or (.dict [])) (plainStatus merged))

/-! ## Custom resources -/

def customPatch
    (path : CustomPath) (crd : CrdMeta) (request : PatchRequest)
    (object : K8sObject) : Except Refusal Write := do
  let base ← orRaise ((renderCustomResource crd.kind object).map Json.entries)
  let merged ← request.merged base
  match (Dict.get merged "metadata").or (.dict []) with
  | .dict md =>
      let ns := (Dict.get md "namespace").or (optional path.target.ns)
      if crd.namespaced && !ns.truthy then
        .error (.status (.invalid "missing namespace"))
      else
        let target : Target :=
          { metadata := md
            name := (Dict.get md "name").or (optional path.target.name)
            ns := if crd.namespaced then ns else .null }
        if path.group = "ae.dev" ∧ path.target.plural = "apps" then
          applyAppAdmission handler merged
        orRaise (target.write handler ⟨path.group, path.version, path.target.plural⟩
          (plainSpec merged) (plainStatus merged))
  | _ => .error .raised

/-! ## The kinds of the table -/

structure ExtendedKind where
  gvr : Gvr
  kind : String

namespace ExtendedKind

/-- The table of `_patch_extended_resources`. -/
def all : List ExtendedKind :=
  [⟨⟨"apps", "v1", "deployments"⟩, "Deployment"⟩, ⟨⟨"apps", "v1", "statefulsets"⟩, "StatefulSet"⟩,
    ⟨⟨"apps", "v1", "daemonsets"⟩, "DaemonSet"⟩,
    ⟨⟨"batch", "v1", "jobs"⟩, "Job"⟩,
    ⟨⟨"batch", "v1", "cronjobs"⟩, "CronJob"⟩,
    ⟨⟨rbacGroup, "v1", "roles"⟩, "Role"⟩,
    ⟨⟨rbacGroup, "v1", "rolebindings"⟩, "RoleBinding"⟩,
    ⟨⟨rbacGroup, "v1", "clusterroles"⟩, "ClusterRole"⟩,
    ⟨⟨rbacGroup, "v1", "clusterrolebindings"⟩, "ClusterRoleBinding"⟩,
    ⟨⟨"policy", "v1", "poddisruptionbudgets"⟩, "PodDisruptionBudget"⟩,
    ⟨⟨"autoscaling", "v2", "horizontalpodautoscalers"⟩, "HorizontalPodAutoscaler"⟩,
    ⟨⟨storageGroup, "v1", "storageclasses"⟩, "StorageClass"⟩,
    ⟨⟨storageGroup, "v1", "volumeattachments"⟩, "VolumeAttachment"⟩,
    ⟨⟨storageGroup, "v1", "csidrivers"⟩, "CSIDriver"⟩,
    ⟨⟨storageGroup, "v1", "csinodes"⟩, "CSINode"⟩,
    ⟨⟨storageGroup, "v1", "csistoragecapacities"⟩, "CSIStorageCapacity"⟩,
    ⟨⟨snapshotGroup, "v1", "volumesnapshots"⟩, "VolumeSnapshot"⟩,
    ⟨⟨snapshotGroup, "v1", "volumesnapshotclasses"⟩, "VolumeSnapshotClass"⟩,
    ⟨⟨snapshotGroup, "v1", "volumesnapshotcontents"⟩, "VolumeSnapshotContent"⟩]

/-- Kinds that are stored without a namespace: those whose name says so. -/
def cluster : Bool := startsWith "cluster" kind.gvr.resource

/-- What a path addresses of a kind. -/
def target (path : String) : PathName :=
  if kind.cluster then gvClusterName path kind.gvr.group kind.gvr.version kind.gvr.resource
  else gvNsName path kind.gvr.group kind.gvr.version kind.gvr.resource

end ExtendedKind

def extendedRoute : Option (ExtendedKind × PathName) :=
  ExtendedKind.all.findSome? fun kind =>
    let target := kind.target path
    if target.plural = kind.gvr.resource ∧ target.named = true then some (kind, target)
    else none

/-- The object that the target of an autoscaler names, as `_to_hpa` finds it. -/
def hpaTarget (ns : Option String) (target : Dict) : ShimProgram (Option K8sObject) :=
  match (Dict.get target "kind").or (.str "") with
  | .str kind =>
      match [("deployment", "deployments"), ("statefulset", "statefulsets"),
        ("daemonset", "daemonsets")].lookup (lower kind), (Dict.get target "name").sqlText with
      | some resource, some (some name) => shimGet ⟨"apps", "v1", resource⟩ ns name
      | _, _ => .done none
  | _ => .raise

/-- The status of an autoscaler as it is shown, given its target. -/
def hpaStatus (status : Dict) (found : Option K8sObject) : Option Dict :=
  let replicas := (found.bind fun object =>
    (object.spec.getD "replicas" (.int 1)).bind Json.toInt).map Json.int
  let current := (Dict.get status "currentReplicas").or
    (replicas.getD (Dict.get status "currentReplicas"))
  let desired := (Dict.get status "desiredReplicas").or
    (replicas.getD (Dict.get status "desiredReplicas"))
  let status := Dict.setdefault status "currentReplicas" (current.or (.int 0))
  let status := Dict.setdefault status "desiredReplicas"
    (desired.or (Dict.get status "currentReplicas"))
  let status := Dict.setdefault status "conditions" (.list [])
  let status := Dict.setdefault status "currentMetrics" (.list [])
  match Dict.get status "conditions" with
  | .list conditions =>
      (anyItem "type" (.str "AbleToScale") conditions).map fun able =>
        if able then status
        else Dict.set status "conditions" (.list (conditions ++
          [.dict [("type", .str "AbleToScale"), ("status", .str "True")]]))
  | _ => none

def toHpa (o : K8sObject) : ShimProgram Json := do
  let entries ← .ofOption (shownMetadata o)
  let status ← .ofOption (dictOf (o.status.or (.dict [])))
  let spec :=
    match o.spec.or (.dict []) with
    | .dict data => (Dict.find? data "spec").getD (.dict data)
    | _ => .dict []
  match (Dict.find? spec.entries "scaleTargetRef").getD (.dict []) with
  | .dict target =>
      let found ← hpaTarget o.ns target
      let status ← .ofOption (hpaStatus status found)
      return shown "autoscaling/v2" "HorizontalPodAutoscaler" entries spec (.dict status)
  | _ => .raise

/-- The shown form that a patch of a kind of the table starts from. -/
def ExtendedKind.shown (o : K8sObject) : ShimProgram Json :=
  if kind.gvr.resource = "horizontalpodautoscalers" then toHpa o
  else .ofOption (if kind.gvr.resource = "deployments" then toDeployment o
    else if kind.gvr.resource = "statefulsets" then toStatefulset o
    else if kind.gvr.resource = "daemonsets" then toDaemonset o
    else if kind.gvr.resource = "jobs" then toJob o
    else if kind.gvr.resource = "cronjobs" then toCronjob o
    else toGeneric kind.kind o)

namespace ExtendedKind

/-- The merged document with the token projected into its pods. -/
def injected (merged : Dict) : Option Dict :=
  if kind.gvr.resource ∈ ["deployments", "statefulsets", "daemonsets", "jobs"] then
    (injectSaProjection (plainSpec merged)).map (Dict.set merged "spec")
  else if kind.gvr.resource = "cronjobs" then
    (injectCronJob (Dict.get merged "spec")).map (Dict.set merged "spec")
  else some merged

/-- What a merged document is stored under. -/
def patchTarget (path : PathName) (md : Dict) : Target where
  metadata := md
  name := (Dict.get md "name").or (optional path.name)
  ns := if kind.cluster then .null else (Dict.get md "namespace").or (optional path.ns)

def patchWrite
    (path : PathName)
    (md merged : Dict) : Except Refusal Write :=
  orRaise ((kind.injected merged).bind fun merged =>
    (kind.patchTarget path md).write handler kind.gvr
      (specPayload kind.gvr.resource merged) (plainStatus merged))

def patch
    (path : PathName) (request : PatchRequest) (now : String) (object : K8sObject)
    (base : Dict) : Except Refusal Write := do
  let merged ← request.merged base
  let md ← request.metadata (apiVersion kind.gvr) now object.metadata
    ((Dict.get merged "metadata").or (.dict []))
  kind.patchWrite handler path md merged

/-- The checks on an object that an apply patch creates. -/
def createChecks : List Check :=
  .name :: if kind.cluster then [] else [.givenNs]

def applyNew
    (path : PathName) (request : PatchRequest)
    (now : String) : Except Refusal Write := do
  let merged ← request.merged []
  match (Dict.get merged "metadata").or (.dict []) with
  | .dict md =>
      let md ← orRaise (request.appliedMetadata (apiVersion kind.gvr) now md)
      let injected ← orRaise (kind.injected merged)
      let target := kind.patchTarget path md
      match kind.createChecks.find? fun check => !check.passes target.name target.ns with
      | some check => .error (.status (.invalid check.message))
      | none => orRaise (target.write handler kind.gvr
          (specPayload kind.gvr.resource injected) (plainStatus injected))
  | _ => .error .raised

end ExtendedKind

/-! ## The handler -/

/-- What a `PATCH` addresses. -/
inductive PatchRoute
  | core (path : PathName)
  | custom (path : CustomPath) (crd : CrdMeta)
  | extended (kind : ExtendedKind) (path : PathName)

/-- The branch of `do_PATCH` before custom resources. -/
def patchRouteBefore : Option PatchRoute :=
  let core := nsName path
  if coreKinds.contains core.plural && core.named then some (.core core) else none

/-- The branch of `do_PATCH` after custom resources. -/
def patchRouteAfter : Option PatchRoute :=
  (extendedRoute path).map fun (kind, path) => .extended kind path

/-- What a `PATCH` addresses while these custom resources are registered. -/
def patchRoute (crds : CrdRegistry) (path : String) : Option PatchRoute :=
  firstRoute [patchRouteBefore path,
      (customRoute crds path).map fun (custom, crd) => .custom custom crd,
      patchRouteAfter path]

def findPatchRoute : ShimProgram (Option PatchRoute) :=
  match patchRouteBefore path with
  | some route => .done (some route)
  | none => do
      match ← lookupCustom path with
      | some (custom, crd) => return some (.custom custom crd)
      | none => return patchRouteAfter path

namespace PatchRoute

/-- The kind of the object that is read. -/
def gvr : PatchRoute → Gvr
  | .core path => ⟨"", "v1", path.plural⟩
  | .custom path _ => ⟨path.group, path.version, path.target.plural⟩
  | .extended kind _ => kind.gvr

/-- The namespace of the object that is read. -/
def ns : PatchRoute → Option String
  | .core path => if path.plural = "namespaces" then none else path.ns
  | .custom path crd => if crd.namespaced then path.target.ns else none
  | .extended kind path => if kind.cluster then none else path.ns

/-- The name of the object that is read. -/
def name : PatchRoute → Option String
  | .core path => path.name
  | .custom path _ => path.target.name
  | .extended _ path => path.name

/-- The stored object, if the path has a name for it. -/
def stored (route : PatchRoute) : ShimProgram (Option K8sObject) :=
  match route.name with
  | none => .done none
  | some name => shimGet route.gvr route.ns name

/-- The write for a patch of a stored object.  The time is looked up for the
managed fields. -/
def write
    (request : PatchRequest) (object : K8sObject)
    (now : String) : PatchRoute → ShimProgram (Except Refusal Write)
  | .core path => .done (corePatch handler path request now object)
  | .custom path crd => .done (customPatch handler path crd request object)
  | .extended kind path => do
      let base ← kind.shown object
      return kind.patch handler path request now object base.entries

def create
    (request : PatchRequest)
    (now : String) : PatchRoute → Except Refusal Write
  | .extended kind path =>
      if request.applies then kind.applyNew handler path request now
      else .error (.status .notFound)
  | _ => .error (.status .notFound)

/-- The write for a patch of an object that may be missing. -/
def written (request : PatchRequest) (now : String) (route : PatchRoute) :
    Option K8sObject → ShimProgram (Except Refusal Write)
  | some object => route.write handler request object now
  | none => .done (route.create handler request now)

/-- A branch of `do_PATCH`. -/
def decision
    (request : PatchRequest)
    (route : PatchRoute) : ShimProgram Decision := do
  let object ← route.stored
  let now ← shimTimestamp
  storing object none (← route.written handler request now object)

end PatchRoute

/-- `do_PATCH` behind its gate. -/
def patchDecision (request : PatchRequest) : ShimProgram Decision := do
  match ← findPatchRoute path with
  | none => return .respond .notFound
  | some route => route.decision handler request

def doPatch (request : Request) : ShimProgram Decision := do
  match ← authz handler .read request.token with
  | none => return .respond .unauthorized
  | some _ =>
      let patch ← .ofOption (request.document handler)
      patchDecision handler request.path (request.asPatch patch)

end ApiShim
end K1s
