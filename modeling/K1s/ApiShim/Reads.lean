import K1s.ApiShim.Stored

/-!
# How `do_GET` shows a stored object

Each kind has a function that turns a stored object into the document of the
response.  A `Renderer` names it, and `renderer` finds that of a kind in the order
of the branches: custom resources come before the kinds that are stored as they
are given.

Services and ingresses are shown with what the controller's state records of them,
and daemon sets with the number of nodes.  How the record of a service is looked up
is left out; what it says is a parameter.
-/

namespace K1s
namespace ApiShim

open Py

/-! ## The controller's state -/

/-- What the controller's state records of a service: its address, which is empty
where there is none, and under the name or the number of a port what is recorded of
that port. -/
structure ServiceRecord where
  clusterIp : String
  ports : Dict

/-- What the state says while an object is shown. -/
structure StateReads where
  /-- The record under `_service_app_name`. -/
  service : ObjectStore → K8sObject → Option ServiceRecord
  /-- `_ingress_vip`. -/
  vip : ObjectStore → K8sObject → Json
  nodes : Option Nat

/-- A state in which nothing is recorded. -/
def blankState : StateReads := ⟨fun _ _ => none, fun _ _ => .null, none⟩

/-! ## Services -/

/-- The `ingress` list of `_service_lb_status`, with the addresses of the provider. -/
def providedIngress (provider : List Json) (spec : Dict) (ingress : Json) : Option Json :=
  if ingress.truthy || provider.isEmpty then loadBalancerIngress spec ingress
  else
    (loadBalancerIngress (Dict.drop spec "clusterIP") ingress).map fun found =>
      .list (provider.map (fun ip => .dict [("ip", ip)]) ++ found.items)

/-- `_service_lb_status`. -/
def providedLbStatus
    (provider : List Json) (spec : Dict)
    (status : Json) : Option Dict :=
  let svcType := (Dict.get spec "type").or (.str "ClusterIP")
  (dictOf (status.or (.dict []))).bind fun status =>
  if !svcType.hashable then none
  else if svcType ≠ .str "LoadBalancer" ∧ svcType ≠ .str "NodePort" then some status
  else
    match (Dict.get status "loadBalancer").or (.dict []) with
    | .dict lb =>
        (providedIngress provider spec (Dict.get lb "ingress")).map fun ingress =>
          Dict.set status "loadBalancer" (.dict (Dict.set lb "ingress" ingress))
    | _ => none

/-- Without a provider it is the status that new services are given. -/
theorem providedLbStatus_nil
    (spec : Dict) (status : Json)
    (named : ((Dict.get spec "type").or (.str "ClusterIP")).hashable = true) :
    providedLbStatus [] spec status = serviceLbStatus spec status := by
  unfold providedLbStatus serviceLbStatus
  cases dictOf (status.or (.dict [])) with
  | none => rfl
  | some status =>
      simp only [Option.bind_some, named, Bool.not_true, Bool.false_eq_true, if_false]
      split
      · rfl
      · cases (Dict.get status "loadBalancer").or (.dict []) <;> simp [providedIngress]

/-- The spec with the address of the provider, unless the service is headless or
stands for an external name. -/
def specAt (ip : String) (spec : Dict) : Dict :=
  if (Dict.get spec "type").or (.str "ClusterIP") = .str "ExternalName" ∨
      Dict.get spec "clusterIP" = .str "None" then spec
  else
    let spec := Dict.set spec "clusterIP" (.str ip)
    match Dict.get spec "clusterIPs" with
    | .list _ => Dict.set spec "clusterIPs" (.list [.str ip])
    | _ => spec

/-- Whether one of the addresses of a status is that of the provider. -/
def hasAddress (ip : String) (ingress : Json) : Option Bool :=
  ingress.iterate.map fun items =>
    items.any fun item => (item.item "ip").truthy && (item.item "ip").toStr == ip

/-- The status without addresses, if they are not those of the provider. -/
def statusAt (ip : String) (spec : Dict) (status : Json) : Option Json :=
  let svcType := (Dict.get spec "type").or (.str "ClusterIP")
  if !svcType.hashable then none
  else if svcType ≠ .str "LoadBalancer" ∧ svcType ≠ .str "NodePort" then some status
  else
    let ingress := (status.item "loadBalancer").item "ingress"
    if !ingress.truthy then some status
    else (hasAddress ip ingress).map fun known =>
      if known then status
      else .dict (Dict.set status.entries "loadBalancer" (.dict []))

def recordedPort (recorded : Dict) (port : Json) : Option Json :=
  (dictOf port).bind fun port =>
  let key := (Dict.get port "name").or (.str (Dict.get port "port").toStr)
  if !key.hashable then none
  else
    let entry := Dict.get recorded key.toStr
    if !entry.truthy then some (.dict port)
    else (entry.get "nodePort").map fun number =>
      if number = .null then .dict port
      else .dict (Dict.set port "nodePort" number)

def specPortsAt (recorded spec : Dict) : Option Dict :=
  if recorded.isEmpty || !(Dict.get spec "ports").truthy then some spec
  else
    (Dict.get spec "ports").iterate.bind fun ports =>
    (ports.mapM (recordedPort recorded)).map fun ports =>
      Dict.set spec "ports" (.list ports)

def mergeProviderService (record : Option ServiceRecord) (doc : Dict) : Option Dict :=
  let ip := (record.map ServiceRecord.clusterIp).getD ""
  let provider : List Json := if ip = "" then [] else [.str ip]
  match (Dict.get doc "spec").or (.dict []) with
  | .dict given =>
      let spec := if ip = "" then given else specAt ip given
      (if ip = "" then some ((Dict.get doc "status").or (.dict []))
        else (statusAt ip given ((Dict.get doc "status").or (.dict []))).bind fun status =>
          (providedLbStatus provider spec status).map .dict).bind fun status =>
      (specPortsAt ((record.map ServiceRecord.ports).getD []) spec).bind fun spec =>
      (providedLbStatus provider spec status).map fun status =>
        Dict.set (Dict.set doc "spec" (.dict spec)) "status" (.dict status)
  | _ => none

def toService (record : Option ServiceRecord) (o : K8sObject) : Option Json :=
  (toObj o).bind fun doc => (mergeProviderService record doc.entries).map .dict

/-! ## Other kinds -/

def ingressStatusAt (vip : Json) (status : Dict) : Option Dict :=
  if !vip.truthy then some status
  else
    match (Dict.get status "loadBalancer").or (.dict []) with
    | .dict lb =>
        match (Dict.get lb "ingress").or (.list []) with
        | .list entries =>
            (anyItem "ip" vip entries).map fun known =>
              Dict.set status "loadBalancer" (.dict (Dict.set lb "ingress"
                (.list (if known then entries else entries ++ [.dict [("ip", vip)]]))))
        | _ => none
    | _ => none

def toIngress (vip : Json) (o : K8sObject) : Option Json :=
  (shownMetadata o).bind fun entries =>
  (dictOf o.spec).bind fun spec =>
  (dictOf (o.status.or (.dict []))).bind fun status =>
  (ingressStatusAt vip status).map fun status =>
    .dict ([("apiVersion", .str "networking.k8s.io/v1"), ("kind", .str "Ingress"),
      ("metadata", .dict entries), ("spec", .dict spec)] ++
      unlessFalse "status" (.dict status))

/-- `_to_daemonset` with the number of nodes. -/
def toDaemonsetOn (nodes : Option Nat) (o : K8sObject) : Option Json :=
  match nodes with
  | none => toDaemonset o
  | some desired =>
      (shownMetadata o).bind fun entries =>
      let generation := Json.int (generationOf entries)
      let entries := Dict.set entries "generation" generation
      (dictOf (o.status.or (.dict []))).bind fun status =>
      let status := ["desiredNumberScheduled", "currentNumberScheduled", "numberReady",
        "numberAvailable", "updatedNumberScheduled"].foldl (fun status key =>
          Dict.setdefault status key (.int desired)) status
      let status := Dict.set status "observedGeneration" generation
      let status := Dict.setdefault status "conditions" (.list
        [.dict [("type", .str "Ready"), ("status", .str "True")],
          .dict [("type", .str "Available"), ("status", .str "True")]])
      (dictOf o.spec).map fun spec =>
        shown "apps/v1" "DaemonSet" entries (.dict spec) (.dict status)

def toCrd (o : K8sObject) : Option Json :=
  (dictOf o.metadata).bind fun entries =>
  (dictOf o.spec).map fun spec =>
    .dict ([("apiVersion", .str "apiextensions.k8s.io/v1"),
      ("kind", .str "CustomResourceDefinition"),
      ("metadata", .dict (Dict.setdefault entries "name" (.str o.name))),
      ("spec", .dict spec)] ++ unlessFalse "status" o.status)

/-! ## Renderers -/

/-- The function by which the objects of a kind are shown. -/
inductive Renderer
  | object
  | service
  | deployment
  | statefulset
  | daemonset
  | ingress
  | job
  | cronjob
  | definition
  | custom (kind : Json)
  | autoscaler
  | generic (kind : String)

def Renderer.render (reads : StateReads) (store : ObjectStore) (o : K8sObject) :
    Renderer → ShimProgram Json
  | .object => .ofOption (toObj o)
  | .service => .ofOption (toService (reads.service store o) o)
  | .deployment => .ofOption (toDeployment o)
  | .statefulset => .ofOption (toStatefulset o)
  | .daemonset => .ofOption (toDaemonsetOn reads.nodes o)
  | .ingress => .ofOption (toIngress (reads.vip store o) o)
  | .job => .ofOption (toJob o)
  | .cronjob => .ofOption (toCronjob o)
  | .definition => .ofOption (toCrd o)
  | .custom kind => .ofOption (renderCustomResource kind o)
  | .autoscaler => toHpa o
  | .generic kind => .ofOption (toGeneric kind o)

def definitionsResource : Gvr := ⟨"apiextensions.k8s.io", "v1", "customresourcedefinitions"⟩

/-- The kinds that are shown before custom resources are looked for. -/
def renderersBefore : List (Gvr × Renderer) :=
  (coreKinds.map fun plural =>
    (⟨"", "v1", plural⟩, if plural = "services" then .service else .object)) ++
  [(⟨"apps", "v1", "deployments"⟩, .deployment), (⟨"apps", "v1", "statefulsets"⟩, .statefulset),
    (⟨"apps", "v1", "daemonsets"⟩, .daemonset),
    (⟨"networking.k8s.io", "v1", "ingresses"⟩, .ingress),
    (⟨"batch", "v1", "jobs"⟩, .job), (⟨"batch", "v1", "cronjobs"⟩, .cronjob),
    (definitionsResource, .definition)]

/-- The kinds that are shown unless a custom resource of the name is registered. -/
def renderersAfter : List (Gvr × Renderer) :=
  (snapshotKinds.zip ["VolumeSnapshot", "VolumeSnapshotClass", "VolumeSnapshotContent"]).map
    (fun ((plural, _), kind) => (⟨snapshotGroup, "v1", plural⟩, .generic kind)) ++
  (storageKinds.zip ["StorageClass", "VolumeAttachment", "CSIDriver", "CSINode",
    "CSIStorageCapacity"]).map
    (fun ((plural, _), kind) => (⟨storageGroup, "v1", plural⟩, .generic kind)) ++
  (rbacKinds.zip ["Role", "RoleBinding", "ClusterRole", "ClusterRoleBinding"]).map
    (fun ((plural, _), kind) => (⟨rbacGroup, "v1", plural⟩, .generic kind)) ++
  [(⟨"policy", "v1", "poddisruptionbudgets"⟩, .generic "PodDisruptionBudget"),
    (⟨"autoscaling", "v2", "horizontalpodautoscalers"⟩, .autoscaler)]

/-- The custom resource that is registered under a kind. -/
def CrdRegistry.kindOf (crds : CrdRegistry) (gvr : Gvr) : Option CrdMeta :=
  crds.registry ⟨.str gvr.group, .str gvr.version, .str gvr.resource⟩

/-- The renderer of a kind while these custom resources are registered. -/
def renderer (crds : CrdRegistry) (gvr : Gvr) : Option Renderer :=
  match renderersBefore.lookup gvr with
  | some renderer => some renderer
  | none =>
      match crds.kindOf gvr with
      | some crd => some (.custom crd.kind)
      | none => renderersAfter.lookup gvr

/-- The response to a `GET` of a stored object, or its entry in that of a list. -/
def shimShow (reads : StateReads) (world : ShimWorld) (o : K8sObject) :
    Option (ShimProgram Json) :=
  (renderer world.crds o.gvr).map fun renderer => renderer.render reads world.store o

end ApiShim
end K1s
