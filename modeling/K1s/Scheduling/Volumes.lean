import K1s.Scheduling.Nodes
import K1s.Storage.Objects

/-!
# What the volumes of an app ask of its nodes

The scheduler looks up the claims that an app mounts in the store of the API shim.
Their storage classes may limit the nodes to a topology.  A claim that only one node
may write to pins the app to the node that is recorded for it.

The claims and the nodes that are selected for them are collected in sets, which
Python goes through in an order of its own.
-/

namespace K1s
namespace Scheduling

open Py ApiShim
open Storage (pvcResource pvResource scResource localPathProvisioner
  waitForFirstConsumer selectedNodeKey)

/-- The fields of a scheduler and what its stores answer. -/
structure Scheduler where
  nodes : NodeTable
  /-- `list_volume_attachments`, as the nodes of the attachments of an app, `none` for
  an exception. -/
  attachedNodes : String → Option (List String)
  /-- `_shim_store`. -/
  shimStore : Option ObjectStore
  /-- `_default_sc_name`. -/
  defaultScName : Option String
  /-- The value of `AE_NODE_NOTREADY_AFTER`. -/
  notReadyAfter : Option String
  /-- How the process goes through a set of claims. -/
  claimOrder : List (String × String) → List (String × String)
  claimOrder_perm : ∀ claims, (claimOrder claims).Perm claims.dedup
  /-- How the process goes through a set of nodes. -/
  nodeOrder : List String → List String
  nodeOrder_perm : ∀ nodes, (nodeOrder nodes).Perm nodes.dedup

/-! ## Fields of the objects -/

def objSpec (object : K8sObject) : Dict := object.spec.entries

/-- `str(value) if value else None`. -/
def textIfTrue (value : Json) : Option String :=
  if value.truthy then some value.toStr else none

def pvcStorageClassName (pvc : K8sObject) : Option String :=
  textIfTrue (pvc.spec.item "storageClassName")

def pvcVolumeName (pvc : K8sObject) : Option String :=
  textIfTrue (pvc.spec.item "volumeName")

def pvcSelectedNode (pvc : K8sObject) : Option String :=
  textIfTrue ((pvc.metadata.item "annotations").item selectedNodeKey)

def accessModes (object : K8sObject) : List String :=
  ((object.spec.item "accessModes").items.filter Json.truthy).map Json.toStr

def isSingleWriter (spec : Dict) : Option Bool :=
  ((Dict.get spec "accessModes").or (.list [])).iterate.bind fun modes =>
    if modes.all Json.hashable then
      some (!modes.any fun mode =>
        decide (mode ∈ [.str "ReadWriteMany", .str "ReadOnlyMany"]))
    else none

def defaultClassAnnotations : List String :=
  ["storageclass.kubernetes.io/is-default-class",
    "storageclass.beta.kubernetes.io/is-default-class"]

def isDefaultClass (sc : K8sObject) : Bool :=
  defaultClassAnnotations.any fun key =>
    let raw := (sc.metadata.item "annotations").item key
    decide (raw ≠ .null) && ["true", "1", "yes"].contains (lower raw.toStr)

/-- A class whose volumes are made on the node of their first pod. -/
def isLocalPathClass (spec : Dict) : Bool :=
  decide (((Dict.get spec "provisioner").or (.str "")).toStr = localPathProvisioner) &&
    decide (((Dict.get spec "volumeBindingMode").or (.str "")).toStr = waitForFirstConsumer)

/-! ## Topology of storage classes -/

def matchTopologyExpr (labels : Dict) (expr : Json) : Bool :=
  match expr with
  | .dict entries =>
      let key := Dict.get entries "key"
      let nodeVal := Dict.get labels key.toStr
      if !key.truthy || decide (nodeVal = .null) then false
      else
        match Dict.get entries "values" with
        | .list (first :: rest) => ((first :: rest).map Json.toStr).contains nodeVal.toStr
        | _ => true
  | _ => false

def nodeMatchesAllowedTopologies (node : NodeRecord) (allowed : Json) : Bool :=
  match allowed with
  | .list terms =>
      !node.labels.isEmpty && terms.any fun term =>
        match term.item "matchLabelExpressions" with
        | .list (first :: rest) => (first :: rest).all (matchTopologyExpr node.labels)
        | _ => false
  | _ => true

def nodeHasLabelKeys (node : NodeRecord) (keys : List String) : Bool :=
  !node.labels.isEmpty && keys.all (Dict.has node.labels)

/-- The `topologyKeys` of a class. -/
def topologyKeys (spec : Dict) : List String :=
  ((Dict.get spec "topologyKeys").items.filter Json.truthy).map Json.toStr

/-- A node satisfies the topology of a storage class. -/
structure MeetsTopology (node : NodeRecord) (spec : Dict) : Prop where
  allowed : (Dict.get spec "allowedTopologies").truthy = true →
    nodeMatchesAllowedTopologies node (Dict.get spec "allowedTopologies") = true
  keys : topologyKeys spec ≠ [] → nodeHasLabelKeys node (topologyKeys spec) = true

/-- The ids of the nodes that the `allowedTopologies` of a class leave. -/
def leftByAllowed (nodes : List NodeRecord) (spec : Dict) : List String :=
  (nodes.filter
    (nodeMatchesAllowedTopologies · (Dict.get spec "allowedTopologies"))).map NodeRecord.nodeId

/-- The ids of the nodes that its `topologyKeys` leave. -/
def leftByKeys (nodes : List NodeRecord) (spec : Dict) : List String :=
  (nodes.filter (nodeHasLabelKeys · (topologyKeys spec))).map NodeRecord.nodeId

/-- The sets of nodes that the classes leave, with the names of the classes. -/
structure TopologyLimits where
  constrainedSets : List (List String) := []
  constrainedClasses : List String := []
  topoKeySets : List (List String) := []
  topoKeyClasses : List String := []

namespace TopologyLimits

def sets (limits : TopologyLimits) : List (List String) :=
  limits.constrainedSets ++ limits.topoKeySets

/-- The limit of the `allowedTopologies` of a class, or a warning that no node is
left. -/
def byAllowed
    (nodes : List NodeRecord) (name : String) (spec : Dict)
    (limits : TopologyLimits) : Except String TopologyLimits :=
  if !(Dict.get spec "allowedTopologies").truthy then .ok limits
  else if (leftByAllowed nodes spec).isEmpty then
    .error ("storage class " ++ name ++ " allowedTopologies matches no eligible nodes")
  else .ok { limits with
    constrainedSets := limits.constrainedSets ++ [leftByAllowed nodes spec]
    constrainedClasses := limits.constrainedClasses ++ [name] }

/-- The same for its `topologyKeys`. -/
def byKeys
    (nodes : List NodeRecord) (name : String) (spec : Dict)
    (limits : TopologyLimits) : Except String TopologyLimits :=
  if (topologyKeys spec).isEmpty then .ok limits
  else if (leftByKeys nodes spec).isEmpty then
    .error ("storage class " ++ name ++ " topologyKeys matches no eligible nodes")
  else .ok { limits with
    topoKeySets := limits.topoKeySets ++ [leftByKeys nodes spec]
    topoKeyClasses := limits.topoKeyClasses ++ [name] }

/-- The limits of classes in their order. -/
def ofClasses
    (nodes : List NodeRecord)
    (limits : TopologyLimits) : List (String × Dict) → Except String TopologyLimits
  | [] => .ok limits
  | (name, spec) :: rest =>
      match (limits.byAllowed nodes name spec).bind (byKeys nodes name spec) with
      | .error warning => .error warning
      | .ok limits => ofClasses nodes limits rest

end TopologyLimits

def joinSorted (names : List String) : String :=
  ", ".intercalate (names.insertionSort (· ≤ ·))

/-- The warnings about nodes that were filtered out. -/
def filterWarnings (limits : TopologyLimits) : List String :=
  (if limits.constrainedSets.isEmpty then []
    else ["filtered eligible nodes by storage allowedTopologies for classes: " ++
      joinSorted limits.constrainedClasses]) ++
  (if limits.topoKeySets.isEmpty then []
    else ["filtered eligible nodes by storage topologyKeys for classes: " ++
      joinSorted limits.topoKeyClasses])

def filterByClasses
    (classes : List (String × Dict))
    (nodes : List NodeRecord) : List NodeRecord × List String × Bool :=
  if classes.isEmpty then (nodes, [], false)
  else
    match TopologyLimits.ofClasses nodes {} classes with
    | .error warning => ([], [warning], true)
    | .ok limits =>
        if limits.sets.isEmpty then (nodes, [], false)
        else
          let allowedIds := (nodes.map NodeRecord.nodeId).filter fun nodeId =>
            limits.sets.all (·.contains nodeId)
          let filtered := nodes.filter fun node => allowedIds.contains node.nodeId
          if allowedIds.isEmpty then
            ([], ["storage topology constraints intersect to zero eligible nodes"], true)
          else if filtered.length < nodes.length then (filtered, filterWarnings limits, true)
          else (filtered, [], true)

namespace Scheduler

variable (scheduler : Scheduler)

/-! ## Claims -/

/-- `_pvc_mount_refs`, in the order in which the set is gone through. -/
def pvcMountRefs (manifest : AppManifest) : List (String × String) :=
  let given := manifest.ns.getD ""
  let ns := if given = "" then "default" else given
  scheduler.claimOrder (manifest.pvcMounts.map fun claim => (claim, ns))

def storedClaims (manifest : AppManifest) (store : ObjectStore) :
    List ((String × String) × K8sObject) :=
  (scheduler.pvcMountRefs manifest).filterMap fun (claim, ns) =>
    (store.get pvcResource (some ns) claim).map ((claim, ns), ·)

def defaultStorageClassName : Option String :=
  if scheduler.defaultScName.getD "" ≠ "" then scheduler.defaultScName
  else scheduler.shimStore.bind fun store =>
    let classes := store.listAll scResource
    ((classes.find? isDefaultClass).or classes.head?).map K8sObject.name

/-- `_pvc_storage_class_name(pvc) or _default_storage_class_name()`. -/
def storageClassOf (pvc : K8sObject) : Option String :=
  ((pvcStorageClassName pvc).or scheduler.defaultStorageClassName).filter (· ≠ "")

def rwopClaims (manifest : AppManifest) : List String :=
  match scheduler.shimStore with
  | none => []
  | some store =>
      let claims := (scheduler.storedClaims manifest store).filter fun ((_, _), pvc) =>
        let pv := (pvcVolumeName pvc).bind (store.get pvResource none)
        (accessModes pvc ++ (pv.map accessModes).getD []).contains "ReadWriteOncePod"
      (claims.map fun ((claim, ns), _) => ns ++ "/" ++ claim).dedup.insertionSort (· ≤ ·)

/-! ## Pinning -/

/-- The claim is bound to a CSI volume that only one node may write to. -/
def csiSingleWriter (store : ObjectStore) (pvc : K8sObject) : Option Bool :=
  match (pvcVolumeName pvc).bind (store.get pvResource none) with
  | none => some false
  | some pv =>
      match Dict.get (objSpec pv) "csi" with
      | .dict _ => isSingleWriter (objSpec pv)
      | _ => some false

/-- The claim has a class whose volumes are made on one node. -/
def localPathClaim (store : ObjectStore) (pvc : K8sObject) : Bool :=
  ((scheduler.storageClassOf pvc).bind (store.get scResource none)).any fun sc =>
    isLocalPathClass (objSpec sc)

/-- `needs_pinning` of a claim. -/
def needsPinning (store : ObjectStore) (pvc : K8sObject) : Option Bool :=
  (csiSingleWriter store pvc).map (scheduler.localPathClaim store pvc || ·)

/-- The mounted claims that pin the app. -/
def pinningClaims (manifest : AppManifest) : Option (List K8sObject) :=
  match scheduler.shimStore with
  | none => some []
  | some store =>
      let pvcs := (scheduler.storedClaims manifest store).map Prod.snd
      (pvcs.mapM (scheduler.needsPinning store)).map fun answers =>
        ((pvcs.zip answers).filter Prod.snd).map Prod.fst

/-- `_local_path_pinning`: whether a claim pins the app, to which node, and the
warnings. -/
def localPathPinning (manifest : AppManifest) :
    Option (Bool × Option String × List String) :=
  (scheduler.pinningClaims manifest).map fun claims =>
    if claims.isEmpty then (false, none, [])
    else
      let selectedNodes :=
        scheduler.nodeOrder ((claims.filterMap pvcSelectedNode).filter (· ≠ ""))
      (true, selectedNodes.head?,
        if 1 < selectedNodes.length then
          ["single-writer PVCs reference multiple selected nodes; scheduling may be unstable"]
        else [])

/-! ## Topology -/

def storageClasses (manifest : AppManifest) (store : ObjectStore) : List (String × Dict) :=
  let names := (scheduler.storedClaims manifest store).filterMap fun (_, pvc) =>
    scheduler.storageClassOf pvc
  names.eraseDups.filterMap fun name =>
    (store.get scResource none name).map fun sc => (name, objSpec sc)

/-- `_filter_nodes_by_storage_topology`: the nodes, the warnings, and whether the
nodes have been filtered. -/
def filterNodesByStorageTopology
    (manifest : AppManifest)
    (nodes : List NodeRecord) : List NodeRecord × List String × Bool :=
  match scheduler.shimStore with
  | none => (nodes, [], false)
  | some store =>
      if nodes.isEmpty then (nodes, [], false)
      else filterByClasses (scheduler.storageClasses manifest store) nodes

end Scheduler
end Scheduling
end K1s
