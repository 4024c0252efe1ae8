import K1s.Adapter.Operations
import K1s.Py.Float

/-!
# Nodes and the manifests that are placed on them

The filters of the scheduler look at one node at a time: whether its heartbeat is
recent, whether its labels match the node selector, and whether its taints are
tolerated.  Times are microseconds since the epoch.  `none` stands for an exception.
-/

namespace K1s
namespace Scheduling

open Py

/-! ## Manifests -/

/-- The fields of an `AppManifest` that the scheduler reads. -/
structure AppManifest where
  name : String
  ns : Option String
  replicas : Nat
  /-- `replicas: int = Field(default=1, ge=1)`. -/
  oneReplica : 1 ≤ replicas
  nodeSelector : List (String × String)
  tolerations : List Dict
  topologySpreadConstraints : List Dict
  /-- The names of the claims that `pvc_mounts` mounts. -/
  pvcMounts : List String
  /-- The names of the volumes that `storage` declares. -/
  storage : List String

def AppManifest.appKey (manifest : AppManifest) : String :=
  Adapter.appKey manifest.name manifest.ns

/-! ## Nodes -/

/-- The columns of `nodes` that the scheduler reads. -/
structure NodeRecord where
  nodeId : String
  labels : Dict
  taints : List Json
  endpoint : Option String
  cordoned : Bool
  deriving DecidableEq

/-- The latest heartbeat of a node. -/
structure NodeStatus where
  status : String
  /-- `none` for a time without a zone, from which no time can be subtracted. -/
  seenAt : Option Int
  deriving DecidableEq

/-- The registered nodes with their heartbeats, as `list_nodes` returns them. -/
structure NodeTable where
  nodes : List (NodeRecord × Option NodeStatus)
  /-- `node_id` is the primary key. -/
  distinct : (nodes.map fun entry => entry.1.nodeId).Nodup

/-- `_not_ready_grace_seconds`, for the value of `AE_NODE_NOTREADY_AFTER`. -/
def notReadyGraceSeconds (setting : Option String) : Int :=
  let text := setting.getD "40"
  if text = "" then 40 else (intOfText text).getD 40

def isReady (status : Option NodeStatus) (now grace : Int) : Bool :=
  match status with
  | none => false
  | some status =>
      match status.seenAt with
      | none => false
      | some seenAt =>
          decide (now - seenAt ≤ 1000000 * grace) && decide (lower status.status = "ready")

def matchesNodeSelector (node : NodeRecord) (manifest : AppManifest) : Bool :=
  manifest.nodeSelector.all fun (key, value) =>
    decide (Dict.get node.labels key = .str value)

def tolerates (taint toleration : Dict) : Bool :=
  let effect := Dict.get toleration "effect"
  decide (Dict.get toleration "key" = Dict.get taint "key") &&
    (!effect.truthy || decide (effect = Dict.get taint "effect")) &&
    decide (Dict.get toleration "value" ∈ [.null, .str "", Dict.get taint "value"])

/-- Whether a taint keeps the pods of these tolerations away. -/
def repels (tolerations : List Dict) (taint : Json) : Option Bool :=
  match taint with
  | .dict entries =>
      let effect := Dict.get entries "effect"
      if tolerations.any (tolerates entries) then some false
      else if effect.hashable then
        some (decide (effect ∈ [.str "NoSchedule", .str "NoExecute"]))
      else none
  | _ => some false

/-- Whether one of the taints does, up to the first of them. -/
def anyRepels (tolerations : List Dict) : List Json → Option Bool
  | [] => some false
  | taint :: rest =>
      (repels tolerations taint).bind fun repelled =>
        if repelled then some true else anyRepels tolerations rest

def toleratesTaints (node : NodeRecord) (manifest : AppManifest) : Option Bool :=
  (anyRepels manifest.tolerations node.taints).map (!·)

/-- A taint is tolerated: it does not forbid scheduling, or a toleration matches it. -/
def Tolerated (tolerations : List Dict) (taint : Json) : Prop :=
  ∀ entries, taint = .dict entries →
    Dict.get entries "effect" ∈ [Json.str "NoSchedule", Json.str "NoExecute"] →
      ∃ toleration ∈ tolerations, tolerates entries toleration = true

theorem tolerated_of_repels
    {tolerations : List Dict} {taint : Json}
    (answer : repels tolerations taint = some false) : Tolerated tolerations taint := by
  rintro entries rfl forbids
  by_contra nothing
  have none : tolerations.any (tolerates entries) = false := by
    simpa using nothing
  have hashable : (Dict.get entries "effect").hashable = true := by
    rcases List.mem_cons.mp forbids with same | same
    · rw [same]
      rfl
    · rw [List.mem_singleton.mp same]
      rfl
  simp [repels, none, hashable] at answer
  simp [answer] at forbids

theorem tolerated_of_anyRepels
    {tolerations : List Dict} {taints : List Json}
    (answer : anyRepels tolerations taints = some false) :
    ∀ taint ∈ taints, Tolerated tolerations taint := by
  induction taints with
  | nil => simp
  | cons taint rest ih =>
      rw [anyRepels] at answer
      cases first : repels tolerations taint with
      | none => simp [first] at answer
      | some repelled =>
          cases repelled with
          | true => simp [first] at answer
          | false =>
              rw [List.forall_mem_cons]
              constructor
              · exact tolerated_of_repels first
              · apply ih
                simpa [first] using answer

/-- What a node has to meet before storage is considered. -/
structure Admits
    (manifest : AppManifest) (now grace : Int) (node : NodeRecord)
    (status : Option NodeStatus) : Prop where
  notCordoned : node.cordoned = false
  ready : isReady status now grace = true
  selected : ∀ key value, (key, value) ∈ manifest.nodeSelector →
    Dict.get node.labels key = .str value
  tolerated : ∀ taint ∈ node.taints, Tolerated manifest.tolerations taint

end Scheduling
end K1s
