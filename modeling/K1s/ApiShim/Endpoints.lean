import K1s.Adapter.Services

/-!
# Endpoints and EndpointSlices

The API server shows the endpoints that the controller has recorded for a Service in
two documents.  Both start from the workload that the Service selects.  The Endpoints
are looked up under the namespace and the workload, the EndpointSlice under the app key
of the workload, and an entry of the slice asks an endpoint for the name of its pod,
which the endpoints of the controller do not have.
-/

namespace K1s
namespace ApiShim

open Py Adapter

/-! ## The workload of a Service -/

/-- A workload that a Service selects, with what the server ranks it by. -/
structure TargetCandidate where
  inexact : Bool
  extra : Nat
  order : Nat
  name : String

/-- The key of the server's order. -/
def TargetCandidate.key (candidate : TargetCandidate) : Bool ×ₗ Nat ×ₗ Nat ×ₗ String :=
  toLex (candidate.inexact, toLex (candidate.extra, toLex (candidate.order, candidate.name)))

/-- The order of the candidates' keys. -/
def TargetCandidate.before (first second : TargetCandidate) : Bool :=
  decide (first.key ≤ second.key)

/-- The candidate that a workload is, if the selector matches its labels. -/
def targetCandidateOf
    (selector : Dictionary String String) (order : Nat)
    (object : K8sObject) : Option (Option TargetCandidate) :=
  (podTemplateLabels object).map fun labels =>
    if selectorMatches selector labels then
      some
        { inexact := !sameLabels labels selector
          extra := labels.entries.length - selector.entries.length
          order := order
          name := object.name }
    else none

/-- The workloads of one kind that a Service may select. -/
def workloadsOfKind (store : ObjectStore) (svc : K8sObject) (gvr : Gvr) : List K8sObject :=
  match svc.ns with
  | some ns => store.list gvr (some ns)
  | none => store.listAll gvr

/-- The workloads with the place of their kind. -/
def workloads (store : ObjectStore) (svc : K8sObject) : List (Nat × K8sObject) :=
  (workloadsOfKind store svc deploymentsResource).map ((0, ·)) ++
    (workloadsOfKind store svc statefulsetsResource).map ((1, ·)) ++
    (workloadsOfKind store svc daemonsetsResource).map ((2, ·))

/-- The candidates among the workloads. -/
def targetCandidates
    (store : ObjectStore) (svc : K8sObject)
    (selector : Dictionary String String) : Option (List TargetCandidate) :=
  ((workloads store svc).mapM fun workload =>
    targetCandidateOf selector workload.1 workload.2).map List.reduceOption

/-- `_resolve_service_target`, with `none` for an exception. -/
def resolveServiceTarget
    (store : ObjectStore) (svc : K8sObject)
    (selector : Dictionary String String) : Option (Option String) :=
  if selector.entries.isEmpty then some none
  else (targetCandidates store svc selector).map fun candidates =>
    (candidates.mergeSort TargetCandidate.before).head?.map TargetCandidate.name

def serviceTarget (svc : K8sObject) (store : ObjectStore) : Option Json :=
  let selector := serviceSelector (.dict svc.spec.entries)
  (resolveServiceTarget store svc selector).map fun target =>
    match target with
    | some name => (Json.str name).or (fallbackServiceTarget svc selector)
    | none => fallbackServiceTarget svc selector

/-- `_service_app_name`: `null` for `None`. -/
def serviceAppNameIn (svc : K8sObject) (store : ObjectStore) : Option Json :=
  (serviceTarget svc store).map fun target =>
    if !target.truthy then .null
    else
      match svc.ns with
      | some ns => if ns = "" then target else .str (ns ++ "--" ++ target.toStr)
      | none => target

def normalizeNamespace (ns : Option String) : Option String :=
  (ns.map strip).filter (· ≠ "")

/-- `app_key` of a name that need not be a text. -/
def appKeyOf (name : Json) (ns : Option String) : Json :=
  match normalizeNamespace ns with
  | none => name
  | some ns => if ns = "default" then name else .str (ns ++ "--" ++ name.toStr)

/-! ## What the controller has recorded -/

structure ServiceEndpoint where
  appName : String
  port : Int
  ip : String
  targetPort : Int
  ready : Bool

/-- An attribute of an endpoint, with `none` for an `AttributeError`. -/
def ServiceEndpoint.attribute (endpoint : ServiceEndpoint) (name : String) : Option Json :=
  [("app_name", Json.str endpoint.appName), ("port", .int endpoint.port),
    ("ip", .str endpoint.ip), ("target_port", .int endpoint.targetPort),
    ("ready", .bool endpoint.ready)].lookup name

/-- The endpoints of each app, in the order of ports and addresses, and the node and the
zone that `_node_zone_for_ip` finds for an address. -/
structure ControllerState where
  endpoints : String → List ServiceEndpoint
  nodeZone : String → Option String × Option String

variable (state : ControllerState)

/-- `list_service_endpoints` for a value that is bound as the app's name. -/
def ControllerState.listServiceEndpoints (appName : Json) : Option (List ServiceEndpoint) :=
  appName.sqlText.map fun text => (text.map state.endpoints).getD []

/-! ## The two documents -/

def portFields (withAppProtocol : Bool) (port : Json) : Option Json := do
  let name ← port.get "name"
  let number ← port.get "port"
  let protocol ← port.getD "protocol" (.str "TCP")
  let appProtocol ← port.get "appProtocol"
  return .dict ([("name", name), ("port", number), ("protocol", protocol)] ++
    if withAppProtocol then [("appProtocol", appProtocol)] else [])

/-- The ports of a Service, as a document shows them. -/
def portsSpec (withAppProtocol : Bool) (svc : K8sObject) : Option (List Json) := do
  let ports ← svc.spec.getD "ports" (.list [])
  let items ← ports.iterate
  items.mapM (portFields withAppProtocol)

/-- The namespace of a Service as a value. -/
def nsValue (svc : K8sObject) : Json :=
  match svc.ns with
  | some ns => .str ns
  | none => .null

/-- `_endpoints_for_service`: `null` for `None`, and `none` for an exception. -/
def endpointsForService
    (store : ObjectStore)
    (svc : K8sObject) : Option Json := do
  let appName ← serviceAppNameIn svc store
  if !appName.truthy then return .null
  else
    let endpoints ← state.listServiceEndpoints appName
    let ports ← portsSpec false svc
    let addresses (ready : Bool) : List Json :=
      (endpoints.filter fun endpoint => endpoint.ready = ready).map fun endpoint =>
        .dict [("ip", .str endpoint.ip)]
    return .dict [("apiVersion", .str "v1"), ("kind", .str "Endpoints"),
        ("metadata", .dict [("name", .str svc.name), ("namespace", nsValue svc),
          ("resourceVersion", .str (toString svc.resourceVersion))]),
        ("subsets", .list [.dict [("addresses", .list (addresses true)),
          ("notReadyAddresses", .list (addresses false)), ("ports", .list ports)]])]

def sliceEntry
    (svc : K8sObject)
    (endpoint : ServiceEndpoint) : Option Json := do
  let (nodeName, zone) := state.nodeZone endpoint.ip
  let podName ← endpoint.attribute "pod_name"
  let appName ← endpoint.attribute "app_name"
  let field (key : String) (value : Option String) (shown : String → Json) : Dict :=
    match value with
    | some text => if text = "" then [] else [(key, shown text)]
    | none => []
  return .dict ([("addresses", .list [.str endpoint.ip]),
      ("conditions", .dict [("ready", .bool endpoint.ready)]),
      ("targetRef", .dict [("kind", .str "Pod"), ("name", podName.or appName),
        ("namespace", nsValue svc)])] ++
      field "nodeName" nodeName .str ++ field "zone" zone .str ++
      field "hints" zone fun zone => .dict [("forZones", .list [.dict [("name", .str zone)]])])

/-- `_endpointslice_for_service`: `null` for `None`, and `none` for an exception. -/
def endpointsliceForService
    (store : ObjectStore)
    (svc : K8sObject) : Option Json := do
  let target ← serviceTarget svc store
  if !target.truthy then return .null
  else
    let endpoints ← state.listServiceEndpoints (appKeyOf target svc.ns)
    if endpoints.isEmpty then return .null
    else
      let entries ← endpoints.mapM fun endpoint =>
        (sliceEntry state svc endpoint).map (endpoint.ready, ·)
      let ofReady (ready : Bool) : List Json :=
        (entries.filter fun entry => entry.1 = ready).map Prod.snd
      let ports ← portsSpec true svc
      let version ← svc.metadata.get "resourceVersion"
      let suffix := version.or (.int svc.resourceVersion)
      return .dict [("apiVersion", .str "discovery.k8s.io/v1"), ("kind", .str "EndpointSlice"),
          ("metadata", .dict [("name", .str (svc.name ++ "-" ++ suffix.toStr)),
            ("namespace", nsValue svc),
            ("labels", .dict [("kubernetes.io/service-name", .str svc.name)]),
            ("resourceVersion", .str (toString svc.resourceVersion))]),
          ("addressType", .str "IPv4"), ("ports", .list ports),
          ("endpoints", .list (ofReady true ++ ofReady false))]

/-! ## What the documents list -/

def subsetAddresses (document : Json) (key : String) : Set Json :=
  {ip | ∃ subset ∈ (document.item "subsets").items, ∃ address ∈ (subset.item key).items,
    address.item "ip" = ip}

/-- The addresses of an Endpoints document, and whether each is ready. -/
def endpointsPairs (document : Json) : Set (Json × Bool) :=
  {pair | pair.1 ∈ subsetAddresses document (if pair.2 then "addresses" else "notReadyAddresses")}

/-- The addresses of an EndpointSlice, and whether each is ready. -/
def slicePairs (document : Json) : Set (Json × Bool) :=
  {pair | ∃ entry ∈ (document.item "endpoints").items, pair.1 ∈ (entry.item "addresses").items ∧
      (entry.item "conditions").item "ready" = .bool pair.2}

/-- The addresses that are recorded, and whether each is ready. -/
def recordedPairs (endpoints : List ServiceEndpoint) : Set (Json × Bool) :=
  {pair | ∃ endpoint ∈ endpoints, pair = (.str endpoint.ip, endpoint.ready)}

def recordedForTarget
    (store : ObjectStore) (svc : K8sObject) : Option (List ServiceEndpoint) :=
  (serviceTarget svc store).bind fun target =>
    if target.truthy then state.listServiceEndpoints (appKeyOf target svc.ns) else some []

/-- Both documents list the recorded endpoints; one that is absent lists none. -/
def EndpointsAgree (store : ObjectStore) (svc : K8sObject) : Prop :=
  ∃ endpoints slice recorded, endpointsForService state store svc = some endpoints ∧
    endpointsliceForService state store svc = some slice ∧
    recordedForTarget state store svc = some recorded ∧
    endpointsPairs endpoints = slicePairs slice ∧
    slicePairs slice = recordedPairs recorded

/-- Nothing is recorded under either name of the target, and the documents can be
made. -/
def NothingRecorded (store : ObjectStore) (svc : K8sObject) : Prop :=
  ∃ target, serviceTarget svc store = some target ∧ (target.truthy = true →
    (∃ appName, serviceAppNameIn svc store = some appName ∧
      state.listServiceEndpoints appName = some []) ∧
    state.listServiceEndpoints (appKeyOf target svc.ns) = some [] ∧
    (portsSpec false svc).isSome)

/-! ## The slice of a recorded endpoint cannot be made -/

@[simp] theorem sliceEntry_eq_none (svc : K8sObject) (endpoint : ServiceEndpoint) :
    sliceEntry state svc endpoint = none := by
  have absent : endpoint.attribute "pod_name" = none := by
    simp [ServiceEndpoint.attribute, List.lookup]
  simp [sliceEntry, absent]

/-- No entry can be made as soon as there is an endpoint. -/
theorem mapM_sliceEntry
    (svc : K8sObject) (endpoint : ServiceEndpoint) (rest : List ServiceEndpoint) :
    ((endpoint :: rest).mapM fun endpoint =>
      (sliceEntry state svc endpoint).map (endpoint.ready, ·)) = none := by
  rw [List.mapM_cons, sliceEntry_eq_none]
  rfl

variable {target : Json} {svc : K8sObject} {store : ObjectStore}

/-- The slice of a Service without a target is absent. -/
theorem endpointsliceForService_of_no_target
    (targeted : serviceTarget svc store = some target) (noTarget : target.truthy = false) :
    endpointsliceForService state store svc = some .null := by
  simp [endpointsliceForService, targeted, noTarget]

/-- The slice of a Service with a target is absent, or making it raises. -/
theorem endpointsliceForService_of_target
    (targeted : serviceTarget svc store = some target) (hasTarget : target.truthy = true) :
    endpointsliceForService state store svc =
      (state.listServiceEndpoints (appKeyOf target svc.ns)).bind fun endpoints =>
        if endpoints.isEmpty then some .null else none := by
  cases listed : state.listServiceEndpoints (appKeyOf target svc.ns) with
  | none => simp [endpointsliceForService, targeted, hasTarget, listed]
  | some endpoints =>
      cases endpoints with
      | nil => simp [endpointsliceForService, targeted, hasTarget, listed]
      | cons endpoint rest =>
          simp only [endpointsliceForService, targeted, hasTarget, listed,
            Option.bind_eq_bind, Option.bind_some, Bool.not_true, Bool.false_eq_true,
            if_false, List.isEmpty_cons]
          rw [mapM_sliceEntry, Option.bind_none]

@[simp] theorem slicePairs_null : slicePairs .null = ∅ := by
  ext pair
  simp [slicePairs, Json.item, Json.entries, Dict.get, Dict.find?, Json.items]

/-- A slice that is made lists nothing. -/
theorem slicePairs_of_made
    {state : ControllerState} {slice : Json}
    (made : endpointsliceForService state store svc = some slice) :
    slicePairs slice = ∅ := by
  cases targeted : serviceTarget svc store with
  | none => simp [endpointsliceForService, targeted] at made
  | some target =>
      cases truthy : target.truthy with
      | false =>
          rw [endpointsliceForService_of_no_target state targeted truthy] at made
          rw [← Option.some.inj made, slicePairs_null]
      | true =>
          rw [endpointsliceForService_of_target state targeted truthy] at made
          obtain ⟨endpoints, _, absent⟩ := Option.bind_eq_some_iff.mp made
          by_cases empty : endpoints.isEmpty
          · rw [if_pos empty] at absent
            rw [← Option.some.inj absent, slicePairs_null]
          · rw [if_neg empty] at absent
            exact absurd absent (by simp)

/-! ## The Endpoints -/

@[simp] theorem endpointsPairs_null : endpointsPairs .null = ∅ := by
  ext pair
  simp [endpointsPairs, subsetAddresses, Json.item, Json.entries, Dict.get, Dict.find?, Json.items]

/-- The Endpoints of a Service with a target list what is recorded under its name. -/
theorem endpointsForService_of_target
    {appName : Json} (named : serviceAppNameIn svc store = some appName)
    (truthy : appName.truthy = true) :
    (endpointsForService state store svc).map endpointsPairs =
      (state.listServiceEndpoints appName).bind fun endpoints =>
        (portsSpec false svc).map fun _ => recordedPairs endpoints := by
  cases listed : state.listServiceEndpoints appName with
  | none => simp [endpointsForService, named, truthy, listed]
  | some endpoints =>
      cases ports : portsSpec false svc with
      | none => simp [endpointsForService, named, truthy, ports]
      | some ports' =>
          simp only [endpointsForService, named, truthy, listed, ports,
            Option.bind_eq_bind, Option.bind_some, Bool.not_true, Bool.false_eq_true,
            if_false, Option.map_some, Option.pure_def]
          congr 1
          ext ⟨ip, ready⟩
          cases ready <;>
            simp [endpointsPairs, subsetAddresses, recordedPairs, Json.item, Json.items,
              Json.entries, Dict.get, Dict.find?, List.lookup, and_assoc]
          all_goals exact exists_congr fun endpoint => by grind

@[simp] theorem recordedPairs_nil : recordedPairs [] = ∅ := by
  ext pair
  simp [recordedPairs]

theorem recordedPairs_eq_empty_iff (endpoints : List ServiceEndpoint) :
    recordedPairs endpoints = ∅ ↔ endpoints = [] := by
  constructor
  · intro empty
    cases endpoints with
    | nil => rfl
    | cons endpoint rest =>
        have listed : ((.str endpoint.ip, endpoint.ready) : Json × Bool) ∈
            recordedPairs (endpoint :: rest) := ⟨endpoint, List.mem_cons_self, rfl⟩
        rw [empty] at listed
        exact absurd listed (Set.notMem_empty _)
  · intro empty
    rw [empty, recordedPairs_nil]

theorem serviceAppNameIn_of_target
    (targeted : serviceTarget svc store = some target) (hasTarget : target.truthy = true) :
    ∃ appName, serviceAppNameIn svc store = some appName ∧ appName.truthy = true := by
  unfold serviceAppNameIn
  rw [targeted, Option.map_some, hasTarget]
  cases svc.ns with
  | none => exact ⟨target, by simp, hasTarget⟩
  | some ns =>
      by_cases empty : ns = ""
      · exact ⟨target, by simp [empty], hasTarget⟩
      · refine ⟨.str (ns ++ "--" ++ target.toStr), by simp [empty], ?_⟩
        simp [Json.truthy, empty]

/-- Both documents list what is recorded exactly when nothing is. -/
theorem endpointsAgree_iff
    (state : ControllerState) (store : ObjectStore) (svc : K8sObject) :
    EndpointsAgree state store svc ↔ NothingRecorded state store svc := by
  cases targeted : serviceTarget svc store with
  | none => simp [EndpointsAgree, NothingRecorded, endpointsliceForService, targeted]
  | some target =>
      cases truthy : target.truthy with
      | false =>
          have unnamed : serviceAppNameIn svc store = some .null := by
            simp [serviceAppNameIn, targeted, truthy]
          have noEndpoints : endpointsForService state store svc = some .null := by
            simp [endpointsForService, unnamed]
          have noSlice := endpointsliceForService_of_no_target state targeted truthy
          have noneRecorded : recordedForTarget state store svc = some [] := by
            simp [recordedForTarget, targeted, truthy]
          constructor
          · intro _
            exact ⟨target, targeted, fun isTrue => by simp [truthy] at isTrue⟩
          · intro _
            exact ⟨.null, .null, [], noEndpoints, noSlice, noneRecorded, by simp, by simp⟩
      | true =>
          obtain ⟨appName, named, nameTruthy⟩ := serviceAppNameIn_of_target targeted truthy
          have shown := endpointsForService_of_target state named nameTruthy
          have sliced := endpointsliceForService_of_target state targeted truthy
          have recordedThere : recordedForTarget state store svc =
              state.listServiceEndpoints (appKeyOf target svc.ns) := by
            simp [recordedForTarget, targeted, truthy]
          constructor
          · rintro ⟨endpoints, slice, recorded, endpointsMade, sliceMade, isRecorded, same,
              all⟩
            -- The slice lists nothing, and with it neither the other document nor the records.
            have nothing := slicePairs_of_made sliceMade
            rw [nothing] at same all
            have noneRecorded := (recordedPairs_eq_empty_iff recorded).mp all.symm
            rw [endpointsMade, Option.map_some, eq_comm, Option.bind_eq_some_iff] at shown
            obtain ⟨listed, isListed, shownListed⟩ := shown
            obtain ⟨ports, hasPorts, samePairs⟩ := Option.map_eq_some_iff.mp shownListed
            have noneListed : listed = [] :=
              (recordedPairs_eq_empty_iff listed).mp (samePairs.trans same)
            refine ⟨target, targeted, fun _ => ⟨⟨appName, named, ?_⟩, ?_, ?_⟩⟩
            · rw [isListed, noneListed]
            · rw [← recordedThere, isRecorded, noneRecorded]
            · rw [hasPorts, Option.isSome_some]
          · rintro ⟨target', targeted', whenTargeted⟩
            rw [targeted] at targeted'
            obtain rfl := Option.some.inj targeted'
            obtain ⟨⟨appName', named', noneListed⟩, noneRecorded, hasPorts⟩ := whenTargeted truthy
            rw [named] at named'
            obtain rfl := Option.some.inj named'
            obtain ⟨ports, portsListed⟩ := Option.isSome_iff_exists.mp hasPorts
            rw [noneListed, Option.bind_some, portsListed, Option.map_some,
              recordedPairs_nil] at shown
            obtain ⟨endpoints, endpointsMade, noPairs⟩ := Option.map_eq_some_iff.mp shown
            rw [noneRecorded, Option.bind_some, List.isEmpty_nil, if_pos rfl] at sliced
            rw [noneRecorded] at recordedThere
            exact ⟨endpoints, .null, [], endpointsMade, sliced, recordedThere,
              by rw [noPairs, slicePairs_null], by rw [slicePairs_null, recordedPairs_nil]⟩

/-! ## A Service whose one endpoint is in one document only -/

/-- A Service that selects the workload `web`. -/
def shopService : K8sObject where
  gvr := servicesResource
  ns := some "shop"
  name := "web"
  metadata := .dict [("name", .str "web"), ("namespace", .str "shop")]
  spec := .dict [("selector", .dict [("app", .str "web")]),
    ("ports", .list [.dict [("port", .int 80)]])]
  status := .dict []
  resourceVersion := 1

/-- One endpoint is recorded for `web`, and it is ready. -/
def webRecorded : ControllerState where
  endpoints := fun appName =>
    if appName = "shop--web" then [⟨"shop--web", 80, "10.1.0.7", 8080, true⟩] else []
  nodeZone := fun _ => (none, none)

theorem serviceTarget_shopService :
    serviceTarget shopService .empty = some (.str "web") := by
  have nothing (gvr : Gvr) : workloadsOfKind .empty shopService gvr = [] := by
    have none : (∅ : Std.TreeMap ObjectKey ObjectRow compare).toList = [] := rfl
    simp [workloadsOfKind, shopService, ObjectStore.list, ObjectStore.listAll,
      ObjectStore.empty, none]
  have noWorkloads : workloads .empty shopService = [] := by
    simp [workloads, nothing]
  have noCandidate (selector : Dictionary String String) :
      resolveServiceTarget .empty shopService selector = some none := by
    simp [resolveServiceTarget, targetCandidates, noWorkloads]
  rw [serviceTarget, noCandidate]
  decide

/-- The documents of `web` do not agree: its slice cannot be made. -/
theorem not_endpointsAgree_shopService :
    ¬ EndpointsAgree webRecorded .empty shopService := by
  rintro ⟨endpoints, slice, recorded, endpointsMade, sliceMade, isRecorded, same, all⟩
  have sliced := endpointsliceForService_of_target webRecorded serviceTarget_shopService
    (by decide)
  have raises : ((webRecorded.listServiceEndpoints
      (appKeyOf (.str "web") shopService.ns)).bind fun endpoints =>
        if endpoints.isEmpty then some Json.null else none) = none := by
    decide
  rw [sliceMade, raises] at sliced
  exact absurd sliced (by simp)

end ApiShim
end K1s
