import K1s.Adapter.Workloads

/-!
# Services and Ingresses

`_handle_service_event` finds the workload that a Service selects, gives its
ports their node ports and keeps the resulting spec for the workload.
`_handle_ingress_event` does the same with the route of an Ingress, whose
backends it looks up among the Services handled so far.
-/

namespace K1s
namespace Adapter

open Py ApiShim Program

def servicesResource : Gvr := ⟨"", "v1", "services"⟩

/-! ## Reading Services and workloads -/

def textEntries (entries : Dict) : Dictionary String String :=
  Dictionary.ofList (entries.map fun entry => (entry.1, entry.2.toStr))

def serviceSelector (spec : Json) : Dictionary String String :=
  let selector := (spec.item "selector").entries
  let inner := Dict.get selector "matchLabels"
  if inner.isDict && selector.length = 1 then
    textEntries inner.entries
  else textEntries selector

def podTemplateLabels (object : K8sObject) : Option (Dictionary String String) := do
  let template ← (Json.dict object.spec.entries).lookup "template"
  let metadata ← template.lookup "metadata"
  let labels ← metadata.lookup "labels"
  return textEntries labels.entries

def addNamedPorts (known : Dictionary String Int) (container : Json) :
    Option (Dictionary String Int) :=
  if container.isDict then
    (container.item "ports").asList.map fun ports =>
      ports.foldl (fun known port =>
          let name := port.item "name"
          match (port.item "containerPort").toInt with
          | some number => if name.truthy then known.set name.toStr number else known
          | none => known)
        known
  else some known

def podTemplatePortsByName (object : K8sObject) :
    Option (Dictionary String Int) := do
  let template ← (Json.dict object.spec.entries).lookup "template"
  let spec ← template.lookup "spec"
  let containers ← (← spec.lookup "containers").asList
  containers.foldlM addNamedPorts .empty

def selectorMatches (selector labels : Dictionary String String) : Bool :=
  !selector.entries.isEmpty &&
    selector.entries.all fun entry => labels.find? entry.1 = some entry.2

/-- `labels == selector`. -/
def sameLabels (first second : Dictionary String String) : Bool :=
  decide (first.entries.length = second.entries.length) &&
    first.entries.all fun entry => second.find? entry.1 = some entry.2

/-- `_metadata(obj)`. -/
def metadataOf (object : K8sObject) : Json :=
  .dict object.metadata.entries

/-- The first value that is true, or the last one. -/
def firstTrue : List Json → Json
  | [] => .null
  | [value] => value
  | value :: rest => value.or (firstTrue rest)

variable (svc : K8sObject) (worker : Worker) (ref : ObjectRef)

def fallbackServiceTarget (selector : Dictionary String String) : Json :=
  let selected (key : String) : Json :=
    match selector.find? key with
    | some text => .str text
    | none => .null
  firstTrue [selected "app", selected "app.kubernetes.io/name",
      ((metadataOf svc).item "labels").item "app",
      ((metadataOf svc).item "annotations").item "apishim.k1s.dev/app",
      .str svc.name]

/-- `resolve_port_value`.  A truth value counts as a number. -/
def resolvePortValue (port : Json) (portsByName : Dictionary String Int) : Option Int :=
  match port with
  | .int value => some value
  | .bool value => some (if value then 1 else 0)
  | .str text =>
      if isDigits text then some (digitsValue text.toList)
      else portsByName.find? text
  | _ => none

def allowUnresolvedTargetPortFallback (svc : K8sObject) : Bool :=
  worker.settings.allowUnresolvedTargetPort ||
    truthyText (((metadataOf svc).item "annotations").item
      "apishim.k1s.dev/allowUnresolvedTargetPortFallback")

/-! ## The workload of a Service -/

/-- A workload that a Service selects, with what it is ranked by. -/
structure Candidate where
  otherName : Bool
  inexact : Bool
  extra : Nat
  order : Nat
  name : String
  portsByName : Dictionary String Int

/-- The order of the candidates' keys. -/
def Candidate.before (first second : Candidate) : Bool :=
  decide (toLex (first.otherName, toLex (first.inexact, toLex (first.extra,
      toLex (first.order, first.name)))) ≤
    toLex (second.otherName, toLex (second.inexact, toLex (second.extra,
      toLex (second.order, second.name)))))

/-- The candidate that a workload is, if the selector matches its labels. -/
def candidateOf
    (selector : Dictionary String String) (order : Nat)
    (object : K8sObject) : Option (Option Candidate) := do
  let labels ← podTemplateLabels object
  if selectorMatches selector labels then
    let portsByName ← podTemplatePortsByName object
    return some
      { otherName := decide (object.name ≠ svc.name)
        inexact := !sameLabels labels selector
        extra := labels.entries.length - selector.entries.length
        order := order
        name := object.name
        portsByName := portsByName }
  else return none

def candidatesOfKind
    (selector : Dictionary String String) (order : Nat)
    (gvr : Gvr) : AdapterProgram (List Candidate) := do
  let objects ← listed
  let found ← .ofOption (objects.mapM (candidateOf svc selector order))
  return found.reduceOption
where
  listed : AdapterProgram (List K8sObject) :=
    match svc.ns with
    | some ns => storeList gvr (some ns)
    | none => storeListAll gvr

def resolveServiceTarget
    (selector : Dictionary String String) : AdapterProgram (Option Candidate) :=
  if selector.entries.isEmpty then .done none
  else do
    let deployments ← candidatesOfKind svc selector 0 deploymentsResource
    let statefulsets ← candidatesOfKind svc selector 1 statefulsetsResource
    let daemonsets ← candidatesOfKind svc selector 2 daemonsetsResource
    return ((deployments ++ statefulsets ++ daemonsets).mergeSort Candidate.before).head?

/-! ## Node ports -/

/-- `_allocate_node_port`, which raises when the range is used up. -/
def allocatePort (svcKey portId : String) : AdapterProgram Int := do
  let port : Option Int ← perform (.ports (.allocate svcKey portId))
  .ofOption port

def exposePort (svcKey portId : String) (entry : Dict) : AdapterProgram Dict :=
  let nodePort := Dict.get entry "nodePort"
  if nodePort = .null then do
    let port ← allocatePort svcKey portId
    return Dict.set (Dict.set entry "nodePort" (.int port)) "port" (.int port)
  else
    match nodePort.toInt with
    | some port => do
        onPorts (.reserve svcKey portId port)
        return Dict.set entry "port" (.int port)
    | none => do
        let port ← allocatePort svcKey portId
        onPorts (.reserve svcKey portId port)
        return Dict.set entry "port" (.int port)

/-- `dict(entry)`: a dictionary, or the pairs that a value goes through. -/
def copiedEntry (entry : Json) : Option Dict :=
  match entry with
  | .dict entries => some entries
  | other => do
      let items ← other.iterate
      items.foldlM (fun copied item =>
          match item.iterate with
          | some [.str key, value] => some (Dict.set copied key value)
          | some [key, _] => if key.hashable then some copied else none
          | _ => none)
        []

/-- `str(port_entry.get("name") or f"idx-{idx}")`. -/
def portIdOf (entry : Dict) (index : Nat) : String :=
  ((Dict.get entry "name").or (.str ("idx-" ++ toString index))).toStr

/-- Prepare one entry of a Service's ports. -/
def preparePort
    (svcKey : String) (exposeHost : Bool) (index : Nat)
    (raw : Json) : AdapterProgram (Dict × String) := do
  let copied ← .ofOption (copiedEntry raw)
  let entry := Dict.setdefault copied "_servicePort" (Dict.get copied "port")
  let portId := portIdOf entry index
  if exposeHost then do
    let exposed ← exposePort svcKey portId entry
    return (exposed, portId)
  else do
    onPorts (.releaseAssignment svcKey portId)
    return (entry, portId)

/-- Prepare the entries in order, from an index on. -/
def preparePorts (svcKey : String) (exposeHost : Bool) :
    Nat → List Json → AdapterProgram (List (Dict × String))
  | _, [] => .done []
  | index, raw :: rest =>
      (preparePort svcKey exposeHost index raw).andThen fun entry =>
        (preparePorts svcKey exposeHost (index + 1) rest).andThen fun others =>
          .done (entry :: others)

/-- `f"{svc.namespace or ''}/{svc.name}"`. -/
def svcKeyOf : String :=
  svc.ns.getD "" ++ "/" ++ svc.name

def prepareServicePorts (spec : Json) (exposeHost : Bool) : AdapterProgram (List Dict) :=
  let desired := spec.item "ports"
  if desired.truthy then do
    let entries ← .ofOption desired.iterate
    let prepared ← preparePorts (svcKeyOf svc) exposeHost 0 entries
    onPorts (.cleanupUnused (svcKeyOf svc) (prepared.map Prod.snd))
    return prepared.map Prod.fst
  else do
    onPorts (.releaseService (svcKeyOf svc))
    return []

/-! ## The spec of a Service -/

/-- Whether a Service gets node ports.  A list or a dictionary cannot be looked
up in a set. -/
def exposesHost (svcType : Json) : Option Bool :=
  if svcType.hashable then
    some (decide (svcType = .str "NodePort") || decide (svcType = .str "LoadBalancer"))
  else none

/-- The outcome of one entry: it is left out, its target port is unresolved, or
it is a port. -/
inductive PortReading
  | skipped
  | unresolved (targetPort : Json)
  | port (port : ServicePort)

/-- `ServiceSpec.ServicePort(...)` for an entry. -/
def validPort
    (exposeHost : Bool) (index : Nat) (entry : Dict) (svcPort : Int) (nodePort : Option Int)
    (targetPort : Json) : Option ServicePort := do
  let name ← textIn ((Dict.get entry "name").or (.str ("port-" ++ toString index)))
  let target ←
    if targetPort = .null then some none
    else (worker.settings.pydanticInt targetPort).map some
  let protocol ← textIn ((Dict.find? entry "protocol").getD (.str "TCP"))
  let hostPort := if exposeHost then nodePort else none
  return {
    name := name
    port := if hostPort.getD 0 = 0 then svcPort else hostPort.getD 0
    targetPort := target
    protocol := protocol
    nodePort := hostPort }
where
  textIn : Json → Option String
    | .str text => some text
    | _ => none

/-- One turn of the loop over the prepared ports. -/
def readPort
    (svc : K8sObject) (portsByName : Dictionary String Int) (exposeHost : Bool) (index : Nat)
    (entry : Dict) : Option PortReading :=
  match (Dict.get entry "port").toInt with
  | none => some .skipped
  | some svcPort =>
      let nodePort := (Dict.get entry "nodePort").toInt
      let fallback := (Dict.find? entry "_servicePort").getD (.int svcPort)
      let targetRaw := (Dict.find? entry "targetPort").getD fallback
      match resolvePortValue targetRaw portsByName with
      | some target =>
          (validPort worker exposeHost index entry svcPort nodePort (.int target)).map .port
      | none =>
          if allowUnresolvedTargetPortFallback worker svc then
            (validPort worker exposeHost index entry svcPort nodePort fallback).map .port
          else some (.unresolved targetRaw)

/-- What the loop over the prepared ports ends with. -/
inductive PortsReading
  | ports (ports : List ServicePort)
  | unresolved (entry : Dict) (targetPort : Json)

/-- The loop over the prepared ports, from an index on. -/
def readPorts
    (worker : Worker) (svc : K8sObject) (portsByName : Dictionary String Int)
    (exposeHost : Bool) : Nat → List Dict → Option PortsReading
  | _, [] => some (.ports [])
  | index, entry :: rest => do
      match ← readPort worker svc portsByName exposeHost index entry with
      | .unresolved targetPort => return .unresolved entry targetPort
      | .skipped => readPorts worker svc portsByName exposeHost (index + 1) rest
      | .port port =>
          match ← readPorts worker svc portsByName exposeHost (index + 1) rest with
          | .ports ports => return .ports (port :: ports)
          | .unresolved other targetPort => return .unresolved other targetPort

def validSpec
    (spec svcType : Json) (exposeHost : Bool) (ports : List ServicePort)
    (first : ServicePort) : Option ServiceSpec := do
  let type ← choice ["ClusterIP", "NodePort", "LoadBalancer"] svcType
  let externalIps ← texts ((Dict.find? spec.entries "externalIPs").getD (.list []))
  let sessionAffinity ← choice ["None", "ClientIP"] (spec.item "sessionAffinity")
  return {
    type := type
    ports := ports
    port := if exposeHost then some first.port else none
    targetPort := first.targetPort
    externalIps := externalIps
    sessionAffinity := sessionAffinity }
where
  choice (allowed : List String) : Json → Option (Option String)
    | .null => some none
    | .str text => if allowed.contains text then some (some text) else none
    | _ => none
  texts : Json → Option (List String)
    | .list items => items.mapM fun item =>
        match item with
        | .str text => some text
        | _ => none
    | _ => none

def unresolvedTargetPortMessage (entry : Dict) (targetPort : Json) : String :=
  let portName :=
    (firstTrue [Dict.get entry "name", Dict.get entry "port", .str ""]).toStr
  "service " ++ svc.name ++ " targetPort " ++ targetPort.repr ++ " for port " ++
    reprText portName ++ " does not match a named container port"

/-- The status of a Service whose target port is unresolved. -/
def invalidPortStatus (entry : Dict) (targetPort : Json) :
    Option Json := do
  let status ← svc.status.asDict
  let conditions ← (Dict.get status "conditions").asList
  let kept := conditions.filter fun condition =>
    condition.isDict && decide (condition.item "type" ≠ .str "PortResolution")
  return .dict (Dict.set status "conditions" (.list (kept ++ [.dict
    [("type", .str "PortResolution"), ("status", .str "False"),
      ("reason", .str "UnresolvedTargetPort"),
      ("message", .str (unresolvedTargetPortMessage svc entry targetPort))]])))

def markServiceInvalidTargetPort
    (target : Json) (entry : Dict)
    (targetPort : Json) : AdapterProgram Unit := do
  let status ← .ofOption (invalidPortStatus svc entry targetPort)
  let _ ← storeUpsert (some svc) servicesResource svc.ns svc.name svc.metadata
    svc.spec status
  let _ : Unit ← call (.recordEvent (appKey target.toStr svc.ns))
  return ()

def specForPorts
    (svc : K8sObject) (spec svcType target : Json) (portsByName : Dictionary String Int)
    (exposeHost : Bool)
    (prepared : List Dict) : AdapterProgram (Option (TargetRef × ServiceSpec)) := do
  let reading ← .ofOption (readPorts worker svc portsByName exposeHost 0 prepared)
  match reading with
  | .unresolved entry targetPort => do
      markServiceInvalidTargetPort svc target entry targetPort
      return none
  | .ports [] => return none
  | .ports (first :: rest) => do
      let valid ← .ofOption (validSpec spec svcType exposeHost (first :: rest) first)
      return some ((svc.ns, target), valid)

/-- The workload that a Service points to, and the named ports of its pods. -/
def serviceTarget (selector : Dictionary String String) :
    AdapterProgram (Json × Dictionary String Int) := do
  let found ← resolveServiceTarget svc selector
  match found with
  | some candidate => return (.str candidate.name, candidate.portsByName)
  | none => return (fallbackServiceTarget svc selector, .empty)

def serviceSpecFor (svc : K8sObject) :
    AdapterProgram (Option (TargetRef × ServiceSpec)) := do
  let spec : Json ← .ofOption (svc.spec.asDict.map .dict)
  let found ← serviceTarget svc (serviceSelector spec)
  if found.1.truthy then do
    let svcType := (Dict.find? spec.entries "type").getD (.str "ClusterIP")
    let exposeHost ← .ofOption (exposesHost svcType)
    let prepared ← prepareServicePorts svc spec exposeHost
    if prepared.isEmpty then return none
    else specForPorts worker svc spec svcType found.1 found.2 exposeHost prepared
  else return none

/-! ## Service events -/

/-- A value as the key of a dictionary: equal numbers are equal keys, and a list
or a dictionary is refused. -/
def dictKey : Json → Option Json
  | .bool value => some (.int (if value then 1 else 0))
  | .float text =>
      match floatOfText text with
      | some (.finite value) =>
          if value.den = 1 then some (.int value.num) else some (.float text)
      | _ => some (.float text)
  | .list _ | .dict _ => none
  | value => some value

/-- The key of a workload in the maps of specs. -/
def targetKey (target : TargetRef) : Option TargetRef :=
  (dictKey target.2).map fun name => (target.1, name)

/-- Forget a Service and the spec of the workload that it pointed to. -/
def forgetService (memory : Memory) : Memory :=
  match memory.serviceNameMap.find? ref with
  | none => memory
  | some target =>
      { memory with
        serviceNameMap := memory.serviceNameMap.drop ref
        serviceSpecs :=
          match targetKey target with
          | some key => memory.serviceSpecs.drop key
          | none => memory.serviceSpecs }

def rememberService
    (target key : TargetRef) (spec : ServiceSpec)
    (memory : Memory) : Memory :=
  { memory with
    serviceSpecs := memory.serviceSpecs.set key spec
    serviceNameMap := memory.serviceNameMap.set ref target }

/-- Reconcile the workload that a Service or an Ingress pointed to. -/
def triggerFormer (former : Option TargetRef) : AdapterProgram Unit :=
  match former with
  | none => .done ()
  | some target => triggerReconcile worker target

/-- What is done for a Service that is gone or points nowhere. -/
def dropService (svc : K8sObject) : AdapterProgram Unit := do
  let before ← locked (forgetService (svc.ns, svc.name))
  onPorts (.releaseService (svcKeyOf svc))
  triggerFormer worker (before.serviceNameMap.find? (svc.ns, svc.name))

def handleServiceEvent (type : EventType) (svc : K8sObject) : AdapterProgram Unit :=
  if type = .deleted then dropService worker svc
  else do
    let result ← serviceSpecFor worker svc
    match result with
    | none => dropService worker svc
    | some (target, spec) => do
        let key ← .ofOption (targetKey target)
        let _ ← locked (rememberService (svc.ns, svc.name) target key spec)
        triggerReconcile worker target

/-! ## Ingress events -/

/-- A path of an Ingress whose backend Service is known. -/
structure Route where
  target : TargetRef
  host : Json
  path : Json

/-- The Service that a path names. -/
def backendName (path : Json) : Option Json := do
  let backend ← path.getD "backend" (.dict [])
  let service ← backend.getD "service" (.dict [])
  service.get "name"

/-- The workload of the Service that a path names.  A list or a dictionary
cannot be looked up. -/
def knownService
    (names : ObjectRef → Option TargetRef) (ns : Option String)
    (name : Json) : Option (Option TargetRef) :=
  if name.truthy then
    match name with
    | .str text => some (names (ns, text))
    | .list _ | .dict _ => none
    | _ => some none
  else some none

/-- The first of the paths of a rule that names a known Service. -/
def routeOfPaths
    (names : ObjectRef → Option TargetRef) (ns : Option String)
    (host : Json) : List Json → Option (Option Route)
  | [] => some none
  | path :: rest => do
      let name ← backendName path
      match ← knownService names ns name with
      | none => routeOfPaths names ns host rest
      | some target => do
          let given ← path.get "path"
          return some ⟨target, host, given.or (.str "/")⟩

/-- The first of the rules with a path that names a known Service. -/
def routeOfRules
    (names : ObjectRef → Option TargetRef)
    (ns : Option String) : List Json → Option (Option Route)
  | [] => some none
  | rule :: rest => do
      let host ← rule.get "host"
      let http ← rule.lookup "http"
      let paths ← (← http.lookupD "paths" (.list [])).iterate
      match ← routeOfPaths names ns host paths with
      | none => routeOfRules names ns rest
      | some route => return some route

/-- The TLS secret of a host: the entry of the first TLS block that has it. -/
def tlsOf (host : String) : List Json → Option (Option Json)
  | [] => some none
  | entry :: rest => do
      let hosts ← entry.getD "hosts" (.list [])
      let listed ← (hosts.or (.list [])).contains host
      if listed then
        let secret ← entry.get "secretName"
        return some secret
      else tlsOf host rest

def validIngress (route : Route) (tls : Option Json) : Option IngressSpec := do
  let host ← textIn (route.host.or (.str ""))
  let path ← textIn route.path
  let secret ←
    match tls with
    | none | some .null => some none
    | some value => (textIn value).map some
  return {
    host := host
    path := path
    tls := tls.isSome
    tlsSecretName := secret }
where
  textIn : Json → Option String
    | .str text => some text
    | _ => none

def routeTls (route : Route) (tls : Json) : Option (Option Json) :=
  if route.host.truthy then
    match route.host with
    | .str host => tls.asList.bind (tlsOf host)
    | _ => none
  else some none

def ingressSpecFor (names : ObjectRef → Option TargetRef) (ing : K8sObject) :
    Option (Option (TargetRef × IngressSpec)) := do
  let rules ← (← ing.spec.lookup "rules").asList
  let tls ← ing.spec.lookup "tls"
  match ← routeOfRules names ing.ns rules with
  | none => return none
  | some route => do
      let found ← routeTls route tls
      let spec ← validIngress route found
      return some (route.target, spec)

/-- Forget an Ingress and the route of the workload that it pointed to. -/
def forgetIngress (memory : Memory) : Memory :=
  match memory.ingressOwnerMap.find? ref with
  | none => memory
  | some target =>
      { memory with
        ingressOwnerMap := memory.ingressOwnerMap.drop ref
        ingressSpecs :=
          match targetKey target with
          | some key => memory.ingressSpecs.drop key
          | none => memory.ingressSpecs }

/-- Remember an Ingress and the route of the workload that it points to. -/
def rememberIngress
    (target key : TargetRef) (spec : IngressSpec)
    (memory : Memory) : Memory :=
  { memory with
    ingressSpecs := memory.ingressSpecs.set key spec
    ingressOwnerMap := memory.ingressOwnerMap.set ref target }

/-- What is done for an Ingress that is gone or points nowhere. -/
def dropIngress (ing : K8sObject) : AdapterProgram Unit := do
  let before ← locked (forgetIngress (ing.ns, ing.name))
  triggerFormer worker (before.ingressOwnerMap.find? (ing.ns, ing.name))

def handleIngressEvent (type : EventType) (ing : K8sObject) : AdapterProgram Unit :=
  if type = .deleted then dropIngress worker ing
  else do
    let memory ← remembered
    let result ← .ofOption (ingressSpecFor memory.serviceNameMap.find? ing)
    match result with
    | none => dropIngress worker ing
    | some (target, spec) => do
        let key ← .ofOption (targetKey target)
        let _ ← locked (rememberIngress (ing.ns, ing.name) target key spec)
        triggerReconcile worker target

/-! ## A plain set-up -/

/-- An outside in which nothing fails, no time passes and no app has a status. -/
def plainOutside : Outside
  | _, .now => (1704067200 : Rat)
  | _, .timestamp => "2024-01-01T00:00:00Z"
  | _, .savePorts => true
  | _, .control _ => true
  | _, .recordEvent _ => ()
  | _, .getStatus _ => some none
  | _, .listPods _ => some []
  | _, .listNodes => some 1
  | _, .metrics _ => ⟨none, none, none⟩
  | _, .cronNext _ _ => .error "unsupported"

def plainSettings : Settings where
  portLow := 31000
  portHigh := 32767
  tombstoneTtl := 30
  hpaCooldownSeconds := 30
  allowUnresolvedTargetPort := false
  allowInvalidCron := false
  pydanticInt := Json.toInt

/-- A worker whose manifests have only metadata and whose apps run one pod. -/
def plainWorker : Worker where
  settings := plainSettings
  manifestFrom := fun object _ _ _ =>
    some ⟨object.name, some (nsOrDefault object.ns), [], .null⟩
  asJob := fun _ manifest => manifest
  reconcile := fun manifest => .perform (.startPod (manifest.name ++ "-0")) .done

/-- A new adapter on a store. -/
def World.startedOn (store : ObjectStore) : World where
  store := store
  tombstones := .empty
  published := []
  memory := .empty
  ports := .empty
  controller := ⟨.empty, [], []⟩
  calls := []

def nodePortService (name : String) (port : Dict) : K8sObject where
  gvr := servicesResource
  ns := some "default"
  name := name
  metadata := .dict [("name", .str name)]
  spec := .dict [("type", .str "NodePort"), ("ports", .list [.dict port])]
  status := .dict []
  resourceVersion := 1

end Adapter
end K1s
