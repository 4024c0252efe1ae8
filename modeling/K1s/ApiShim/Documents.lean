import K1s.ApiShim.Operations

/-!
# Documents and stored objects

What the handlers make of the document of a request before they store it, and
how a stored object is shown.  `none` stands for an exception.
-/

namespace K1s
namespace ApiShim

open Py

/-! ## Names and metadata -/

/-- One label of a name: letters, digits and inner dashes. -/
def validLabel (label : List Char) : Bool :=
  let alnum (ch : Char) : Bool := ch.isLower || ch.isDigit
  match label with
  | [] => false
  | first :: _ =>
      alnum first && alnum (label.getLastD first) && label.all fun ch => alnum ch || ch == '-'

/-- `_valid_name`.  The end of the pattern also matches before a last line
break. -/
def validName (name : Json) : Bool :=
  match name with
  | .str text =>
      let chars := text.toList
      let body := if chars.getLast? = some '\n' then chars.dropLast else chars
      !chars.isEmpty && decide (chars.length ≤ 253) && (splitChars '.' body).all validLabel
  | _ => false

variable (handler : ShimHandler) (o : K8sObject)

def stableUid (ns name : Json) (plural : String) : String :=
  handler.sha1 (plural ++ ":" ++ (ns.or (.str "")).toStr ++ ":" ++ name.toStr)

def normalizeMetadata
    (md : Dict) (name ns : Json)
    (plural : String) : Dict :=
  let out := Dict.set md "name" name
  let out :=
    if ns.truthy && decide (plural ≠ "namespaces") then Dict.set out "namespace" ns
    else out
  Dict.setdefault out "uid" (.str (stableUid handler ns name plural))

def secretTypeKey : String := "ae.apishim/secret-type"

/-- `_set_secret_type`, as the metadata it leaves. -/
def setSecretType (md : Dict) (secretType : Json) : Dict :=
  if secretType = .null ∨ secretType.toStr = "" then md
  else
    Dict.set md "annotations" (.dict (Dict.set (Dict.get md "annotations").entries
      secretTypeKey (.str secretType.toStr)))

def secretTypeFromMeta (md : Dict) : Option String :=
  let value := (Dict.get md "annotations").item secretTypeKey
  if value = .null ∨ value.toStr = "" then none else some value.toStr

/-- `dict(value)`, for the values that can be one. -/
def dictOf : Json → Option Dict
  | .dict entries => some entries
  | .list [] => some []
  | .str "" => some []
  | _ => none

def dictUpdate (out entries : Dict) : Dict :=
  entries.foldl (fun out entry => Dict.set out entry.1 entry.2) out

/-! ## Payloads -/

def serviceAccountSpecPayload (doc : Dict) : Json :=
  .dict (dictUpdate (Dict.get doc "spec").entries (doc.filter fun entry =>
    entry.1 ∉ ["apiVersion", "kind", "metadata", "status", "spec"]))

def specPayload (resource : String) (merged : Dict) : Json :=
  if resource ∈ ["roles", "clusterroles"] then
    .dict [("rules", (Dict.find? merged "rules").getD (.list []))]
  else if resource ∈ ["rolebindings", "clusterrolebindings"] then
    .dict [("subjects", (Dict.find? merged "subjects").getD (.list [])),
      ("roleRef", Dict.get merged "roleRef")]
  else if resource = "poddisruptionbudgets" then
    .dict [("spec", (Dict.find? merged "spec").getD ((Dict.find? merged "body").getD (.dict [])))]
  else (Dict.get merged "spec").or (.dict [])

def synthesizeDeployStatus (spec baseStatus : Json) : Option Dict :=
  (spec.getD "replicas" (.int 1)).bind fun raw =>
  raw.toInt.bind fun replicas =>
  (dictOf baseStatus).map fun status =>
    dictUpdate status [("replicas", .int replicas), ("updatedReplicas", .int replicas),
        ("readyReplicas", .int replicas), ("availableReplicas", .int replicas),
        ("conditions", .list [.dict [("type", .str "Available"), ("status", .str "True"),
            ("reason", .str "MinimumReplicasAvailable")],
          .dict [("type", .str "Progressing"), ("status", .str "True"),
            ("reason", .str "NewReplicaSetAvailable")]])]

def saVolumeName : String := "k1s-sa-token"

/-- `any(item.get(key) == value for item in items)`, which ends at the first that
has it. -/
def anyItem (key : String) (value : Json) : List Json → Option Bool
  | [] => some false
  | item :: rest =>
      (item.get key).bind fun found =>
        if found = value then some true else anyItem key value rest

def anyNamedSaVolume (items : List Json) : Option Bool :=
  anyItem "name" (.str saVolumeName) items

/-- The volume with the token of the service account. -/
def saVolume : Json :=
  .dict [("name", .str saVolumeName),
    ("projected", .dict [("sources", .list [.dict [("serviceAccountToken", .dict
      [("path", .str "token"), ("expirationSeconds", .int 3600),
        ("audience", .str "apishim")])]])])]

def mountSaVolume (container : Json) : Option Json :=
  match container with
  | .dict entries =>
      (Dict.get entries "volumeMounts").asList.bind fun mounts =>
      (anyNamedSaVolume mounts).map fun mounted =>
        if mounted then .dict entries
        else .dict (Dict.set entries "volumeMounts" (.list (mounts ++
          [.dict [("name", .str saVolumeName),
            ("mountPath", .str "/var/run/secrets/kubernetes.io/serviceaccount"),
            ("readOnly", .bool true)]])))
  | _ => none

/-- The pod spec with the token volume added and mounted. -/
def projectSaToken (podSpec : Dict) : Option Dict :=
  (Dict.get podSpec "volumes").asList.bind fun volumes =>
  (anyNamedSaVolume volumes).bind fun present =>
  let podSpec :=
    if present then podSpec
    else Dict.set podSpec "volumes" (.list (volumes ++ [saVolume]))
  let containers := (Dict.get podSpec "containers").or (.list [])
  containers.iterate.bind fun items =>
  (items.mapM mountSaVolume).map fun mounted =>
    let podSpec :=
      if containers.truthy then Dict.set podSpec "containers" (.list mounted)
      else podSpec
    Dict.setdefault podSpec "automountServiceAccountToken" (.bool true)

/-- `_inject_sa_projection`.  A template without a pod spec is given the spec
that contains it, which the store then refuses as circular. -/
def injectSaProjection (spec : Json) : Option Json :=
  match spec with
  | .dict entries =>
      match (Dict.get entries "template").or (.dict []) with
      | .dict [] =>
          let podSpec := (Dict.get entries "podSpec").or (Dict.get entries "spec")
          let podSpec := if podSpec = .null then .dict entries else podSpec
          match podSpec with
          | .dict podSpec => (projectSaToken podSpec).map .dict
          | _ => none
      | .dict template =>
          match Dict.get template "spec" with
          | .dict podSpec =>
              (projectSaToken podSpec).map fun podSpec =>
                .dict (Dict.set entries "template"
                  (.dict (Dict.set template "spec" (.dict podSpec))))
          | _ => none
      | _ => none
  | _ => none

def injectCronJob (spec : Json) : Option Json :=
  match spec.or (.dict []) with
  | .dict entries =>
      match (Dict.get entries "jobTemplate").or (.dict []) with
      | .dict template =>
          (injectSaProjection ((Dict.get template "spec").or (.dict []))).map fun spec =>
            .dict (Dict.set entries "jobTemplate" (.dict (Dict.set template "spec" spec)))
      | _ => none
  | _ => none

/-! ## Services -/

/-- The `ingress` list of a load balancer: addresses the spec asks for are added,
and the cluster address stands in where there is none. -/
def loadBalancerIngress (spec : Dict) (ingress : Json) : Option Json :=
  (Dict.get spec "externalIPs").asList.bind fun hints =>
    let external := (hints.filter fun ip =>
      match ip with
      | .str _ => true
      | _ => false).map fun ip => Json.dict [("ip", ip)]
    let hint := Dict.get spec "loadBalancerIP"
    let ip := Dict.get spec "clusterIP"
    if !ingress.truthy then
      let found := (if hint.truthy then [Json.dict [("ip", hint)]] else []) ++ external
      if found.isEmpty ∧ ip.truthy = true ∧ ip ≠ .str "None" then
        some (.list [.dict [("ip", ip)]])
      else some (.list found)
    else
      match ingress with
      | .list items => some (.list (items ++ external))
      | other => if external.isEmpty then some other else none

/-- `_service_lb_status` without an address of the provider. -/
def serviceLbStatus (spec : Dict) (status : Json) : Option Dict :=
  let svcType := (Dict.get spec "type").or (.str "ClusterIP")
  (dictOf (status.or (.dict []))).bind fun status =>
  if svcType ≠ .str "LoadBalancer" ∧ svcType ≠ .str "NodePort" then some status
  else
    match (Dict.get status "loadBalancer").or (.dict []) with
    | .dict lb =>
        (loadBalancerIngress spec (Dict.get lb "ingress")).map fun ingress =>
          Dict.set status "loadBalancer" (.dict (Dict.set lb "ingress" ingress))
    | _ => none

/-- The four bytes of an address in dotted notation. -/
def dotted (address : Nat) : String :=
  ".".intercalate (([24, 16, 8, 0].map fun shift => (address >>> shift) % 256).map toString)

/-- `_alloc_cluster_ip`: the first free address of `10.96.0.0/16` from a start
that depends on the name. -/
def allocClusterIp
    (ns name : Json)
    (existing : List Json) : String :=
  let start := (handler.hash ((ns.or (.str "")).toStr ++ "/" ++ name.toStr) % 65536).toNat
  let candidates := (List.range 65535).map fun offset =>
    0x0A600000 + (start + offset) % 65536
  let free := candidates.find? fun address =>
    address % 256 ≠ 0 ∧ address % 256 ≠ 255 ∧ Json.str (dotted address) ∉ existing
  (free.map dotted).getD "10.96.255.254"

def allocNodeport (existing : List Int) (seed : String) : Int :=
  let start := (handler.hash seed).natAbs % 2768
  let candidates := (List.range 2768).map fun offset : Nat =>
    (30000 + (start + offset) % 2768 : Int)
  (candidates.find? fun port => port ∉ existing).getD 30000

/-! ## Stored objects as they are shown -/

def kindOf (plural : String) : Option String :=
  [("namespaces", "Namespace"), ("configmaps", "ConfigMap"), ("secrets", "Secret"),
    ("persistentvolumeclaims", "PersistentVolumeClaim"),
    ("persistentvolumes", "PersistentVolume"),
    ("serviceaccounts", "ServiceAccount"), ("services", "Service")].lookup plural

def apiVersion (gvr : Gvr) : String :=
  if gvr.group = "" then gvr.version else gvr.group ++ "/" ++ gvr.version

/-- The metadata with the defaults that every object is shown with. -/
def shownName : Option Dict :=
  (dictOf o.metadata).map fun entries =>
    let entries := Dict.setdefault entries "name" (.str o.name)
    if o.ns.getD "" = "" then entries
    else Dict.setdefault entries "namespace" (.str (o.ns.getD ""))

/-- The same with the version of the object. -/
def shownMetadata : Option Dict :=
  (shownName o).map fun entries =>
    Dict.setdefault entries "resourceVersion" (.str (toString o.resourceVersion))

/-- An entry, unless its value is false. -/
def unlessFalse (key : String) (value : Json) : Dict :=
  if value.truthy then [(key, value)] else []

def toObj : Option Json :=
  (shownMetadata o).bind fun entries =>
  (kindOf o.gvr.resource).bind fun kind =>
  let secretType :=
    if o.gvr.resource = "secrets" then secretTypeFromMeta entries else none
  let head : Dict :=
    [("apiVersion", .str (apiVersion o.gvr)), ("kind", .str kind), ("metadata", .dict entries)] ++
      (secretType.map fun text => ("type", Json.str text)).toList
  let body : Option Dict :=
    if o.gvr.resource ∈ ["configmaps", "secrets"] then some [("data", o.spec)]
    else if o.gvr.resource = "serviceaccounts" then
      if o.spec.truthy then dictOf o.spec else some []
    else some (unlessFalse "spec" o.spec)
  body.map fun body => .dict (dictUpdate head (body ++ unlessFalse "status" o.status))

/-- The generation in the metadata, one where it is missing or no number. -/
def generationOf (entries : Dict) : Int :=
  let raw := Dict.get entries "generation"
  if raw = .null then 1 else raw.toInt.getD 1

/-- The five entries that a shown object has. -/
def shown (version kind : String) (entries : Dict) (spec status : Json) : Json :=
  .dict [("apiVersion", .str version), ("kind", .str kind),
    ("metadata", .dict entries), ("spec", spec), ("status", status)]

def toDeployment : Option Json :=
  (shownMetadata o).bind fun entries =>
  let generation := generationOf entries
  let entries := Dict.set entries "generation" (.int generation)
  (dictOf o.spec).bind fun spec =>
  (if Dict.get spec "replicas" = .null then
    (o.status.lookupD "replicas" (.int 1)).bind fun raw =>
    (raw.or (.int 1)).toInt.map fun replicas =>
      Dict.set spec "replicas" (.int replicas)
  else some spec).bind fun spec =>
  (synthesizeDeployStatus (.dict spec) o.status).map fun status =>
    shown "apps/v1" "Deployment" entries (.dict spec)
      (.dict (Dict.set status "observedGeneration" (.int generation)))

def toStatefulset : Option Json :=
  (shownMetadata o).bind fun entries =>
  let generation := Json.int (generationOf entries)
  let entries := Dict.set entries "generation" generation
  (synthesizeDeployStatus o.spec o.status).bind fun status =>
  let status := Dict.setdefault status "currentReplicas"
    (Dict.get status "updatedReplicas")
  let status := Dict.setdefault status "currentRevision" generation
  let status := Dict.setdefault status "updateRevision" generation
  let status := Dict.set status "observedGeneration" generation
  (dictOf o.spec).map fun spec =>
    shown "apps/v1" "StatefulSet" entries (.dict spec) (.dict status)

def toDaemonset : Option Json :=
  (shownMetadata o).bind fun entries =>
  let generation := Json.int (generationOf entries)
  let entries := Dict.set entries "generation" generation
  (o.spec.getD "replicas" (.int 1)).bind fun raw =>
  raw.toInt.bind fun replicas =>
  (dictOf (o.status.or (.dict []))).bind fun status =>
  let status := ["desiredNumberScheduled", "currentNumberScheduled", "numberReady",
    "numberAvailable", "updatedNumberScheduled"].foldl (fun status key =>
      Dict.setdefault status key (.int replicas)) status
  let status := Dict.set status "observedGeneration" generation
  let status := Dict.setdefault status "conditions" (.list
    [.dict [("type", .str "Ready"), ("status", .str "True")],
      .dict [("type", .str "Available"), ("status", .str "True")]])
  (dictOf o.spec).map fun spec =>
    shown "apps/v1" "DaemonSet" entries (.dict spec) (.dict status)

/-- `value >= bound`, for a number. -/
def atLeast (value : Json) (bound : Int) : Option Bool :=
  match value with
  | .bool value => some (decide (bound ≤ if value then 1 else 0))
  | .int value => some (decide (bound ≤ value))
  | .float text => (floatOfText text).map fun value => PyFloat.le (.finite bound) value
  | _ => none

def toJob : Option Json :=
  (shownMetadata o).bind fun entries =>
  (dictOf (o.status.or (.dict []))).bind fun status =>
  (o.spec.getD "parallelism" (.int 1)).bind fun parallelism =>
  (o.spec.getD "completions" (parallelism.or (.int 1))).bind fun raw =>
  raw.toInt.bind fun completions =>
  let status := Dict.setdefault status "active" (.int 0)
  let status := Dict.setdefault status "succeeded" (.int 0)
  let status := Dict.setdefault status "failed" (.int 0)
  let status := Dict.setdefault status "conditions" (.list [])
  (atLeast (Dict.get status "succeeded") completions).bind fun complete =>
  let status :=
    if complete then
      Dict.set status "conditions"
        (.list [.dict [("type", .str "Complete"), ("status", .str "True")]])
    else status
  (dictOf o.spec).map fun spec =>
    shown "batch/v1" "Job" entries (.dict spec) (.dict status)

def toCronjob : Option Json :=
  (shownMetadata o).bind fun entries =>
  (dictOf (o.status.or (.dict []))).bind fun status =>
  let status := Dict.setdefault status "active" (.list [])
  let status := Dict.setdefault status "lastScheduleTime" .null
  let status := Dict.setdefault status "lastSuccessfulTime" .null
  (dictOf o.spec).map fun spec =>
    shown "batch/v1" "CronJob" entries (.dict spec) (.dict status)

def toGeneric (kind : String) (o : K8sObject) : Option Json :=
  (shownMetadata o).bind fun entries =>
  (dictOf o.spec).map fun data =>
    let head : Dict :=
      [("apiVersion", .str (apiVersion o.gvr)), ("kind", .str kind), ("metadata", .dict entries)]
    let resource := o.gvr.resource
    if resource ∈ ["roles", "clusterroles"] then
      .dict (head ++ [("rules", (Dict.find? data "rules").getD (.list []))])
    else if resource ∈ ["rolebindings", "clusterrolebindings"] then
      .dict (head ++ unlessFalse "roleRef" (Dict.get data "roleRef") ++
        (if Dict.get data "subjects" = .null then []
          else [("subjects", Dict.get data "subjects")]))
    else if resource ∈ ["poddisruptionbudgets", "horizontalpodautoscalers"] then
      .dict (head ++ [("spec", (Dict.find? data "spec").getD (.dict data))] ++
        unlessFalse "status" o.status)
    else
      .dict (head ++ unlessFalse "spec" (.dict data) ++ unlessFalse "status" o.status)

def renderCustomResource (kind : Json) (o : K8sObject) : Option Json :=
  (shownName o).map fun entries =>
    .dict ([("apiVersion", .str (o.gvr.group ++ "/" ++ o.gvr.version)), ("kind", kind),
      ("metadata", .dict entries)] ++ unlessFalse "spec" o.spec ++
      unlessFalse "status" o.status)

end ApiShim
end K1s
