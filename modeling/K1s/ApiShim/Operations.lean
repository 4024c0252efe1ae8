import K1s.ApiShim.Store
import K1s.Py.Float

/-!
# What the handlers of the API shim do to the world

A request is handled on a thread of its own.  The handler performs store
operations, operations on the maps that all handlers share (the tokens of
service accounts and the registered custom resources), and calls that leave the
process: the clock, the sources of randomness and the state of the controller.
Time is counted in seconds, as an exact rational.
-/

namespace K1s
namespace ApiShim

open Py

/-! ## Configuration and principals -/

/-- The class attributes of `ShimHandler`, and what the handlers take from
outside the package. -/
structure ShimHandler where
  adminToken : Option String
  readToken : Option String
  execToken : Option String
  portforwardToken : Option String
  mintToken : Option String
  allowAnonymous : Bool
  rbacEnabled : Bool
  rbacEvalRoles : Bool
  /-- The roles that each verb and resource is allowed to. -/
  rbacPolicies : List ((String × String) × List String)
  /-- How long a token is valid, in seconds. -/
  saTokenTtl : Nat
  /-- The payload of a session token whose signature is in order. -/
  sessionPayload : String → Option Json
  /-- The text of the exception of `AppManifest.model_validate`, if it raises one. -/
  manifestError : Dict → Option String
  /-- What happens to an app that is refused: `enforce`, `warn` or `off`. -/
  appAdmissionMode : String
  /-- `hash(text)`, which differs between processes. -/
  hash : String → Int
  /-- `hashlib.sha1(text).hexdigest()`. -/
  sha1 : String → String
  /-- `yaml.safe_load(text)`, `none` for an exception. -/
  safeLoad : String → Option Json

/-- The default of `rbac_policies`. -/
def defaultPolicies : List ((String × String) × List String) :=
  [(("get", "*"), ["admin", "read"]), (("list", "*"), ["admin", "read"]),
    (("watch", "*"), ["admin", "read"]), (("create", "*"), ["admin"]),
    (("create", "pods/exec"), ["admin", "exec"]),
    (("create", "pods/attach"), ["admin", "exec"]),
    (("create", "pods/portforward"), ["admin", "portforward"]),
    (("create", "services/portforward"), ["admin", "portforward"]),
    (("update", "*"), ["admin"]), (("patch", "*"), ["admin"]),
    (("delete", "*"), ["admin"])]

/-- Who a request comes from. -/
structure Principal where
  username : String
  groups : List String
  tokenRole : Option String
  deriving DecidableEq

/-- The name of a principal without a valid token. -/
def unauthenticated : String := "system:unauthenticated"

/-! ## Shared maps -/

/-- An entry of `sa_tokens`: the account and the time at which the token
expires. -/
structure SaToken where
  ns : String
  name : String
  exp : PyFloat

/-- The key of `crd_registry`. -/
structure CrdKey where
  group : Json
  version : Json
  plural : Json
  deriving DecidableEq

/-- An entry of `crd_registry`, as far as the handlers look. -/
structure CrdMeta where
  kind : Json
  namespaced : Bool
  deriving DecidableEq

/-- The registered custom resources, and the keys of each definition. -/
structure CrdRegistry where
  registry : CrdKey → Option CrdMeta
  index : Json → List CrdKey

namespace CrdRegistry

def empty : CrdRegistry := ⟨fun _ => none, fun _ => []⟩

def unregister (crds : CrdRegistry) (crdName : Json) : CrdRegistry where
  registry key := if (crds.index crdName).contains key then none else crds.registry key
  index := Function.update crds.index crdName []

/-- One served version of a definition, with the keys registered so far.  `none`
stands for an exception. -/
def registerVersion
    (group plural kind : Json) (namespaced : Bool) (state : CrdRegistry × List CrdKey)
    (version : Json) : Option (CrdRegistry × List CrdKey) :=
  match version with
  | .dict entries =>
      let name := Dict.get entries "name"
      if !((Dict.find? entries "served").getD (.bool true)).truthy || !name.truthy then
        some state
      else if !(group.hashable && name.hashable && plural.hashable) then none
      else
        let key : CrdKey := ⟨group, name, plural⟩
        some ({ state.1 with
          registry := Function.update state.1.registry key (some ⟨kind, namespaced⟩) },
          state.2 ++ [key])
  | _ => none

/-- The versions of a definition, up to the first that cannot be read. -/
def registerVersions
    (group plural kind : Json) (namespaced : Bool) (state : CrdRegistry × List CrdKey) :
    List Json → (CrdRegistry × List CrdKey) × Bool
  | [] => (state, true)
  | version :: rest =>
      match registerVersion group plural kind namespaced state version with
      | none => (state, false)
      | some next => registerVersions group plural kind namespaced next rest

/-- `_register_crd`, and whether it came to its end without an exception. -/
def register (crds : CrdRegistry) (crdName spec : Json) : Bool × CrdRegistry :=
  match spec.or (.dict []) with
  | .dict spec =>
      match (Dict.find? spec "names").getD (.dict []) with
      | .dict names =>
          let group := Dict.get spec "group"
          let versions := (Dict.find? spec "versions").getD (.list [])
          let plural := Dict.get names "plural"
          if !group.truthy || !versions.truthy || !plural.truthy ||
              !(Dict.get names "kind").truthy then (true, crds)
          else
            match (Dict.find? spec "scope").getD (.str "Namespaced") with
            | .str scope =>
                let cleared := crds.unregister crdName
                match versions.iterate with
                | none => (false, cleared)
                | some versions =>
                    let ((written, keys), finished) := registerVersions group plural
                      (Dict.get names "kind") (decide (lower scope = "namespaced")) (cleared, []) versions
                    (finished,
                      if finished && !keys.isEmpty then
                        { written with
                          index := Function.update written.index crdName keys }
                      else written)
            | _ => (false, crds)
      | _ => (false, crds)
  | _ => (false, crds)

end CrdRegistry

/-! ## Operations -/

/-- What the controller's state says about services: their cluster addresses
and node ports. -/
structure StateServices where
  clusterIps : List String
  nodePorts : List Int

/-- One operation of a handler. -/
inductive ShimOp
  | store (operation : StoreOp)
  | saGet (token : String)
  | saSet (token : String) (entry : SaToken)
  | saPop (token : String)
  | crdLookup (group version plural : String)
  | crdRegister (crdName spec : Json)
  | crdUnregister (crdName : Json)
  /-- `time.time()`. -/
  | now
  /-- `datetime.now(timezone.utc).isoformat()`. -/
  | timestamp
  /-- `secrets.token_urlsafe(32)`. -/
  | tokenUrlsafe
  /-- The random end of a generated name. -/
  | nameSuffix
  | stateServices

/-- What an operation returns. -/
def ShimOp.Reply : ShimOp → Type
  | .store operation => operation.Reply
  | .saGet _ => Option SaToken
  | .saSet _ _ | .saPop _ => Unit
  | .crdLookup _ _ _ => Option CrdMeta
  | .crdRegister _ _ => Bool
  | .crdUnregister _ => Unit
  | .now => Rat
  | .timestamp | .tokenUrlsafe | .nameSuffix => String
  | .stateServices => StateServices

abbrev ShimProgram := Program ShimOp ShimOp.Reply

/-- The store, the shared maps, and the number of calls that have left the
process. -/
structure ShimWorld where
  store : ObjectStore
  saTokens : String → Option SaToken
  crds : CrdRegistry
  calls : Nat

/-- How the outside answers the calls, in their order. -/
structure ShimOutside where
  clock : Nat → Rat
  timestamps : Nat → String
  secrets : Nat → String
  suffixes : Nat → String
  services : Nat → StateServices

def ShimOp.execute (outside : ShimOutside) :
    (operation : ShimOp) → ShimWorld → operation.Reply × ShimWorld
  | .store operation, world =>
      let (reply, written) := operation.execute world.store
      (reply, { world with store := written })
  | .saGet token, world => (world.saTokens token, world)
  | .saSet token entry, world =>
      ((), { world with
        saTokens := Function.update world.saTokens token (some entry) })
  | .saPop token, world =>
      ((), { world with saTokens := Function.update world.saTokens token none })
  | .crdLookup group version plural, world =>
      (world.crds.registry ⟨.str group, .str version, .str plural⟩, world)
  | .crdRegister crdName spec, world =>
      let (finished, crds) := world.crds.register crdName spec
      (finished, { world with crds := crds })
  | .crdUnregister crdName, world =>
      ((), { world with crds := world.crds.unregister crdName })
  | .now, world => (outside.clock world.calls, { world with calls := world.calls + 1 })
  | .timestamp, world =>
      (outside.timestamps world.calls, { world with calls := world.calls + 1 })
  | .tokenUrlsafe, world =>
      (outside.secrets world.calls, { world with calls := world.calls + 1 })
  | .nameSuffix, world =>
      (outside.suffixes world.calls, { world with calls := world.calls + 1 })
  | .stateServices, world =>
      (outside.services world.calls, { world with calls := world.calls + 1 })

/-! ## Operations by name -/

def shimPerform (operation : ShimOp) : ShimProgram operation.Reply :=
  Program.ask operation

def shimNow : ShimProgram Rat := shimPerform .now

def shimTimestamp : ShimProgram String := shimPerform .timestamp

def shimTokenUrlsafe : ShimProgram String := shimPerform .tokenUrlsafe

def shimNameSuffix : ShimProgram String := shimPerform .nameSuffix

def shimStateServices : ShimProgram StateServices := shimPerform .stateServices

def shimSaGet (token : String) : ShimProgram (Option SaToken) := shimPerform (.saGet token)

def shimSaSet (token : String) (entry : SaToken) : ShimProgram Unit :=
  shimPerform (.saSet token entry)

def shimSaPop (token : String) : ShimProgram Unit := shimPerform (.saPop token)

def shimCrdLookup (group version plural : String) : ShimProgram (Option CrdMeta) :=
  shimPerform (.crdLookup group version plural)

def shimCrdRegister (crdName spec : Json) : ShimProgram Bool :=
  shimPerform (.crdRegister crdName spec)

def shimCrdUnregister (crdName : Json) : ShimProgram Unit :=
  shimPerform (.crdUnregister crdName)

variable (gvr : Gvr) (ns : Option String) (name : String)

def shimGet : ShimProgram (Option K8sObject) :=
  shimPerform (.store (.get gvr ns name))

/-- `store.get` with a name taken from a document: a container is refused by the
database driver. -/
def shimGetNamed (name : Json) : ShimProgram (Option K8sObject) :=
  match name.sqlText with
  | none => .raise
  | some none => .done none
  | some (some text) => shimGet gvr ns text

def shimList : ShimProgram (List K8sObject) :=
  shimPerform (.store (.list gvr ns))

def shimListAll : ShimProgram (List K8sObject) :=
  shimPerform (.store (.listAll gvr))

def shimDelete : ShimProgram Bool :=
  shimPerform (.store (.delete gvr ns name))

def shimUpsert
    (basis : Option K8sObject) (gvr : Gvr) (ns : Option String) (name : String)
    (metadata spec status : Json) : ShimProgram K8sObject :=
  shimPerform (.store (.upsert basis gvr ns name metadata spec status))

/-! ### What they do to the world -/

section Runs

variable (outside : ShimOutside) (world : ShimWorld)

@[simp] theorem runAlone_shimGet :
    Program.runAlone (ShimOp.execute outside) (shimGet gvr ns name) world =
      (some (world.store.get gvr ns name), world) := rfl

@[simp] theorem runAlone_shimListAll :
    Program.runAlone (ShimOp.execute outside) (shimListAll gvr) world =
      (some (world.store.listAll gvr), world) := rfl

@[simp] theorem runAlone_shimDelete :
    Program.runAlone (ShimOp.execute outside) (shimDelete gvr ns name) world =
      (some (world.store.delete gvr ns name).1,
        { world with store := (world.store.delete gvr ns name).2 }) := rfl

@[simp] theorem runAlone_shimUpsert
    (basis : Option K8sObject) (gvr : Gvr) (ns : Option String) (name : String)
    (metadata spec status : Json) :
    Program.runAlone (ShimOp.execute outside)
        (shimUpsert basis gvr ns name metadata spec status) world =
      (some (world.store.upsert gvr ns name metadata spec status).1,
        { world with store := (world.store.upsert gvr ns name metadata spec status).2 }) :=
  rfl

@[simp] theorem runAlone_shimCrdLookup (group version plural : String) :
    Program.runAlone (ShimOp.execute outside) (shimCrdLookup group version plural) world =
      (some (world.crds.registry ⟨.str group, .str version, .str plural⟩), world) := rfl

@[simp] theorem runAlone_shimCrdRegister (crdName spec : Json) :
    Program.runAlone (ShimOp.execute outside) (shimCrdRegister crdName spec) world =
      (some (world.crds.register crdName spec).1,
        { world with crds := (world.crds.register crdName spec).2 }) := rfl

@[simp] theorem runAlone_shimNow :
    Program.runAlone (ShimOp.execute outside) shimNow world =
      (some (outside.clock world.calls), { world with calls := world.calls + 1 }) := rfl

variable {outside world}

@[simp] theorem leads_shimGet
    (post : Option K8sObject → ShimWorld → Prop) (gvr : Gvr) (ns : Option String)
    (name : String) :
    Program.Leads (ShimOp.execute outside) post (shimGet gvr ns name) world ↔
      post (world.store.get gvr ns name) world := Iff.rfl

@[simp] theorem leads_shimListAll (post : List K8sObject → ShimWorld → Prop) (gvr : Gvr) :
    Program.Leads (ShimOp.execute outside) post (shimListAll gvr) world ↔
      post (world.store.listAll gvr) world := Iff.rfl

@[simp] theorem leads_shimNow (post : Rat → ShimWorld → Prop) :
    Program.Leads (ShimOp.execute outside) post shimNow world ↔
      post (outside.clock world.calls) { world with calls := world.calls + 1 } := Iff.rfl

@[simp] theorem leads_shimTimestamp (post : String → ShimWorld → Prop) :
    Program.Leads (ShimOp.execute outside) post shimTimestamp world ↔
      post (outside.timestamps world.calls) { world with calls := world.calls + 1 } :=
  Iff.rfl

@[simp] theorem leads_shimTokenUrlsafe (post : String → ShimWorld → Prop) :
    Program.Leads (ShimOp.execute outside) post shimTokenUrlsafe world ↔
      post (outside.secrets world.calls) { world with calls := world.calls + 1 } :=
  Iff.rfl

@[simp] theorem leads_shimStateServices (post : StateServices → ShimWorld → Prop) :
    Program.Leads (ShimOp.execute outside) post shimStateServices world ↔
      post (outside.services world.calls) { world with calls := world.calls + 1 } :=
  Iff.rfl

@[simp] theorem leads_shimSaSet
    (post : Unit → ShimWorld → Prop) (token : String) (entry : SaToken) :
    Program.Leads (ShimOp.execute outside) post (shimSaSet token entry) world ↔
      post () { world with
        saTokens := Function.update world.saTokens token (some entry) } := Iff.rfl

@[simp] theorem leads_shimSaPop (post : Unit → ShimWorld → Prop) (token : String) :
    Program.Leads (ShimOp.execute outside) post (shimSaPop token) world ↔
      post () { world with saTokens := Function.update world.saTokens token none } :=
  Iff.rfl

end Runs

end ApiShim
end K1s
