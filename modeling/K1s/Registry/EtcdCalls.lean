import K1s.Etcd.Store
import K1s.Lib.Crew
import K1s.Py.Time
import K1s.Registry.Sqlite

/-!
# The registry in etcd

`EtcdStateStore` keeps a registered application or an authority object under one
key, and takes the revision of the last write of the key for its resource
version.  A call that names the version it expects writes or deletes the key in a
transaction on this revision; the version 0 stands for a key that is absent.
-/

namespace K1s
namespace Registry

open Py (Dict Json)
open Etcd (Key)

/-! ## Requests -/

/-- What a transaction compares. -/
inductive Compare
  /-- The create revision is 0: the key is absent. -/
  | absent
  /-- The mod revision of the key, which is 0 for an absent key. -/
  | modRevision (revision : Int)

/-- The version that the comparison stands for. -/
def Compare.version : Compare → Int
  | .absent => 0
  | .modRevision revision => revision

/-- What a transaction does when its comparison holds. -/
inductive Change
  | put (payload : Dict)
  | delete

/-- The requests of the registry, and reading the clock. -/
inductive RegistryOp
  | now
  | get (key : Key)
  | put (key : Key) (payload : Dict)
  | delete (key : Key)
  | txn (key : Key) (compare : Compare) (change : Change)

abbrev RegistryOp.Reply : RegistryOp → Type
  | .now => Int
  | .get _ => Option Dict × Nat
  | .put _ _ => Unit
  | .delete _ => Unit
  | .txn _ _ _ => Bool

/-- The store and the number of operations so far. -/
structure RegistryWorld where
  store : Etcd.Store
  calls : Nat

/-- `_get_json`: the object and its revision, 0 for an absent key. -/
def getJson (store : Etcd.Store) (key : Key) : Option Dict × Nat :=
  match store.find? key with
  | some value => (some value.payload, value.modRevision)
  | none => (none, 0)

/-- The comparison of a transaction. -/
def Compare.holds (store : Etcd.Store) (key : Key) : Compare → Bool
  | .absent => (store.find? key).isNone
  | .modRevision revision => decide ((getJson store key).2 = revision)

def Change.run (store : Etcd.Store) (key : Key) : Change → Etcd.Store
  | .put payload => store.putJson key payload
  | .delete => store.delete key

def RegistryWorld.execute (clock : Nat → Int) :
    (operation : RegistryOp) → RegistryWorld → operation.Reply × RegistryWorld
  | .now, world => (clock world.calls, ⟨world.store, world.calls + 1⟩)
  | .get key, world => (getJson world.store key, ⟨world.store, world.calls + 1⟩)
  | .put key payload, world => ((), ⟨world.store.putJson key payload, world.calls + 1⟩)
  | .delete key, world => ((), ⟨world.store.delete key, world.calls + 1⟩)
  | .txn key compare change, world =>
      if compare.holds world.store key then
        (true, ⟨change.run world.store key, world.calls + 1⟩)
      else (false, ⟨world.store, world.calls + 1⟩)

abbrev RegistryProgram := Program RegistryOp RegistryOp.Reply

/-- `_now_iso`, as the time. -/
def readTime : RegistryProgram Int := .perform .now .done

def requestJson (key : Key) : RegistryProgram (Option Dict × Nat) := .perform (.get key) .done

/-- `_put_json`. -/
def requestPut (key : Key) (payload : Dict) : RegistryProgram Unit :=
  .perform (.put key payload) .done

def requestDelete (key : Key) : RegistryProgram Unit := .perform (.delete key) .done

/-- `_client.txn`, whether it succeeded. -/
def requestTxn (key : Key) (compare : Compare) (change : Change) : RegistryProgram Bool :=
  .perform (.txn key compare change) .done

/-! ## Calls -/

/-- What a call returns or raises. -/
inductive Outcome
  | registered (resourceVersion : Nat)
  | deleted (present : Bool)
  | conflict (raised : RegistryConflict)
  deriving DecidableEq

/-- The call has raised a conflict. -/
def Outcome.isConflict : Outcome → Bool
  | .conflict _ => true
  | _ => false

def returnRevision (key : Key) : RegistryProgram Outcome := do
  let current ← requestJson key
  pure (.registered current.2)

def raiseConflict (name : String) (expected : Int) (key : Key) : RegistryProgram Outcome := do
  let current ← requestJson key
  pure (.conflict ⟨name, expected, current.2⟩)

/-- Write the key: the common end of the two `register_*` calls. -/
def writeExpecting (name : String) (key : Key) (payload : Dict) :
    Option Int → RegistryProgram Outcome
  | none => do
      requestPut key payload
      returnRevision key
  | some expected => do
      let compare := if expected = 0 then Compare.absent else .modRevision expected
      let succeeded ← requestTxn key compare (.put payload)
      if succeeded then returnRevision key else raiseConflict name expected key

/-- Delete the key: the body of the two `delete_*` calls. -/
def deleteExpecting (name : String) (key : Key) : Option Int → RegistryProgram Outcome
  | none => do
      let existing ← requestJson key
      if existing.1.isNone then pure (.deleted false)
      else do
        requestDelete key
        pure (.deleted true)
  | some expected => do
      let succeeded ← requestTxn key (.modRevision expected) .delete
      if succeeded then pure (.deleted true) else raiseConflict name expected key

variable (root : String)

def appKey (appName : String) : Key := Etcd.k root ["apps", appName, "registry"]

def authorityKey (key : ObjectKey) : Key :=
  Etcd.k root ["apishim", "authority", if key.group = "" then "_core" else key.group, key.version,
      key.resource, if key.namespaceKey = "" then "_cluster" else key.namespaceKey, key.name]

/-- The source and the labels of a registration: those given, or else those of
the record there is. -/
def keptSource (source : Option String) (existing : Option Dict) : String :=
  (source <|> existing.map fun record => (Etcd.field record "source" (.str "")).toStr).getD ""

@[inherit_doc keptSource]
def keptLabels (labels : Option Dict) (existing : Option Dict) : Dict :=
  (labels <|> existing.map fun record => storedLabels (Dict.get record "labels")).getD []

def registerAppCall
    (manifest : Manifest) (source : Option String) (labels : Option Dict)
    (expected : Option Int) : RegistryProgram Outcome := do
  let key := appKey root manifest.appName
  let existing ← requestJson key
  let now ← readTime
  writeExpecting manifest.appName key
    [("app_name", .str manifest.appName), ("spec", manifest.spec),
      ("spec_hash", .str manifest.specHash), ("source", .str (keptSource source existing.1)),
      ("labels", .dict (keptLabels labels existing.1)), ("updated_at", .str (Py.isoformat now))]
    expected

def registerAuthorityObjectCall
    (key : ObjectKey) (content : ObjectContent)
    (expected : Option Int) : RegistryProgram Outcome := do
  let now ← readTime
  writeExpecting (conflictKey key) (authorityKey root key)
    [("group", .str key.group), ("version", .str key.version),
      ("resource", .str key.resource), ("namespace", .str key.namespaceKey),
      ("name", .str key.name), ("kind", .str content.kind),
      ("metadata", .dict content.metadata), ("spec", .dict content.spec),
      ("status", .dict content.status), ("updated_at", .str (Py.isoformat now))]
    expected

inductive RegistryCall
  | registerApp (manifest : Manifest) (source : Option String) (labels : Option Dict)
      (expected : Option Int)
  | deleteRegisteredApp (appName : String) (expected : Option Int)
  | registerAuthorityObject (key : ObjectKey) (content : ObjectContent) (expected : Option Int)
  | deleteAuthorityObject (key : ObjectKey) (expected : Option Int)

namespace RegistryCall

def key : RegistryCall → Key
  | .registerApp manifest _ _ _ => appKey root manifest.appName
  | .deleteRegisteredApp appName _ => appKey root appName
  | .registerAuthorityObject key _ _ => authorityKey root key
  | .deleteAuthorityObject key _ => authorityKey root key

/-- The version that the call presents. -/
def expected : RegistryCall → Option Int
  | .registerApp _ _ _ expected => expected
  | .deleteRegisteredApp _ expected => expected
  | .registerAuthorityObject _ _ expected => expected
  | .deleteAuthorityObject _ expected => expected

def program : RegistryCall → RegistryProgram Outcome
  | .registerApp manifest source labels expected =>
      registerAppCall root manifest source labels expected
  | .deleteRegisteredApp appName expected =>
      deleteExpecting appName (appKey root appName) expected
  | .registerAuthorityObject key content expected =>
      registerAuthorityObjectCall root key content expected
  | .deleteAuthorityObject key expected =>
      deleteExpecting (conflictKey key) (authorityKey root key) expected

end RegistryCall

/-- The calls of any number of controllers, with their common store. -/
abbrev Registrars := Crew RegistryWorld RegistryOp RegistryOp.Reply Outcome RegistryCall

/-- One action of the calls. -/
def Registrars.step (clock : Nat → Int) :
    Registrars → Program.PoolAction RegistryCall → Option Registrars :=
  Crew.step (RegistryWorld.execute clock) (RegistryCall.program root)

end Registry
end K1s
