import K1s.Lib.Machine
import K1s.Network.NatTable
import K1s.Py.Float

/-!
# The NAT rules of services

`IptablesProvider.update_service_endpoints` and `remove_service`, over the service
records of the store.  Each call edits the rules from the record as it finds it.

The main result is that the rules are those of the records that the calls have found, as
long as no call finds a record that has lost an address, a port or a protocol whose rules
are there, no record has a port under two protocols, and no two ports share a chain.
-/

namespace K1s
namespace Network

open Py Machine

/-! ## Service records -/

/-- `ServiceRecord` of an app. -/
structure ServiceRecord where
  clusterIp : String
  ports : Dict
  deriving DecidableEq

def portOfEntry (entry : Json) : Option (Int × String) := do
  let fields ← entry.asDict
  let port ← (Dict.get fields "port").toInt
  let proto := lower ((Dict.get fields "protocol").or (.str "TCP")).toStr
  return (port, if proto = "tcp" ∨ proto = "udp" then proto else "tcp")

/-- The recorded ports, with `none` for an exception. -/
def recordedPorts (ports : Dict) : Option (List (Int × String)) :=
  (((Dict.find? ports "ports").getD (.list [])).or (.list [])).iterate.map
    (List.filterMap portOfEntry)

/-- `_ports_from_record`, with `none` for an exception. -/
def portsFromRecord (ports : Dict) : Option (Dictionary Int String) :=
  (recordedPorts ports).map Dictionary.ofList

/-! ## The provider -/

/-- The settings of the provider: its base chain, the digest in the names of the other
chains, whether `iptables` can be used, and which rules it takes. -/
structure Provider where
  chainBase : String
  digest : String → String
  available : Bool
  checks : RuleChecks

/-- `backends_by_port`. -/
abbrev Backends := Dictionary Int (List (String × Int))

namespace Provider

variable (provider : Provider)

def svcChain (appName : String) (port : Int) : String :=
  provider.chainBase ++ "-" ++ provider.digest (appName ++ ":" ++ toString port)

def jump (appName clusterIp : String) (port : Int × String) : JumpRule where
  dest := clusterIp ++ "/32"
  dport := port.1
  proto := port.2
  target := provider.svcChain appName port.1

end Provider

/-- The rules of `_add_backend_rules`: each backend but the last is chosen with the
probability of one in those that are left. -/
def backendRules (proto : String) : List (String × Int) → List BackendRule
  | [] => []
  | [(host, port)] => [⟨proto, none, host, port⟩]
  | (host, port) :: rest =>
      ⟨proto, some (divRound 100000 (rest.length + 1)), host, port⟩ :: backendRules proto rest

namespace Provider

variable (provider : Provider)

def backendsOf (backends : Backends) (port : Int × String) : List BackendRule :=
  backendRules port.2 ((backends.find? port.1).getD [])

/-- The commands of `update_service_endpoints` for a port. -/
def updatePort (appName clusterIp : String) (backends : Backends) (table : NatTable)
    (port : Int × String) : NatTable :=
  let chain := provider.svcChain appName port.1
  (backendsOf backends port).foldl (fun table rule => table.appendBackend provider.checks chain rule)
    (((table.ensureChain chain).ensureJump provider.checks
      (provider.jump appName clusterIp port)).flushChain chain)

/-- The commands of `remove_service` for a port. -/
def removePort (appName clusterIp : String) (table : NatTable) (port : Int × String) : NatTable :=
  (table.deleteJump (provider.jump appName clusterIp port)).deleteChain
    (provider.svcChain appName port.1)

/-- The address and the ports that a call works on, if it does anything. -/
def workOn (record : Option ServiceRecord) : Option (String × List (Int × String)) :=
  if provider.available then
    record.bind fun record =>
      (portsFromRecord record.ports).map fun ports => (record.clusterIp, ports.entries)
  else none

/-- `update_service_endpoints`, for the record that `get_service` returns. -/
def updateServiceEndpoints (record : Option ServiceRecord) (appName : String)
    (backends : Backends) (table : NatTable) : NatTable :=
  match provider.workOn record with
  | none | some (_, []) => table
  | some (clusterIp, ports) =>
      ports.foldl (provider.updatePort appName clusterIp backends) table.ensureBase

/-- `remove_service`, for the record that `get_service` returns. -/
def removeService (record : Option ServiceRecord) (appName : String) (table : NatTable) :
    NatTable :=
  match provider.workOn record with
  | none => table
  | some (clusterIp, ports) => ports.foldl (provider.removePort appName clusterIp) table

end Provider

/-! ## Runs -/

/-- The record of a service as a call has found it, with the backends of the call. -/
structure SyncedService where
  clusterIp : String
  ports : List (Int × String)
  backends : Backends

/-- What a record asks for. -/
def ServiceRecord.synced (record : ServiceRecord) (backends : Backends) : SyncedService where
  clusterIp := record.clusterIp
  ports := (recordedPorts record.ports).getD []
  backends := backends

/-- The records, the rules, and the services as their last calls have found them. -/
structure NatWorld where
  records : String → Option ServiceRecord
  table : NatTable
  synced : String → Option SyncedService

/-- A record is written or deleted, or the provider is called.  The store may fail. -/
inductive NatAction
  | record (appName : String) (record : Option ServiceRecord)
  | update (appName : String) (backends : Backends) (readFails : Bool)
  | remove (appName : String) (readFails : Bool)

namespace NatWorld

variable (provider : Provider) (world : NatWorld)

/-- What `get_service` returns, with `None` for an exception. -/
def getService (appName : String) (readFails : Bool) : Option ServiceRecord :=
  if readFails then none else world.records appName

def step (world : NatWorld) : NatAction → Option NatWorld
  | .record appName record =>
      some { world with records := Function.update world.records appName record }
  | .update appName backends readFails =>
      some { world with
        table := provider.updateServiceEndpoints (world.getService appName readFails) appName
          backends world.table
        synced := Function.update world.synced appName
          ((world.records appName).map fun record => record.synced backends) }
  | .remove appName readFails =>
      some { world with
        table := provider.removeService (world.getService appName readFails) appName world.table
        synced := Function.update world.synced appName none }

end NatWorld

def Recorded (synced : String → Option SyncedService) (appName : String)
    (service : SyncedService) (port : Int × String) : Prop :=
  synced appName = some service ∧ port ∈ service.ports

/-- The rules are those of the services: one jump for every recorded address, port and
protocol to a chain of the backends of the port, and no other jump or chain. -/
structure Exact (provider : Provider) (synced : String → Option SyncedService)
    (table : NatTable) : Prop where
  once : table.jumps.Nodup
  jumps : ∀ rule, rule ∈ table.jumps ↔
    ∃ appName service port, Recorded synced appName service port ∧
      rule = provider.jump appName service.clusterIp port
  chains : ∀ appName service port, Recorded synced appName service port →
    table.chains.find? (provider.svcChain appName port.1) =
      some (Provider.backendsOf service.backends port)
  noMore : ∀ name, (table.chains.find? name).isSome →
    ∃ appName service port, Recorded synced appName service port ∧
      name = provider.svcChain appName port.1

/-! ## The commands for one port -/

namespace Provider

variable (provider : Provider) {appName clusterIp : String} {backends : Backends}

/-- `iptables` takes the rules of a port. -/
structure Accepts (appName clusterIp : String) (backends : Backends) (port : Int × String) :
    Prop where
  jump : provider.checks.jump (provider.jump appName clusterIp port)
  backends : ∀ rule ∈ backendsOf backends port, provider.checks.backend rule

variable {provider}

theorem base_appendBackends (rules : List BackendRule) (name : String) (table : NatTable) :
    (rules.foldl (fun table rule => table.appendBackend provider.checks name rule) table).base =
      table.base := by
  induction rules generalizing table with
  | nil => rfl
  | cons rule rest ih =>
      rw [List.foldl_cons, ih, NatTable.base_appendBackend]

theorem find?_appendBackends
    {rules : List BackendRule} (accepted : ∀ rule ∈ rules, provider.checks.backend rule)
    (name other : String) (table : NatTable) :
    (rules.foldl (fun table rule => table.appendBackend provider.checks name rule)
        table).chains.find? other =
      if name = other then (table.chains.find? name).map fun present => present ++ rules else
        table.chains.find? other := by
  induction rules generalizing table with
  | nil =>
      split
      · next same =>
          subst same
          simp only [List.foldl_nil, List.append_nil, Option.map_id_fun', id]
      · rfl
  | cons rule rest ih =>
      have first := accepted rule List.mem_cons_self
      rw [List.foldl_cons,
        ih fun rule listed => accepted rule (List.mem_cons_of_mem _ listed)]
      split
      · rw [NatTable.find?_appendBackend _ _ _ _ first, if_pos rfl, Option.map_map]
        congr 1
        funext present
        rw [Function.comp_apply, List.append_assoc, List.singleton_append]
      · next different => rw [NatTable.find?_appendBackend _ _ _ _ first, if_neg different]

theorem base_updatePort
    {table : NatTable} (ready : table.base.isSome) (port : Int × String) :
    (provider.updatePort appName clusterIp backends table port).base.isSome := by
  unfold updatePort
  dsimp only
  rw [base_appendBackends, NatTable.base_flushChain]
  exact NatTable.base_ensureJump _ _ _ ready

theorem jumps_updatePort
    {table : NatTable} (ready : table.base.isSome) {port : Int × String}
    (accepts : provider.Accepts appName clusterIp backends port) :
    (provider.updatePort appName clusterIp backends table port).jumps =
      if provider.jump appName clusterIp port ∈ table.jumps then table.jumps
      else table.jumps ++ [provider.jump appName clusterIp port] := by
  have target : ((table.ensureChain (provider.svcChain appName port.1)).chains.find?
      (provider.jump appName clusterIp port).target).isSome := by
    rw [NatTable.find?_ensureChain, jump, if_pos rfl]
    rfl
  unfold updatePort
  dsimp only
  rw [NatTable.jumps, base_appendBackends, NatTable.base_flushChain, ← NatTable.jumps,
    NatTable.jumps_ensureJump _ (table.ensureChain _) ready accepts.jump target, NatTable.jumps_ensureChain]

theorem find?_updatePort
    (table : NatTable) {port : Int × String}
    (accepts : provider.Accepts appName clusterIp backends port) (name : String) :
    (provider.updatePort appName clusterIp backends table port).chains.find? name =
      if provider.svcChain appName port.1 = name then some (backendsOf backends port) else
        table.chains.find? name := by
  unfold updatePort
  dsimp only
  rw [find?_appendBackends accepts.backends]
  split
  · rw [NatTable.find?_flushChain, if_pos rfl, NatTable.chains_ensureJump,
      NatTable.find?_ensureChain, if_pos rfl]
    rfl
  · next different =>
      rw [NatTable.find?_flushChain, if_neg different, NatTable.chains_ensureJump,
        NatTable.find?_ensureChain, if_neg different]

/-! ## Whole calls -/

theorem jumps_updatePorts
    {ports : List (Int × String)}
    (accepts : ∀ port ∈ ports, provider.Accepts appName clusterIp backends port)
    {table : NatTable} (ready : table.base.isSome) (once : table.jumps.Nodup) :
    (ports.foldl (provider.updatePort appName clusterIp backends) table).jumps.Nodup ∧
      ∀ rule, rule ∈ (ports.foldl (provider.updatePort appName clusterIp backends) table).jumps ↔
        rule ∈ table.jumps ∨ ∃ port ∈ ports, rule = provider.jump appName clusterIp port := by
  induction ports generalizing table with
  | nil =>
      refine ⟨once, fun rule => ?_⟩
      simp only [List.foldl_nil, List.not_mem_nil, false_and, exists_false, or_false]
  | cons port rest ih =>
      have jumps := jumps_updatePort ready (accepts port List.mem_cons_self)
      have onceAfter : (provider.updatePort appName clusterIp backends table port).jumps.Nodup := by
        rw [jumps]
        split
        · exact once
        · next absent =>
            refine List.nodup_append.mpr ⟨once, List.nodup_singleton _, ?_⟩
            intro rule listed other isNew same
            exact absent (List.mem_singleton.mp isNew ▸ same ▸ listed)
      have member : ∀ rule,
          rule ∈ (provider.updatePort appName clusterIp backends table port).jumps ↔
            rule ∈ table.jumps ∨ rule = provider.jump appName clusterIp port := by
        intro rule
        rw [jumps]
        split
        · next present =>
            constructor
            · exact .inl
            · rintro (listed | rfl)
              · exact listed
              · exact present
        · rw [List.mem_append, List.mem_singleton]
      obtain ⟨nodup, members⟩ := ih
        (fun port listed => accepts port (List.mem_cons_of_mem _ listed))
        (base_updatePort ready port) onceAfter
      refine ⟨nodup, fun rule => ?_⟩
      rw [List.foldl_cons, members, member, List.exists_mem_cons_iff, or_assoc]

/-- A chain of none of the ports stays as it is. -/
theorem find?_updatePorts_other
    {ports : List (Int × String)}
    (accepts : ∀ port ∈ ports, provider.Accepts appName clusterIp backends port)
    {name : String} (other : ∀ port ∈ ports, provider.svcChain appName port.1 ≠ name)
    (table : NatTable) :
    (ports.foldl (provider.updatePort appName clusterIp backends) table).chains.find? name =
      table.chains.find? name := by
  induction ports generalizing table with
  | nil => rfl
  | cons port rest ih =>
      rw [List.foldl_cons,
        ih (fun port listed => accepts port (List.mem_cons_of_mem _ listed))
          (fun port listed => other port (List.mem_cons_of_mem _ listed)),
        find?_updatePort _ (accepts port List.mem_cons_self),
        if_neg (other port List.mem_cons_self)]

def OwnChains (provider : Provider) (appName : String) (ports : List (Int × String)) : Prop :=
  ports.Pairwise fun first second =>
    provider.svcChain appName first.1 ≠ provider.svcChain appName second.1

theorem OwnChains.eq_of_same
    {ports : List (Int × String)} (own : provider.OwnChains appName ports)
    {first second : Int × String} (isFirst : first ∈ ports) (isSecond : second ∈ ports)
    (same : provider.svcChain appName first.1 = provider.svcChain appName second.1) :
    first = second := by
  by_contra different
  have symmetric : Std.Symm fun first second : Int × String =>
      provider.svcChain appName first.1 ≠ provider.svcChain appName second.1 :=
    ⟨fun _ _ apart => apart.symm⟩
  exact List.Pairwise.forall own isFirst isSecond different same

theorem find?_updatePorts
    {ports : List (Int × String)}
    (accepts : ∀ port ∈ ports, provider.Accepts appName clusterIp backends port)
    (own : provider.OwnChains appName ports) {port : Int × String} (listed : port ∈ ports)
    (table : NatTable) :
    (ports.foldl (provider.updatePort appName clusterIp backends) table).chains.find?
      (provider.svcChain appName port.1) = some (backendsOf backends port) := by
  induction ports generalizing table with
  | nil => cases listed
  | cons first rest ih =>
      obtain ⟨apart, own⟩ := List.pairwise_cons.mp own
      have acceptsRest : ∀ port ∈ rest, provider.Accepts appName clusterIp backends port :=
        fun port listed => accepts port (List.mem_cons_of_mem _ listed)
      rw [List.foldl_cons]
      rcases List.mem_cons.mp listed with rfl | later
      · rw [find?_updatePorts_other acceptsRest fun other listed => (apart other listed).symm,
          find?_updatePort _ (accepts port List.mem_cons_self), if_pos rfl]
      · exact ih acceptsRest own later _

/-- The ports are removed one after another, when only their own jumps lead to their
chains. -/
theorem removePorts
    {ports : List (Int × String)} {table : NatTable} (once : table.jumps.Nodup)
    (own : ∀ port ∈ ports, ∀ rule ∈ table.jumps, rule.target = provider.svcChain appName port.1 →
        rule = provider.jump appName clusterIp port) :
    (ports.foldl (provider.removePort appName clusterIp) table).jumps.Nodup ∧
      (∀ rule, rule ∈ (ports.foldl (provider.removePort appName clusterIp) table).jumps ↔
        rule ∈ table.jumps ∧ ∀ port ∈ ports, rule ≠ provider.jump appName clusterIp port) ∧
      ∀ name, (ports.foldl (provider.removePort appName clusterIp) table).chains.find? name =
        if ∃ port ∈ ports, provider.svcChain appName port.1 = name then none else
          table.chains.find? name := by
  induction ports generalizing table with
  | nil =>
      refine ⟨once, fun rule => ?_, fun name => ?_⟩
      · simp only [List.foldl_nil, List.not_mem_nil, false_imp_iff, implies_true, and_true]
      · simp only [List.foldl_nil, List.not_mem_nil, false_and, exists_false, if_false]
  | cons port rest ih =>
      have jumps : (provider.removePort appName clusterIp table port).jumps =
          table.jumps.erase (provider.jump appName clusterIp port) := by
        rw [removePort, NatTable.jumps_deleteChain, NatTable.jumps_deleteJump]
      have free : ∀ rule ∈ (table.deleteJump (provider.jump appName clusterIp port)).jumps,
          rule.target ≠ provider.svcChain appName port.1 := by
        intro rule listed target
        rw [NatTable.jumps_deleteJump] at listed
        obtain ⟨different, listed⟩ := once.mem_erase_iff.mp listed
        exact different (own port List.mem_cons_self rule listed target)
      have chains : ∀ name, (provider.removePort appName clusterIp table port).chains.find? name =
          if provider.svcChain appName port.1 = name then none else table.chains.find? name :=
        fun name => NatTable.find?_deleteChain _ free name
      obtain ⟨nodup, members, finds⟩ := ih
        (jumps ▸ once.erase _ : (provider.removePort appName clusterIp table port).jumps.Nodup)
        (fun port listed rule present => by
          rw [jumps] at present
          exact own port (List.mem_cons_of_mem _ listed) rule (List.mem_of_mem_erase present))
      refine ⟨nodup, fun rule => ?_, fun name => ?_⟩
      · rw [List.foldl_cons, members, jumps, once.mem_erase_iff, List.forall_mem_cons]
        constructor
        · exact fun ⟨⟨different, present⟩, others⟩ => ⟨present, different, others⟩
        · exact fun ⟨present, different, others⟩ => ⟨⟨different, present⟩, others⟩
      · rw [List.foldl_cons, finds, chains]
        by_cases later : ∃ port ∈ rest, provider.svcChain appName port.1 = name
        · rw [if_pos later]
          obtain ⟨other, listed, same⟩ := later
          rw [if_pos ⟨other, List.mem_cons_of_mem _ listed, same⟩]
        · rw [if_neg later]
          split
          · next same => rw [if_pos ⟨port, List.mem_cons_self, same⟩]
          · next different =>
              rw [if_neg]
              rintro ⟨other, listed, same⟩
              rcases List.mem_cons.mp listed with rfl | listed
              · exact different same
              · exact later ⟨other, listed, same⟩

end Provider

/-! ## The condition -/

def portsOf (service : Option SyncedService) : List (Int × String) :=
  (service.map SyncedService.ports).getD []

def ApartFrom (provider : Provider) (synced : String → Option SyncedService) (appName : String)
    (port : Int) : Prop :=
  ∀ otherName service other, otherName ≠ appName → Recorded synced otherName service other →
    provider.svcChain appName port ≠ provider.svcChain otherName other.1

/-- A call that works on an address and ports, while the rules of the last call of the
service are there: it works on every port of these under the same address, and no port
shares its chain. -/
structure Covers (provider : Provider) (synced : String → Option SyncedService)
    (appName clusterIp : String) (ports : List (Int × String)) : Prop where
  kept : ∀ service port, Recorded synced appName service port →
    service.clusterIp = clusterIp ∧ port ∈ ports
  own : provider.OwnChains appName ports
  apart : ∀ port ∈ ports, ApartFrom provider synced appName port.1

namespace NatWorld

/-- A call covers what is there, and an update covers all that is recorded, in rules that
`iptables` takes.  A call that does nothing has nothing to do. -/
def Permits (provider : Provider) (world : NatWorld) : NatAction → Prop
  | .record _ _ => True
  | .update appName backends readFails =>
      match provider.workOn (world.getService appName readFails) with
      | none | some (_, []) =>
          portsOf (world.synced appName) = [] ∧
            portsOf ((world.records appName).map fun record => record.synced backends) = []
      | some (clusterIp, ports) =>
          Covers provider world.synced appName clusterIp ports ∧
          (∀ port ∈ portsOf ((world.records appName).map fun record => record.synced backends),
            port ∈ ports) ∧
          ∀ port ∈ ports, provider.Accepts appName clusterIp backends port
  | .remove appName readFails =>
      match provider.workOn (world.getService appName readFails) with
      | none => portsOf (world.synced appName) = []
      | some (clusterIp, ports) => Covers provider world.synced appName clusterIp ports

/-- After the step the rules are those of the services. -/
def RulesExact (provider : Provider) (world : NatWorld) (action : NatAction) : Prop :=
  ∀ next, world.step provider action = some next → Exact provider next.synced next.table

end NatWorld

/-! ## One call -/

/-- What a dictionary holds is among the pairs that it is made of. -/
theorem mem_of_mem_ofList
    {κ ν : Type} [DecidableEq κ] {pairs : List (κ × ν)} {pair : κ × ν}
    (listed : pair ∈ (Dictionary.ofList pairs).entries) : pair ∈ pairs := by
  have general : ∀ (pairs : List (κ × ν)) (start : Dictionary κ ν),
      (pairs.foldl (fun dictionary pair => dictionary.set pair.1 pair.2) start).find? pair.1 =
        some pair.2 → pair ∈ pairs ∨ start.find? pair.1 = some pair.2 := by
    intro pairs
    induction pairs with
    | nil => exact fun _ found => .inr found
    | cons first rest ih =>
        intro start found
        rcases ih _ found with later | now
        · exact .inl (List.mem_cons_of_mem _ later)
        · rw [Dictionary.find?_set] at now
          split at now
          · next same =>
              refine .inl (List.mem_cons.mpr (.inl ?_))
              exact Prod.ext same.symm (Option.some.inj now).symm
          · exact .inr now
  rcases general pairs .empty ((Dictionary.find?_eq_some_iff _ pair.1 pair.2).mpr listed) with
    found | absent
  · exact found
  · rw [Dictionary.find?_empty] at absent
    cases absent

theorem Provider.workOn_eq_some
    {provider : Provider} {record : Option ServiceRecord} {clusterIp : String}
    {ports : List (Int × String)} (works : provider.workOn record = some (clusterIp, ports)) :
    ∃ present, record = some present ∧ present.clusterIp = clusterIp ∧
      ∀ (backends : Backends) port, port ∈ ports → port ∈ (present.synced backends).ports := by
  unfold workOn at works
  split at works
  · obtain ⟨present, isPresent, works⟩ := Option.bind_eq_some_iff.mp works
    obtain ⟨dictionary, parsed, works⟩ := Option.map_eq_some_iff.mp works
    obtain ⟨listed, isListed, rfl⟩ := Option.map_eq_some_iff.mp parsed
    obtain ⟨rfl, rfl⟩ := Prod.mk.inj works
    refine ⟨present, isPresent, rfl, fun backends port member => ?_⟩
    rw [ServiceRecord.synced, isListed, Option.getD_some]
    exact mem_of_mem_ofList member
  · cases works

section

variable {provider : Provider} {synced : String → Option SyncedService} {table : NatTable}
variable {appName clusterIp : String} {ports : List (Int × String)}

theorem recorded_update_of_ne
    {otherName : String} (different : otherName ≠ appName) (new : Option SyncedService)
    (service : SyncedService) (port : Int × String) :
    Recorded (Function.update synced appName new) otherName service port ↔
      Recorded synced otherName service port := by
  rw [Recorded, Function.update_of_ne different, Recorded]

theorem recorded_update_self
    (new : Option SyncedService) (service : SyncedService) (port : Int × String) :
    Recorded (Function.update synced appName new) appName service port ↔
      new = some service ∧ port ∈ service.ports := by
  rw [Recorded, Function.update_self]

theorem not_recorded_of_portsOf
    (none : portsOf (synced appName) = []) (service : SyncedService)
    (port : Int × String) : ¬ Recorded synced appName service port := by
  rintro ⟨isService, listed⟩
  rw [isService, portsOf, Option.map_some, Option.getD_some] at none
  rw [none] at listed
  cases listed

/-- A call that has nothing to do and does nothing. -/
theorem Exact.untouched
    (exact : Exact provider synced table) (before : portsOf (synced appName) = [])
    {new : Option SyncedService} (after : portsOf new = []) :
    Exact provider (Function.update synced appName new) table := by
  have same : ∀ otherName service port,
      Recorded (Function.update synced appName new) otherName service port ↔
        Recorded synced otherName service port := by
    intro otherName service port
    rcases eq_or_ne otherName appName with rfl | different
    · refine iff_of_false ?_ (not_recorded_of_portsOf before service port)
      refine not_recorded_of_portsOf ?_ service port
      rwa [Function.update_self]
    · exact recorded_update_of_ne different new service port
  refine ⟨exact.once, fun rule => ?_, fun otherName service port recorded => ?_,
    fun name present => ?_⟩
  · rw [exact.jumps]
    simp only [same]
  · exact exact.chains otherName service port ((same _ _ _).mp recorded)
  · obtain ⟨otherName, service, port, recorded, rfl⟩ := exact.noMore name present
    exact ⟨otherName, service, port, (same _ _ _).mpr recorded, rfl⟩

theorem Exact.updated
    (exact : Exact provider synced table)
    (covers : Covers provider synced appName clusterIp ports) {service : SyncedService}
    (sameIp : service.clusterIp = clusterIp)
    (samePorts : ∀ port, port ∈ ports ↔ port ∈ service.ports)
    (accepts : ∀ port ∈ ports, provider.Accepts appName clusterIp service.backends port) :
    Exact provider (Function.update synced appName (some service))
      (ports.foldl (provider.updatePort appName clusterIp service.backends) table.ensureBase) := by
  subst sameIp
  have isNew : ∀ port ∈ ports,
      Recorded (Function.update synced appName (some service)) appName service port :=
    fun port listed => (recorded_update_self _ _ _).mpr ⟨rfl, (samePorts port).mp listed⟩
  -- What was recorded before the call still is, under the same address.
  have onward : ∀ otherName old port, Recorded synced otherName old port →
      ∃ new, Recorded (Function.update synced appName (some service)) otherName new port ∧
        new.clusterIp = old.clusterIp := by
    intro otherName old port recorded
    rcases eq_or_ne otherName appName with rfl | different
    · obtain ⟨same, listed⟩ := covers.kept old port recorded
      exact ⟨service, isNew port listed, same.symm⟩
    · exact ⟨old, (recorded_update_of_ne different _ _ _).mpr recorded, rfl⟩
  obtain ⟨once, members⟩ := Provider.jumps_updatePorts accepts
    (show table.ensureBase.base.isSome from rfl) exact.once
  refine ⟨once, fun rule => ?_, fun otherName new port recorded => ?_, fun name present => ?_⟩
  · rw [members, NatTable.jumps_ensureBase, exact.jumps]
    constructor
    · rintro (⟨otherName, old, port, recorded, rfl⟩ | ⟨port, listed, rfl⟩)
      · obtain ⟨new, recorded, sameIp⟩ := onward otherName old port recorded
        exact ⟨otherName, new, port, recorded, by rw [sameIp]⟩
      · exact ⟨appName, service, port, isNew port listed, rfl⟩
    · rintro ⟨otherName, new, port, recorded, rfl⟩
      rcases eq_or_ne otherName appName with rfl | different
      · obtain ⟨isService, listed⟩ := (recorded_update_self _ _ _).mp recorded
        obtain rfl := Option.some.inj isService
        exact .inr ⟨port, (samePorts port).mpr listed, rfl⟩
      · exact .inl ⟨otherName, new, port, (recorded_update_of_ne different _ _ _).mp recorded, rfl⟩
  · rcases eq_or_ne otherName appName with rfl | different
    · obtain ⟨isService, listed⟩ := (recorded_update_self _ _ _).mp recorded
      obtain rfl := Option.some.inj isService
      exact Provider.find?_updatePorts accepts covers.own ((samePorts port).mpr listed) _
    · have recorded := (recorded_update_of_ne different _ _ _).mp recorded
      rw [Provider.find?_updatePorts_other accepts fun mine listed =>
        covers.apart mine listed otherName new port different recorded]
      exact exact.chains otherName new port recorded
  · by_cases mine : ∃ port ∈ ports, provider.svcChain appName port.1 = name
    · obtain ⟨port, listed, rfl⟩ := mine
      exact ⟨appName, service, port, isNew port listed, rfl⟩
    · rw [Provider.find?_updatePorts_other accepts fun port listed same =>
        mine ⟨port, listed, same⟩] at present
      obtain ⟨otherName, old, port, recorded, rfl⟩ := exact.noMore name present
      obtain ⟨new, recorded, -⟩ := onward otherName old port recorded
      exact ⟨otherName, new, port, recorded, rfl⟩

theorem Exact.removed
    (exact : Exact provider synced table)
    (covers : Covers provider synced appName clusterIp ports) :
    Exact provider (Function.update synced appName none)
      (ports.foldl (provider.removePort appName clusterIp) table) := by
  have gone : ∀ service port,
      ¬ Recorded (Function.update synced appName none) appName service port := by
    intro service port recorded
    cases ((recorded_update_self _ _ _).mp recorded).1
  have own : ∀ port ∈ ports, ∀ rule ∈ table.jumps, rule.target = provider.svcChain appName port.1 →
        rule = provider.jump appName clusterIp port := by
    intro port listed rule present target
    obtain ⟨otherName, service, other, recorded, rfl⟩ := (exact.jumps rule).mp present
    rcases eq_or_ne otherName appName with rfl | different
    · obtain ⟨rfl, otherListed⟩ := covers.kept service other recorded
      rw [covers.own.eq_of_same listed otherListed target.symm]
    · exact absurd target.symm (covers.apart port listed otherName service other different recorded)
  obtain ⟨once, members, finds⟩ := Provider.removePorts exact.once own
  refine ⟨once, fun rule => ?_, fun otherName service port recorded => ?_,
    fun name present => ?_⟩
  · rw [members, exact.jumps]
    constructor
    · rintro ⟨⟨otherName, service, port, recorded, rfl⟩, others⟩
      rcases eq_or_ne otherName appName with rfl | different
      · obtain ⟨rfl, listed⟩ := covers.kept service port recorded
        exact absurd rfl (others port listed)
      · exact ⟨otherName, service, port, (recorded_update_of_ne different _ _ _).mpr recorded, rfl⟩
    · rintro ⟨otherName, service, port, recorded, rfl⟩
      rcases eq_or_ne otherName appName with rfl | different
      · exact absurd recorded (gone service port)
      · have recorded := (recorded_update_of_ne different _ _ _).mp recorded
        refine ⟨⟨otherName, service, port, recorded, rfl⟩, fun mine listed same => ?_⟩
        exact covers.apart mine listed otherName service port different recorded
          (congrArg JumpRule.target same).symm
  · rcases eq_or_ne otherName appName with rfl | different
    · exact absurd recorded (gone service port)
    · have recorded := (recorded_update_of_ne different _ _ _).mp recorded
      rw [finds, if_neg]
      · exact exact.chains otherName service port recorded
      · rintro ⟨mine, listed, same⟩
        exact covers.apart mine listed otherName service port different recorded same
  · rw [finds] at present
    split at present
    · cases present
    · next others =>
        obtain ⟨otherName, service, port, recorded, rfl⟩ := exact.noMore name present
        rcases eq_or_ne otherName appName with rfl | different
        · exact absurd ⟨port, (covers.kept service port recorded).2, rfl⟩ others
        · exact ⟨otherName, service, port, (recorded_update_of_ne different _ _ _).mpr recorded,
            rfl⟩

end

/-! ## Whole runs -/

namespace NatWorld

variable {provider : Provider} {world next : NatWorld}

theorem records_of_getService
    {appName : String} {readFails : Bool} {record : ServiceRecord}
    (read : world.getService appName readFails = some record) :
    world.records appName = some record := by
  unfold getService at read
  split at read
  · cases read
  · exact read

/-- A permitted call keeps the rules exact. -/
theorem exact_step
    {action : NatAction} (exact : Exact provider world.synced world.table)
    (permits : world.Permits provider action) (stepped : world.step provider action = some next) :
    Exact provider next.synced next.table := by
  cases action with
  | record appName record =>
      obtain rfl := Option.some.inj stepped
      exact exact
  | update appName backends readFails =>
      obtain rfl := Option.some.inj stepped
      unfold Permits at permits
      change Exact provider _ (provider.updateServiceEndpoints _ _ _ _)
      unfold Provider.updateServiceEndpoints
      cases work : provider.workOn (world.getService appName readFails) with
      | none =>
          simp only [work] at permits
          exact exact.untouched permits.1 permits.2
      | some working =>
          obtain ⟨clusterIp, ports⟩ := working
          cases ports with
          | nil =>
              simp only [work] at permits
              exact exact.untouched permits.1 permits.2
          | cons first rest =>
              simp only [work] at permits
              obtain ⟨covers, complete, accepts⟩ := permits
              obtain ⟨record, read, sameIp, sound⟩ := Provider.workOn_eq_some work
              rw [records_of_getService read] at complete ⊢
              exact exact.updated covers sameIp
                (fun port => ⟨sound backends port, complete port⟩) accepts
  | remove appName readFails =>
      obtain rfl := Option.some.inj stepped
      unfold Permits at permits
      change Exact provider _ (provider.removeService _ _ _)
      unfold Provider.removeService
      cases work : provider.workOn (world.getService appName readFails) with
      | none =>
          simp only [work] at permits
          exact exact.untouched permits rfl
      | some working =>
          simp only [work] at permits
          exact exact.removed permits

/-- The records of the store, before the first call. -/
def before (records : String → Option ServiceRecord) : NatWorld :=
  ⟨records, ⟨none, .empty⟩, fun _ => none⟩

theorem exact_before (records : String → Option ServiceRecord) :
    Exact provider (before records).synced (before records).table where
  once := List.nodup_nil
  jumps rule := by
    refine iff_of_false List.not_mem_nil ?_
    rintro ⟨appName, service, port, ⟨recorded, -⟩, -⟩
    cases recorded
  chains _ _ _ recorded := nomatch recorded.1
  noMore _ present := nomatch present

variable (provider) in
/-- In a run of permitted calls the rules are those of the services as their last calls
have found them. -/
theorem rulesExact_along
    (records : String → Option ServiceRecord) (actions : List NatAction)
    (permits : Along (step provider) (Permits provider) (before records) actions) :
    Along (step provider) (RulesExact provider) (before records) actions :=
  along_of_invariant (fun _ _ _ exact permits stepped => exact_step exact permits stepped)
    (fun _ _ exact permits _ stepped => exact_step exact permits stepped)
    (exact_before records) permits

/-- A provider on a machine where `iptables` takes every rule, with the digests of two
ports. -/
def plainProvider : Provider where
  chainBase := "AE-SVC"
  digest text := if text = "web:80" then "630bb7ee" else if text = "web:81" then "5a8633cd" else text
  available := true
  checks := ⟨fun _ => true, fun _ => true⟩

def onPort (port : Int) : ServiceRecord where
  clusterIp := "10.241.0.1"
  ports := [("ports", .list [.dict [("port", .int port), ("protocol", .str "TCP")]])]

def oneBackend (port : Int) : Backends := Dictionary.ofList [(port, [("10.0.0.7", 8080)])]

theorem workOn_onPort_eighty :
    plainProvider.workOn (some (onPort 80)) = some ("10.241.0.1", [(80, "tcp")]) := by
  decide +kernel

theorem rulesExact_oneUpdate :
    Along (step plainProvider) (RulesExact plainProvider) (before fun _ => some (onPort 80))
      [.update "web" (oneBackend 80) false] := by
  refine rulesExact_along plainProvider _ _ ⟨?_, fun _ _ => trivial⟩
  have read : (before fun _ => some (onPort 80)).getService "web" false = some (onPort 80) := rfl
  have recorded : ((onPort 80).synced (oneBackend 80)).ports = [(80, "tcp")] := by decide +kernel
  unfold Permits
  simp only [read, workOn_onPort_eighty]
  refine ⟨?_, fun port listed => ?_, fun _ _ => ⟨rfl, fun _ _ => rfl⟩⟩
  · constructor
    · intro service port none
      cases none.1
    · exact List.pairwise_singleton ..
    · intro port listed otherName service other different none
      cases none.1
  · exact recorded ▸ listed

/-- A service moves from one port to another. -/
theorem not_rulesExact_movedPort :
    ¬ Along (step plainProvider) (RulesExact plainProvider) (before fun _ => some (onPort 80))
      [.update "web" (oneBackend 80) false, .record "web" (some (onPort 81)),
        .update "web" (oneBackend 81) false] := by
  rintro ⟨-, along⟩
  obtain ⟨-, along⟩ := along _ rfl
  obtain ⟨exact, -⟩ := along _ rfl
  have exact := exact _ rfl
  obtain ⟨appName, service, port, ⟨isService, listed⟩, same⟩ :=
    (exact.jumps (plainProvider.jump "web" "10.241.0.1" (80, "tcp"))).mp (by decide +kernel)
  have recorded : ((onPort 81).synced (oneBackend 81)).ports = [(81, "tcp")] := by decide +kernel
  have samePort : (80 : Int) = port.1 := congrArg JumpRule.dport same
  rcases eq_or_ne appName "web" with rfl | different
  · obtain rfl := Option.some.inj isService
    rw [recorded] at listed
    rw [List.mem_singleton.mp listed] at samePort
    exact absurd samePort (by decide)
  · change Function.update (Function.update (fun _ => none) "web" _) "web" _ appName = _ at isService
    rw [Function.update_of_ne different, Function.update_of_ne different] at isService
    cases isService

end NatWorld

end Network
end K1s
