import K1s.Lib.Machine
import K1s.Py.IpAddress

/-!
# The addresses of services

`ensure_service` of the three providers, each call followed by the `upsert_service` of
its caller, over the services that are recorded.

`_allocate_ip` collects the recorded addresses in a block that suppresses exceptions, in
the order of the names.  The first record that is no address ends the collection, and the
addresses behind it are free to be given out again.  The main result is that calls keep
the services apart exactly when this never happens, and it never happens as long as all
that is recorded are addresses.
-/

namespace K1s
namespace Network

open Py Machine

/-! ## The recorded services -/

/-- The names and the cluster IPs of the services, in the order of `list_services`. -/
structure ServiceTable where
  entries : List (String × String)
  sorted : entries.Pairwise fun first second => first.1 < second.1

namespace ServiceTable

variable (table : ServiceTable)

/-- The cluster IP that `get_service` returns. -/
def clusterIp? (appName : String) : Option String :=
  (table.entries.find? fun entry => entry.1 = appName).map Prod.snd

def upsertService (appName clusterIp : String) : ServiceTable where
  entries :=
    table.entries.filter (fun entry => entry.1 < appName) ++
      (appName, clusterIp) :: table.entries.filter (fun entry => appName < entry.1)
  sorted := by
    rw [List.pairwise_append, List.pairwise_cons]
    refine ⟨table.sorted.filter _, ⟨fun entry later => ?_, table.sorted.filter _⟩,
      fun earlier before entry after => ?_⟩
    · simpa using List.of_mem_filter later
    · have isBefore : earlier.1 < appName := by simpa using List.of_mem_filter before
      rcases List.mem_cons.1 after with rfl | later
      · exact isBefore
      · have isAfter : appName < entry.1 := by simpa using List.of_mem_filter later
        exact isBefore.trans isAfter

end ServiceTable

/-! ## The allocation -/

/-- The addresses that are collected: those before the first record that is none. -/
def usedAddresses : List (String × String) → List IpAddress
  | [] => []
  | entry :: rest =>
      match ipAddress entry.2 with
      | none => []
      | some address => address :: usedAddresses rest

/-- The records that are left out: the first one that is no address, and those behind it. -/
def uncollected (entries : List (String × String)) : List (String × String) :=
  entries.dropWhile fun entry => (ipAddress entry.2).isSome

/-- The first host of a network that is not used. -/
def firstFree (network : IpNetwork) (used : List IpAddress) : Option IpAddress :=
  network.hosts.find? fun host => host ∉ used

/-- `_allocate_ip`, with `none` for an exception. -/
def allocateIp (serviceCidr : String) (table : ServiceTable) : Option String :=
  (ipNetwork serviceCidr).bind fun network =>
    (firstFree network (usedAddresses table.entries)).map IpAddress.toText

/-- A call of `ensure_service`.  The network and the proxy of the service can fail. -/
structure EnsureCall where
  appName : String
  wired : Bool

inductive ServiceProvider
  | iptables
  | docker
  | overlay
  deriving DecidableEq

/-- `ensure_service`, for a provider that wires each service or only new ones. -/
def ensureServiceWith (wiresAll : Bool) (serviceCidr : String) (table : ServiceTable)
    (call : EnsureCall) : Option String :=
  match table.clusterIp? call.appName with
  | some clusterIp => if wiresAll && !call.wired then none else some clusterIp
  | none =>
      (allocateIp serviceCidr table).bind fun clusterIp =>
        if call.wired then some clusterIp else none

namespace ServiceProvider

/-- `ensure_service` of each provider, with `none` for an exception. -/
def ensureService : ServiceProvider → String → ServiceTable → EnsureCall → Option String
  | .iptables => ensureServiceWith true
  | .docker => ensureServiceWith true
  | .overlay => ensureServiceWith false

/-- `ensure_service`, and `upsert_service` with what it returns. -/
def step (provider : ServiceProvider) (serviceCidr : String) (table : ServiceTable)
    (call : EnsureCall) : Option ServiceTable :=
  match provider.ensureService serviceCidr table call with
  | none => some table
  | some clusterIp => some (table.upsertService call.appName clusterIp)

/-- A new service has an address of the CIDR that no other service has, and the others
keep theirs. -/
def KeepsApart (provider : ServiceProvider) (serviceCidr : String) (table : ServiceTable)
    (call : EnsureCall) : Prop :=
  ∀ clusterIp ∈ provider.ensureService serviceCidr table call,
    match table.clusterIp? call.appName with
    | some recorded => clusterIp = recorded
    | none =>
        ∃ network ∈ ipNetwork serviceCidr, ∃ address ∈ ipAddress clusterIp,
          (address.version, address.value) ∈ network.addresses ∧
            ∀ entry ∈ table.entries, ipAddress entry.2 ≠ some address

end ServiceProvider

/-- Where a service is new, no host of the CIDR is the address of a record that is left
out, unless it is collected too or a host before it is not collected. -/
def HidesNothing (serviceCidr : String) (table : ServiceTable) (call : EnsureCall) : Prop :=
  table.clusterIp? call.appName = none → call.wired = true →
    ∀ network ∈ ipNetwork serviceCidr, ∀ entry ∈ uncollected table.entries,
      ∀ front host back, network.hosts = front ++ host :: back → ipAddress entry.2 = some host →
          host ∈ usedAddresses table.entries ∨
            ∃ earlier ∈ front, earlier ∉ usedAddresses table.entries

/-! ## The collection -/

variable {entries : List (String × String)} {entry : String × String}

/-- Every record is collected or left out. -/
theorem mem_usedAddresses_or_uncollected
    {address : IpAddress} (member : entry ∈ entries) (read : ipAddress entry.2 = some address) :
    address ∈ usedAddresses entries ∨ entry ∈ uncollected entries := by
  induction entries with
  | nil => cases member
  | cons first rest ih =>
      rw [usedAddresses, uncollected, List.dropWhile_cons]
      cases readFirst : ipAddress first.2 with
      | none => exact Or.inr (by simpa using member)
      | some found =>
          rcases List.mem_cons.1 member with rfl | later
          · rw [readFirst] at read
            exact Or.inl (by simp [Option.some.inj read])
          · rcases ih later with used | left
            · exact Or.inl (List.mem_cons_of_mem _ used)
            · exact Or.inr left

theorem mem_of_mem_uncollected (left : entry ∈ uncollected entries) : entry ∈ entries :=
  (List.dropWhile_sublist _).subset left

/-! ## One call -/

variable {network : IpNetwork} {used : List IpAddress}

/-- The host that a new service is given: it is not collected, and all hosts before it
are. -/
theorem firstFree_eq_some_iff {host : IpAddress} :
    firstFree network used = some host ↔
      host ∉ used ∧ ∃ front back, network.hosts = front ++ host :: back ∧
        ∀ earlier ∈ front, earlier ∈ used := by
  rw [firstFree, List.find?_eq_some_iff_append]
  simp

variable {host : IpAddress}

theorem mem_hosts_of_firstFree
    (found : firstFree network used = some host) : host ∈ network.hosts :=
  List.mem_of_find?_eq_some found

/-- The address that is allocated, as a host of the CIDR. -/
theorem allocateIp_eq_some_iff {serviceCidr clusterIp : String} {table : ServiceTable} :
    allocateIp serviceCidr table = some clusterIp ↔
      ∃ network host, ipNetwork serviceCidr = some network ∧
        firstFree network (usedAddresses table.entries) = some host ∧ host.toText = clusterIp := by
  simp only [allocateIp, Option.bind_eq_some_iff, Option.map_eq_some_iff]
  constructor
  · rintro ⟨network, isNetwork, host, isFree, text⟩
    exact ⟨network, host, isNetwork, isFree, text⟩
  · rintro ⟨network, host, isNetwork, isFree, text⟩
    exact ⟨network, isNetwork, host, isFree, text⟩

theorem ipAddress_of_firstFree
    {serviceCidr : String} (isNetwork : ipNetwork serviceCidr = some network)
    (isFree : firstFree network used = some host) : ipAddress host.toText = some host :=
  ipAddress_toText
    (valid_of_mem_hosts (valid_of_ipNetwork isNetwork) (mem_hosts_of_firstFree isFree))

namespace ServiceProvider

variable (provider : ServiceProvider) {serviceCidr : String} {table : ServiceTable}
  {call : EnsureCall}

theorem ensureService_of_new
    (isNew : table.clusterIp? call.appName = none) (clusterIp : String) :
    provider.ensureService serviceCidr table call = some clusterIp ↔
      call.wired = true ∧ allocateIp serviceCidr table = some clusterIp := by
  have same : provider.ensureService serviceCidr table call =
      (allocateIp serviceCidr table).bind fun clusterIp =>
        if call.wired then some clusterIp else none := by
    cases provider <;> simp only [ensureService, ensureServiceWith, isNew]
  rw [same]
  cases call.wired <;> simp

theorem ensureService_of_recorded
    {recorded clusterIp : String} (isRecorded : table.clusterIp? call.appName = some recorded)
    (returned : provider.ensureService serviceCidr table call = some clusterIp) :
    clusterIp = recorded := by
  have cases : ensureServiceWith true serviceCidr table call = some clusterIp ∨
      ensureServiceWith false serviceCidr table call = some clusterIp := by
    cases provider with
    | iptables => exact Or.inl returned
    | docker => exact Or.inl returned
    | overlay => exact Or.inr returned
  simp only [ensureServiceWith, isRecorded] at cases
  rcases cases with returned | returned <;> split at returned <;> simp_all

/-- A call keeps the services apart exactly if no record that is left out has the host
that it gives. -/
theorem keepsApart_iff :
    provider.KeepsApart serviceCidr table call ↔ HidesNothing serviceCidr table call := by
  cases recorded : table.clusterIp? call.appName with
  | some clusterIp =>
      have kept : provider.KeepsApart serviceCidr table call := by
        intro returned isReturned
        rw [recorded]
        exact provider.ensureService_of_recorded recorded isReturned
      have vacuous : HidesNothing serviceCidr table call := by
        intro isNew
        rw [recorded] at isNew
        cases isNew
      exact iff_of_true kept vacuous
  | none =>
      constructor
      · intro kept _ wired network isNetwork entry left front host back hosts isHost
        by_contra missed
        rw [not_or] at missed
        obtain ⟨unused, noneEarlier⟩ := missed
        have isFree : firstFree network (usedAddresses table.entries) = some host :=
          firstFree_eq_some_iff.2 ⟨unused, front, back, hosts, fun earlier member => by
            by_contra free
            exact noneEarlier ⟨earlier, member, free⟩⟩
        have returned := (provider.ensureService_of_new recorded host.toText).2
          ⟨wired, allocateIp_eq_some_iff.2 ⟨network, host, isNetwork, isFree, rfl⟩⟩
        have apart := kept host.toText returned
        rw [recorded] at apart
        obtain ⟨_, -, address, isAddress, -, others⟩ := apart
        rw [ipAddress_of_firstFree isNetwork isFree] at isAddress
        rw [← Option.some.inj isAddress] at others
        exact others entry (mem_of_mem_uncollected left) isHost
      · intro hidesNothing clusterIp returned
        obtain ⟨wired, allocated⟩ := (provider.ensureService_of_new recorded clusterIp).1 returned
        obtain ⟨network, host, isNetwork, isFree, rfl⟩ := allocateIp_eq_some_iff.1 allocated
        rw [recorded]
        refine ⟨network, isNetwork, host, ipAddress_of_firstFree isNetwork isFree,
          IpNetwork.mem_addresses_of_mem_hosts (mem_hosts_of_firstFree isFree), ?_⟩
        obtain ⟨unused, front, back, hosts, taken⟩ := firstFree_eq_some_iff.1 isFree
        intro entry member read
        rcases mem_usedAddresses_or_uncollected member read with used | left
        · exact unused used
        · rcases hidesNothing recorded wired network isNetwork entry left front host back hosts
            read with used | ⟨earlier, inFront, free⟩
          · exact unused used
          · exact free (taken earlier inFront)

/-! ## Runs -/

/-- Calls keep the services apart exactly if none of them is given a host that the
collection has missed. -/
theorem alongKeepsApart_iff
    (provider : ServiceProvider) (serviceCidr : String) (table : ServiceTable)
    (calls : List EnsureCall) :
    Along (provider.step serviceCidr) (provider.KeepsApart serviceCidr) table calls ↔
      Along (provider.step serviceCidr) (HidesNothing serviceCidr) table calls :=
  ⟨fun along => along.weaken fun _ _ => provider.keepsApart_iff.mp,
    fun along => along.weaken fun _ _ => provider.keepsApart_iff.mpr⟩

end ServiceProvider

namespace ServiceProvider

variable {serviceCidr : String}

end ServiceProvider

/-- A service without an address, in front of one that has the first host. -/
def emptyRecord : ServiceTable where
  entries := [("a", ""), ("b", "10.0.0.1")]
  sorted := by decide

/-- The new service is given the address of the second one. -/
theorem not_keepsApart_emptyRecord :
    ¬ Along (ServiceProvider.iptables.step "10.0.0.0/29")
      (ServiceProvider.iptables.KeepsApart "10.0.0.0/29") emptyRecord [⟨"c", true⟩] := by
  rintro ⟨kept, -⟩
  have returned : ServiceProvider.iptables.ensureService "10.0.0.0/29" emptyRecord ⟨"c", true⟩ =
      some "10.0.0.1" := by decide +kernel
  obtain ⟨_, -, address, isAddress, -, others⟩ := kept "10.0.0.1" returned
  exact others ("b", "10.0.0.1") (by decide) isAddress

end Network
end K1s
