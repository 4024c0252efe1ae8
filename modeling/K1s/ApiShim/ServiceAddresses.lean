import K1s.ApiShim.ReportedVersions
import K1s.Lib.OptionLists

/-!
# The addresses of services

A new service is given an address and node ports that no stored service has, unless
the ranges have run out.  Only `do_POST` looks at what is taken, and it does not look
at everything that a document asks for: an external name may come with an address, an
address may be no text, and a service that is of no node port type may list node
ports.  A document that is stored by another method is not looked at.

`RequestClashes` says of a request that what it stores clashes with another service;
the requests without it keep all services apart.
-/

namespace K1s
namespace ApiShim

open Py Program Machine

/-! ## Addresses that are allocated -/

variable {number : Int}

section Allocation

/-- The addresses of the network that are given to services. -/
def Usable (address : Nat) : Prop := address % 256 ≠ 0 ∧ address % 256 ≠ 255

def InServiceNetwork (address : Nat) : Prop := address / 65536 = 0x0A60

/-- The offset in the network that the search for an address starts from. -/
def clusterStart (handler : ShimHandler) (ns name : Json) : Nat :=
  (handler.hash ((ns.or (.str "")).toStr ++ "/" ++ name.toStr) % 65536).toNat

/-- The address that a service is given where all that are tried are taken. -/
def lastAddress : String := "10.96.255.254"

/-- Every address that is tried for a service is taken. -/
def AddressesRunOut
    (handler : ShimHandler) (ns name : Json)
    (taken : List Json) : Prop :=
  ∀ offset < 65535, Usable (0x0A600000 + (clusterStart handler ns name + offset) % 65536) →
      .str (dotted (0x0A600000 + (clusterStart handler ns name + offset) % 65536)) ∈ taken

/-- A free address of the network is found, or they have run out. -/
theorem allocClusterIp_cases (handler : ShimHandler) (ns name : Json) (taken : List Json) :
    (¬ AddressesRunOut handler ns name taken ∧
      .str (allocClusterIp handler ns name taken) ∉ taken ∨
      AddressesRunOut handler ns name taken ∧ allocClusterIp handler ns name taken = lastAddress) ∧
    ∃ address, InServiceNetwork address ∧
      allocClusterIp handler ns name taken = dotted address := by
  unfold allocClusterIp
  rw [← clusterStart]
  dsimp only
  cases found : List.find? _ _ with
  | none =>
      refine ⟨.inr ⟨fun offset bound usable => ?_, rfl⟩, 0x0A60FFFE, rfl, ?_⟩
      · have refused := List.find?_eq_none.mp found _
          (List.mem_map.mpr ⟨offset, List.mem_range.mpr bound, rfl⟩)
        simp only [decide_eq_true_eq, not_and, not_not] at refused
        exact refused usable.1 usable.2
      · decide +kernel
  | some address =>
      obtain ⟨offset, bound, rfl⟩ := List.mem_map.mp (List.mem_of_find?_eq_some found)
      have free := List.find?_some found
      simp only [decide_eq_true_eq] at free
      refine ⟨.inl ⟨fun all => ?_, free.2.2⟩, _, ?_, rfl⟩
      · exact free.2.2 (all offset (List.mem_range.mp bound) ⟨free.1, free.2.1⟩)
      · unfold InServiceNetwork
        omega

def InNodePortRange (number : Int) : Prop := 30000 ≤ number ∧ number ≤ 32767

@[irreducible]
def freeNodePorts (taken : List Int) : Finset Int :=
  ((Finset.range 2768).image fun offset : Nat => (30000 + offset : Int)).filter (· ∉ taken)

theorem mem_freeNodePorts (taken : List Int) (number : Int) :
    number ∈ freeNodePorts taken ↔ InNodePortRange number ∧ number ∉ taken := by
  have ranges : (∃ offset < 2768, (30000 + (offset : Nat) : Int) = number) ↔
      InNodePortRange number := by
    unfold InNodePortRange
    constructor
    · rintro ⟨offset, bound, rfl⟩
      omega
    · rintro ⟨low, high⟩
      exact ⟨(number - 30000).toNat, by omega, by omega⟩
  simp [freeNodePorts, ranges]

theorem exists_offset_of_inNodePortRange (start : Nat) (ranges : InNodePortRange number) :
    ∃ offset : Nat, offset < 2768 ∧ (30000 + (start + offset) % 2768 : Int) = number := by
  obtain ⟨low, high⟩ := ranges
  refine ⟨((number - 30000 - start) % 2768).toNat, by omega, by omega⟩

/-- A free node port is found, or they have run out. -/
theorem allocNodeport_cases (handler : ShimHandler) (taken : List Int) (seed : String) :
    allocNodeport handler taken seed ∈ freeNodePorts taken ∨
      freeNodePorts taken = ∅ ∧ allocNodeport handler taken seed = 30000 := by
  unfold allocNodeport
  dsimp only
  cases found : List.find? _ _ with
  | none =>
      refine .inr ⟨Finset.eq_empty_of_forall_notMem fun number free => ?_, rfl⟩
      obtain ⟨ranges, untaken⟩ := (mem_freeNodePorts taken number).mp free
      obtain ⟨offset, bound, same⟩ := exists_offset_of_inNodePortRange
        ((handler.hash seed).natAbs % 2768) ranges
      have refused := List.find?_eq_none.mp found _
        (List.mem_map.mpr ⟨offset, List.mem_range.mpr bound, same⟩)
      exact refused (by simpa using untaken)
  | some number =>
      obtain ⟨offset, -, rfl⟩ := List.mem_map.mp (List.mem_of_find?_eq_some found)
      have free := List.find?_some found
      refine .inl ((mem_freeNodePorts _ _).mpr ⟨?_, by simpa using free⟩)
      simp only [Option.getD_some, InNodePortRange]
      omega

end Allocation

/-! ## Node ports of new services -/

variable {taken : List Int}

section Ports

def portNumbers (ports : List Json) : List Int :=
  ports.filterMap fun port => (port.item "nodePort").toInt

def asksNoNodePort (port : Json) : Bool := decide (port.item "nodePort" = .null)

/-- A port that is left to the handler or asks for a node port of the range. -/
def takesNodePort (port : Json) : Bool :=
  asksNoNodePort port || (port.item "nodePort").toInt.any fun number =>
    decide (30000 ≤ number ∧ number ≤ 32767)

def NodePortsRunOut (ports : List Json) (taken : List Int) : Prop :=
  ∃ before port after, ports = before ++ port :: after ∧ asksNoNodePort port = true ∧
    (freeNodePorts taken).card ≤ before.countP takesNodePort

theorem freeNodePorts_cons (number : Int) (taken : List Int) :
    freeNodePorts (number :: taken) = (freeNodePorts taken).erase number := by
  ext other
  simp only [mem_freeNodePorts, Finset.mem_erase, List.mem_cons, not_or]
  tauto

/-- What the first port of a service is given. -/
inductive GivenNodePort (port : Json) (taken : List Int) (number : Int) : Prop
  | free (asked : asksNoNodePort port = true) (free : number ∈ freeNodePorts taken)
  | last (asked : asksNoNodePort port = true) (none : freeNodePorts taken = ∅)
      (fallback : number = 30000)
  | given (asked : asksNoNodePort port = false)
      (wanted : (port.item "nodePort").toInt = some number) (untaken : number ∉ taken)

theorem ok_of_map
    {α β : Type} {f : α → β} {result : Except Refusal α} {value : β}
    (mapped : result.map f = .ok value) : ∃ found, result = .ok found ∧ f found = value := by
  cases result with
  | error refusal => cases mapped
  | ok found => exact ⟨found, rfl, Except.ok.inj mapped⟩

variable {port : Json} {rest : List Json}

theorem allocatePorts_cons
    {handler : ShimHandler} {ns name port : Json} {rest made : List Json}
    (allocated : allocatePorts handler ns name (port :: rest) taken = .ok made) :
    ∃ number others, GivenNodePort port taken number ∧
      allocatePorts handler ns name rest (number :: taken) = .ok others ∧
      portNumbers made = number :: portNumbers others := by
  have numbered : ∀ (entries : Dict) (number : Int) (others : List Json),
      portNumbers (.dict (Dict.set entries "nodePort" (.int number)) :: others) =
        number :: portNumbers others := by
    intro entries number others
    simp [portNumbers, Json.toInt]
  unfold allocatePorts at allocated
  cases dict : dictOf port with
  | none => simp [dict] at allocated
  | some entries =>
      have same : Dict.get entries "nodePort" = port.item "nodePort" := by
        rw [Json.item, entries_of_dictOf dict]
      simp only [dict, same] at allocated
      by_cases asked : port.item "nodePort" = .null
      · rw [if_pos asked] at allocated
        obtain ⟨others, rest, rfl⟩ := ok_of_map allocated
        refine ⟨_, others, ?_, rest, numbered ..⟩
        have asked : asksNoNodePort port = true := decide_eq_true asked
        rcases allocNodeport_cases handler taken _ with free | ⟨none, fallback⟩
        · exact .free asked free
        · exact .last asked none fallback
      · rw [if_neg asked] at allocated
        cases wanted : (port.item "nodePort").toInt with
        | none => simp [wanted] at allocated
        | some number =>
            simp only [wanted] at allocated
            split at allocated
            · cases allocated
            · next untaken =>
                obtain ⟨others, rest, rfl⟩ := ok_of_map allocated
                exact ⟨number, others, .given (decide_eq_false asked) wanted untaken, rest,
                  numbered ..⟩

/-- A port for which a node port is left takes at most that one. -/
theorem GivenNodePort.runOut_cons_iff
    (given : GivenNodePort port taken number)
    (left : asksNoNodePort port = true → freeNodePorts taken ≠ ∅) :
    NodePortsRunOut (port :: rest) taken ↔ NodePortsRunOut rest (number :: taken) := by
  have counted : (freeNodePorts taken).card =
      (freeNodePorts (number :: taken)).card + if takesNodePort port then 1 else 0 := by
    rw [freeNodePorts_cons]
    cases given with
    | free asked free =>
        rw [Finset.card_erase_of_mem free, takesNodePort, asked, Bool.true_or, if_pos rfl]
        have := Finset.card_pos.mpr ⟨number, free⟩
        omega
    | last asked none fallback => exact absurd none (left asked)
    | given asked wanted untaken =>
        simp only [takesNodePort, asked, wanted, Option.any_some, Bool.false_or, decide_eq_true_eq]
        split
        · next ranges =>
            have free := (mem_freeNodePorts taken number).mpr ⟨ranges, untaken⟩
            have := Finset.card_pos.mpr ⟨number, free⟩
            rw [Finset.card_erase_of_mem free]
            omega
        · next outside =>
            rw [Finset.erase_eq_of_notMem fun free =>
              outside ((mem_freeNodePorts taken number).mp free).1, Nat.add_zero]
  constructor
  · rintro ⟨before, other, after, same, asked, few⟩
    cases before with
    | nil =>
        obtain ⟨rfl, -⟩ := List.cons.inj same
        rw [List.countP_nil, Nat.le_zero, Finset.card_eq_zero] at few
        exact absurd few (left asked)
    | cons first before =>
        obtain ⟨rfl, rfl⟩ := List.cons.inj same
        refine ⟨before, other, after, rfl, asked, ?_⟩
        rw [List.countP_cons] at few
        omega
  · rintro ⟨before, other, after, rfl, asked, few⟩
    refine ⟨port :: before, other, after, rfl, asked, ?_⟩
    rw [List.countP_cons]
    omega

/-- The node ports of a new service are among those that are taken only if the range
has run out, and then one of them is the first of the range. -/
theorem exists_held_portNumbers_iff
    {handler : ShimHandler} {ns name : Json} {ports made : List Json} (held : Int → Prop)
    (known : ∀ number, held number → number ∈ taken)
    (allocated : allocatePorts handler ns name ports taken = .ok made) :
    (∃ number ∈ portNumbers made, held number) ↔ NodePortsRunOut ports taken ∧ held 30000 := by
  induction ports generalizing taken made with
  | nil =>
      obtain rfl := Except.ok.inj allocated
      simp [NodePortsRunOut, portNumbers]
  | cons port rest ih =>
      obtain ⟨number, others, given, allocated, numbers⟩ := allocatePorts_cons allocated
      have later := ih
        (fun other holds => List.mem_cons_of_mem number (known other holds)) allocated
      simp only [numbers, List.mem_cons, exists_eq_or_imp, later]
      by_cases left : asksNoNodePort port = true ∧ freeNodePorts taken = ∅
      · obtain ⟨asked, none⟩ := left
        have runOut : NodePortsRunOut (port :: rest) taken :=
          ⟨[], port, rest, rfl, asked, by simp [none]⟩
        have fallback : number = 30000 := by
          cases given with
          | free _ free => simp [none] at free
          | last _ _ fallback => exact fallback
          | given wanted => simp [asked] at wanted
        simp only [runOut, fallback, true_and]
        tauto
      · have untaken : number ∉ taken := by
          cases given with
          | free _ free => exact ((mem_freeNodePorts taken number).mp free).2
          | last asked none => exact absurd ⟨asked, none⟩ left
          | given _ _ untaken => exact untaken
        rw [given.runOut_cons_iff (fun asked none => left ⟨asked, none⟩)]
        have free : ¬ held number := fun holds => untaken (known number holds)
        simp only [free, false_or]

theorem mem_or_inNodePortRange
    {handler : ShimHandler} {ns name : Json} {ports made : List Json}
    (allocated : allocatePorts handler ns name ports taken = .ok made) :
    ∀ number ∈ portNumbers made, number ∈ portNumbers ports ∨ InNodePortRange number := by
  induction ports generalizing taken made with
  | nil =>
      obtain rfl := Except.ok.inj allocated
      simp [portNumbers]
  | cons port rest ih =>
      obtain ⟨number, others, given, allocated, numbers⟩ := allocatePorts_cons allocated
      intro other member
      rw [numbers] at member
      rcases List.mem_cons.mp member with rfl | later
      · cases given with
        | free _ free => exact .inr ((mem_freeNodePorts taken other).mp free).1
        | last _ _ fallback =>
            subst fallback
            exact .inr ⟨by omega, by omega⟩
        | given _ wanted =>
            refine .inl ?_
            simp [portNumbers, wanted]
      · refine (ih allocated other later).imp_left fun asked => ?_
        unfold portNumbers at asked ⊢
        rw [List.filterMap_cons]
        split
        · exact asked
        · exact List.mem_cons_of_mem _ asked

end Ports

/-! ## Services that are stored -/

section Services

/-- An address that no other service may have. -/
def Addressed (ip : Json) : Prop := ip.truthy = true ∧ ip ≠ .str "None"

def specNodePorts (spec : Json) : List Int :=
  portNumbers ((spec.item "ports").iterate.getD [])

/-- Two specs have the same address or a node port in common. -/
def SharesAddress (first second : Json) : Prop :=
  Addressed (first.item "clusterIP") ∧ second.item "clusterIP" = first.item "clusterIP" ∨
    ∃ number ∈ specNodePorts first, number ∈ specNodePorts second

theorem SharesAddress.symm
    {first second : Json}
    (shares : SharesAddress first second) : SharesAddress second first := by
  rcases shares with ⟨addressed, same⟩ | ⟨number, first, second⟩
  · exact .inl ⟨same ▸ addressed, same.symm⟩
  · exact .inr ⟨number, second, first⟩

def ObjectStore.OtherService
    (store : ObjectStore) (key : ObjectKey)
    (property : Json → Prop) : Prop :=
  ∃ other row, store.row? other = some row ∧ other.gvr = servicesResource ∧ other ≠ key ∧
    property row.spec

/-- A spec that shares an address with another stored service. -/
def ObjectStore.Clashes (store : ObjectStore) (key : ObjectKey) (spec : Json) : Prop :=
  store.OtherService key (SharesAddress spec)

/-- No two stored services share an address. -/
def ObjectStore.AddressesApart (store : ObjectStore) : Prop :=
  ∀ key row, store.row? key = some row → key.gvr = servicesResource → ¬ store.Clashes key row.spec

/-- Another stored service has the address. -/
def ObjectStore.HoldsIp (store : ObjectStore) (key : ObjectKey) (ip : Json) : Prop :=
  store.OtherService key fun spec => spec.item "clusterIP" = ip

/-- Another stored service has the node port. -/
def ObjectStore.HoldsPort (store : ObjectStore) (key : ObjectKey) (number : Int) : Prop :=
  store.OtherService key fun spec => number ∈ specNodePorts spec

theorem clashes_iff (store : ObjectStore) (key : ObjectKey) (spec : Json) :
    store.Clashes key spec ↔
      Addressed (spec.item "clusterIP") ∧ store.HoldsIp key (spec.item "clusterIP") ∨
        ∃ number ∈ specNodePorts spec, store.HoldsPort key number := by
  constructor
  · rintro ⟨other, row, stored, kind, apart, ⟨addressed, same⟩ | ⟨number, member, held⟩⟩
    · exact .inl ⟨addressed, other, row, stored, kind, apart, same⟩
    · exact .inr ⟨number, member, other, row, stored, kind, apart, held⟩
  · rintro (⟨addressed, other, row, stored, kind, apart, same⟩ |
      ⟨number, member, other, row, stored, kind, apart, held⟩)
    · exact ⟨other, row, stored, kind, apart, .inl ⟨addressed, same⟩⟩
    · exact ⟨other, row, stored, kind, apart, .inr ⟨number, member, held⟩⟩

def Write.Clashes (store : ObjectStore) (write : Write) : Prop :=
  write.gvr = servicesResource ∧ store.Clashes write.key write.spec

variable {after before : ObjectStore}

/-- A write keeps the services apart exactly when it does not clash. -/
theorem addressesApart_takes_iff
    {write : Write} (takes : after.Takes before write) (apart : before.AddressesApart) :
    after.AddressesApart ↔ ¬ write.Clashes before := by
  have others : ∀ property : Json → Prop,
      after.OtherService write.key property ↔ before.OtherService write.key property := by
    intro property
    refine exists_congr fun other => exists_congr fun row => ?_
    by_cases same : other = write.key
    · simp [same]
    · rw [takes.row?_of_ne same]
  constructor
  · rintro kept ⟨kind, clashes⟩
    exact kept write.key _ takes.row?_self kind ((others _).mpr clashes)
  · intro free key row stored kind clashes
    by_cases same : key = write.key
    · subst same
      obtain rfl := Option.some.inj (takes.row?_self.symm.trans stored)
      exact free ⟨kind, (others _).mp clashes⟩
    · rw [takes.row?_of_ne same] at stored
      obtain ⟨other, found, there, service, different, shares⟩ := clashes
      by_cases written : other = write.key
      · subst written
        obtain rfl := Option.some.inj (takes.row?_self.symm.trans there)
        exact free ⟨service, key, row, stored, kind, same, shares.symm⟩
      · rw [takes.row?_of_ne written] at there
        exact apart key row stored kind ⟨other, found, there, service, different, shares⟩

theorem ObjectStore.Within.addressesApart
    (within : after.Within before)
    (apart : before.AddressesApart) : after.AddressesApart := by
  rintro key row stored kind ⟨other, found, there, rest⟩
  exact apart key row (within key row stored) kind ⟨other, found, within other found there, rest⟩

/-- The addresses that are looked at hold those of all other services. -/
theorem mem_storedClusterIps
    {store : ObjectStore} {key : ObjectKey} {ips : List Json}
    (read : storedClusterIps (store.listAll servicesResource) = some ips) {ip : Json}
    (truthy : ip.truthy = true)
    (held : store.HoldsIp key ip) : ip ∈ ips := by
  obtain ⟨other, row, stored, kind, -, rfl⟩ := held
  obtain ⟨found, mapped, listed⟩ := Option.bind_eq_some_iff.mp read
  have member : row.object other ∈ store.listAll servicesResource :=
    (ObjectStore.mem_listAll _ _ _).mpr ⟨other, row, stored, kind, rfl⟩
  have there : row.spec.item "clusterIP" ∈ found := by
    refine (mem_of_mapM mapped _).mpr ⟨_, member, ?_⟩
    cases spec : row.spec with
    | dict entries => simp [ObjectRow.object, spec]
    | null | bool | int | float | str | list =>
        rw [spec] at truthy
        exact absurd truthy Bool.false_ne_true
  dsimp only at listed
  split at listed
  · rw [← Option.some.inj listed]
    exact List.mem_filter.mpr ⟨there, truthy⟩
  · cases listed

/-- The node ports of a service, where they can be read. -/
theorem nodePortsOf_eq_specNodePorts
    {service : K8sObject} {ports : List Int}
    (read : nodePortsOf service = some ports) : ports = specNodePorts service.spec := by
  unfold nodePortsOf at read
  obtain ⟨listed, found, read⟩ := Option.bind_eq_some_iff.mp read
  obtain ⟨items, looped, read⟩ := Option.bind_eq_some_iff.mp read
  obtain ⟨numbers, mapped, rfl⟩ := Option.map_eq_some_iff.mp read
  have numbered : numbers = items.map (·.item "nodePort") := by
    refine eq_map_of_mapM (fun port number got => ?_) mapped
    cases port with
    | dict entries => exact Option.some.inj got
    | null | bool | int | float | str | list => cases got
  have same : (service.spec.item "ports").iterate.getD [] = items := by
    cases spec : service.spec with
    | dict entries =>
        simp only [spec, Json.truthy_dict, Json.getD] at found
        unfold Json.item Json.entries Dict.get
        cases ports : Dict.find? entries "ports" with
        | some value =>
            rw [ports] at found
            cases entries with
            | nil => cases ports
            | cons entry rest =>
                obtain rfl := Option.some.inj found
                exact congrArg (Option.getD · []) looped
        | none =>
            have empty : listed = .list [] := by
              rw [ports] at found
              split at found
              · exact (Option.some.inj found).symm
              · exact (Option.some.inj found).symm
            rw [empty] at looped
            exact Option.some.inj looped
    | null | bool | int | float | str | list =>
        rw [spec] at found
        split at found
        · cases found
        · obtain rfl := Option.some.inj found
          exact Option.some.inj looped
  rw [specNodePorts, same, portNumbers, numbered, List.filterMap_map]
  rfl

theorem mem_storedNodePorts
    {store : ObjectStore} {key : ObjectKey} {ports : List Int}
    (read : storedNodePorts (store.listAll servicesResource) = some ports)
    (held : store.HoldsPort key number) : number ∈ ports := by
  obtain ⟨other, row, stored, kind, -, member⟩ := held
  obtain ⟨found, mapped, rfl⟩ := Option.map_eq_some_iff.mp read
  have listed : row.object other ∈ store.listAll servicesResource :=
    (ObjectStore.mem_listAll _ _ _).mpr ⟨other, row, stored, kind, rfl⟩
  refine (mem_flatten_of_mapM mapped number).mpr ⟨_, listed, ?_⟩
  have each := (isSome_mapM nodePortsOf _).mp (by simp [mapped]) _ listed
  obtain ⟨numbers, read⟩ := Option.isSome_iff_exists.mp each
  refine ⟨numbers, read, ?_⟩
  rw [nodePortsOf_eq_specNodePorts read]
  exact member

end Services

/-! ## What a new service clashes with -/

section Created

variable {handler : ShimHandler} {store : ObjectStore} {key : ObjectKey} {ns name : Json}

def serviceType (spec : Dict) : Json := (Dict.get spec "type").or (.str "ClusterIP")

variable (handler store key ns name) in
/-- The address of a new service is that of another.  Where the document has one, an
external name and an address that is no text are not looked at. -/
def AddressClashes (spec : Dict) (taken : List Json) : Prop :=
  if serviceType spec = .str "ExternalName" then
    Addressed (Dict.get spec "clusterIP") ∧ store.HoldsIp key (Dict.get spec "clusterIP")
  else if (Dict.get spec "clusterIP").truthy then
    textOf (Dict.get spec "clusterIP") = none ∧ store.HoldsIp key (Dict.get spec "clusterIP")
  else AddressesRunOut handler ns name taken ∧ store.HoldsIp key (.str lastAddress)

variable (store key) in
/-- A node port of a new service is that of another.  Those of a service of another
type are not looked at. -/
def NodePortsClash (spec : Dict) (taken : List Int) : Prop :=
  if serviceType spec ∈ [.str "NodePort", .str "LoadBalancer"] then
    (∃ ports, ((Dict.get spec "ports").or (.list [])).iterate = some ports ∧
      NodePortsRunOut ports taken) ∧ store.HoldsPort key 30000
  else ∃ number ∈ specNodePorts (.dict spec), store.HoldsPort key number

variable {made spec : Dict}

theorem addressClashes_iff
    {taken : List Json} (known : ∀ ip, ip.truthy = true → store.HoldsIp key ip → ip ∈ taken)
    (given : withClusterIp handler ns name spec taken = .ok made) :
    Addressed (Dict.get made "clusterIP") ∧ store.HoldsIp key (Dict.get made "clusterIP") ↔
      AddressClashes handler store key ns name spec taken := by
  unfold withClusterIp at given
  unfold AddressClashes
  dsimp only at given
  rw [← serviceType] at given
  by_cases external : serviceType spec = .str "ExternalName"
  · rw [if_pos (.inl external)] at given
    obtain rfl := Except.ok.inj given
    rw [if_pos external]
  · rw [if_neg external]
    by_cases headless : Dict.get spec "clusterIP" = .str "None"
    · rw [if_pos (.inr headless)] at given
      obtain rfl := Except.ok.inj given
      simp [headless, Addressed, textOf]
    · rw [if_neg (by tauto)] at given
      cases truthy : (Dict.get spec "clusterIP").truthy with
      | false =>
          simp only [truthy, Bool.not_false, if_true] at given
          obtain rfl := Except.ok.inj given
          simp only [Dict.get_set_self, Bool.false_eq_true, if_false]
          rcases (allocClusterIp_cases handler ns name taken).1 with
            ⟨left, free⟩ | ⟨none, last⟩
          · simp only [left, false_and, iff_false, not_and]
            intro addressed held
            exact free (known _ addressed.1 held)
          · rw [last]
            simp only [none, true_and, and_iff_right_iff_imp]
            exact fun _ => ⟨by decide, by decide⟩
      | true =>
          simp only [truthy, Bool.not_true, Bool.false_eq_true, if_false] at given
          split at given
          · cases given
          · next untaken =>
              obtain rfl := Except.ok.inj given
              simp only [if_true, Addressed, truthy, true_and, ne_eq, headless, not_false_eq_true]
              cases ip : Dict.get spec "clusterIP" with
              | str text =>
                  simp only [textOf, reduceCtorEq, false_and, iff_false]
                  intro held
                  rw [ip] at untaken truthy
                  exact untaken (known _ truthy held)
              | _ => simp [textOf]

variable {field : String}

theorem get_withClusterIp
    {taken : List Json} (given : withClusterIp handler ns name spec taken = .ok made)
    (other : field ≠ "clusterIP") : Dict.get made field = Dict.get spec field := by
  unfold withClusterIp at given
  dsimp only at given
  split at given
  · rw [Except.ok.inj given]
  · split at given
    · rw [← Except.ok.inj given, Dict.get_set_of_ne _ _ other]
    · split at given
      · cases given
      · rw [Except.ok.inj given]

/-- The address of a new service is that of its document or of the network. -/
theorem address_of_withClusterIp
    {taken : List Json} (given : withClusterIp handler ns name spec taken = .ok made) :
    Dict.get made "clusterIP" = Dict.get spec "clusterIP" ∨ ∃ address, InServiceNetwork address ∧
        Dict.get made "clusterIP" = .str (dotted address) := by
  unfold withClusterIp at given
  dsimp only at given
  split at given
  · exact .inl (by rw [Except.ok.inj given])
  · split at given
    · obtain ⟨address, inside, same⟩ := (allocClusterIp_cases handler ns name taken).2
      refine .inr ⟨address, inside, ?_⟩
      rw [← Except.ok.inj given, Dict.get_set_self, same]
    · split at given
      · cases given
      · exact .inl (by rw [Except.ok.inj given])

theorem get_withNodePorts
    (given : withNodePorts handler ns name spec taken = .ok made)
    (other : field ≠ "ports") : Dict.get made field = Dict.get spec field := by
  unfold withNodePorts at given
  dsimp only at given
  split at given
  · cases given
  · split at given
    · split at given
      · cases given
      · obtain ⟨allocated, -, rfl⟩ := ok_of_map given
        exact Dict.get_set_of_ne _ _ other
    · rw [Except.ok.inj given]

/-- The node ports of a new service are those of its document or of the range. -/
theorem specNodePorts_withNodePorts
    (given : withNodePorts handler ns name spec taken = .ok made) :
    ∀ number ∈ specNodePorts (.dict made),
      number ∈ specNodePorts (.dict spec) ∨ InNodePortRange number := by
  unfold withNodePorts at given
  dsimp only at given
  split at given
  · cases given
  · split at given
    · split at given
      · cases given
      · next ports looped =>
          obtain ⟨allocated, made, rfl⟩ := ok_of_map given
          have asked : ∀ number, number ∈ portNumbers ports →
              number ∈ specNodePorts (.dict spec) := by
            intro number member
            unfold specNodePorts
            rw [Json.item_dict]
            unfold Json.or at looped
            split at looped
            · rw [looped]
              exact member
            · obtain rfl := Option.some.inj looped
              cases member
          intro number member
          simp only [specNodePorts, Json.item_dict, Dict.get_set_self, Json.iterate,
            Option.getD_some] at member
          exact (mem_or_inNodePortRange made number member).imp_left (asked number)
    · obtain rfl := Except.ok.inj given
      exact fun number member => .inl member

theorem nodePortsClash_iff
    (known : ∀ number, store.HoldsPort key number → number ∈ taken)
    (given : withNodePorts handler ns name spec taken = .ok made) :
    (∃ number ∈ specNodePorts (.dict made), store.HoldsPort key number) ↔
      NodePortsClash store key spec taken := by
  unfold withNodePorts at given
  unfold NodePortsClash
  dsimp only at given
  rw [← serviceType] at given
  split at given
  · cases given
  · split at given
    · next typed =>
        rw [if_pos typed]
        split at given
        · cases given
        · next ports looped =>
            obtain ⟨allocated, made, rfl⟩ := ok_of_map given
            have numbers : specNodePorts (.dict (Dict.set spec "ports" (.list allocated))) =
                portNumbers allocated := by
              simp [specNodePorts, Json.iterate]
            rw [numbers, exists_held_portNumbers_iff _ known made, looped]
            simp
    · next typed =>
        rw [if_neg typed]
        obtain rfl := Except.ok.inj given
        exact Iff.rfl

/-- What a new service clashes with, from its document and what is taken. -/
def NewServiceClashes
    (handler : ShimHandler) (store : ObjectStore) (key : ObjectKey) (ns name : Json) (doc : Dict)
    (state laterState : StateServices) : Prop :=
  ∃ spec ips ports, dictOf (plainSpec doc) = some spec ∧
    storedClusterIps (store.listAll servicesResource) = some ips ∧
    storedNodePorts (store.listAll servicesResource) = some ports ∧
    (AddressClashes handler store key ns name spec (ips ++ state.clusterIps.map .str) ∨
      NodePortsClash store key spec (ports ++ laterState.nodePorts))

variable {doc : Dict} {laterState state : StateServices}

/-- A new service clashes with others in these ways only. -/
theorem clashes_serviceContent_iff
    {spec status : Json}
    (made : serviceContent handler ns name doc (store.listAll servicesResource) state
      laterState = .ok (spec, status)) :
    store.Clashes key spec ↔ NewServiceClashes handler store key ns name doc state laterState := by
  obtain ⟨given, read, made⟩ := bind_eq_ok.mp made
  obtain ⟨ips, addresses, made⟩ := bind_eq_ok.mp made
  obtain ⟨ports, numbers, made⟩ := bind_eq_ok.mp made
  obtain ⟨addressed, placed, made⟩ := bind_eq_ok.mp made
  obtain ⟨final, numbered, made⟩ := bind_eq_ok.mp made
  obtain ⟨shown, -, made⟩ := bind_eq_ok.mp made
  obtain ⟨rfl, -⟩ := Prod.mk.inj (Except.ok.inj made)
  replace read := ok_of_orRaise read
  replace addresses := ok_of_orRaise addresses
  replace numbers := ok_of_orRaise numbers
  have address : _ ↔ AddressClashes handler store key ns name given _ :=
    addressClashes_iff (fun ip truthy held =>
      List.mem_append_left _ (mem_storedClusterIps addresses truthy held)) placed
  have nodePorts : _ ↔ NodePortsClash store key addressed _ :=
    nodePortsClash_iff (fun number held =>
      List.mem_append_left _ (mem_storedNodePorts numbers held)) numbered
  have sameIp : Dict.get final "clusterIP" = Dict.get addressed "clusterIP" :=
    get_withNodePorts numbered (by decide)
  have samePorts : NodePortsClash store key addressed (ports ++ laterState.nodePorts) ↔
      NodePortsClash store key given (ports ++ laterState.nodePorts) := by
    unfold NodePortsClash specNodePorts serviceType
    simp only [Json.item_dict, get_withClusterIp placed (show "type" ≠ "clusterIP" by decide),
      get_withClusterIp placed (show "ports" ≠ "clusterIP" by decide)]
  rw [clashes_iff, Json.item_dict, sameIp, address, nodePorts, samePorts]
  unfold NewServiceClashes
  constructor
  · intro clashes
    exact ⟨given, ips, ports, read, addresses, numbers, clashes⟩
  · rintro ⟨_, _, _, readAgain, addressesAgain, numbersAgain, clashes⟩
    obtain rfl := Option.some.inj (read.symm.trans readAgain)
    obtain rfl := Option.some.inj (addresses.symm.trans addressesAgain)
    obtain rfl := Option.some.inj (numbers.symm.trans numbersAgain)
    exact clashes

/-- Addresses that a document does not ask for are of the ranges. -/
def GivesFromRanges (asked made : Json) : Prop :=
  (made.item "clusterIP" = asked.item "clusterIP" ∨
    ∃ address, InServiceNetwork address ∧ made.item "clusterIP" = .str (dotted address)) ∧
  ∀ number ∈ specNodePorts made, number ∈ specNodePorts asked ∨ InNodePortRange number

theorem givesFromRanges_serviceContent
    {existing : List K8sObject} {spec status : Json}
    (made : serviceContent handler ns name doc existing state laterState = .ok (spec, status)) :
    GivesFromRanges (plainSpec doc) spec := by
  obtain ⟨given, read, made⟩ := bind_eq_ok.mp made
  obtain ⟨ips, -, made⟩ := bind_eq_ok.mp made
  obtain ⟨ports, -, made⟩ := bind_eq_ok.mp made
  obtain ⟨addressed, placed, made⟩ := bind_eq_ok.mp made
  obtain ⟨final, numbered, made⟩ := bind_eq_ok.mp made
  obtain ⟨shown, -, made⟩ := bind_eq_ok.mp made
  obtain ⟨rfl, -⟩ := Prod.mk.inj (Except.ok.inj made)
  have entries := entries_of_dictOf (ok_of_orRaise read)
  constructor
  · rw [Json.item_dict, get_withNodePorts numbered (by decide), Json.item, entries]
    exact address_of_withClusterIp placed
  · have same : specNodePorts (.dict addressed) = specNodePorts (plainSpec doc) := by
      have ports := get_withClusterIp placed (show "ports" ≠ "clusterIP" by decide)
      rw [specNodePorts, specNodePorts, Json.item_dict, ports, Json.item, entries]
    exact same ▸ specNodePorts_withNodePorts numbered

end Created

end ApiShim
end K1s
