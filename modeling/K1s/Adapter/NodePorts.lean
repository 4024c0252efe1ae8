import K1s.Adapter.Services

/-!
# The bookkeeping of node ports

The ports in use should be the assigned ones, and no port should be assigned
twice.  Allocation and the three release routines keep this, and so does a
restart from the saved file.  A reservation of an explicit port keeps it exactly
when the port is the one assigned already, or when nothing is assigned and the
port is free: a port that is replaced stays in use, and a port that is taken is
assigned twice.
-/

namespace K1s
namespace Adapter

open Py ApiShim

namespace NodePorts

def assigned (ports : NodePorts) (svcKey portId : String) : Option Int :=
  (ports.portsOf svcKey).find? portId

/-- The ports in use are the assigned ones, and no port is assigned twice. -/
structure Tidy (ports : NodePorts) : Prop where
  used : ∀ port, port ∈ ports.used ↔ ∃ svcKey portId, ports.assigned svcKey portId = some port
  exclusive : ∀ port svcKey portId otherKey otherId, ports.assigned svcKey portId = some port →
    ports.assigned otherKey otherId = some port → svcKey = otherKey ∧ portId = otherId

/-- A reservation that changes nothing, or takes a free port for a port id that
has none. -/
def Fits (ports : NodePorts) (svcKey portId : String) (port : Int) : Prop :=
  ports.assigned svcKey portId = some port ∨
    (ports.assigned svcKey portId = none ∧ port ∉ ports.used)

instance (ports : NodePorts) (svcKey portId : String) (port : Int) :
    Decidable (ports.Fits svcKey portId port) :=
  inferInstanceAs (Decidable (_ ∨ _))

theorem tidy_empty (file : Option Json) : Tidy ⟨.empty, ∅, file⟩ where
  used := by simp [assigned, portsOf]
  exclusive := by simp [assigned, portsOf]

/-! ## Assigning -/

theorem assigned_set
    (ports : NodePorts) (svcKey : String) (own : Dictionary String Int) (used : Finset Int)
    (otherKey otherId : String) :
    assigned { ports with
        assignments := ports.assignments.set svcKey own, used := used }
      otherKey otherId =
      if svcKey = otherKey then own.find? otherId
      else ports.assigned otherKey otherId := by
  by_cases same : svcKey = otherKey <;> simp [assigned, portsOf, same]

theorem assigned_assign
    (ports : NodePorts) (svcKey portId : String) (port : Int) (used : Finset Int)
    (otherKey otherId : String) :
    assigned { ports with
        assignments :=
          ports.assignments.set svcKey ((ports.portsOf svcKey).set portId port)
        used := used }
      otherKey otherId =
      if svcKey = otherKey ∧ portId = otherId then some port
      else ports.assigned otherKey otherId := by
  rw [assigned_set]
  by_cases same : svcKey = otherKey
  · subst same
    by_cases sameId : portId = otherId <;> simp [sameId, assigned]
  · simp [same]

variable {port : Int} {ports : NodePorts} {svcKey : String}

theorem Tidy.assign
    (tidy : ports.Tidy) {svcKey portId : String}
    (none : ports.assigned svcKey portId = none) (free : port ∉ ports.used) :
    Tidy { ports with
      assignments :=
        ports.assignments.set svcKey ((ports.portsOf svcKey).set portId port)
      used := insert port ports.used } where
  used := by
    intro other
    simp only [Finset.mem_insert, tidy.used, assigned_assign]
    constructor
    · rintro (rfl | ⟨key, id, found⟩)
      · exact ⟨svcKey, portId, by simp⟩
      · refine ⟨key, id, ?_⟩
        rw [if_neg]
        · exact found
        · rintro ⟨rfl, rfl⟩
          rw [none] at found
          cases found
    · rintro ⟨key, id, found⟩
      split at found
      · exact .inl (Option.some.inj found).symm
      · exact .inr ⟨key, id, found⟩
  exclusive := by
    intro other key id otherKey otherId first second
    have unassigned : ∀ key id, ports.assigned key id ≠ some port :=
      fun key id found => free ((tidy.used port).mpr ⟨key, id, found⟩)
    simp only [assigned_assign] at first second
    split at first <;> split at second
    · next same again => exact ⟨same.1.symm.trans again.1, same.2.symm.trans again.2⟩
    · obtain rfl := Option.some.inj first
      exact absurd second (unassigned otherKey otherId)
    · obtain rfl := Option.some.inj second
      exact absurd first (unassigned key id)
    · exact tidy.exclusive other key id otherKey otherId first second

/-- Setting the entries of a service to what they are. -/
theorem Tidy.congr
    {first second : NodePorts} (tidy : first.Tidy) (used : second.used = first.used)
    (assigned : ∀ key id, second.assigned key id = first.assigned key id) :
    second.Tidy where
  used := by simpa only [used, assigned] using tidy.used
  exclusive := by simpa only [assigned] using tidy.exclusive

theorem freePort_not_mem
    {low high port : Int}
    (found : ports.freePort low high = some port) : port ∉ ports.used := by
  simpa using List.find?_some found

theorem Tidy.allocate (tidy : ports.Tidy) (low high : Int) (svcKey portId : String) :
    (ports.allocateNodePort low high svcKey portId).ports.Tidy := by
  have entered : Tidy { ports with
      assignments := ports.assignments.set svcKey (ports.portsOf svcKey) } := by
    refine tidy.congr rfl fun key id => ?_
    rw [assigned_set ports svcKey _ ports.used]
    split
    · next same => rw [← same, assigned]
    · rfl
  rw [allocateNodePort]
  split
  · exact entered
  · next none =>
      split
      · exact entered
      · next candidate found => exact tidy.assign none (freePort_not_mem found)

/-- A reservation keeps the bookkeeping tidy exactly when it fits. -/
theorem Tidy.reserve_iff (tidy : ports.Tidy) (svcKey portId : String) (port : Int) :
    (ports.reserveNodePort svcKey portId port).ports.Tidy ↔ ports.Fits svcKey portId port := by
  simp only [reserveNodePort]
  constructor
  · intro after
    cases current : ports.assigned svcKey portId with
    | none =>
        refine .inr ⟨current, fun taken => ?_⟩
        obtain ⟨key, id, found⟩ := (tidy.used port).mp taken
        have other : ¬ (svcKey = key ∧ portId = id) := by
          rintro ⟨rfl, rfl⟩
          rw [current] at found
          cases found
        have again := after.exclusive port svcKey portId key id
          (by simp [assigned_assign]) (by simp [assigned_assign, other, found])
        exact other again
    | some old =>
        by_cases same : old = port
        · exact .inl (same ▸ current)
        · have kept : old ∈ insert port ports.used :=
            Finset.mem_insert_of_mem ((tidy.used old).mpr ⟨svcKey, portId, current⟩)
          obtain ⟨key, id, found⟩ := (after.used old).mp kept
          simp only [assigned_assign] at found
          split at found
          · exact absurd (Option.some.inj found).symm same
          · next other =>
              exact absurd (tidy.exclusive old svcKey portId key id current found) other
  · rintro (same | ⟨none, free⟩)
    · refine tidy.congr ?_ fun key id => ?_
      · exact Finset.insert_eq_of_mem ((tidy.used port).mpr ⟨_, _, same⟩)
      · rw [assigned_assign]
        split
        · next equal => rw [← equal.1, ← equal.2, same]
        · rfl
    · exact tidy.assign none free

/-! ## Releasing -/

variable {existing : Dictionary String Int}

theorem assigned_release
    (found : ports.assignments.find? svcKey = some existing) (stale : List String)
    (otherKey otherId : String) :
    (ports.release svcKey existing stale).assigned otherKey otherId =
      if svcKey = otherKey ∧ otherId ∈ stale then none
      else ports.assigned otherKey otherId := by
  have own : ports.assigned svcKey = existing.find? := by
    funext id
    simp [assigned, portsOf, found]
  by_cases same : svcKey = otherKey
  · subst same
    have after : (ports.release svcKey existing stale).assigned svcKey otherId =
        (stale.foldl (fun kept portId => kept.drop portId) existing).find?
          otherId := by
      by_cases none : (stale.foldl (fun kept portId => kept.drop portId) existing).entries.isEmpty
      · have each := (Dictionary.isEmpty_entries_iff _).mp none otherId
        simp only [release, none, if_true, assigned, portsOf, Dictionary.find?_drop,
          Option.getD_none, Dictionary.find?_empty, each]
      · simp [release, none, assigned, portsOf]
    rw [after, existing.find?_foldl_drop stale, own]
    simp only [true_and]
  · simp only [release, same, false_and, if_false, assigned, portsOf]
    split <;> simp [same]

theorem mem_used_release
    (ports : NodePorts) (svcKey : String) (existing : Dictionary String Int)
    (stale : List String) (port : Int) :
    port ∈ (ports.release svcKey existing stale).used ↔
      port ∈ ports.used ∧ ∀ id ∈ stale, existing.find? id ≠ some port := by
  simp only [release]
  generalize ports.used = used
  induction stale generalizing used with
  | nil => simp
  | cons id rest ih =>
      simp only [List.foldl_cons, ih, List.mem_cons, forall_eq_or_imp]
      cases found : existing.find? id with
      | none => simp
      | some own =>
          simp only [Finset.mem_erase, ne_eq, Option.some.injEq]
          tauto

theorem Tidy.release
    (tidy : ports.Tidy) (found : ports.assignments.find? svcKey = some existing)
    (stale : List String) :
    (ports.release svcKey existing stale).Tidy where
  used := by
    have own : ∀ id, existing.find? id = ports.assigned svcKey id := by
      intro id
      simp [assigned, portsOf, found]
    intro port
    simp only [mem_used_release, tidy.used, assigned_release found, own]
    constructor
    · rintro ⟨⟨key, id, held⟩, kept⟩
      refine ⟨key, id, ?_⟩
      rw [if_neg]
      · exact held
      · rintro ⟨rfl, member⟩
        exact kept id member held
    · rintro ⟨key, id, held⟩
      split at held
      · cases held
      · next other =>
          refine ⟨⟨key, id, held⟩, fun staleId member again => other ?_⟩
          obtain ⟨rfl, rfl⟩ := tidy.exclusive port _ _ _ _ held again
          exact ⟨rfl, member⟩
  exclusive := by
    intro port key id otherKey otherId first second
    simp only [assigned_release found] at first second
    split at first
    · cases first
    · split at second
      · cases second
      · exact tidy.exclusive port key id otherKey otherId first second

theorem Tidy.releaseService
    (tidy : ports.Tidy)
    (svcKey : String) : (ports.releaseServicePorts svcKey).ports.Tidy := by
  rw [releaseServicePorts]
  split
  · exact tidy
  · next existing found =>
      split
      · next none =>
          refine tidy.congr rfl fun key id => ?_
          by_cases same : svcKey = key
          · subst same
            have each := (existing.isEmpty_entries_iff).mp none id
            simp [assigned, portsOf, found, each]
          · simp [assigned, portsOf, same]
      · exact tidy.release found _

theorem Tidy.releaseAssignment (tidy : ports.Tidy) (svcKey portId : String) :
    (ports.releasePortAssignment svcKey portId).ports.Tidy := by
  rw [releasePortAssignment]
  split
  · exact tidy
  · next existing found =>
      split
      · exact tidy
      · exact tidy.release found _

theorem Tidy.cleanupUnused (tidy : ports.Tidy) (svcKey : String) (keep : List String) :
    (ports.cleanupUnusedPorts svcKey keep).ports.Tidy := by
  rw [cleanupUnusedPorts]
  split
  · exact tidy
  · next existing found =>
      split
      · exact tidy
      · exact tidy.release found _

/-- Every operation but a reservation that does not fit keeps the bookkeeping
tidy. -/
theorem Tidy.perform
    (tidy : ports.Tidy) (low high : Int) (operation : PortOp)
    (fits : ∀ svcKey portId port, operation = .reserve svcKey portId port →
      ports.Fits svcKey portId port) :
    (ports.perform low high operation).ports.Tidy := by
  cases operation with
  | allocate svcKey portId => exact tidy.allocate low high svcKey portId
  | reserve svcKey portId port =>
      exact (tidy.reserve_iff svcKey portId port).mpr (fits _ _ _ rfl)
  | releaseService svcKey => exact tidy.releaseService svcKey
  | releaseAssignment svcKey portId => exact tidy.releaseAssignment svcKey portId
  | cleanupUnused svcKey keep => exact tidy.cleanupUnused svcKey keep

/-! ## The file -/

theorem loadEntries_saved (entries : List (String × Int)) :
    loadEntries (entries.map fun (portId, port) => (portId, Json.int port)) =
      some (Dictionary.ofList entries) := by
  rw [loadEntries, Dictionary.ofList]
  generalize (Dictionary.empty : Dictionary String Int) = start
  induction entries generalizing start with
  | nil => rfl
  | cons entry rest ih =>
      exact ih (start.set entry.1 entry.2)

def loadSaved
    (ports : NodePorts)
    (entry : String × Dictionary String Int) : NodePorts :=
  { ports with
    assignments :=
      if (Dictionary.ofList entry.2.entries).entries.isEmpty then ports.assignments
      else ports.assignments.set entry.1 (Dictionary.ofList entry.2.entries)
    used := ports.used ∪ ((Dictionary.ofList entry.2.entries).entries.map Prod.snd).toFinset }

theorem load_saved (assignments : Dictionary String (Dictionary String Int)) :
    load (some (savedAssignments assignments)) = some (assignments.entries.foldl loadSaved
        ⟨.empty, ∅, some (savedAssignments assignments)⟩) := by
  simp only [load, savedAssignments]
  generalize (⟨.empty, ∅, _⟩ : NodePorts) = start
  induction assignments.entries generalizing start with
  | nil => rfl
  | cons entry rest ih =>
      have first : start.loadService (entry.1, .dict (entry.2.entries.map
          fun (portId, port) => (portId, .int port))) =
          some (loadSaved start entry) := by
        simp only [loadService, loadEntries_saved, Option.map_some, loadSaved]
      rw [List.map_cons, List.foldlM_cons, List.foldl_cons, first]
      exact ih (loadSaved start entry)

/-- Loading gives every service that was saved its ports again. -/
theorem assigned_foldl_loadSaved
    (entries : List (String × Dictionary String Int))
    (distinct : (entries.map Prod.fst).Nodup) (ports : NodePorts)
    (fresh : ∀ svcKey ∈ entries.map Prod.fst, ∀ portId, ports.assigned svcKey portId = none)
    (svcKey portId : String) :
    (entries.foldl loadSaved ports).assigned svcKey portId =
      match Dictionary.lookupEntry entries svcKey with
      | some own => own.find? portId
      | none => ports.assigned svcKey portId := by
  induction entries generalizing ports with
  | nil => rfl
  | cons entry rest ih =>
      obtain ⟨present, own⟩ := entry
      simp only [List.map_cons, List.nodup_cons] at distinct
      have first : ∀ key id, (loadSaved ports (present, own)).assigned key id =
          if present = key then own.find? id else ports.assigned key id := by
        intro key id
        by_cases none : (Dictionary.ofList own.entries).entries.isEmpty
        · have each := (Dictionary.isEmpty_entries_iff _).mp none id
          rw [Dictionary.find?_ofList_entries] at each
          by_cases same : present = key
          · subst same
            have before := fresh present (by simp) id
            simp only [assigned, portsOf] at before
            simp only [loadSaved, none, if_true, assigned, portsOf, before, each]
          · simp [loadSaved, none, assigned, portsOf, same]
        · by_cases same : present = key
          · simp [loadSaved, none, assigned, portsOf, same,
              Dictionary.find?_ofList_entries]
          · simp [loadSaved, none, assigned, portsOf, same]
      rw [List.foldl_cons, ih distinct.2]
      · simp only [first, Dictionary.lookupEntry]
        by_cases same : present = svcKey
        · subst same
          have absent : Dictionary.lookupEntry rest present = none :=
            ((⟨rest, distinct.2⟩ : Dictionary _ _).find?_eq_none_iff present).mpr distinct.1
          simp [absent]
        · simp [same]
      · intro key member id
        have other : present ≠ key := by
          rintro rfl
          exact distinct.1 member
        rw [first, if_neg other]
        exact fresh key (List.mem_cons_of_mem _ member) id

theorem mem_used_foldl_loadSaved
    (entries : List (String × Dictionary String Int)) (ports : NodePorts) (port : Int) :
    port ∈ (entries.foldl loadSaved ports).used ↔ port ∈ ports.used ∨
        ∃ entry ∈ entries, ∃ portId, entry.2.find? portId = some port := by
  induction entries generalizing ports with
  | nil => simp
  | cons entry rest ih =>
      have loaded : port ∈ ((Dictionary.ofList entry.2.entries).entries.map
          Prod.snd).toFinset ↔ ∃ portId, entry.2.find? portId = some port := by
        simp only [List.mem_toFinset, List.mem_map, Prod.exists, exists_eq_right,
          ← Dictionary.find?_eq_some_iff, Dictionary.find?_ofList_entries]
      simp only [List.foldl_cons, ih, loadSaved, Finset.mem_union,
        loaded, List.mem_cons, exists_eq_or_imp, or_assoc]

variable {loaded : NodePorts}

/-- What a tidy adapter saves, a new adapter loads as a tidy bookkeeping. -/
theorem Tidy.load_saved
    (tidy : ports.Tidy) (same : load (some (savedAssignments ports.assignments)) = some loaded) :
    loaded.Tidy := by
  rw [NodePorts.load_saved] at same
  obtain rfl := Option.some.inj same
  have assignedAgain : ∀ key id, (ports.assignments.entries.foldl loadSaved
        ⟨.empty, ∅, some (savedAssignments ports.assignments)⟩).assigned key id =
        ports.assigned key id := by
    intro key id
    rw [assigned_foldl_loadSaved _ ports.assignments.distinct _
      (by simp [assigned, portsOf])]
    simp only [assigned, portsOf, Dictionary.find?]
    cases Dictionary.lookupEntry ports.assignments.entries key <;> rfl
  refine ⟨fun port => ?_, ?_⟩
  · simp only [mem_used_foldl_loadSaved, assignedAgain, Finset.notMem_empty, false_or]
    constructor
    · rintro ⟨⟨key, own⟩, listed, id, found⟩
      refine ⟨key, id, ?_⟩
      have present := (ports.assignments.find?_eq_some_iff key own).mpr listed
      simp [assigned, portsOf, present, found]
    · rintro ⟨key, id, found⟩
      cases present : ports.assignments.find? key with
      | none => simp [assigned, portsOf, present] at found
      | some own =>
          refine ⟨(key, own), (ports.assignments.find?_eq_some_iff key own).mp present, id, ?_⟩
          simpa [assigned, portsOf, present] using found
  · simpa only [assignedAgain] using tidy.exclusive

theorem file_loadService
    {entry : String × Json}
    (same : ports.loadService entry = some loaded) : loaded.file = ports.file := by
  rw [loadService] at same
  split at same
  · obtain ⟨normalized, -, rfl⟩ := Option.map_eq_some_iff.mp same
    rfl
  · exact congrArg NodePorts.file (Option.some.inj same).symm

theorem file_foldlM_loadService
    (data : Dict) (same : data.foldlM loadService ports = some loaded) :
    loaded.file = ports.file := by
  induction data generalizing ports with
  | nil => exact congrArg NodePorts.file (Option.some.inj same).symm
  | cons entry rest ih =>
      rw [List.foldlM_cons] at same
      obtain ⟨middle, first, later⟩ := Option.bind_eq_some_iff.mp same
      rw [ih later, file_loadService first]

theorem file_load
    {file : Option Json}
    (same : load file = some loaded) : loaded.file = file := by
  unfold load at same
  split at same
  · exact file_foldlM_loadService _ same
  · exact congrArg NodePorts.file (Option.some.inj same).symm

/-- The routines leave the file to `_save_port_assignments`. -/
theorem file_perform (ports : NodePorts) (low high : Int) (operation : PortOp) :
    (ports.perform low high operation).ports.file = ports.file := by
  cases operation with
  | allocate svcKey portId =>
      simp only [perform, allocateNodePort]
      split
      · rfl
      · split <;> rfl
  | reserve svcKey portId port => rfl
  | releaseService svcKey =>
      simp only [perform, releaseServicePorts]
      split
      · rfl
      · split <;> rfl
  | releaseAssignment svcKey portId =>
      simp only [perform, releasePortAssignment]
      split
      · rfl
      · split <;> rfl
  | cleanupUnused svcKey keep =>
      simp only [perform, cleanupUnusedPorts]
      split
      · rfl
      · split <;> rfl

end NodePorts

/-! ## Runs of Service events and restarts -/

/-- The bookkeeping is tidy, and so is what a new adapter would load. -/
structure TidyWorld (world : World) : Prop where
  ports : world.ports.Tidy
  file : ∀ loaded, NodePorts.load world.ports.file = some loaded → loaded.Tidy

def FitsOp (world : World) : AdapterOp → Prop
  | .ports (.reserve svcKey portId port) => world.ports.Fits svcKey portId port
  | _ => True

instance (world : World) : (operation : AdapterOp) → Decidable (FitsOp world operation)
  | .ports (.reserve svcKey portId port) =>
      inferInstanceAs (Decidable (world.ports.Fits svcKey portId port))
  | .ports (.allocate _ _) | .ports (.releaseService _)
  | .ports (.releaseAssignment _ _) | .ports (.cleanupUnused _ _)
  | .get _ _ _ | .list _ _ | .listAll _ | .upsert _ _ _ _ _ _ _ _ | .delete _ _ _
  | .memory _ | .registerApp _ | .deleteRegisteredApp _ | .deleteAppState _
  | .removeApp _ | .startPod _ _ | .stopPod _ _ | .recordRow _ | .call _ =>
      inferInstanceAs (Decidable True)

variable {world : World}

theorem TidyWorld.onPorts
    (tidy : TidyWorld world) (settings : Settings) (outside : Outside) (operation : PortOp)
    (fits : FitsOp world (.ports operation)) :
    TidyWorld (AdapterOp.execute settings outside (.ports operation) world).2 := by
  have after := tidy.ports.perform settings.portLow settings.portHigh operation
    (by rintro svcKey portId port rfl; exact fits)
  have sameFile := world.ports.file_perform settings.portLow settings.portHigh operation
  simp only [AdapterOp.execute]
  split
  · simp only [NodePorts.save]
    split
    · exact ⟨after.congr rfl fun _ _ => rfl, fun _ => after.load_saved⟩
    · exact ⟨after, sameFile ▸ tidy.file⟩
  · exact ⟨after, sameFile ▸ tidy.file⟩

/-- An operation that is not on the ports leaves them alone. -/
theorem ports_execute
    (settings : Settings) (outside : Outside) (operation : AdapterOp) (world : World)
    (other : ∀ portOperation, operation ≠ .ports portOperation) :
    (operation.execute settings outside world).2.ports = world.ports := by
  cases operation with
  | ports portOperation => exact absurd rfl (other portOperation)
  | upsert guarded basis gvr ns name metadata spec status =>
      cases guarded with
      | false => rfl
      | true =>
          simp only [AdapterOp.execute, World.writeGuarded]
          split <;> rfl
  | registerApp | deleteRegisteredApp | deleteAppState | removeApp =>
      simp only [AdapterOp.execute, World.control]
      split <;> rfl
  | get | list | listAll | delete | memory | startPod | stopPod | recordRow | call =>
      rfl

theorem TidyWorld.execute
    (tidy : TidyWorld world) (settings : Settings) (outside : Outside)
    (operation : AdapterOp) (fits : FitsOp world operation) :
    TidyWorld (operation.execute settings outside world).2 := by
  by_cases ports : ∃ portOperation, operation = .ports portOperation
  · obtain ⟨portOperation, rfl⟩ := ports
    exact tidy.onPorts settings outside portOperation fits
  · have same := ports_execute settings outside operation world
      fun portOperation equal => ports ⟨portOperation, equal⟩
    exact ⟨same ▸ tidy.ports, same ▸ tidy.file⟩

/-- A Service event is handled, or the adapter is started again. -/
inductive ServiceAction
  | event (type : EventType) (svc : K8sObject)
  | restart

/-- One step.  A new adapter has an empty memory and loads the file. -/
def serviceStep (worker : Worker) (outside : Outside) (world : World) :
    ServiceAction → Option World
  | .event type svc =>
      some ((handleServiceEvent worker type svc).runAlone
        (AdapterOp.execute worker.settings outside) world).2
  | .restart =>
      (NodePorts.load world.ports.file).map fun ports =>
        { world with memory := .empty, ports := ports }

/-- Every reservation that is made while the event is handled fits. -/
def ReservationsFit (worker : Worker) (outside : Outside) (world : World) :
    ServiceAction → Prop
  | .event type svc =>
      (handleServiceEvent worker type svc).Along
        (AdapterOp.execute worker.settings outside) FitsOp world
  | .restart => True

instance (worker : Worker) (outside : Outside) (world : World) :
    (action : ServiceAction) → Decidable (ReservationsFit worker outside world action)
  | .event type svc =>
      inferInstanceAs (Decidable ((handleServiceEvent worker type svc).Along
        (AdapterOp.execute worker.settings outside) FitsOp world))
  | .restart => inferInstanceAs (Decidable True)

theorem TidyWorld.step
    (worker : Worker) (outside : Outside) (world : World) (action : ServiceAction)
    (next : World) (tidy : TidyWorld world) (fit : ReservationsFit worker outside world action)
    (stepped : serviceStep worker outside world action = some next) : TidyWorld next := by
  cases action with
  | event type svc =>
      obtain rfl := Option.some.inj stepped
      exact Program.invariant_of_runAlone TidyWorld (fun world operation tidy fits =>
          TidyWorld.execute tidy worker.settings outside operation fits) tidy fit
  | restart =>
      obtain ⟨loaded, found, rfl⟩ := Option.map_eq_some_iff.mp stepped
      have sameFile := NodePorts.file_load found
      exact ⟨tidy.file loaded found, by simpa only [sameFile] using tidy.file⟩

/-- Along every run from an adapter without saved ports, the ports in use are
the assigned ones and no port is assigned twice, as long as every reservation
fits. -/
theorem tidy_of_reservationsFit
    {worker : Worker} {outside : Outside} {start finish : World}
    {actions : List ServiceAction} (fresh : start.ports = .empty)
    (fit : Machine.Along (serviceStep worker outside)
      (ReservationsFit worker outside) start actions)
    (ran : Machine.run (serviceStep worker outside) start actions = some finish) :
    finish.ports.Tidy := by
  have initial : TidyWorld start := by
    refine ⟨fresh ▸ NodePorts.tidy_empty none, fun loaded found => ?_⟩
    rw [fresh] at found
    exact Option.some.inj found ▸ NodePorts.tidy_empty none
  exact (Machine.invariant_of_step (TidyWorld.step worker outside) initial fit ran).ports

/-- An explicit port, an allocated one, a restart and a deletion. -/
def orderlyServices : List ServiceAction :=
  [.event .added (nodePortService "a" [("port", .int 80), ("nodePort", .int 31000)]),
    .event .added (nodePortService "b" [("port", .int 80)]),
    .restart,
    .event .modified (nodePortService "b" [("port", .int 81)]),
    .event .deleted (nodePortService "a" [("port", .int 80), ("nodePort", .int 31000)])]

/-- The result of taking the actions from a new adapter on an empty store. -/
def afterServices (actions : List ServiceAction) : Option World :=
  Machine.run (serviceStep plainWorker plainOutside) (.startedOn .empty) actions

theorem tidy_orderlyServices :
    ∃ finish, afterServices orderlyServices = some finish ∧
      finish.ports.Tidy ∧ finish.ports.assigned "default/b" "idx-0" = some 31001 := by
  have ran : (afterServices orderlyServices).isSome := by decide +kernel
  obtain ⟨finish, ran⟩ := Option.isSome_iff_exists.mp ran
  refine ⟨finish, ran, ?_, ?_⟩
  · exact tidy_of_reservationsFit rfl (by decide +kernel) ran
  · have port : (afterServices orderlyServices).bind
        (fun finish => finish.ports.assigned "default/b" "idx-0") = some 31001 := by
      decide +kernel
    simpa [ran] using port

def samePortServices : List ServiceAction :=
  [.event .added (nodePortService "a" [("port", .int 80), ("nodePort", .int 31000)]),
    .event .added (nodePortService "b" [("port", .int 80), ("nodePort", .int 31000)])]

/-- The second Service gets the port that the first one has. -/
theorem samePortServices_not_tidy :
    ∃ finish, afterServices samePortServices = some finish ∧ ¬ finish.ports.Tidy := by
  have ran : (afterServices samePortServices).isSome := by decide +kernel
  obtain ⟨finish, ran⟩ := Option.isSome_iff_exists.mp ran
  refine ⟨finish, ran, fun tidy => ?_⟩
  have both : (afterServices samePortServices).map
      (fun finish => (finish.ports.assigned "default/a" "idx-0",
        finish.ports.assigned "default/b" "idx-0")) =
      some (some 31000, some 31000) := by
    decide +kernel
  rw [ran, Option.map_some, Option.some.injEq, Prod.mk.injEq] at both
  have same := tidy.exclusive 31000 _ _ _ _ both.1 both.2
  exact absurd same.1 (by decide)

end Adapter
end K1s
