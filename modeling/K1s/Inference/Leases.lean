import K1s.Lib.Crew

/-!
# Leases of inference cells

A cell reserves GPU slots, ports and node locks under a lease id that it draws
for this purpose, and releases all that is recorded under the id.  The manager
of the leases is written against the six calls that a state store offers; what
these calls do is stated here by the records of each lease, and proved for the
two stores in the next module.
-/

namespace K1s
namespace Inference

/-! ## The manager -/

/-- The calls of a state store. -/
structure LeaseStore (Op : Type) (Reply : Op → Type) where
  /-- `acquire_inference_gpu_leases`. -/
  acquireGpuLeases : (leaseId cellKey : String) → (slots : List (String × Int)) →
    (ttlSeconds : Int) → Program Op Reply Bool
  /-- `reserve_inference_port`. -/
  reservePort : (leaseId cellKey nodeId : String) → (port ttlSeconds : Int) → Program Op Reply Bool
  /-- `acquire_inference_node_locks`. -/
  acquireNodeLocks : (leaseId cellKey : String) → (nodeIds : List String) →
    (ttlSeconds : Int) → Program Op Reply Bool
  /-- `release_inference_port_leases`. -/
  releasePortLeases : (leaseId : String) → Program Op Reply Unit
  /-- `release_inference_gpu_leases`. -/
  releaseGpuLeases : (leaseId : String) → Program Op Reply Unit
  /-- `release_inference_node_locks`. -/
  releaseNodeLocks : (leaseId : String) → Program Op Reply Unit

structure StagePlacement where
  stage : Int
  nodeId : String
  gpuIndices : List Int

/-- What `reserve` reads of the cell and its spec. -/
structure ReserveRequest where
  cellKey : String
  placements : List StagePlacement
  ttlSeconds : Int
  masterStage : Int
  masterPortMin : Int
  masterPortMax : Int
  apiPortMin : Int
  apiPortMax : Int
  executorType : String
  fallbackMode : String
  policyMode : String

/-- What a reservation holds. -/
structure LeaseBundle where
  leaseId : String
  slots : List (String × Int)
  masterPort : Option Int
  apiPort : Int
  lockedNodes : List String

/-- `StagePlanner.gpu_slots`. -/
def gpuSlots (placements : List StagePlacement) : List (String × Int) :=
  placements.flatMap fun placement => placement.gpuIndices.map fun gpu => (placement.nodeId, gpu)

/-- `range(min(start, end), max(start, end) + 1)`. -/
def portRange (start finish : Int) : List Int :=
  let lo := min start finish
  let hi := max start finish
  (List.range (hi + 1 - lo).toNat).map fun offset => lo + offset

/-- `sorted({p.node_id for p in placements})`. -/
def nodeIds (placements : List StagePlacement) : List String :=
  ((placements.map StagePlacement.nodeId).dedup).insertionSort (· ≤ ·)

/-- The node of the master stage, that of the first placement if no placement
has this stage. -/
def ReserveRequest.masterNode (request : ReserveRequest) : Option String :=
  match request.placements with
  | [] => none
  | first :: _ =>
      some ((request.placements.find? fun placement =>
        placement.stage = request.masterStage).getD first).nodeId

section Manager

variable {Op : Type} {Reply : Op → Type} (store : LeaseStore Op Reply)

/-- `reserve_inference_port_from_range`: the first port that can be had. -/
def reservePortFrom (leaseId cellKey nodeId : String) (ttlSeconds : Int) :
    List Int → Program Op Reply (Option Int)
  | [] => .done none
  | port :: rest => do
      let reserved ← store.reservePort leaseId cellKey nodeId port ttlSeconds
      if reserved then pure (some port)
      else reservePortFrom leaseId cellKey nodeId ttlSeconds rest

/-- `InferenceLeaseManager.release`. -/
def release (leaseId : String) : Program Op Reply Unit :=
  if leaseId = "" then .done ()
  else do
    store.releasePortLeases leaseId
    store.releaseGpuLeases leaseId
    store.releaseNodeLocks leaseId

/-- Release what has been reserved, and give up. -/
def giveUp (leaseId : String) : Program Op Reply (Option LeaseBundle) := do
  release store leaseId
  pure none

/-- The last part of `reserve`: the node locks. -/
def lockNodes
    (leaseId : String) (request : ReserveRequest) (ttlSeconds : Int)
    (masterPort : Option Int) (apiPort : Int) : Program Op Reply (Option LeaseBundle) :=
  let bundle (lockedNodes : List String) : LeaseBundle :=
    ⟨leaseId, gpuSlots request.placements, masterPort, apiPort, lockedNodes⟩
  if request.policyMode = "strict_ports" then do
    let locked ← store.acquireNodeLocks leaseId request.cellKey
      (nodeIds request.placements) ttlSeconds
    if locked then pure (some (bundle (nodeIds request.placements)))
    else giveUp store leaseId
  else pure (some (bundle []))

/-- The part of `reserve` after the master port. -/
def reserveApiPort
    (leaseId : String) (request : ReserveRequest) (ttlSeconds : Int) (node : String)
    (masterPort : Option Int) : Program Op Reply (Option LeaseBundle) := do
  let apiPort ← reservePortFrom store leaseId request.cellKey node ttlSeconds
    (portRange request.apiPortMin request.apiPortMax)
  match apiPort with
  | none => giveUp store leaseId
  | some apiPort => lockNodes store leaseId request ttlSeconds masterPort apiPort

/-- `InferenceLeaseManager.reserve`, with the lease id it draws. -/
def reserve (leaseId : String) (request : ReserveRequest) :
    Program Op Reply (Option LeaseBundle) := do
  let ttl := max 60 request.ttlSeconds
  let acquired ← store.acquireGpuLeases leaseId request.cellKey
    (gpuSlots request.placements) ttl
  if acquired then do
    let node ← .ofOption request.masterNode
    if request.executorType = "mp" ∨ request.fallbackMode = "mp_on_failure" then do
      let masterPort ← reservePortFrom store leaseId request.cellKey node ttl
        (portRange request.masterPortMin request.masterPortMax)
      match masterPort with
      | none => giveUp store leaseId
      | some masterPort => reserveApiPort store leaseId request ttl node (some masterPort)
    else reserveApiPort store leaseId request ttl node none
  else pure none

/-- A call of the manager.  A reservation comes with the lease id it draws. -/
inductive LeaseCall
  | reserve (leaseId : String) (request : ReserveRequest)
  | release (leaseId : String)

def LeaseCall.leaseId : LeaseCall → String
  | .reserve leaseId _ => leaseId
  | .release leaseId => leaseId

def LeaseCall.isRelease : LeaseCall → Bool
  | .reserve _ _ => false
  | .release _ => true

/-- What a call returns. -/
inductive LeaseOutcome
  | reserved (bundle : Option LeaseBundle)
  | released

def LeaseCall.program : LeaseCall → Program Op Reply LeaseOutcome
  | .reserve leaseId request =>
      (Inference.reserve store leaseId request).andThen fun bundle => .done (.reserved bundle)
  | .release leaseId =>
      (Inference.release store leaseId).andThen fun _ => .done .released

end Manager

/-! ## The records of a lease -/

/-- A table of records, each under the id of a lease. -/
structure LeaseTable (σ κ ρ : Type) where
  record? : σ → κ → Option ρ
  leaseOf : ρ → String

section Records

variable {σ κ ρ : Type} (table : LeaseTable σ κ ρ)

def LeaseTable.records (leaseId : String) (state : σ) (key : κ) : Option ρ :=
  (table.record? state key).filter fun record => table.leaseOf record = leaseId

/-- The lease has a record under exactly these keys. -/
def LeaseTable.Holds (leaseId : String) (keys : κ → Prop) (state : σ) : Prop :=
  ∀ key, (table.records leaseId state key).isSome ↔ keys key

/-- The lease has no record but under these keys. -/
def LeaseTable.HoldsWithin (leaseId : String) (keys : κ → Prop) (state : σ) : Prop :=
  ∀ key, (table.records leaseId state key).isSome → keys key

/-- No record of the lease is added or changed. -/
def LeaseTable.Shrinks (leaseId : String) (before after : σ) : Prop :=
  ∀ key record, table.records leaseId after key = some record →
    table.records leaseId before key = some record

/-- The records of all other leases stay as they are. -/
def LeaseTable.KeepsOthers (leaseId : String) (before after : σ) : Prop :=
  ∀ other, other ≠ leaseId → table.records other after = table.records other before

/-- What the calls of the manager rely on and guarantee.  With `shared` releases
of one lease may run at the same time. -/
def leaseProtocol
    {Op : Type} {Reply : Op → Type} (execute : (operation : Op) → σ → Reply operation × σ)
    (shared : Bool) : Protocol σ Op Reply LeaseCall where
  execute := execute
  rely := fun call before after =>
    if shared && call.isRelease then table.Shrinks call.leaseId before after
    else table.records call.leaseId after = table.records call.leaseId before
  rely_refl := by
    intro call state
    split
    · exact fun _ _ found => found
    · rfl
  rely_trans := by
    intro call first second third
    split
    · exact fun one two key record found => one key record (two key record found)
    · exact fun one two => two.trans one
  guarantee := fun call before after =>
    table.KeepsOthers call.leaseId before after ∧
      (call.isRelease = true → table.Shrinks call.leaseId before after)
  compatible := fun first second =>
    first.leaseId ≠ second.leaseId ∨
      shared = true ∧ first.isRelease = true ∧ second.isRelease = true
  compatible_symm := by
    rintro first second (different | ⟨both, one, two⟩)
    · exact .inl (Ne.symm different)
    · exact .inr ⟨both, two, one⟩
  rely_of_guarantee := by
    rintro first second before after (different | ⟨both, one, two⟩) ⟨others, shrinks⟩
    · have same := others second.leaseId (Ne.symm different)
      split
      · intro key record found
        rw [← same]
        exact found
      · exact same
    · simp only [both, two, Bool.and_self, if_true]
      by_cases sameLease : first.leaseId = second.leaseId
      · exact sameLease ▸ shrinks one
      · intro key record found
        rw [← others second.leaseId (Ne.symm sameLease)]
        exact found

/-! ## Changing one key -/

variable {state : σ}

theorem LeaseTable.records_of_none
    {key : κ} (missing : table.record? state key = none)
    (leaseId : String) : table.records leaseId state key = none := by
  rw [LeaseTable.records, missing, Option.filter_none]

theorem LeaseTable.records_of_some
    {key : κ} {record : ρ} (stored : table.record? state key = some record) (leaseId : String) :
    table.records leaseId state key =
      if table.leaseOf record = leaseId then some record else none := by
  rw [LeaseTable.records, stored]
  by_cases owned : table.leaseOf record = leaseId
  · simp [owned]
  · simp [owned]

variable
    {table}
    {leaseId : String}
    {held : κ → Prop}
    {before after : σ}
    {key : κ}
    {record : ρ}

theorem LeaseTable.records_congr
    (same : table.record? after key = table.record? before key)
    (leaseId : String) : table.records leaseId after key = table.records leaseId before key := by
  rw [LeaseTable.records, LeaseTable.records, same]

theorem LeaseTable.Holds.congr
    {other : κ → Prop} (holds : table.Holds leaseId held before)
    (same : ∀ key, held key ↔ other key) : table.Holds leaseId other before :=
  fun key => (holds key).trans (same key)

theorem LeaseTable.exists_record_of_isSome
    (present : (table.records leaseId before key).isSome) :
    ∃ record, table.record? before key = some record ∧ table.leaseOf record = leaseId := by
  obtain ⟨record, found⟩ := Option.isSome_iff_exists.mp present
  obtain ⟨stored, owned⟩ := Option.filter_eq_some_iff.mp found
  exact ⟨record, stored, by simpa using owned⟩

/-- A record under a key that had none adds the key to what its lease holds, and
changes nothing for the others. -/
theorem LeaseTable.added
    (holds : table.Holds leaseId held before) (absent : table.record? before key = none)
    (added : table.record? after key = some record) (owned : table.leaseOf record = leaseId)
    (elsewhere : ∀ other, other ≠ key → table.record? after other = table.record? before other) :
    table.KeepsOthers leaseId before after ∧ ¬ held key ∧
      table.Holds leaseId (fun other => held other ∨ other = key) after := by
  refine ⟨?_, ?_, ?_⟩
  · intro lease different
    funext other
    by_cases same : other = key
    · subst same
      rw [table.records_of_none absent, table.records_of_some added, owned,
        if_neg (Ne.symm different)]
    · exact records_congr (elsewhere other same) lease
  · intro had
    have present := (holds key).mpr had
    rw [table.records_of_none absent] at present
    cases present
  · intro other
    by_cases same : other = key
    · subst same
      rw [table.records_of_some added, if_pos owned]
      simp
    · rw [records_congr (elsewhere other same) leaseId, holds other]
      exact ⟨.inl, fun either => either.resolve_right same⟩

theorem LeaseTable.removed
    (holds : table.Holds leaseId held before) (had : held key)
    (gone : table.record? after key = none)
    (elsewhere : ∀ other, other ≠ key → table.record? after other = table.record? before other) :
    table.KeepsOthers leaseId before after ∧ table.Shrinks leaseId before after ∧
      table.Holds leaseId (fun other => held other ∧ other ≠ key) after := by
  obtain ⟨record, stored, owned⟩ := exists_record_of_isSome ((holds key).mpr had)
  refine ⟨?_, ?_, ?_⟩
  · intro lease different
    funext other
    by_cases same : other = key
    · subst same
      rw [table.records_of_none gone, table.records_of_some stored, owned,
        if_neg (Ne.symm different)]
    · exact records_congr (elsewhere other same) lease
  · intro other found present
    by_cases same : other = key
    · subst same
      rw [table.records_of_none gone] at present
      cases present
    · rwa [records_congr (elsewhere other same) leaseId] at present
  · intro other
    by_cases same : other = key
    · subst same
      rw [table.records_of_none gone]
      simp
    · rw [records_congr (elsewhere other same) leaseId, holds other]
      exact ⟨fun kept => ⟨kept, same⟩, And.left⟩

variable (table)

/-! ## What the calls of a store have to do -/

/-- The keys of the three tables. -/
structure ResourceKeys (κ : Type) where
  gpuKey : String × Int → κ
  portKey : String → Int → κ
  nodeKey : String → κ
  isGpu : κ → Prop
  isPort : κ → Prop
  isNode : κ → Prop

/-- The calls of a store do what the manager expects of them, whatever the other
calls do at the same time. -/
structure LeaseStore.Lawful
    {Op : Type} {Reply : Op → Type} (store : LeaseStore Op Reply) (keys : ResourceKeys κ)
    (protocol : Protocol σ Op Reply LeaseCall) : Prop where
  /-- A record is in one of the three tables. -/
  covered : ∀ state key record, table.record? state key = some record →
    keys.isGpu key ∨ keys.isPort key ∨ keys.isNode key
  acquireGpuLeases : ∀ leaseId request cellKey slots ttlSeconds held state,
    table.Holds leaseId held state → protocol.Follows (.reserve leaseId request)
        (fun acquired reached =>
          if acquired then
            table.Holds leaseId (fun key => held key ∨ key ∈ slots.map keys.gpuKey) reached
          else table.Holds leaseId held reached)
        (store.acquireGpuLeases leaseId cellKey slots ttlSeconds) state
  reservePort : ∀ leaseId request cellKey nodeId port ttlSeconds held state,
    table.Holds leaseId held state → protocol.Follows (.reserve leaseId request)
        (fun reserved reached =>
          if reserved then
            table.Holds leaseId (fun key => held key ∨ key = keys.portKey nodeId port) reached
          else table.Holds leaseId held reached)
        (store.reservePort leaseId cellKey nodeId port ttlSeconds) state
  acquireNodeLocks : ∀ leaseId request cellKey nodeIds ttlSeconds held state,
    table.Holds leaseId held state → protocol.Follows (.reserve leaseId request)
        (fun acquired reached =>
          if acquired then
            table.Holds leaseId (fun key => held key ∨ key ∈ nodeIds.map keys.nodeKey) reached
          else table.Holds leaseId held reached)
        (store.acquireNodeLocks leaseId cellKey nodeIds ttlSeconds) state
  releasePortLeases : ∀ call held state, table.HoldsWithin call.leaseId held state →
    protocol.Follows call
      (fun _ => table.HoldsWithin call.leaseId fun key => held key ∧ ¬ keys.isPort key)
      (store.releasePortLeases call.leaseId) state
  releaseGpuLeases : ∀ call held state, table.HoldsWithin call.leaseId held state →
    protocol.Follows call
      (fun _ => table.HoldsWithin call.leaseId fun key => held key ∧ ¬ keys.isGpu key)
      (store.releaseGpuLeases call.leaseId) state
  releaseNodeLocks : ∀ call held state, table.HoldsWithin call.leaseId held state →
    protocol.Follows call
      (fun _ => table.HoldsWithin call.leaseId fun key => held key ∧ ¬ keys.isNode key)
      (store.releaseNodeLocks call.leaseId) state

def LeaseTable.NoRecord (leaseId : String) (state : σ) : Prop :=
  ∀ key, table.records leaseId state key = none

/-- Everything that a bundle names is recorded under its lease. -/
structure LeaseTable.HoldsBundle (keys : ResourceKeys κ) (leaseId node : String)
    (bundle : LeaseBundle) (state : σ) : Prop where
  slots : ∀ slot ∈ bundle.slots, (table.records leaseId state (keys.gpuKey slot)).isSome
  masterPort : ∀ port ∈ bundle.masterPort,
    (table.records leaseId state (keys.portKey node port)).isSome
  apiPort : (table.records leaseId state (keys.portKey node bundle.apiPort)).isSome
  lockedNodes : ∀ locked ∈ bundle.lockedNodes,
    (table.records leaseId state (keys.nodeKey locked)).isSome

/-- What holds when a call returns: a reservation that returns nothing has left
no record, one that returns a bundle holds all of it, and a release has removed
every record of its lease. -/
def leaseResult (keys : ResourceKeys κ) (call : LeaseCall) (outcome : LeaseOutcome)
    (state : σ) : Prop :=
  match call, outcome with
  | .reserve leaseId _, .reserved none => table.NoRecord leaseId state
  | .reserve leaseId request, .reserved (some bundle) =>
      ∃ node, request.masterNode = some node ∧ bundle.leaseId = leaseId ∧
        bundle.slots = gpuSlots request.placements ∧
        table.HoldsBundle keys leaseId node bundle state
  | .release leaseId, .released => leaseId ≠ "" → table.NoRecord leaseId state
  | _, _ => False

/-! ## What the manager does with them -/

section Lawful

variable
    {table}
    {Op : Type}
    {Reply : Op → Type}
    {store : LeaseStore Op Reply}
    {keys : ResourceKeys κ}
    {protocol : Protocol σ Op Reply LeaseCall}

theorem LeaseTable.NoRecord.holds
    {leaseId : String}
    (none_ : table.NoRecord leaseId state) : table.Holds leaseId (fun _ => False) state := by
  intro key
  simp [none_ key]

theorem follows_release
    (lawful : store.Lawful table keys protocol) (call : LeaseCall)
    (named : call.leaseId ≠ "") (state : σ) :
    protocol.Follows call (fun _ => table.NoRecord call.leaseId)
      (release store call.leaseId) state := by
  unfold release
  rw [if_neg named]
  refine Protocol.Follows.andThen
    (lawful.releasePortLeases call (fun _ => True) state fun _ _ => trivial)
    fun _ _ ports => ?_
  refine Protocol.Follows.andThen (lawful.releaseGpuLeases call _ _ ports) fun _ _ gpus => ?_
  refine (lawful.releaseNodeLocks call _ _ gpus).weaken fun _ reached within key => ?_
  by_contra present
  have some_ : (table.records call.leaseId reached key).isSome :=
    Option.isSome_iff_ne_none.mpr present
  obtain ⟨record, stored, -⟩ := LeaseTable.exists_record_of_isSome some_
  obtain ⟨⟨⟨-, notPort⟩, notGpu⟩, notNode⟩ := within key some_
  rcases lawful.covered reached key record stored with gpu | port | node
  · exact notGpu gpu
  · exact notPort port
  · exact notNode node

/-- A port of the range is recorded, or nothing is. -/
theorem follows_reservePortFrom
    (lawful : store.Lawful table keys protocol) (leaseId : String)
    (request : ReserveRequest) (cellKey nodeId : String) (ttlSeconds : Int)
    (ports : List Int) {held : κ → Prop} (holds : table.Holds leaseId held state) :
    protocol.Follows (.reserve leaseId request) (fun reserved reached =>
        match reserved with
        | some port =>
            table.Holds leaseId (fun key => held key ∨ key = keys.portKey nodeId port) reached
        | none => table.Holds leaseId held reached)
      (reservePortFrom store leaseId cellKey nodeId ttlSeconds ports) state := by
  induction ports generalizing state with
  | nil => exact holds
  | cons port rest ih =>
      refine Protocol.Follows.andThen
        (lawful.reservePort leaseId request cellKey nodeId port ttlSeconds held state holds)
        fun reserved reached result => ?_
      cases reserved with
      | true => exact result
      | false => exact ih result

section Reserve

variable
    (lawful : store.Lawful table keys protocol)
    {leaseId : String}
    {request : ReserveRequest}

include lawful

/-- The result of a reservation, as it is returned. -/
abbrev Reserved (table : LeaseTable σ κ ρ) (keys : ResourceKeys κ) (leaseId : String)
    (request : ReserveRequest) (bundle : Option LeaseBundle) (state : σ) : Prop :=
  leaseResult table keys (.reserve leaseId request) (.reserved bundle) state

theorem follows_giveUp (named : leaseId ≠ "") (state : σ) :
    protocol.Follows (.reserve leaseId request) (Reserved table keys leaseId request)
      (giveUp store leaseId) state :=
  Protocol.Follows.andThen (follows_release lawful (.reserve leaseId request) named state)
    fun _ _ gone => gone

variable {ttlSeconds : Int} {masterPort : Option Int} {node : String}

theorem follows_lockNodes
    {apiPort : Int} {held : κ → Prop} (named : leaseId ≠ "")
    (master : request.masterNode = some node) (holds : table.Holds leaseId held state)
    (slots : ∀ slot ∈ gpuSlots request.placements, held (keys.gpuKey slot))
    (masterHeld : ∀ port ∈ masterPort, held (keys.portKey node port))
    (apiHeld : held (keys.portKey node apiPort)) :
    protocol.Follows (.reserve leaseId request) (Reserved table keys leaseId request)
      (lockNodes store leaseId request ttlSeconds masterPort apiPort) state := by
  refine Protocol.Follows.ite (fun _ => ?_) fun _ => ?_
  · refine Protocol.Follows.andThen
      (lawful.acquireNodeLocks leaseId request _ _ _ held state holds)
      fun locked reached result => ?_
    cases locked with
    | false => exact follows_giveUp lawful named reached
    | true =>
        have both : table.Holds leaseId
          (fun key => held key ∨ key ∈ (nodeIds request.placements).map keys.nodeKey)
          reached := result
        refine ⟨node, master, rfl, rfl, ?_, ?_, ?_, ?_⟩
        · exact fun slot member => (both _).mpr (.inl (slots slot member))
        · exact fun port member => (both _).mpr (.inl (masterHeld port member))
        · exact (both _).mpr (.inl apiHeld)
        · exact fun locked member => (both _).mpr (.inr (List.mem_map_of_mem member))
  · refine ⟨node, master, rfl, rfl, ?_, ?_, ?_, fun _ member => by cases member⟩
    · exact fun slot member => (holds _).mpr (slots slot member)
    · exact fun port member => (holds _).mpr (masterHeld port member)
    · exact (holds _).mpr apiHeld

theorem follows_reserveApiPort
    {held : κ → Prop} (named : leaseId ≠ "") (master : request.masterNode = some node)
    (holds : table.Holds leaseId held state)
    (slots : ∀ slot ∈ gpuSlots request.placements, held (keys.gpuKey slot))
    (masterHeld : ∀ port ∈ masterPort, held (keys.portKey node port)) :
    protocol.Follows (.reserve leaseId request) (Reserved table keys leaseId request)
      (reserveApiPort store leaseId request ttlSeconds node masterPort) state := by
  refine Protocol.Follows.andThen
    (follows_reservePortFrom lawful leaseId request _ node _ _ holds) ?_
  rintro (_ | port) reached result
  · exact follows_giveUp lawful named reached
  · exact follows_lockNodes lawful named master result
      (fun slot member => .inl (slots slot member))
      (fun other member => .inl (masterHeld other member)) (.inr rfl)

/-- A reservation under a new lease id. -/
theorem follows_reserve (named : leaseId ≠ "") (fresh : table.NoRecord leaseId state) :
    protocol.Follows (.reserve leaseId request) (Reserved table keys leaseId request)
      (reserve store leaseId request) state := by
  refine Protocol.Follows.andThen
    (lawful.acquireGpuLeases leaseId request _ _ _ _ state fresh.holds)
    fun acquired reached result => ?_
  cases acquired with
  | false =>
      intro key
      have none_ := (result key).mp
      simpa using none_
  | true =>
      have holds : table.Holds leaseId
        (fun key => False ∨ key ∈ (gpuSlots request.placements).map keys.gpuKey)
        reached := result
      refine Protocol.Follows.ofOption_andThen fun node master => ?_
      refine Protocol.Follows.ite (fun _ => ?_) fun _ => ?_
      · refine Protocol.Follows.andThen
          (follows_reservePortFrom lawful leaseId request _ node _ _ holds) ?_
        rintro (_ | port) after later
        · exact follows_giveUp lawful named after
        · refine follows_reserveApiPort lawful named master later ?_ ?_
          · exact fun slot member => .inl (.inr (List.mem_map_of_mem member))
          · rintro other ⟨⟩
            exact .inr rfl
      · refine follows_reserveApiPort lawful named master holds ?_ ?_
        · exact fun slot member => .inr (List.mem_map_of_mem member)
        · rintro other ⟨⟩

end Reserve

/-- The lease id of a reservation is drawn anew: no record has it. -/
def leaseReady
    (table : LeaseTable σ κ ρ) {Op : Type} {Reply : Op → Type} (call : LeaseCall)
    (crew : Crew σ Op Reply LeaseOutcome LeaseCall) : Prop :=
  match call with
  | .reserve leaseId _ => leaseId ≠ "" ∧ table.NoRecord leaseId crew.state
  | .release _ => True

/-- Every call of the manager does what it is for. -/
theorem follows_program
    (lawful : store.Lawful table keys protocol) (call : LeaseCall)
    (crew : Crew σ Op Reply LeaseOutcome LeaseCall) (ready : leaseReady table call crew) :
    protocol.Follows call (leaseResult table keys call) (call.program store) crew.state := by
  cases call with
  | reserve leaseId request =>
      exact Protocol.Follows.andThen (follows_reserve lawful ready.1 ready.2)
        fun _ _ result => result
  | release leaseId =>
      by_cases named : leaseId = ""
      · subst named
        exact fun given => absurd rfl given
      · exact Protocol.Follows.andThen (follows_release lawful (.release leaseId) named _)
          fun _ _ gone _ => gone

end Lawful

end Records

end Inference
end K1s
