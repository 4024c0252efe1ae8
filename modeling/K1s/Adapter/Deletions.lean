import K1s.Adapter.StatusWrites

/-!
# Deleted workloads

The DELETED event of a workload makes its watch remove the app.  Other threads
register apps and start pods from copies of the workload that they have read
before, without looking at the store again.  This module says when nothing of a
deleted workload is left once all events are handled.
-/

namespace K1s
namespace Adapter

open Py ApiShim Program

/-- The kind whose objects are stored under a resource. -/
def WorkloadKind.ofGvr (gvr : Gvr) : Option WorkloadKind :=
  [.deployment, .statefulset, .daemonset, .job, .cronjob].find? fun kind =>
    kind.gvr = gvr

theorem WorkloadKind.ofGvr_gvr (kind : WorkloadKind) : ofGvr kind.gvr = some kind := by
  cases kind <;> decide

def deletionOf (event : EventType × K8sObject) : Option (WorkloadKind × K8sObject) :=
  if event.1 = .deleted then (WorkloadKind.ofGvr event.2.gvr).map (·, event.2)
  else none

/-- The calls that run, and the DELETED events of workloads that no watch has
handled yet. -/
structure Cluster where
  pool : Pool World AdapterOp AdapterOp.Reply Unit
  queue : List (WorkloadKind × K8sObject)

namespace Cluster

/-- The deletions that were published between two worlds. -/
def newDeletions (before after : World) : List (WorkloadKind × K8sObject) :=
  (after.published.drop before.published.length).filterMap deletionOf

/-- One step.  A watch gets the DELETED events that are in the queue. -/
def step (worker : Worker) (outside : Outside) (cluster : Cluster)
    (action : PoolAction AdapterCall) : Option Cluster :=
  let moved := cluster.pool.step (AdapterOp.execute worker.settings outside)
    (AdapterCall.body worker) action
  match action with
  | .start _ (.workload kind .deleted object) =>
      if (kind, object) ∈ cluster.queue then
        moved.map fun pool => ⟨pool, cluster.queue.erase (kind, object)⟩
      else none
  | .start _ _ => moved.map fun pool => ⟨pool, cluster.queue⟩
  | .advance _ =>
      moved.map fun pool =>
        ⟨pool, cluster.queue ++ newDeletions cluster.pool.state pool.state⟩

/-- A workload that registers the app under its name is stored. -/
def Stored (world : World) (app : String) : Prop :=
  ∃ (kind : WorkloadKind) (key : ObjectKey), kind.registersApp = true ∧
    key.gvr = kind.gvr ∧ (world.store.row? key).isSome = true ∧
    appKey key.name (some key.ns) = app

/-- A removal of the app is still to come: its DELETED event waits in the queue, or
a call is bound to perform the operation. -/
def RemovalComes (cluster : Cluster) (app : String) (operation : AdapterOp) : Prop :=
  (∃ deletion ∈ cluster.queue, appName deletion.2 = app) ∨
    ∃ thread program, cluster.pool.threads thread = some program ∧ program.Will (· = operation)

/-- The app is registered and its pods are started only while a workload of it is
stored or a removal is still to come, and its removals succeed. -/
def OrderlyOp (outside : Outside) (cluster : Cluster) (app : String) :
    AdapterOp → Prop
  | .registerApp manifest => appKeyForManifest manifest = app → Stored cluster.pool.state app ∨
        cluster.RemovalComes app (.deleteRegisteredApp app)
  | .startPod started _ => started = app →
      Stored cluster.pool.state app ∨ cluster.RemovalComes app (.removeApp app)
  | .removeApp removed => removed = app →
      outside.succeeds cluster.pool.state.calls (.removeApp app) = true
  | .deleteRegisteredApp removed => removed = app →
      outside.succeeds cluster.pool.state.calls (.deleteRegisteredApp app) = true
  | _ => True

/-- The next operation of the call that goes on is orderly. -/
def Orderly (outside : Outside) (app : String) (cluster : Cluster) :
    PoolAction AdapterCall → Prop
  | .start _ _ => True
  | .advance thread =>
      ∀ operation, cluster.pool.pending thread = some operation →
        OrderlyOp outside cluster app operation

/-- What is left of an app without a workload is still to be removed. -/
def Settling (cluster : Cluster) (app : String) : Prop :=
  Stored cluster.pool.state app ∨ (cluster.pool.state.controller.registered.find? app ≠ none →
      cluster.RemovalComes app (.deleteRegisteredApp app)) ∧
    ((∃ pod ∈ cluster.pool.state.controller.pods, pod.app = app) →
      cluster.RemovalComes app (.removeApp app))

/-! ## What an operation does to an app -/

variable {operation : AdapterOp} {key : ObjectKey}

section Operations

variable {settings : Settings} {outside : Outside} {world : World} {app : String}

/-- Only a registration makes an app registered. -/
theorem registered_execute
    (registered : (operation.execute settings outside
      world).2.controller.registered.find? app ≠ none) :
    world.controller.registered.find? app ≠ none ∨ ∃ manifest, operation = .registerApp manifest ∧
        appKeyForManifest manifest = app := by
  cases operation with
  | registerApp manifest =>
      by_cases same : appKeyForManifest manifest = app
      · exact .inr ⟨manifest, rfl, same⟩
      · simp only [AdapterOp.execute, controller_control, Controller.register] at registered
        split at registered
        · exact .inl (by simpa [same] using registered)
        · exact .inl registered
  | deleteRegisteredApp removed =>
      simp only [AdapterOp.execute, controller_control, Controller.unregister] at registered
      split at registered
      · by_cases same : removed = app
        · simp [same] at registered
        · exact .inl (by simpa [same] using registered)
      · exact .inl registered
  | deleteAppState removed | removeApp removed =>
      simp only [AdapterOp.execute, controller_control, Controller.purge,
        Controller.removePods] at registered
      split at registered
      · exact .inl registered
      · exact .inl registered
  | upsert guarded basis gvr ns name metadata spec status =>
      cases guarded with
      | false => exact .inl registered
      | true =>
          simp only [AdapterOp.execute, World.writeGuarded] at registered
          split at registered
          · exact .inl registered
          · exact .inl registered
  | ports portOperation =>
      simp only [AdapterOp.execute] at registered
      split at registered
      · exact .inl registered
      · exact .inl registered
  | get | list | listAll | delete | memory | startPod | stopPod | recordRow | call =>
      exact .inl registered

/-- Only the start of a pod gives an app a pod. -/
theorem pods_execute
    (running : ∃ pod ∈ (operation.execute settings outside world).2.controller.pods,
      pod.app = app) :
    (∃ pod ∈ world.controller.pods, pod.app = app) ∨ ∃ name, operation = .startPod app name := by
  obtain ⟨pod, member, same⟩ := running
  cases operation with
  | startPod started name =>
      rcases List.mem_cons.mp member with rfl | former
      · subst same
        exact .inr ⟨name, rfl⟩
      · exact .inl ⟨pod, former, same⟩
  | stopPod stopped name => exact .inl ⟨pod, (List.mem_filter.mp member).1, same⟩
  | removeApp removed =>
      simp only [AdapterOp.execute, controller_control, Controller.removePods] at member
      split at member
      · exact .inl ⟨pod, (List.mem_filter.mp member).1, same⟩
      · exact .inl ⟨pod, member, same⟩
  | registerApp | deleteRegisteredApp | deleteAppState =>
      simp only [AdapterOp.execute, controller_control, Controller.register,
        Controller.unregister, Controller.purge] at member
      split at member
      · exact .inl ⟨pod, member, same⟩
      · exact .inl ⟨pod, member, same⟩
  | upsert guarded basis gvr ns name metadata spec status =>
      cases guarded with
      | false => exact .inl ⟨pod, member, same⟩
      | true =>
          simp only [AdapterOp.execute, World.writeGuarded] at member
          split at member
          · exact .inl ⟨pod, member, same⟩
          · exact .inl ⟨pod, member, same⟩
  | ports portOperation =>
      simp only [AdapterOp.execute] at member
      split at member
      · exact .inl ⟨pod, member, same⟩
      · exact .inl ⟨pod, member, same⟩
  | get | list | listAll | delete | memory | recordRow | call =>
      exact .inl ⟨pod, member, same⟩

theorem registered_deleteRegisteredApp
    (succeeds : outside.succeeds world.calls (.deleteRegisteredApp app) = true) :
    (AdapterOp.execute settings outside (.deleteRegisteredApp app)
      world).2.controller.registered.find? app = none := by
  simp [AdapterOp.execute, controller_control, Controller.unregister, succeeds]

theorem pods_removeApp (succeeds : outside.succeeds world.calls (.removeApp app) = true) :
    ∀ pod ∈ (AdapterOp.execute settings outside (.removeApp app)
      world).2.controller.pods, pod.app ≠ app := by
  simp [AdapterOp.execute, controller_control, Controller.removePods, succeeds]

/-- A row stays unless it is deleted. -/
theorem isSome_row?_execute
    (present : (world.store.row? key).isSome = true)
    (kept : ∀ gvr ns name, operation = .delete gvr ns name → gvr.key ns name ≠ key) :
    ((operation.execute settings outside world).2.store.row? key).isSome = true := by
  cases operation with
  | upsert guarded basis gvr ns name metadata spec status =>
      have written : ((world.write gvr ns name metadata spec status).2.store.row?
          key).isSome = true := by
        rw [row?_write]
        split
        · rfl
        · exact present
      cases guarded with
      | false => exact written
      | true =>
          simp only [AdapterOp.execute, row?_writeGuarded]
          split
          · exact present
          · exact written
  | delete gvr ns name =>
      simp only [AdapterOp.execute, row?_remove, if_neg (kept gvr ns name rfl)]
      exact present
  | get | list | listAll | memory | ports | registerApp | deleteRegisteredApp
  | deleteAppState | removeApp | startPod | stopPod | recordRow | call =>
      rw [store_execute _ _ _ _ (by simp) (by simp)]
      exact present

/-- A workload stays stored, or its deletion is published. -/
theorem Stored.execute (stored : Stored world app) (operation : AdapterOp) :
    Stored (operation.execute settings outside world).2 app ∨
      ∃ deletion ∈ newDeletions world (operation.execute settings outside world).2,
        appName deletion.2 = app := by
  obtain ⟨kind, key, registers, resource, present, named⟩ := stored
  by_cases deleted : ∃ gvr ns name, operation = .delete gvr ns name ∧ gvr.key ns name = key
  · obtain ⟨gvr, ns, name, rfl, rfl⟩ := deleted
    right
    obtain ⟨row, found⟩ := Option.isSome_iff_exists.mp present
    have got : world.store.get gvr ns name = some (row.object (gvr.key ns name)) := by
      simp [ObjectStore.get, found]
    have gvrs : (row.object (gvr.key ns name)).gvr = kind.gvr := resource
    refine ⟨(kind, row.object (gvr.key ns name)), ?_, named⟩
    simp only [newDeletions, AdapterOp.execute, World.remove, got, List.drop_left]
    simp [deletionOf, gvrs, WorkloadKind.ofGvr_gvr]
  · left
    refine ⟨kind, key, registers, resource, ?_, named⟩
    refine isSome_row?_execute present fun gvr ns name equal same => ?_
    exact deleted ⟨gvr, ns, name, equal, same⟩

end Operations

/-! ## One step -/

theorem will_removeWorkload
    (kind : WorkloadKind) (object : K8sObject)
    (removes : operation = .removeApp (appName object) ∨
      operation = .deleteRegisteredApp (appName object)) :
    (removeWorkload kind object).Will (· = operation) := by
  have removed : (removeAppFor object).Will (· = operation) := by
    rcases removes with rfl | rfl
    · exact .inl rfl
    · exact .inr fun _ => .inl rfl
  unfold removeWorkload
  split
  · exact .inr fun _ => removed
  · exact removed

variable {worker : Worker} {outside : Outside} {app : String}

variable {call : AdapterCall} {cluster next : Cluster} {thread : Nat}

/-- What the start of a call can do. -/
theorem step_start
    (stepped : cluster.step worker outside (.start thread call) = some next) :
    cluster.pool.threads thread = none ∧ next.pool =
        { cluster.pool with
          threads := Function.update cluster.pool.threads thread (some (call.body worker)) } ∧
      (next.queue = cluster.queue ∨ ∃ kind object, call = .workload kind .deleted object ∧
          next.queue = cluster.queue.erase (kind, object)) := by
  have moved : ∀ pool, cluster.pool.step (AdapterOp.execute worker.settings outside)
      (AdapterCall.body worker) (.start thread call) = some pool →
      cluster.pool.threads thread = none ∧ pool =
          { cluster.pool with
            threads := Function.update cluster.pool.threads thread
              (some (call.body worker)) } := by
    intro pool moved
    simp only [Pool.step] at moved
    split at moved
    · next free => exact ⟨free, (Option.some.inj moved).symm⟩
    · cases moved
  simp only [step] at stepped
  split at stepped
  · next kind object equal =>
      split at stepped
      · obtain ⟨pool, taken, rfl⟩ := Option.map_eq_some_iff.mp stepped
        obtain ⟨free, same⟩ := moved pool taken
        obtain ⟨-, rfl⟩ := PoolAction.start.inj equal
        exact ⟨free, same, .inr ⟨kind, object, rfl, rfl⟩⟩
      · cases stepped
  · obtain ⟨pool, taken, rfl⟩ := Option.map_eq_some_iff.mp stepped
    obtain ⟨free, same⟩ := moved pool taken
    exact ⟨free, same, .inl rfl⟩
  · next equal => cases equal

/-- What the next operation of a call can do. -/
theorem step_advance (stepped : cluster.step worker outside (.advance thread) = some next) :
    ∃ operation rest, cluster.pool.threads thread = some (.perform operation rest) ∧
      next.pool.state = (operation.execute worker.settings outside cluster.pool.state).2 ∧
      next.pool.threads = Function.update cluster.pool.threads thread
        (some (rest (operation.execute worker.settings outside cluster.pool.state).1)) ∧
      next.queue = cluster.queue ++ newDeletions cluster.pool.state next.pool.state := by
  simp only [step] at stepped
  obtain ⟨pool, taken, rfl⟩ := Option.map_eq_some_iff.mp stepped
  simp only [Pool.step] at taken
  split at taken
  · next operation rest present =>
      obtain rfl := Option.some.inj taken
      exact ⟨operation, rest, present, rfl, rfl, rfl⟩
  · cases taken

theorem RemovalComes.start
    (comes : cluster.RemovalComes app operation)
    (removes : operation = .removeApp app ∨ operation = .deleteRegisteredApp app)
    (stepped : cluster.step worker outside (.start thread call) = some next) :
    next.RemovalComes app operation := by
  obtain ⟨free, pool, queue⟩ := step_start stepped
  rcases comes with ⟨deletion, waiting, named⟩ | ⟨other, program, running, will⟩
  · rcases queue with same | ⟨kind, object, rfl, rest⟩
    · exact .inl ⟨deletion, same ▸ waiting, named⟩
    · by_cases taken : deletion = (kind, object)
      · subst taken
        refine .inr ⟨thread, _, ?_, will_removeWorkload kind object (named ▸ removes)⟩
        rw [pool]
        simp [AdapterCall.body, handleWorkloadEvent]
      · refine .inl ⟨deletion, ?_, named⟩
        rw [rest]
        exact (List.mem_erase_of_ne taken).mpr waiting
  · refine .inr ⟨other, program, ?_, will⟩
    have apart : other ≠ thread := by
      rintro rfl
      simp [free] at running
    rw [pool]
    simpa [apart] using running

/-- An operation of another sort does not keep a removal from coming. -/
theorem RemovalComes.advance
    {operation performed : AdapterOp} {rest : performed.Reply → AdapterProgram Unit}
    (comes : cluster.RemovalComes app operation) (other : performed ≠ operation)
    (present : cluster.pool.threads thread = some (.perform performed rest))
    (threads : next.pool.threads = Function.update cluster.pool.threads thread
      (some (rest (performed.execute worker.settings outside cluster.pool.state).1)))
    (queue : ∃ added, next.queue = cluster.queue ++ added) :
    next.RemovalComes app operation := by
  rcases comes with ⟨deletion, waiting, named⟩ | ⟨running, program, found, will⟩
  · obtain ⟨added, queue⟩ := queue
    exact .inl ⟨deletion, queue ▸ List.mem_append_left added waiting, named⟩
  · by_cases same : running = thread
    · subst same
      obtain rfl := Option.some.inj (present.symm.trans found)
      rcases will with equal | later
      · exact absurd equal other
      · refine .inr ⟨running, rest (performed.execute worker.settings outside
          cluster.pool.state).1, ?_, later _⟩
        rw [threads, Function.update_self]
    · exact .inr ⟨running, program, by simpa [threads, same] using found, will⟩

theorem Settling.start
    (settling : cluster.Settling app)
    (stepped : cluster.step worker outside (.start thread call) = some next) :
    next.Settling app := by
  obtain ⟨-, pool, -⟩ := step_start stepped
  have same : next.pool.state = cluster.pool.state := by rw [pool]
  rw [Settling, same]
  rcases settling with stored | ⟨registered, pods⟩
  · exact .inl stored
  · exact .inr
      ⟨fun present => (registered present).start (.inr rfl) stepped,
        fun present => (pods present).start (.inl rfl) stepped⟩

theorem Settling.advance
    (settling : cluster.Settling app) (orderly : Orderly outside app cluster (.advance thread))
    (stepped : cluster.step worker outside (.advance thread) = some next) :
    next.Settling app := by
  obtain ⟨operation, rest, present, state, threads, queue⟩ := step_advance stepped
  have permitted := orderly operation (by simp [Pool.pending, present])
  have comes : ∀ expected, cluster.RemovalComes app expected → operation ≠ expected →
      next.RemovalComes app expected := fun expected removal other =>
    removal.advance other present threads ⟨_, queue⟩
  -- A workload that was stored before is stored, or its deletion is in the queue.
  have carried : Stored cluster.pool.state app →
      Stored next.pool.state app ∨ ∀ expected, next.RemovalComes app expected := by
    intro stored
    rcases stored.execute operation with still | ⟨deletion, published, named⟩
    · exact .inl (state ▸ still)
    · refine .inr fun expected => .inl ⟨deletion, ?_, named⟩
      rw [queue, state]
      exact List.mem_append_right _ published
  rcases settling with stored | ⟨registered, pods⟩
  · rcases carried stored with still | removal
    · exact .inl still
    · exact .inr ⟨fun _ => removal _, fun _ => removal _⟩
  · by_cases still : Stored next.pool.state app
    · exact .inl still
    · have removal : ∀ expected, Stored cluster.pool.state app →
          next.RemovalComes app expected := fun expected stored =>
        (carried stored).resolve_left still expected
      refine .inr ⟨fun after => ?_, fun after => ?_⟩
      · rw [state] at after
        by_cases unregisters : operation = .deleteRegisteredApp app
        · subst unregisters
          exact absurd (registered_deleteRegisteredApp (permitted rfl)) after
        · rcases registered_execute after with before | ⟨manifest, rfl, named⟩
          · exact comes _ (registered before) unregisters
          · rcases permitted named with stored | coming
            · exact removal _ stored
            · exact comes _ coming unregisters
      · rw [state] at after
        by_cases removes : operation = .removeApp app
        · subst removes
          obtain ⟨pod, member, same⟩ := after
          exact absurd same (pods_removeApp (permitted rfl) pod member)
        · rcases pods_execute after with before | ⟨name, rfl⟩
          · exact comes _ (pods before) removes
          · rcases permitted rfl with stored | coming
            · exact removal _ stored
            · exact comes _ coming removes

theorem Settling.step
    (cluster : Cluster) (action : PoolAction AdapterCall) (next : Cluster)
    (settling : cluster.Settling app) (orderly : Orderly outside app cluster action)
    (stepped : cluster.step worker outside action = some next) : next.Settling app := by
  cases action with
  | start thread call => exact settling.start stepped
  | advance thread => exact settling.advance orderly stepped

/-- A test that makes a step orderly: the row of the workload is there, and the
calls succeed. -/
def orderlyTest
    (outside : Outside) (key : ObjectKey) (app : String)
    (cluster : Cluster) : PoolAction AdapterCall → Bool
  | .start _ _ => true
  | .advance thread =>
      match cluster.pool.pending thread with
      | some (.registerApp _) | some (.startPod _ _) =>
          (cluster.pool.state.store.row? key).isSome
      | some (.removeApp _) =>
          outside.succeeds cluster.pool.state.calls (.removeApp app)
      | some (.deleteRegisteredApp _) =>
          outside.succeeds cluster.pool.state.calls (.deleteRegisteredApp app)
      | _ => true

theorem orderly_of_orderlyTest
    (kind : WorkloadKind) (registers : kind.registersApp = true)
    (resource : key.gvr = kind.gvr) (named : appKey key.name (some key.ns) = app)
    {action : PoolAction AdapterCall}
    (passed : orderlyTest outside key app cluster action = true) :
    Orderly outside app cluster action := by
  cases action with
  | start thread call => trivial
  | advance thread =>
      intro operation waiting
      simp only [orderlyTest, waiting] at passed
      cases operation with
      | registerApp manifest =>
          exact fun _ => .inl ⟨kind, key, registers, resource, passed, named⟩
      | startPod started name =>
          exact fun _ => .inl ⟨kind, key, registers, resource, passed, named⟩
      | removeApp removed => exact fun _ => passed
      | deleteRegisteredApp removed => exact fun _ => passed
      | get | list | listAll | upsert | delete | memory | ports | deleteAppState
      | stopPod | recordRow | call => trivial

/-- The actions are those of the first threads. -/
def OnThreads (count : Nat) (_ : Cluster) : PoolAction AdapterCall → Prop
  | .start thread _ => thread < count
  | .advance thread => thread < count

instance (count : Nat) (cluster : Cluster) :
    (action : PoolAction AdapterCall) → Decidable (OnThreads count cluster action)
  | .start thread _ => inferInstanceAs (Decidable (thread < count))
  | .advance thread => inferInstanceAs (Decidable (thread < count))

/-- All threads from a number on are idle. -/
def IdleFrom (count : Nat) (cluster : Cluster) : Prop :=
  ∀ thread, count ≤ thread → cluster.pool.threads thread = none

variable {count : Nat}

theorem IdleFrom.step
    (cluster : Cluster) (action : PoolAction AdapterCall) (next : Cluster)
    (idle : IdleFrom count cluster) (below : OnThreads count cluster action)
    (stepped : cluster.step worker outside action = some next) : IdleFrom count next := by
  intro thread above
  cases action with
  | start started call =>
      obtain ⟨-, pool, -⟩ := step_start stepped
      have apart : thread ≠ started := by
        rintro rfl
        exact absurd below (Nat.not_lt.mpr above)
      simpa [pool, apart] using idle thread above
  | advance advanced =>
      obtain ⟨operation, rest, -, -, threads, -⟩ := step_advance stepped
      have apart : thread ≠ advanced := by
        rintro rfl
        exact absurd below (Nat.not_lt.mpr above)
      simpa [threads, apart] using idle thread above

def advances (thread count : Nat) : List (PoolAction AdapterCall) :=
  List.replicate count (.advance thread)

def afterDeployment (actions : List (PoolAction AdapterCall)) : Option Cluster :=
  Machine.run (Cluster.step plainWorker plainOutside) ⟨Pool.idle runningDeployment, []⟩ actions

/-- The Deployment is deleted after a rescan has gone over it. -/
def deletedAfterRescan : List (PoolAction AdapterCall) :=
  [.start 0 .rescan] ++ advances 0 11 ++
    [.start 1 (.clientDelete deploymentsResource (some "default") "web"), .advance 1,
      .start 2 (.workload .deployment .deleted (bareWorkload .deployment "web"))] ++
    advances 2 3

/-- The Deployment is deleted after the rescan has read it. -/
def deletedDuringRescan : List (PoolAction AdapterCall) :=
  [.start 0 .rescan, .advance 0,
    .start 1 (.clientDelete deploymentsResource (some "default") "web"), .advance 1,
    .start 2 (.workload .deployment .deleted (bareWorkload .deployment "web"))] ++
    advances 2 3 ++ advances 0 10

theorem stored_runningDeployment : Stored runningDeployment "web" :=
  ⟨.deployment, deploymentsResource.key (some "default") "web", rfl, rfl,
    by decide +kernel, by decide +kernel⟩

/-- The calls of the first threads have finished. -/
def finishedBelow (count : Nat) (cluster : Cluster) : Bool :=
  (List.range count).all fun thread =>
    (cluster.pool.threads thread).all Program.isFinished

/-- All calls have finished when those of the first threads have. -/
theorem finished_of_idleFrom
    (idle : IdleFrom count cluster) (finished : finishedBelow count cluster = true) :
    ∀ thread program, cluster.pool.threads thread = some program → program.isFinished = true := by
  intro thread program running
  rcases Nat.lt_or_ge thread count with below | above
  · have each := List.all_eq_true.mp finished thread (List.mem_range.mpr below)
    simpa [running] using each
  · rw [idle thread above] at running
    cases running

theorem idle_afterDeployment
    {actions : List (PoolAction AdapterCall)} {finish : Cluster}
    (along : Machine.Along (Cluster.step plainWorker plainOutside) (OnThreads 3)
      ⟨Pool.idle runningDeployment, []⟩ actions)
    (ran : afterDeployment actions = some finish) : IdleFrom 3 finish :=
  Machine.invariant_of_step IdleFrom.step (fun _ _ => rfl) along ran

end Cluster

end Adapter
end K1s
