import K1s.Authority.Cluster
import K1s.Authority.StepDown

/-!
# Agreement on the leader

In every interleaving of the controllers, two of them never take themselves for the
leader with the same epoch, every leadership has a greater epoch than those before
it, and a leader has its own record and holds a leader lease.

A run is verified against what the other controllers may do between its calls to the
store: revisions grow, a leader key that was not there before has a revision above
those before, and no one begins a leadership in the name of another.
-/

namespace K1s
namespace Authority

/-! ## The store -/

/-- The store remembers every leader key, and a revision creates at most one. -/
structure Election.Sound (store : Election) : Prop where
  created_le : ∀ revision controllerId,
    (revision, controllerId) ∈ store.created → revision ≤ store.revision
  created_unique : ∀ revision one other,
    (revision, one) ∈ store.created → (revision, other) ∈ store.created → one = other
  leader_created : ∀ key, store.leader = some key →
    (key.modRevision, key.record.controllerId) ∈ store.created

/-- What may happen to the store. -/
structure Election.Later (before after : Election) : Prop where
  revision : before.revision ≤ after.revision
  created : ∀ entry, entry ∈ before.created → entry ∈ after.created
  leader : ∀ key, after.leader = some key →
    before.leader = some key ∨ before.revision < key.modRevision
  sound : before.Sound → after.Sound

variable {draw : Draw} {store : Election} {fate : Fate} {call : StoreCall}

namespace Election

theorem Later.refl (store : Election) : Later store store :=
  ⟨le_rfl, fun _ found => found, fun _ found => .inl found, fun sound => sound⟩

theorem Later.trans
    {first second third : Election} (one : Later first second)
    (two : Later second third) : Later first third := by
  refine ⟨one.revision.trans two.revision, fun entry found => two.created entry
    (one.created entry found), fun key found => ?_, fun sound => two.sound (one.sound sound)⟩
  rcases two.leader key found with same | new
  · exact one.leader key same
  · exact .inr (Nat.lt_of_le_of_lt one.revision new)

variable {after : Election}

/-- A store that differs only in its leases, its claims on the way and its revision,
and may have lost its leader key. -/
theorem later_of_kept
    {before after : Election} (revision : before.revision ≤ after.revision)
    (created : after.created = before.created)
    (leader : ∀ key, after.leader = some key → before.leader = some key) :
    Later before after := by
  refine ⟨revision, fun entry found => created ▸ found, fun key found => .inl (leader key found),
    fun sound => ⟨?_, ?_, ?_⟩⟩
  · intro revision controllerId found
    rw [created] at found
    exact (sound.created_le _ _ found).trans ‹_›
  · rw [created]
    exact sound.created_unique
  · intro key found
    rw [created]
    exact sound.leader_created key (leader key found)

theorem later_grant (draw : Draw) (store : Election) : Later store (store.grant draw).2 := by
  unfold grant
  split
  · exact .refl store
  · exact later_of_kept le_rfl rfl fun _ found => found

theorem later_written (store : Election) : Later store store.written :=
  later_of_kept (Nat.le_succ _) rfl fun _ found => found

theorem later_expire (leaseId : Int) (store : Election) : Later store (store.expire leaseId) := by
  unfold expire
  split
  · refine later_of_kept (Nat.le_succ _) rfl fun key found => ?_
    exact (Option.filter_eq_some_iff.mp found).1
  · exact .refl store

theorem later_claim (record : LeaderRecord) (store : Election) :
    Later store (store.claim record).2 := by
  unfold claim
  split
  · exact .refl store
  · split
    · refine ⟨Nat.le_succ _, fun entry found => List.mem_cons_of_mem _ found, ?_, ?_⟩
      · intro key found
        obtain rfl := Option.some.inj found
        exact .inr (Nat.lt_succ_self _)
      · intro sound
        have above : ∀ controllerId, (store.revision + 1, controllerId) ∉ store.created := by
          intro controllerId found
          have := sound.created_le _ _ found
          omega
        refine ⟨?_, ?_, ?_⟩
        · intro revision controllerId found
          rcases List.mem_cons.mp found with same | old
          · exact (Prod.mk.inj same).1.le
          · exact (sound.created_le _ _ old).trans (Nat.le_succ _)
        · intro revision one other first second
          rcases List.mem_cons.mp first with same | old
          · obtain ⟨rfl, rfl⟩ := Prod.mk.inj same
            rcases List.mem_cons.mp second with equal | before
            · exact (Prod.mk.inj equal).2.symm
            · exact absurd before (above other)
          · rcases List.mem_cons.mp second with equal | before
            · obtain ⟨rfl, rfl⟩ := Prod.mk.inj equal
              exact absurd old (above one)
            · exact sound.created_unique _ _ _ old before
        · intro key found
          obtain rfl := Option.some.inj found
          exact List.mem_cons_self
    · exact .refl store

theorem later_execute
    (config : AuthorityConfig) (draw : Draw) (call : StoreCall)
    (store : Election) : Later store (store.execute config draw call).2 := by
  cases call with
  | presenceGrant ttlSeconds => exact later_grant draw store
  | electionGrant ttlSeconds => exact later_grant draw store
  | claim record => exact later_claim record store
  | presencePut leaseId record =>
      simp only [execute]
      split
      · exact later_written store
      · exact .refl store
  | revoke leaseId =>
      simp only [execute]
      split
      · exact later_expire leaseId store
      · exact .refl store
  | presenceKeepalive leaseId => exact .refl store
  | leaderKeepalive leaseId => exact .refl store
  | pollRead => exact .refl store
  | refusedRead => exact .refl store
  | claimedRead => exact .refl store
  | renewedRead => exact .refl store
  | lostRead => exact .refl store

theorem later_perform
    (config : AuthorityConfig) (fate : Fate) (draw : Draw) (call : StoreCall)
    (store : Election) : Later store (store.perform config fate draw call).2 := by
  cases fate with
  | answered => exact later_execute config draw call store
  | requestLost => exact .refl store
  | answerLost => exact later_execute config draw call store
  | delayed =>
      refine later_of_kept ?_ ?_ ?_ <;> cases call <;> simp [perform, delay]

theorem execute_of_perform
    {config : AuthorityConfig} {value : call.Answer}
    (performed : store.perform config fate draw call = (some value, after)) :
    store.execute config draw call = (some value, after) := by
  cases fate with
  | answered => exact performed
  | requestLost => cases (Prod.mk.inj performed).1
  | answerLost => cases (Prod.mk.inj performed).1
  | delayed => cases (Prod.mk.inj performed).1

theorem later_deliver (record : LeaderRecord) (store : Election) :
    Later store (store.deliver record) := by
  have taken : Later store { store with inFlight := store.inFlight.erase record } :=
    later_of_kept le_rfl rfl fun _ found => found
  exact taken.trans (later_claim record _)

end Election

/-! ## The shared state -/

variable {ι : Type} (members : Members ι)

/-- The leaderships that have begun agree with the leader keys that were created. -/
structure Consistent (shared : Shared ι) : Prop where
  sound : shared.store.Sound
  begun_created : ∀ controller epoch, (controller, epoch) ∈ shared.begun →
    (epoch, (members.config controller).controllerId) ∈ shared.store.created
  begun_le : ∀ controller epoch, (controller, epoch) ∈ shared.begun →
    ∀ key, shared.store.leader = some key → epoch ≤ key.modRevision
  increasing : (shared.begun.map Prod.snd).Pairwise (· < ·)

/-- What a controller has to do with its own fields: a leader has its own record,
which has been under the leader key, and a leader lease. -/
def Rightful (controller : ι) (fields : Fields) (shared : Shared ι) : Prop :=
  fields.isLeader = true → (∃ info, fields.leaderInfo = some info ∧
      info.controllerId = (members.config controller).controllerId ∧
      (info.controllerEpoch, (members.config controller).controllerId) ∈ shared.store.created) ∧
    fields.leaderLease.isSome = true

/-- A leadership begins with the revision of the leader key, above those of the
earlier leaderships of the controller. -/
def BeginsAnew (controller : ι) (before after : Fields) (shared : Shared ι) : Prop :=
  before.isLeader = false → after.isLeader = true →
    (∃ key, shared.store.leader = some key ∧ key.modRevision = after.controllerEpoch) ∧
    ∀ epoch, (controller, epoch) ∈ shared.begun → epoch < after.controllerEpoch

/-- The fields may be shown. -/
structure Publishable
    (controller : ι) (before after : Fields)
    (shared : Shared ι) : Prop where
  rightful : Rightful members controller after shared
  anew : BeginsAnew controller before after shared

/-- What a controller relies on while it waits for the store. -/
structure Rely (controller : ι) (before after : Shared ι) : Prop where
  store : before.store.Later after.store
  own : ∀ epoch, (controller, epoch) ∈ after.begun → (controller, epoch) ∈ before.begun

variable {members} {controller : ι} {fields last : Fields} {shared : Shared ι}

theorem Rely.refl (controller : ι) (shared : Shared ι) : Rely controller shared shared :=
  ⟨.refl _, fun _ found => found⟩

theorem Rely.trans
    {first second third : Shared ι} (one : Rely controller first second)
    (two : Rely controller second third) : Rely controller first third :=
  ⟨one.store.trans two.store, fun epoch found => one.own epoch (two.own epoch found)⟩

@[simp] theorem publish_store (before after : Fields) :
    (shared.publish controller before after).store = shared.store := by
  unfold Shared.publish
  split <;> rfl

theorem publish_of_kept (kept : fields.isLeader = true → last.isLeader = true) :
    shared.publish controller last fields = shared := by
  unfold Shared.publish
  split
  · next began =>
      obtain ⟨follower, leads⟩ := began
      exact absurd (follower.symm.trans (kept leads)) Bool.false_ne_true
  · rfl

theorem publish_self : shared.publish controller fields fields = shared :=
  publish_of_kept id

/-- Other controllers do not begin leaderships of this one. -/
theorem rely_publish {other : ι} (different : other ≠ controller) (before after : Fields) :
    Rely controller shared (shared.publish other before after) := by
  refine ⟨?_, fun epoch found => ?_⟩
  · rw [publish_store]
    exact .refl _
  · unfold Shared.publish at found
    split at found
    · rcases List.mem_append.mp found with old | new
      · exact old
      · obtain ⟨same, _⟩ := Prod.mk.inj (List.mem_singleton.mp new)
        exact absurd same.symm different
    · exact found

theorem rely_store
    (later : shared.store.Later store) : Rely controller shared { shared with store := store } :=
  ⟨later, fun _ found => found⟩

variable {reached : Shared ι}

theorem Rightful.later
    (rightful : Rightful members controller fields shared)
    (later : shared.store.Later reached.store) :
    Rightful members controller fields reached := by
  intro leads
  obtain ⟨⟨info, given, own, found⟩, lease⟩ := rightful leads
  exact ⟨⟨info, given, own, later.created _ found⟩, lease⟩

theorem Publishable.same (rightful : Rightful members controller fields shared) :
    Publishable members controller fields fields shared :=
  ⟨rightful, fun follower leads => absurd (follower.symm.trans leads) Bool.false_ne_true⟩

/-- A record of this controller that is read has been under the leader key. -/
theorem own_created
    (consistent : Consistent members shared)
    (own : isOwn (members.config controller)
      (shared.store.leader.map (LeaderKey.info (members.config controller))) = true) :
    ∃ info, shared.store.leader.map (LeaderKey.info (members.config controller)) = some info ∧
      info.controllerId = (members.config controller).controllerId ∧
      (info.controllerEpoch, (members.config controller).controllerId) ∈
        shared.store.created := by
  cases held : shared.store.leader with
  | none =>
      rw [held] at own
      cases own
  | some key =>
      rw [held] at own
      have same : key.record.controllerId = (members.config controller).controllerId :=
        of_decide_eq_true own
      refine ⟨_, rfl, same, ?_⟩
      rw [← same]
      exact consistent.sound.leader_created key held

theorem Consistent.moved
    (consistent : Consistent members shared)
    (later : shared.store.Later store) : Consistent members { shared with store := store } := by
  refine ⟨later.sound consistent.sound, fun controller epoch found => later.created _
    (consistent.begun_created controller epoch found), fun controller epoch found key held => ?_,
    consistent.increasing⟩
  rcases later.leader key held with same | new
  · exact consistent.begun_le controller epoch found key same
  · have := consistent.sound.created_le _ _ (consistent.begun_created controller epoch found)
    omega

/-- A leadership that begins has a greater epoch than all before it. -/
theorem Consistent.publish
    {before after : Fields} (consistent : Consistent members shared)
    (publishable : Publishable members controller before after shared) :
    Consistent members (shared.publish controller before after) := by
  unfold Shared.publish
  split
  · next began =>
      obtain ⟨follower, leads⟩ := began
      obtain ⟨⟨info, given, _, created⟩, _⟩ := publishable.rightful leads
      obtain ⟨⟨key, held, same⟩, fresh⟩ := publishable.anew follower leads
      have epoch : after.controllerEpoch = info.controllerEpoch := by
        simp [Fields.controllerEpoch, given]
      rw [epoch] at same fresh
      have above : ∀ other old, (other, old) ∈ shared.begun → old < info.controllerEpoch := by
        intro other old found
        have atMost := consistent.begun_le other old found key held
        rw [same] at atMost
        rcases Nat.lt_or_eq_of_le atMost with less | equal
        · exact less
        · have ids := consistent.sound.created_unique _ _ _ created
            (equal ▸ consistent.begun_created other old found)
          obtain rfl := members.distinct _ _ ids
          exact fresh old found
      rw [epoch]
      refine ⟨consistent.sound, ?_, ?_, ?_⟩
      · intro other old found
        rcases List.mem_append.mp found with earlier | new
        · exact consistent.begun_created other old earlier
        · obtain ⟨rfl, rfl⟩ := Prod.mk.inj (List.mem_singleton.mp new)
          exact created
      · intro other old found otherKey otherHeld
        rcases List.mem_append.mp found with earlier | new
        · exact consistent.begun_le other old earlier otherKey otherHeld
        · obtain ⟨rfl, rfl⟩ := Prod.mk.inj (List.mem_singleton.mp new)
          obtain rfl := Option.some.inj (held.symm.trans otherHeld)
          exact same.ge
      · rw [List.map_append, List.pairwise_append]
        refine ⟨consistent.increasing, List.pairwise_singleton _ _, ?_⟩
        intro old earlier new latest
        obtain ⟨⟨other, _⟩, found, rfl⟩ := List.mem_map.mp earlier
        obtain rfl := List.mem_singleton.mp latest
        exact above other _ found
  · exact consistent

/-! ## One controller between the others -/

section Runs

variable {α β : Type} (members) (controller)

/-- Whatever the other controllers and the store do, every field that the program
shows may be shown, and it ends in its postcondition.  The postcondition is about
the fields shown last and those at the end. -/
def Runs (post : Option α × Fields → Fields → Shared ι → Prop) :
    Fields → ServiceProgram (Option α × Fields) → Shared ι → Prop
  | last, .done ended, shared => post ended last shared
  | _, .raise, _ => False
  | last, .perform operation next, shared =>
      Publishable members controller last operation.fields shared ∧
        ∀ reached, Rely controller (shared.publish controller last operation.fields) reached →
          Consistent members reached → ∀ fate draw, Runs post operation.fields
              (next (reached.store.perform (members.config controller) fate draw operation.call).1)
              { reached with
                store := (reached.store.perform (members.config controller) fate draw
                  operation.call).2 }

/-- The end of a call of `run_once`. -/
def Ended {α : Type} (ended : Option α × Fields) (last : Fields) (shared : Shared ι) : Prop :=
  Publishable members controller last ended.2 shared

/-- The fields may be shown, and the controller does not become the leader. -/
structure Settled (fields last : Fields) (shared : Shared ι) : Prop where
  rightful : Rightful members controller fields shared
  kept : fields.isLeader = true → last.isLeader = true

/-- A stage that leaves the leadership as it is. -/
def Steady {α : Type} (ended : Option α × Fields) (last : Fields) (shared : Shared ι) : Prop :=
  Settled members controller ended.2 last shared

variable {members} {controller}

variable {middle : Option α × Fields → Fields → Shared ι → Prop}
  {post : Option β × Fields → Fields → Shared ι → Prop}

theorem Runs.andThen
    {program : ServiceProgram (Option α × Fields)}
    {next : Option α × Fields → ServiceProgram (Option β × Fields)}
    (runs : Runs members controller middle last program shared)
    (continued : ∀ ended latest reached, middle ended latest reached →
      Runs members controller post latest (next ended) reached) :
    Runs members controller post last (program.andThen next) shared := by
  induction program generalizing last shared with
  | done ended => exact continued ended last shared runs
  | raise => exact runs
  | perform operation rest ih =>
      refine ⟨runs.1, fun reached rely consistent fate draw => ?_⟩
      exact ih _ (runs.2 reached rely consistent fate draw)

/-- A sequence of two routines. -/
theorem Runs.bind
    {routine : Routine α} {next : α → Routine β}
    (runs : Runs members controller middle last (routine fields) shared)
    (raised : ∀ after latest reached, middle (none, after) latest reached →
      post (none, after) latest reached)
    (continued : ∀ value after latest reached, middle (some value, after) latest reached →
      Runs members controller post latest (next value after) reached) :
    Runs members controller post last ((routine >>= next) fields) shared := by
  refine runs.andThen fun ended latest reached met => ?_
  obtain ⟨_ | value, after⟩ := ended
  · exact raised after latest reached met
  · exact continued value after latest reached met

theorem Settled.publishable (settled : Settled members controller fields last shared) :
    Publishable members controller last fields shared :=
  ⟨settled.rightful, fun follower leads =>
    absurd (follower.symm.trans (settled.kept leads)) Bool.false_ne_true⟩

theorem Settled.later
    (settled : Settled members controller fields last shared)
    (later : shared.store.Later reached.store) :
    Settled members controller fields fields reached :=
  ⟨settled.rightful.later later, id⟩

theorem Settled.follower (follows : fields.isLeader = false) :
    Settled members controller fields last shared :=
  ⟨fun leads => absurd (follows.symm.trans leads) Bool.false_ne_true,
    fun leads => absurd (follows.symm.trans leads) Bool.false_ne_true⟩

/-- A call of `run_once` may end with a follower. -/
theorem ended_follower
    {ended : Option α × Fields}
    (follows : ended.2.isLeader = false) : Ended members controller ended last shared :=
  (Settled.follower follows).publishable

variable {next : call.Answer → Routine β}

/-- A call to the store by a controller that does not become the leader. -/
theorem Runs.call_bind
    (settled : Settled members controller fields last shared)
    (continued : ∀ reached, Rely controller shared reached → Consistent members reached →
      ∀ fate draw answer store,
        reached.store.perform (members.config controller) fate draw call = (answer, store) →
        Settled members controller fields fields { reached with store := store } →
        match answer with
        | some value =>
            Runs members controller post fields (next value fields) { reached with store := store }
        | none => post (none, fields) fields { reached with store := store }) :
    Runs members controller post last ((Routine.call call >>= next) fields) shared := by
  refine ⟨settled.publishable, fun reached rely consistent fate draw => ?_⟩
  rw [publish_of_kept settled.kept] at rely
  have met := continued reached rely consistent fate draw
  have still : Settled members controller fields fields { reached with
      store := (reached.store.perform (members.config controller) fate draw call).2 } :=
    settled.later (rely.store.trans (Election.later_perform _ fate draw call reached.store))
  generalize reached.store.perform (members.config controller) fate draw call = executed
    at met still ⊢
  obtain ⟨answer, store⟩ := executed
  have reply := met answer store rfl still
  cases answer with
  | none => exact reply
  | some value => exact reply

/-- A call to the store that leaves it open what the answer says. -/
theorem Runs.call_then
    (settled : Settled members controller fields last shared)
    (raised : ∀ reached, Settled members controller fields fields reached →
      post (none, fields) fields reached)
    (answered : ∀ value reached, Settled members controller fields fields reached →
      Runs members controller post fields (next value fields) reached) :
    Runs members controller post last ((Routine.call call >>= next) fields) shared := by
  refine Runs.call_bind settled fun _ _ _ _ _ answer _ _ still => ?_
  cases answer with
  | none => exact raised _ still
  | some value => exact answered value _ still

/-- A call to the store whose exception is caught. -/
theorem Runs.attempt_bind
    {next : Option call.Answer → Routine β}
    (settled : Settled members controller fields last shared)
    (continued : ∀ reached, Rely controller shared reached → Consistent members reached →
      ∀ fate draw answer store,
        reached.store.perform (members.config controller) fate draw call = (answer, store) →
        Settled members controller fields fields { reached with store := store } →
        Runs members controller post fields (next answer fields) { reached with store := store }) :
    Runs members controller post last
      ((Routine.attempt (Routine.call call) >>= next) fields) shared := by
  refine ⟨settled.publishable, fun reached rely consistent fate draw => ?_⟩
  rw [publish_of_kept settled.kept] at rely
  exact continued _ rely consistent fate draw _ _ rfl (settled.later
    (rely.store.trans (Election.later_perform _ fate draw call reached.store)))

theorem Runs.attempt_then
    {next : Option call.Answer → Routine β}
    (settled : Settled members controller fields last shared)
    (continued : ∀ answer reached, Settled members controller fields fields reached →
      Runs members controller post fields (next answer fields) reached) :
    Runs members controller post last
      ((Routine.attempt (Routine.call call) >>= next) fields) shared :=
  Runs.attempt_bind settled fun _ _ _ _ _ answer _ _ still => continued answer _ still

/-! The local code of a routine. -/

theorem Runs.self
    {next : Fields → Routine β}
    (runs : Runs members controller post last (next fields fields) shared) :
    Runs members controller post last ((Routine.self >>= next) fields) shared := runs

variable {change : Fields → Fields}

theorem Runs.assign
    {next : Unit → Routine β}
    (runs : Runs members controller post last (next () (change fields)) shared) :
    Runs members controller post last ((Routine.assign change >>= next) fields) shared := runs

theorem Runs.assigned
    {post : Option Unit × Fields → Fields → Shared ι → Prop}
    (met : post (some (), change fields) last shared) :
    Runs members controller post last (Routine.assign change fields) shared := met

theorem Runs.value
    {post : Option α × Fields → Fields → Shared ι → Prop} {value : α}
    (met : post (some value, fields) last shared) :
    Runs members controller post last ((pure value : Routine α) fields) shared := met

theorem Runs.throw
    {post : Option α × Fields → Fields → Shared ι → Prop}
    (met : post (none, fields) last shared) :
    Runs members controller post last ((Routine.throw : Routine α) fields) shared := met

/-! ## The stages of `run_once` -/

section Stages

variable {tick : Tick}

theorem runs_publishPresence
    (leaseId : Int) (settled : Settled members controller fields last shared) :
    Runs members controller (Steady members controller) last
      (publishPresence (members.config controller) tick leaseId fields) shared := by
  refine Runs.self (Runs.call_then settled (fun _ still => still) fun answer reached still => ?_)
  exact Runs.assigned ⟨still.rightful, still.kept⟩

theorem runs_grantPresence (settled : Settled members controller fields last shared) :
    Runs members controller (Steady members controller) last
      (grantPresence (members.config controller) tick fields) shared := by
  refine Runs.call_then settled (fun _ still => still) fun leaseId reached still => ?_
  refine Runs.bind (runs_publishPresence leaseId still) (fun _ _ _ met => met) ?_
  intro answer published shown found kept
  exact Runs.assigned ⟨kept.rightful, kept.kept⟩

/-- The presence stage leaves the leadership as it is. -/
theorem runs_ensurePresence (settled : Settled members controller fields last shared) :
    Runs members controller (Steady members controller) last
      (ensurePresence (members.config controller) tick fields) shared := by
  refine Runs.self ?_
  cases fields.presenceLease with
  | none =>
      refine Runs.bind (runs_grantPresence settled) (fun _ _ _ met => met) ?_
      intro answer granted shown found kept
      exact Runs.assigned ⟨kept.rightful, kept.kept⟩
  | some lease =>
      dsimp only
      split
      · exact Runs.value settled
      · refine Runs.attempt_then settled fun answer reached still => ?_
        cases answer with
        | none => exact runs_grantPresence still
        | some ttl =>
            refine Runs.bind (runs_publishPresence lease.leaseId still) (fun _ _ _ met => met) ?_
            intro answer published shown found kept
            exact Runs.assigned ⟨kept.rightful, kept.kept⟩

theorem runs_loseLeadership :
    Runs members controller (Ended members controller) last
      (loseLeadership (members.config controller) tick fields) shared := by
  refine Runs.assign (Runs.call_then (.follower rfl) (fun _ still => still.publishable) ?_)
  intro leaderInfo reached still
  exact Runs.assign (Runs.assigned (ended_follower rfl))

theorem runs_renewLeader (settled : Settled members controller fields last shared) :
    Runs members controller (Ended members controller) last
      (renewLeader (members.config controller) tick fields) shared := by
  refine Runs.self ?_
  cases fields.leaderLease with
  | none => exact Runs.assign (Runs.assigned (ended_follower rfl))
  | some lease =>
      dsimp only
      split
      · exact Runs.value settled.publishable
      · refine Runs.attempt_then settled fun answer reached still => ?_
        cases answer with
        | none => exact runs_loseLeadership
        | some ttl =>
            refine Runs.call_bind still fun held rely consistent fate draw answer store read kept => ?_
            cases answer with
            | none => exact kept.publishable
            | some leaderInfo =>
                dsimp only
                split
                · next own =>
                    refine Runs.assigned ⟨fun leads => ⟨?_, rfl⟩, ?_⟩
                    · have answered : (some (held.store.leader.map
                          (LeaderKey.info (members.config controller))), held.store) =
                          (some leaderInfo, store) := Election.execute_of_perform read
                      obtain ⟨same, rfl⟩ := Prod.mk.inj answered
                      obtain rfl := Option.some.inj same
                      exact own_created consistent own
                    · exact fun follower leads =>
                        absurd (follower.symm.trans leads) Bool.false_ne_true
                · exact runs_loseLeadership

/-- The leader key, if there is one, is at least as new as this revision, and the
leaderships of the controller began before it. -/
structure Fresh (controller : ι) (revision : Nat) (shared : Shared ι) : Prop where
  reached : revision ≤ shared.store.revision
  leader : ∀ key, shared.store.leader = some key → revision ≤ key.modRevision
  begun : ∀ epoch, (controller, epoch) ∈ shared.begun → epoch < revision

variable {revision : Nat}

theorem Fresh.later
    (fresh : Fresh controller revision shared)
    (rely : Rely controller shared reached) : Fresh controller revision reached := by
  refine ⟨fresh.reached.trans rely.store.revision, fun key held => ?_,
    fun epoch found => fresh.begun epoch (rely.own epoch found)⟩
  rcases rely.store.leader key held with same | new
  · exact fresh.leader key same
  · exact (Nat.lt_of_le_of_lt fresh.reached new).le

/-- A claim that succeeds creates a leader key above all earlier leaderships. -/
theorem fresh_of_claim
    {record : LeaderRecord} (consistent : Consistent members shared)
    (claimed : shared.store.perform (members.config controller) fate draw (.claim record) =
      (some true, store)) :
    ∃ revision, Fresh controller revision { shared with store := store } := by
  have executed : shared.store.claim record = (some true, store) :=
    Election.execute_of_perform claimed
  unfold Election.claim at executed
  split at executed
  · cases (Prod.mk.inj executed).1
  · split at executed
    · obtain ⟨_, rfl⟩ := Prod.mk.inj executed
      refine ⟨shared.store.revision + 1, le_rfl, fun key held => ?_, fun epoch found => ?_⟩
      · obtain rfl := Option.some.inj held
        exact le_rfl
      · have := consistent.sound.created_le _ _ (consistent.begun_created _ _ found)
        omega
    · cases (Prod.mk.inj executed).1

/-- After a claim that succeeded, a controller that reads its own record begins a
leadership. -/
theorem publishable_of_fresh
    (consistent : Consistent members shared) (fresh : Fresh controller revision shared)
    (given : fields.leaderInfo =
      shared.store.leader.map (LeaderKey.info (members.config controller)))
    (own : isOwn (members.config controller) fields.leaderInfo = true)
    (lease : fields.leaderLease.isSome = true) :
    Publishable members controller last fields shared := by
  rw [given] at own
  refine ⟨fun _ => ⟨?_, lease⟩, fun _ _ => ?_⟩
  · rw [given]
    exact own_created consistent own
  · cases held : shared.store.leader with
    | none =>
        rw [held] at own
        cases own
    | some key =>
        have epoch : fields.controllerEpoch = key.modRevision := by
          rw [Fields.controllerEpoch, given, held]
          rfl
        rw [epoch]
        exact ⟨⟨key, rfl, rfl⟩, fun old found =>
          (fresh.begun old found).trans_le (fresh.leader key held)⟩

theorem runs_attemptLeadership (follows : fields.isLeader = false) :
    Runs members controller (Ended members controller) last
      (attemptLeadership (members.config controller) tick fields) shared := by
  have settled : ∀ last shared, Settled members controller fields last shared :=
    fun _ _ => .follower follows
  refine Runs.call_then (settled _ _) (fun _ still => still.publishable) fun leaseId _ _ => ?_
  refine Runs.attempt_bind (settled _ _) fun reached _ consistent fate draw claimed store claim _ => ?_
  cases claimed with
  | none =>
      refine Runs.attempt_then (settled _ _) fun _ after _ => ?_
      exact Runs.assign (Runs.throw (ended_follower follows))
  | some success =>
      cases success with
      | false =>
          refine Runs.attempt_then (settled _ _) fun _ _ _ => ?_
          refine Runs.call_then (settled _ _) (fun _ still => still.publishable) fun _ _ _ => ?_
          exact Runs.assign (Runs.assign (Runs.assigned (ended_follower follows)))
      | true =>
          obtain ⟨revision, fresh⟩ := fresh_of_claim consistent claim
          refine Runs.call_bind (settled _ _)
            fun held rely sound fate draw answer after read _ => ?_
          cases answer with
          | none => exact ended_follower follows
          | some leaderInfo =>
              have answered : (some (held.store.leader.map
                  (LeaderKey.info (members.config controller))), held.store) =
                  (some leaderInfo, after) := Election.execute_of_perform read
              obtain ⟨same, rfl⟩ := Prod.mk.inj answered
              have given := Option.some.inj same
              cases leaderInfo with
              | none =>
                  refine Runs.attempt_then (settled _ _) fun _ _ _ => ?_
                  exact Runs.assigned (ended_follower follows)
              | some info =>
                  refine Runs.assigned ?_
                  by_cases own : info.controllerId = (members.config controller).controllerId
                  · refine publishable_of_fresh sound (fresh.later rely) ?_ ?_ ?_ <;>
                      simp [own, given, isOwn]
                  · refine ended_follower ?_
                    simp [own]

theorem runs_follow (follows : fields.isLeader = false) :
    Runs members controller (Ended members controller) last
      (follow (members.config controller) tick fields) shared := by
  have claims : ∀ (polled latest : Fields) (reached : Shared ι), polled.isLeader = false →
      Runs members controller (Ended members controller) latest
        ((if polled.leaderInfo = none ∧ polled.nextElectionAttemptAt ≤ tick.now then
          attemptLeadership (members.config controller) tick
        else pure ()) polled) reached := by
    intro polled latest reached still
    split
    · exact runs_attemptLeadership still
    · exact Runs.value (ended_follower still)
  unfold follow
  refine Runs.self ?_
  split
  · refine Runs.call_then (.follower follows) (fun _ _ => ended_follower follows) ?_
    exact fun leaderInfo reached _ => Runs.assign (Runs.self (claims _ _ reached follows))
  · exact Runs.self (claims fields last shared follows)

/-- One call of `run_once`. -/
theorem runs_runOnce (settled : Settled members controller fields last shared) :
    Runs members controller (Ended members controller) last
      (runOnce (members.config controller) tick fields) shared := by
  unfold runOnce
  rw [if_pos (members.enabled controller)]
  refine Runs.bind (runs_ensurePresence settled) (fun _ _ _ met => met.publishable) ?_
  intro kept ensured shown reached still
  refine Runs.self ?_
  split
  · refine Runs.bind (runs_renewLeader still) (fun _ _ _ ended => ended) ?_
    exact fun _ _ _ _ ended => Runs.self (Runs.value ended)
  · next follows =>
      have follower := Bool.eq_false_of_not_eq_true follows
      refine Runs.bind (runs_follow follower) (fun _ _ _ ended => ended) ?_
      exact fun _ _ _ _ ended => Runs.self (Runs.value ended)

end Stages

variable {program : ServiceProgram (Option Rat × Fields)}

/-- A program that may show its next fields has shown them. -/
theorem Runs.published
    (runs : Runs members controller (Ended members controller) last program shared) :
    Publishable members controller last (visible program) shared ∧
      Runs members controller (Ended members controller) (visible program) program
        (shared.publish controller last (visible program)) := by
  cases program with
  | raise => exact runs.elim
  | done ended =>
      have publishable : Publishable members controller last ended.2 shared := runs
      refine ⟨publishable, Publishable.same (publishable.rightful.later ?_)⟩
      rw [publish_store]
      exact .refl _
  | perform operation next =>
      refine ⟨runs.1, Publishable.same (runs.1.rightful.later ?_), ?_⟩
      · rw [publish_store]
        exact .refl _
      · intro reached rely consistent fate draw
        refine runs.2 reached ?_ consistent fate draw
        simp only [visible, publish_self] at rely
        exact rely

/-- What others do does not disturb a program that waits or has ended. -/
theorem Runs.later
    (runs : Runs members controller (Ended members controller) (visible program) program shared)
    (moved : Rely controller shared reached) :
    Runs members controller (Ended members controller) (visible program) program reached := by
  cases program with
  | raise => exact runs.elim
  | done ended =>
      have publishable : Publishable members controller ended.2 ended.2 shared := runs
      exact Publishable.same (publishable.rightful.later moved.store)
  | perform operation next =>
      refine ⟨Publishable.same (runs.1.rightful.later moved.store), ?_⟩
      intro found rely consistent fate draw
      refine runs.2 found ?_ consistent fate draw
      rw [visible, publish_self] at rely ⊢
      exact moved.trans rely

/-- A controller shows fields that it may show. -/
theorem Runs.rightful
    (runs : Runs members controller (Ended members controller) last program shared) :
    Rightful members controller (visible program) shared :=
  runs.published.1.rightful

end Runs

/-! ## All controllers -/

variable (members) in
/-- The shared state is consistent, and every controller keeps to its part. -/
structure Kept (cluster : Cluster ι) : Prop where
  consistent : Consistent members cluster.shared
  runs : ∀ controller, Runs members controller (Ended members controller)
    (cluster.fields controller) (cluster.runs controller) cluster.shared

theorem kept_initial (revision : Nat) : Kept members (Cluster.initial revision : Cluster ι) := by
  refine ⟨⟨⟨?_, ?_, ?_⟩, ?_, ?_, List.Pairwise.nil⟩, fun _ => ended_follower rfl⟩
  all_goals intros
  all_goals simp_all [Cluster.initial]

variable {cluster : Cluster ι}

theorem Kept.moved
    (kept : Kept members cluster) (later : cluster.shared.store.Later store) :
    Kept members { cluster with shared := { cluster.shared with store := store } } :=
  ⟨kept.consistent.moved later, fun other => (kept.runs other).later (rely_store later)⟩

variable [DecidableEq ι]

/-- One controller goes on, and shows what it may show. -/
theorem Kept.update
    {run : RunOnce} (kept : Kept members cluster) (later : cluster.shared.store.Later store)
    (runs : Runs members controller (Ended members controller) last run
      { cluster.shared with store := store }) :
    Kept members
      { shared := Shared.publish controller last (visible run) { cluster.shared with store := store }
        runs := Function.update cluster.runs controller run } := by
  obtain ⟨publishable, shown⟩ := runs.published
  refine ⟨(kept.consistent.moved later).publish publishable, fun other => ?_⟩
  simp only [Cluster.fields]
  by_cases same : other = controller
  · subst same
    rw [Function.update_self]
    exact shown
  · rw [Function.update_of_ne same]
    exact (kept.runs other).later
      ((rely_store later).trans (rely_publish (Ne.symm same) last (visible run)))

variable {action : ClusterAction ι}

/-- Every step keeps the controllers to their parts. -/
theorem Kept.step
    {cluster next : Cluster ι} (kept : Kept members cluster)
    (stepped : cluster.step members action = some next) : Kept members next := by
  cases action with
  | start controller tick =>
      have runs := kept.runs controller
      simp only [Cluster.step] at stepped
      split at stepped
      · next ended before idle =>
          obtain rfl := Option.some.inj stepped
          simp only [Cluster.fields, idle] at runs
          have publishable : Publishable members controller before before cluster.shared := runs
          exact kept.update (.refl _) (runs_runOnce ⟨publishable.rightful, id⟩)
      · cases stepped
  | advance controller fate draw =>
      have runs := kept.runs controller
      simp only [Cluster.step] at stepped
      split at stepped
      · next operation rest waiting =>
          obtain rfl := Option.some.inj stepped
          simp only [Cluster.fields, waiting] at runs
          refine kept.update (Election.later_perform _ fate draw operation.call _) ?_
          refine runs.2 cluster.shared ?_ kept.consistent fate draw
          rw [visible, publish_self]
          exact .refl _ _
      · cases stepped
  | expire leaseId =>
      obtain rfl := Option.some.inj stepped
      exact kept.moved (Election.later_expire leaseId _)
  | write =>
      obtain rfl := Option.some.inj stepped
      exact kept.moved (Election.later_written _)
  | deliver record =>
      simp only [Cluster.step] at stepped
      split at stepped
      · obtain rfl := Option.some.inj stepped
        exact kept.moved (Election.later_deliver record _)
      · cases stepped

theorem Kept.run
    {start finish : Cluster ι} {actions : List (ClusterAction ι)} (kept : Kept members start)
    (ran : Machine.run (Cluster.step members) start actions = some finish) :
    Kept members finish :=
  Machine.invariant_of_run (fun _ _ _ before stepped => before.step stepped) kept ran

/-- What a step does to the store. -/
theorem later_step
    {cluster next : Cluster ι} (stepped : cluster.step members action = some next) :
    cluster.shared.store.Later next.shared.store := by
  cases action with
  | start controller tick =>
      simp only [Cluster.step] at stepped
      split at stepped
      · obtain rfl := Option.some.inj stepped
        simpa only [publish_store] using Election.Later.refl _
      · cases stepped
  | advance controller fate draw =>
      simp only [Cluster.step] at stepped
      split at stepped
      · obtain rfl := Option.some.inj stepped
        simpa only [publish_store] using Election.later_perform _ fate draw _ _
      · cases stepped
  | expire leaseId =>
      obtain rfl := Option.some.inj stepped
      exact Election.later_expire leaseId _
  | write =>
      obtain rfl := Option.some.inj stepped
      exact Election.later_written _
  | deliver record =>
      simp only [Cluster.step] at stepped
      split at stepped
      · obtain rfl := Option.some.inj stepped
        exact Election.later_deliver record _
      · cases stepped

def Cluster.Leads (cluster : Cluster ι) (controller : ι) (epoch : Nat) : Prop :=
  (cluster.fields controller).isLeader = true ∧ (cluster.fields controller).controllerEpoch = epoch

omit [DecidableEq ι] in
/-- A leader has had its own record under the leader key, with its epoch. -/
theorem Kept.created
    {epoch : Nat} (kept : Kept members cluster) (leads : cluster.Leads controller epoch) :
    (epoch, (members.config controller).controllerId) ∈ cluster.shared.store.created := by
  obtain ⟨⟨info, given, _, created⟩, _⟩ := (kept.runs controller).rightful leads.1
  have same : (cluster.fields controller).controllerEpoch = info.controllerEpoch := by
    rw [Fields.controllerEpoch]
    exact congrArg (fun found => (found.map LeaderInfo.controllerEpoch).getD 0) given
  rw [← leads.2, same]
  exact created

/-- Two controllers. -/
def pairMembers : Members Bool where
  config controller := { sampleConfig with controllerId := if controller then "a" else "b" }
  enabled _ := rfl
  distinct := by decide

def becomesLeader (controller : Bool) (presence leader : Int) : List (ClusterAction Bool) :=
  .start controller (tickAt 0) ::
    [presence, presence, presence, leader, leader, leader].map fun leaseId =>
      .advance controller .answered ⟨leaseId, 15⟩

/-- The first controller has become the leader. -/
def firstLeading : Cluster Bool :=
  (Machine.run (Cluster.step pairMembers) (.initial 0) (becomesLeader true 1 2)).getD (.initial 0)

/-- Then its lease has run out, and the second controller has become the leader. -/
def secondLeading : Cluster Bool :=
  (Machine.run (Cluster.step pairMembers) firstLeading
    (.expire 2 :: becomesLeader false 3 4)).getD firstLeading

/-- Between the two leaderships, there is no leader key. -/
def noneLeading : Cluster Bool :=
  (Machine.run (Cluster.step pairMembers) firstLeading [.expire 2]).getD firstLeading

end Authority
end K1s
