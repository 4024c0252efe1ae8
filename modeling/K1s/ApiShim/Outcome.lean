import K1s.ApiShim.RbacSoundness
import K1s.ApiShim.Server

/-!
# When a request changes the store

The first part of a handler leaves the store alone, so that a request changes the
store exactly when it comes to a decision that does.  For each method this is
spelled out in terms of the request and of the state in which it finds the
server.
-/

namespace K1s
namespace ApiShim

open Py Program

/-! ## Operations that leave the store alone -/

/-- An operation that neither writes to the store nor changes the registered
custom resources. -/
def ShimOp.Looks : ShimOp → Prop
  | .store operation => operation.isRead = true
  | .crdRegister _ _ | .crdUnregister _ => False
  | _ => True

/-- What such an operation leaves alone. -/
def ShimWorld.kept (world : ShimWorld) : ObjectStore × CrdRegistry :=
  (world.store, world.crds)

variable (outside : ShimOutside) (gvr : Gvr) (handler : ShimHandler) (token : String)
  (request : Request) (store : ObjectStore)

theorem ShimOp.kept_execute
    (operation : ShimOp) (looks : operation.Looks) (world : ShimWorld) :
    (operation.execute outside world).2.kept = world.kept := by
  cases operation with
  | store operation =>
      simp [execute, ShimWorld.kept, StoreOp.execute_of_isRead looks]
  | crdRegister | crdUnregister => exact looks.elim
  | _ => rfl

/-- A program of such operations. -/
structure Harmless {α : Type} (program : ShimProgram α) : Prop where
  uses : program.Uses ShimOp.Looks

namespace Harmless

variable {α β : Type}

theorem andThen
    {program : ShimProgram α} {next : α → ShimProgram β} (first : Harmless program)
    (second : ∀ value, Harmless (next value)) : Harmless (program.andThen next) :=
  ⟨first.uses.andThen fun value => (second value).uses⟩

theorem ite
    {condition : Prop} [Decidable condition] {first second : ShimProgram α}
    (whenTrue : Harmless first) (whenFalse : Harmless second) :
    Harmless (if condition then first else second) :=
  ⟨Uses.ite whenTrue.uses whenFalse.uses⟩

theorem done (value : α) : Harmless (.done value : ShimProgram α) := ⟨trivial⟩

theorem raise : Harmless (.raise : ShimProgram α) := ⟨trivial⟩

theorem ofOption (value : Option α) : Harmless (.ofOption value : ShimProgram α) :=
  ⟨Uses.ofOption value⟩

theorem ask
    {operation : ShimOp} {next : operation.Reply → ShimProgram α} (looks : operation.Looks)
    (rest : ∀ reply, Harmless (next reply)) : Harmless (Program.perform operation next) :=
  ⟨looks, fun reply => (rest reply).uses⟩

theorem perform {operation : ShimOp} (looks : operation.Looks) :
    Harmless (shimPerform operation) :=
  ask looks done

theorem attempt
    {program : ShimProgram α}
    (harmless : Harmless program) : Harmless program.attempt := by
  induction program with
  | done value => exact done _
  | raise => exact done _
  | perform operation rest ih =>
      exact ask harmless.uses.1 fun reply => ih reply ⟨harmless.uses.2 reply⟩

theorem collect
    {items : List α} {body : α → ShimProgram (List β)}
    (turns : ∀ item, Harmless (body item)) : Harmless (Program.collect items body) := by
  induction items with
  | nil => exact done _
  | cons item rest ih =>
      exact andThen (turns item) fun _ => andThen ih fun _ => done _

/-- The store and the registered custom resources after a run. -/
theorem kept_runAlone
    {program : ShimProgram α} (harmless : Harmless program) (outside : ShimOutside)
    (world : ShimWorld) :
    (runAlone (ShimOp.execute outside) program world).2.kept = world.kept :=
  harmless.uses.runAlone_eq ShimWorld.kept (ShimOp.kept_execute outside) world

end Harmless

/-! ## The parts of the handlers -/

theorem harmless_shimGetNamed (ns : Option String) (name : Json) :
    Harmless (shimGetNamed gvr ns name) := by
  unfold shimGetNamed
  split
  · exact .raise
  · exact .done _
  · exact .perform rfl

theorem harmless_bindingVerbs
    (principal : Principal) (resource : String) (roles : Gvr) (roleNs : Option String)
    (binding : K8sObject) :
    Harmless (bindingVerbs principal resource roles roleNs binding) := by
  refine .andThen (.ofOption _) fun subjects => .andThen (.ofOption _) fun named => ?_
  refine .ite (.done _) (.andThen (.ofOption _) fun ref => .andThen (.ofOption _) fun rname => ?_)
  refine .ite (.done _) (.andThen (harmless_shimGetNamed ..) fun role => ?_)
  cases role with
  | none => exact .done _
  | some role => exact .ofOption _

theorem harmless_rbacAllows
    (principal : Principal) (verb resource : String) (ns : Option String) :
    Harmless (rbacAllows handler principal verb resource ns) := by
  refine .ite (.done _) (.ite (.done _) (.ite (.done _) (.ite (.done _)
    (.ite (.done _) (.andThen (.attempt ?_) fun verbs => ?_)))))
  · refine .andThen (.perform rfl) fun rbs => .andThen (.collect fun rb => ?_) fun fromRbs =>
      .andThen (.perform rfl) fun crbs => .andThen (.collect fun crb => ?_) fun fromCrbs =>
      .done _
    · exact harmless_bindingVerbs ..
    · exact harmless_bindingVerbs ..
  · rcases verbs with _ | _ | _
    · exact .done _
    · exact .done _
    · exact .done _

theorem harmless_saPrincipal : Harmless (saPrincipal token) := by
  refine .andThen (.andThen (.perform trivial) fun entry => ?_) fun entry => ?_
  · cases entry with
    | some entry => exact .done _
    | none =>
        refine .andThen (.ite (.done _) (.andThen (.perform rfl) fun accounts =>
          .andThen (.perform trivial) fun now => .ofOption _)) fun found => ?_
        cases found with
        | none => exact .done _
        | some entry => exact .andThen (.perform trivial) fun _ => .done _
  · cases entry with
    | none => exact .done _
    | some entry =>
        exact .andThen (.perform trivial) fun now =>
          .ite (.andThen (.perform trivial) fun _ => .done _) (.done _)

theorem harmless_parsePrincipal : Harmless (parsePrincipal handler token) := by
  unfold parsePrincipal
  split
  · exact .done _
  · refine .andThen ?_ fun session => ?_
    · unfold parseSessionToken
      split
      · exact .done _
      · exact .andThen (.perform trivial) fun _ => .done _
    · cases session with
      | some role => exact .done _
      | none => exact harmless_saPrincipal token

theorem harmless_authz (role : Role) (token : String) :
    Harmless (authz handler role token) :=
  .ite (.done _) (.andThen (harmless_parsePrincipal handler token) fun _ => .done _)

theorem harmless_rbacCheck
    (cached : Option Principal) (verb resource : String) (ns : Option String) :
    Harmless (rbacCheck handler token cached verb resource ns) := by
  cases cached with
  | some principal => exact harmless_rbacAllows ..
  | none =>
      exact .ite (.done _) (.andThen (harmless_parsePrincipal handler token) fun _ =>
        harmless_rbacAllows ..)

theorem harmless_lookupCustom (path : String) : Harmless (lookupCustom path) := by
  unfold lookupCustom
  split
  · exact .done _
  · exact .andThen (.perform trivial) fun _ => .done _

theorem harmless_refusal (refusal : Refusal) : Harmless refusal.program := by
  cases refusal with
  | raised => exact .raise
  | silent => exact .done _
  | status => exact .done _

theorem harmless_storing
    (basis : Option K8sObject) (crdName : Option Json)
    (written : Except Refusal Write) : Harmless (storing basis crdName written) := by
  cases written with
  | error refusal => exact harmless_refusal refusal
  | ok write => exact .done _

theorem harmless_docRule
    (cached : Option Principal) (rule : DocRule)
    (doc : Json) : Harmless (rule.decision handler token cached doc) := by
  unfold DocRule.decision
  split
  · exact harmless_refusal _
  · refine .andThen ?_ fun allowed => .ite (harmless_storing ..) (.done _)
    unfold DocRule.allowed
    split
    · exact .done _
    · exact harmless_rbacCheck ..

theorem harmless_doPut : Harmless (doPut handler request) := by
  unfold doPut
  refine .andThen (harmless_authz ..) fun passed => ?_
  cases passed with
  | none => exact .done _
  | some cached =>
      refine .andThen (.ofOption _) fun doc => .andThen ?_ fun route => ?_
      · unfold findPutRoute
        split
        · exact .done _
        · refine .andThen (harmless_lookupCustom _) fun custom => ?_
          rcases custom with _ | ⟨custom, crd⟩
          · exact .done _
          · exact .done _
      · rcases route with _ | rule | ⟨ns, name⟩
        · exact .done _
        · exact harmless_docRule ..
        · refine .andThen (.perform rfl) fun object => ?_
          cases object with
          | none => exact .done _
          | some object => exact harmless_storing ..

theorem harmless_generateName
    (ns : Option String) (start : String)
    (attempts : Nat) : Harmless (generateName gvr ns start attempts) := by
  induction attempts with
  | zero => exact .done _
  | succ attempts ih =>
      exact .andThen (.perform trivial) fun suffix => .ite ih
        (.andThen (.perform rfl) fun taken => .ite ih (.done _))

theorem harmless_resolveCreateName
    (ns : Option String) (md : Dict)
    (pathName : Option String) : Harmless (resolveCreateName gvr ns md pathName) :=
  .ite (.done _) (.ite (.done _) (harmless_generateName ..))

theorem harmless_issueSaToken (ns name : String) :
    Harmless (issueSaToken handler ns name) :=
  .andThen (.perform trivial) fun _ => .andThen (.perform trivial) fun _ =>
    .andThen (.perform trivial) fun _ => .done _

theorem harmless_withSaToken
    (md : Dict) (ns : Json)
    (name : String) : Harmless (withSaToken handler md ns name) := by
  refine .andThen (.andThen (.perform trivial) fun now => .andThen (.perform rfl)
    fun existing => .andThen (.ofOption _) fun stored => ?_) fun _ => .done _
  refine .ite (.andThen (.ofOption _) fun _ => .andThen (.perform trivial) fun _ => .done _) ?_
  exact .andThen (.ite (.done _) (.perform trivial)) fun _ =>
    .andThen (harmless_issueSaToken ..) fun _ => .ofOption _

theorem harmless_createCore (path : PathName) (doc : Json) :
    Harmless (createCore handler path doc) := by
  unfold createCore
  split
  · split
    · refine .andThen (harmless_resolveCreateName ..) fun name => .ite (.done _) ?_
      unfold createNamed
      simp only
      split
      · exact .done _
      · refine .andThen (.ite (harmless_withSaToken ..) (.done _)) fun md => .andThen ?_
          fun content => harmless_storing ..
        exact .ite (.andThen (.perform rfl) fun _ =>
          .andThen (.perform trivial) fun _ => .andThen (.perform trivial) fun _ => .done _)
          (.done _)
    · exact .raise
  · exact .raise

theorem harmless_doPost : Harmless (doPost handler request) := by
  unfold doPost
  refine .andThen (harmless_authz ..) fun passed => ?_
  cases passed with
  | none => exact .done _
  | some cached =>
      simp only [createDecision]
      split
      · exact .andThen (harmless_rbacCheck ..) fun _ => .done _
      · refine .ite (.done _) (.andThen (.ofOption _) fun doc => .andThen ?_ fun route => ?_)
        · unfold findPostRoute
          split
          · exact .done _
          · refine .andThen (harmless_lookupCustom _) fun custom => ?_
            rcases custom with _ | ⟨custom, crd⟩
            · exact .done _
            · exact .done _
        · rcases route with _ | path | rule
          · exact .done _
          · exact harmless_createCore ..
          · exact harmless_docRule ..

theorem harmless_toHpa (o : K8sObject) : Harmless (toHpa o) := by
  refine .andThen (.ofOption _) fun entries => .andThen (.ofOption _) fun status => ?_
  simp only
  split
  · refine .andThen ?_ fun found => .andThen (.ofOption _) fun status => .done _
    unfold hpaTarget
    split
    · split
      · exact .perform rfl
      · exact .done _
    · exact .raise
  · exact .raise

theorem harmless_doPatch : Harmless (doPatch handler request) := by
  unfold doPatch
  refine .andThen (harmless_authz ..) fun passed => ?_
  cases passed with
  | none => exact .done _
  | some cached =>
      refine .andThen (.ofOption _) fun patch => .andThen ?_ fun route => ?_
      · unfold findPatchRoute
        split
        · exact .done _
        · refine .andThen (harmless_lookupCustom _) fun custom => ?_
          rcases custom with _ | ⟨custom, crd⟩
          · exact .done _
          · exact .done _
      · cases route with
        | none => exact .done _
        | some route =>
            refine .andThen ?_ fun object => .andThen (.perform trivial) fun now =>
              .andThen ?_ fun written => harmless_storing ..
            · unfold PatchRoute.stored
              split
              · exact .done _
              · exact .perform rfl
            · cases object with
              | none => exact .done _
              | some object =>
                  rcases route with path | ⟨path, crd⟩ | ⟨kind, path⟩
                  · exact .done _
                  · exact .done _
                  · exact .andThen (.ite (harmless_toHpa _) (.ofOption _)) fun _ => .done _

theorem harmless_doDelete : Harmless (doDelete handler request) := by
  unfold doDelete
  refine .andThen (harmless_authz ..) fun passed => ?_
  cases passed with
  | none => exact .done _
  | some cached =>
      simp only [deleteDecision]
      split
      · exact .andThen (.ite (harmless_rbacCheck ..) (.done _)) fun _ => .done _
      · refine .andThen (harmless_lookupCustom _) fun custom => ?_
        rcases custom with _ | ⟨custom, crd⟩
        · exact .done _
        · exact .done _

theorem harmless_refreshSaToken
    (ns : Option String) (name : String)
    (object : K8sObject) : Harmless (refreshSaToken handler ns name object) := by
  refine .andThen (.ofOption _) fun md => ?_
  simp only
  split
  · exact .andThen (.ofOption _) fun exp =>
      .andThen (.ite (.done _) (.andThen (.perform trivial) fun _ => .done _)) fun stale =>
      .ite (.andThen (harmless_issueSaToken ..) fun token =>
        .andThen (.perform trivial) fun later => .done _) (.done _)
  · exact .raise

theorem harmless_doGet : Harmless (doGet handler request) := by
  refine .ite (.done _) (.andThen (harmless_authz ..) fun passed => ?_)
  cases passed with
  | none => exact .done _
  | some cached =>
      simp only
      split
      · refine .andThen (harmless_rbacCheck ..) fun allowed => .ite (.done _)
          (.andThen (.perform rfl) fun object => ?_)
        cases object with
        | none => exact .done _
        | some object =>
            refine .andThen (harmless_refreshSaToken ..) fun md => ?_
            cases md with
            | none => exact .done _
            | some md => exact .done _
      · exact .done _

/-- The first part of a handler leaves the store and the registered custom
resources alone. -/
theorem harmless_decideRequest : Harmless (decideRequest handler request) := by
  unfold decideRequest
  cases request.method with
  | get => exact harmless_doGet handler request
  | post => exact harmless_doPost handler request
  | put => exact harmless_doPut handler request
  | patch => exact harmless_doPatch handler request
  | delete => exact harmless_doDelete handler request

/-! ## Carrying a decision out -/

def ObjectStore.SameRows (after before : ObjectStore) : Prop :=
  ∀ key, after.row? key = before.row? key

/-- The objects of a kind, in one namespace or in all. -/
def ObjectStore.listIn (gvr : Gvr) : Option String → List K8sObject
  | none => store.listAll gvr
  | some ns => store.list gvr (some ns)

def deletedKey (cluster : Bool) (object : K8sObject) : ObjectKey :=
  gvr.key (if cluster then none else object.ns) object.name

/-- Carrying the decision out changes the store. -/
def Decision.Changes : Decision → Prop
  | .respond _ | .answer => False
  | .upsert _ _ _ => True
  | .delete gvr ns name _ => (store.row? (gvr.key ns name)).isSome
  | .deleteAll gvr ns cluster =>
      ∃ object ∈ store.listIn gvr ns, (store.row? (deletedKey gvr cluster object)).isSome

/-- The rows after the objects of a list have been deleted one by one. -/
theorem row?_deleteEach
    (cluster : Bool) (items : List K8sObject) (world : ShimWorld) (key : ObjectKey) :
    (runAlone (ShimOp.execute outside) (Program.forEach items fun object => do
        let _ ← shimDelete gvr (if cluster then none else object.ns) object.name
        return ()) world).2.store.row? key =
      if ∃ object ∈ items, deletedKey gvr cluster object = key then none
      else world.store.row? key := by
  induction items generalizing world with
  | nil => simp [Program.forEach]
  | cons object rest ih =>
      refine (ih _).trans ?_
      have deleted := ObjectStore.row?_delete world.store gvr
        (if cluster then none else object.ns) object.name key
      simp only [List.mem_cons, exists_eq_or_imp]
      by_cases later : ∃ object ∈ rest, deletedKey gvr cluster object = key
      · simp [later]
      · simp only [later, if_false, or_false]
        exact deleted

def Decision.rowAfter (key : ObjectKey) : Decision → Option ObjectRow
  | .respond _ | .answer => store.row? key
  | .upsert _ write _ =>
      if write.gvr.key write.ns write.name = key then
        some ⟨write.metadata, write.spec, write.status.or (.dict []), store.nextRv⟩
      else store.row? key
  | .delete gvr ns name _ =>
      if gvr.key ns name = key then none else store.row? key
  | .deleteAll gvr ns cluster =>
      if ∃ object ∈ store.listIn gvr ns, deletedKey gvr cluster object = key then none
      else store.row? key

theorem row?_carryOut (decision : Decision) (world : ShimWorld) (key : ObjectKey) :
    (runAlone (ShimOp.execute outside) decision.carryOut world).2.store.row? key =
      decision.rowAfter world.store key := by
  cases decision with
  | respond status => rfl
  | answer => rfl
  | upsert basis write crdName =>
      have stored := world.store.row?_upsert write.gvr write.ns write.name
        write.metadata write.spec write.status key
      simp only [Decision.carryOut, bind_eq, runAlone_andThen, runAlone_shimUpsert]
      cases crdName with
      | none => exact stored
      | some crdName =>
          simp only [runAlone_andThen, runAlone_shimCrdRegister]
          split
          · exact stored
          · exact stored
  | delete gvr ns name unregister =>
      have gone := world.store.row?_delete gvr ns name key
      simp only [Decision.carryOut, bind_eq, runAlone_andThen, runAlone_shimDelete]
      split
      · exact gone
      · cases unregister with
        | false => exact gone
        | true => exact gone
  | deleteAll gvr ns cluster =>
      have listed : runAlone (ShimOp.execute outside) (shimListIn gvr ns) world =
          (some (world.store.listIn gvr ns), world) := by
        cases ns <;> rfl
      refine Eq.trans ?_ (row?_deleteEach outside gvr cluster
        (world.store.listIn gvr ns) world key)
      simp only [Decision.carryOut, bind_eq, runAlone_andThen, listed]
      split <;> simp_all

/-- Carrying the decision out changes the row of a key. -/
def Decision.ChangesAt (key : ObjectKey) : Decision → Prop
  | .respond _ | .answer => False
  | .upsert _ write _ => write.gvr.key write.ns write.name = key
  | .delete gvr ns name _ => gvr.key ns name = key ∧ (store.row? key).isSome
  | .deleteAll gvr ns cluster =>
      (∃ object ∈ store.listIn gvr ns, deletedKey gvr cluster object = key) ∧
        (store.row? key).isSome

theorem rowAfter_ne_iff (key : ObjectKey) (decision : Decision) :
    decision.rowAfter store key ≠ store.row? key ↔ decision.ChangesAt store key := by
  have present : none ≠ store.row? key ↔ (store.row? key).isSome = true := by
    rw [Option.isSome_iff_ne_none]
    exact ne_comm
  cases decision with
  | respond status => simp [Decision.rowAfter, Decision.ChangesAt]
  | answer => simp [Decision.rowAfter, Decision.ChangesAt]
  | upsert basis write crdName =>
      simp only [Decision.rowAfter, Decision.ChangesAt]
      split
      · next equal =>
          refine iff_of_true (fun same => ?_) equal
          exact Nat.lt_irrefl _ (ObjectStore.rv_lt_nextRv same.symm)
      · next apart => exact iff_of_false (fun changed => changed rfl) apart
  | delete gvr ns name unregister =>
      simp only [Decision.rowAfter, Decision.ChangesAt]
      split
      · next equal => simpa [equal] using present
      · next apart => simp [apart]
  | deleteAll gvr ns cluster =>
      simp only [Decision.rowAfter, Decision.ChangesAt]
      split
      · next held => simpa [held] using present
      · next missing => simp [missing]

theorem exists_changesAt_iff (decision : Decision) :
    (∃ key, decision.ChangesAt store key) ↔ decision.Changes store := by
  cases decision with
  | respond status => simp [Decision.ChangesAt, Decision.Changes]
  | answer => simp [Decision.ChangesAt, Decision.Changes]
  | upsert basis write crdName => simp [Decision.ChangesAt, Decision.Changes]
  | delete gvr ns name unregister => simp [Decision.ChangesAt, Decision.Changes]
  | deleteAll gvr ns cluster =>
      simp only [Decision.ChangesAt, Decision.Changes]
      constructor
      · rintro ⟨key, ⟨object, member, rfl⟩, present⟩
        exact ⟨object, member, present⟩
      · rintro ⟨object, member, present⟩
        exact ⟨_, ⟨object, member, rfl⟩, present⟩

theorem sameRows_carryOut_iff (decision : Decision) (world : ShimWorld) :
    (runAlone (ShimOp.execute outside) decision.carryOut world).2.store.SameRows
        world.store ↔ ¬ decision.Changes world.store := by
  rw [← exists_changesAt_iff, not_exists]
  simp only [ObjectStore.SameRows, row?_carryOut, ← rowAfter_ne_iff, not_not]

theorem row?_afterRequest
    {handler : ShimHandler} {outside : ShimOutside} {request : Request}
    {world after : ShimWorld} {decision : Decision}
    (decided : runAlone (ShimOp.execute outside) (decideRequest handler request) world =
      (some decision, after))
    (key : ObjectKey) :
    (afterRequest handler outside request world).store.row? key =
      decision.rowAfter world.store key := by
  have kept := (harmless_decideRequest handler request).kept_runAlone outside world
  rw [decided] at kept
  have same : after.store = world.store := congrArg Prod.fst kept
  unfold afterRequest handle
  rw [runAlone_andThen, decided, ← same]
  exact row?_carryOut outside decision after key

/-- A request leaves the row of a key alone exactly when it does not come to a
decision that changes it. -/
theorem row?_afterRequest_iff
    (outside : ShimOutside) (request : Request) (world : ShimWorld) (key : ObjectKey) :
    (afterRequest handler outside request world).store.row? key = world.store.row? key ↔
      ¬ Leads (ShimOp.execute outside) (fun decision _ => decision.ChangesAt world.store key)
        (decideRequest handler request) world := by
  rw [leads_iff_runAlone]
  rcases decided : runAlone (ShimOp.execute outside) (decideRequest handler request) world
    with ⟨_ | decision, after⟩
  · have kept := (harmless_decideRequest handler request).kept_runAlone outside world
    rw [decided] at kept
    have same : after.store = world.store := congrArg Prod.fst kept
    unfold afterRequest handle
    rw [runAlone_andThen, decided]
    simp [same]
  · rw [row?_afterRequest decided]
    simp [← rowAfter_ne_iff]

/-- A request changes the store exactly when it comes to a decision that does. -/
theorem sameRows_afterRequest_iff
    (outside : ShimOutside) (request : Request) (world : ShimWorld) :
    (afterRequest handler outside request world).store.SameRows world.store ↔
      ¬ Leads (ShimOp.execute outside) (fun decision _ => decision.Changes world.store)
        (decideRequest handler request) world := by
  have kept := (harmless_decideRequest handler request).kept_runAlone outside world
  unfold afterRequest handle
  rw [runAlone_andThen, leads_iff_runAlone]
  rcases ran : runAlone (ShimOp.execute outside) (decideRequest handler request) world
    with ⟨_ | decision, after⟩
  · rw [ran] at kept
    have same : after.store = world.store := congrArg Prod.fst kept
    simp [same, ObjectStore.SameRows]
  · rw [ran] at kept
    have same : after.store = world.store := congrArg Prod.fst kept
    have carried := sameRows_carryOut_iff outside decision after
    rw [same] at carried
    simp [carried]

end ApiShim
end K1s
