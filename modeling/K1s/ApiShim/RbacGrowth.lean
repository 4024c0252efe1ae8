import K1s.ApiShim.Principals
import K1s.ApiShim.RbacSoundness
import Mathlib.Logic.Relation

/-!
# Adding roles, bindings and rules

With role evaluation on, `_rbac_allows` collects the verbs of all rules into one set and
looks the verb up in it; the static table is consulted only while the set is empty.  An
exception in the evaluation denies the request, and so does a missing token.

What is added never takes a verb out of the set.  The main result says when a request
that is let through stays so: the evaluation has to go through afterwards, and either a
rule gives the verb or none gives any verb for the resource.  A verb that a bound role
lists is granted.
-/

namespace K1s
namespace ApiShim

open Py Program

/-! ## Additions -/

/-- The rules of a role, unless reading them raises an exception. -/
def rulesOf (spec : Json) : Option (List Json) :=
  (spec.lookupD "rules" (.list [])).bind Json.iterate

/-- The kinds whose objects are evaluated. -/
def rbacResources : List Gvr :=
  [rolesResource, clusterRolesResource, roleBindingsResource, clusterRoleBindingsResource]

/-- A Role, a ClusterRole or a binding has been added, or a rule to a stored role. -/
inductive Adds (before after : ObjectStore) : Prop
  | object
      (key : ObjectKey)
      (row : ObjectRow)
      (kind : key.gvr ∈ rbacResources)
      (absent : before.row? key = none)
      (added : ∀ other, after.row? other =
        if other = key then some row else before.row? other)
  | rule
      (key : ObjectKey)
      (old new : ObjectRow)
      (front back : List Json)
      (rule : Json)
      (kind : key.gvr = rolesResource ∨ key.gvr = clusterRolesResource)
      (stored : before.row? key = some old)
      (had : rulesOf old.spec = some (front ++ back))
      (has : rulesOf new.spec = some (front ++ rule :: back))
      (replaced : ∀ other, after.row? other =
        if other = key then some new else before.row? other)

/-- The rows of a store, as far as they are kept: bindings as they are, and roles with what
they give. -/
structure Grows (before after : ObjectStore) : Prop where
  bindings : ∀ key row, key.gvr = roleBindingsResource ∨ key.gvr = clusterRoleBindingsResource →
    before.row? key = some row → after.row? key = some row
  roles : ∀ key row, key.gvr = rolesResource ∨ key.gvr = clusterRolesResource →
    before.row? key = some row → ∃ new, after.row? key = some new ∧
      ∀ resource value, RoleGives resource value (row.object key) →
        RoleGives resource value (new.object key)

theorem grows_refl (store : ObjectStore) : Grows store store where
  bindings _ _ _ stored := stored
  roles _ row _ stored := ⟨row, stored, fun _ _ => id⟩

theorem Grows.trans
    {first second third : ObjectStore} (earlier : Grows first second)
    (later : Grows second third) : Grows first third where
  bindings key row kind stored :=
    later.bindings key row kind (earlier.bindings key row kind stored)
  roles key row kind stored := by
    obtain ⟨middle, inSecond, gives⟩ := earlier.roles key row kind stored
    obtain ⟨last, inThird, more⟩ := later.roles key middle kind inSecond
    exact ⟨last, inThird, fun resource value given =>
      more resource value (gives resource value given)⟩

/-- A role with one more rule gives what it gave. -/
theorem roleGives_of_rule
    {old new : ObjectRow} {key : ObjectKey} {front back : List Json} {rule : Json}
    (had : rulesOf old.spec = some (front ++ back))
    (has : rulesOf new.spec = some (front ++ rule :: back)) {resource : String}
    {value : Json} (given : RoleGives resource value (old.object key)) :
    RoleGives resource value (new.object key) := by
  obtain ⟨rules, listed, wanted, member, gives⟩ := given
  obtain rfl := Option.some.inj (had.symm.trans listed)
  refine ⟨front ++ rule :: back, has, wanted, ?_, gives⟩
  rcases List.mem_append.mp member with inFront | inBack
  · exact List.mem_append_left _ inFront
  · exact List.mem_append_right _ (List.mem_cons_of_mem _ inBack)

theorem grows_of_adds
    {before after : ObjectStore}
    (adds : Adds before after) : Grows before after := by
  cases adds with
  | object key row kind absent added =>
      have kept : ∀ other old, before.row? other = some old → after.row? other = some old := by
        intro other old stored
        rw [added, if_neg, stored]
        rintro rfl
        exact absurd (absent.symm.trans stored) nofun
      exact ⟨fun other old _ stored => kept other old stored,
        fun other old _ stored => ⟨old, kept other old stored, fun _ _ => id⟩⟩
  | rule key old new front back rule kind stored had has replaced =>
      refine ⟨fun other row binding present => ?_, fun other row _ present => ?_⟩
      · rw [replaced, if_neg, present]
        rintro rfl
        rcases kind with role | role
        · rw [role] at binding
          exact absurd binding (by decide)
        · rw [role] at binding
          exact absurd binding (by decide)
      · by_cases same : other = key
        · subst same
          obtain rfl := Option.some.inj (stored.symm.trans present)
          exact ⟨new, (replaced other).trans (if_pos rfl), fun _ _ =>
            roleGives_of_rule had has⟩
        · exact ⟨row, (replaced other).trans ((if_neg same).trans present), fun _ _ => id⟩

theorem grows_of_additions
    {before after : ObjectStore}
    (additions : Relation.ReflTransGen Adds before after) : Grows before after := by
  induction additions with
  | refl => exact grows_refl before
  | tail _ adds ih => exact ih.trans (grows_of_adds adds)

/-! ## What is given stays given -/

section Growth

variable {before after : ObjectStore} {principal : Principal} {resource : String}
variable {value : Json}

theorem mem_listAll_of_grows
    (grows : Grows before after) {gvr : Gvr}
    (kind : gvr = roleBindingsResource ∨ gvr = clusterRoleBindingsResource) {binding : K8sObject}
    (listed : binding ∈ before.listAll gvr) : binding ∈ after.listAll gvr := by
  obtain ⟨key, row, stored, rfl, rfl⟩ := (ObjectStore.mem_listAll _ _ _).mp listed
  exact (ObjectStore.mem_listAll _ _ _).mpr
    ⟨key, row, grows.bindings key row kind stored, rfl, rfl⟩

theorem gives_of_grows
    (grows : Grows before after) {roles : Gvr}
    (kind : roles = rolesResource ∨ roles = clusterRolesResource) {roleNs : Option String}
    {binding : K8sObject} (given : Gives before principal resource value roles roleNs binding) :
    Gives after principal resource value roles roleNs binding := by
  obtain ⟨names, ref, rname, text, role, readRef, readName, truthy, bound, found, gives⟩ := given
  obtain ⟨row, stored, rfl⟩ := Option.map_eq_some_iff.mp found
  obtain ⟨new, present, more⟩ := grows.roles (roles.key roleNs text) row kind stored
  refine ⟨names, ref, rname, text, new.object (roles.key roleNs text), readRef, readName,
    truthy, bound, ?_, more resource value gives⟩
  rw [ObjectStore.get, present]
  rfl

/-- Additions take no verb away. -/
theorem givenBy_of_grows
    (grows : Grows before after) {ns : Option String}
    (given : GivenBy before principal resource ns value) :
    GivenBy after principal resource ns value := by
  rcases given with ⟨rb, listed, looked, gives⟩ | ⟨crb, listed, gives⟩
  · exact .inl ⟨rb, mem_listAll_of_grows grows (.inl rfl) listed, looked,
      gives_of_grows grows (.inl rfl) gives⟩
  · exact .inr ⟨crb, mem_listAll_of_grows grows (.inr rfl) listed,
      gives_of_grows grows (.inr rfl) gives⟩

end Growth

/-! ## The decision -/

section Decision

variable (handler : ShimHandler) (outside : ShimOutside) (principal : Principal)
variable (verb resource : String) (ns : Option String) (world : ShimWorld)

/-- A rule that lists the verb grants the request: one of a ClusterRole that a
ClusterRoleBinding refers to, or of a Role that a RoleBinding of the namespace refers to. -/
def GrantedByRule (store : ObjectStore) : Prop :=
  (∃ crb ∈ store.listAll clusterRoleBindingsResource, RefersTo "ClusterRole" crb ∧
    Grants store principal resource verb clusterRolesResource none crb) ∨
  ∃ name, ns = some name ∧ ∃ rb ∈ store.listAll roleBindingsResource, rb.ns = some name ∧
    RefersTo "Role" rb ∧ Grants store principal resource verb rolesResource rb.ns rb

variable {handler principal verb resource ns}

/-- A request that was let through stays so exactly when its token is exempt, or the
evaluation goes through and gives the verb, or no verb at all for the resource. -/
theorem rbacAllows_of_grows_iff
    {before after : ObjectStore} (enabled : handler.rbacEnabled = true)
    (evaluates : handler.rbacEvalRoles = true) (grows : Grows before after)
    (allowed : RbacAllows handler outside principal verb resource ns
      { world with store := before }) :
    RbacAllows handler outside principal verb resource ns { world with store := after } ↔
      Exempt principal verb ∨ CanEvaluate after principal resource ns ∧
          (GivenBy after principal resource ns (.str verb) ∨
            ∀ value, ¬ GivenBy after principal resource ns value) := by
  rw [rbacAllows_iff _ _ enabled evaluates] at allowed ⊢
  refine or_congr_right' fun notExempt => ?_
  obtain ⟨known, -, given⟩ := allowed.resolve_left notExempt
  constructor
  · rintro ⟨-, through, now | ⟨none, -⟩⟩
    · exact ⟨through, .inl now⟩
    · exact ⟨through, .inr none⟩
  · rintro ⟨through, now⟩
    refine ⟨known, through, now.imp_right fun none => ⟨none, ?_⟩⟩
    rcases given with before | ⟨-, static⟩
    · exact absurd (givenBy_of_grows grows before) (none _)
    · exact static

theorem givenBy_of_grantedByRule
    {store : ObjectStore} (granted : GrantedByRule principal verb resource ns store) :
    GivenBy store principal resource ns (.str verb) := by
  rcases granted with ⟨crb, listed, -, grants⟩ | ⟨name, rfl, rb, listed, within, -, grants⟩
  · exact .inr ⟨crb, listed, grants_iff.mp grants⟩
  · refine .inl ⟨rb, listed, ?_, grants_iff.mp grants⟩
    simp [consulted, within]

/-- With role evaluation on, for any number of additions: what was given by a rule still
is; a request that was let through stays so if its token is exempt, or the evaluation goes
through and gives the verb or no verb at all for the resource; and what a rule of a bound
role grants is let through if the evaluation goes through for a known caller. -/
theorem rbac_grows
    {before after : ObjectStore} (enabled : handler.rbacEnabled = true)
    (evaluates : handler.rbacEvalRoles = true)
    (additions : Relation.ReflTransGen Adds before after) :
    (∀ value, GivenBy before principal resource ns value →
      GivenBy after principal resource ns value) ∧
    (RbacAllows handler outside principal verb resource ns { world with store := before } →
      Exempt principal verb ∨ CanEvaluate after principal resource ns ∧
          (GivenBy after principal resource ns (.str verb) ∨
            ∀ value, ¬ GivenBy after principal resource ns value) →
      RbacAllows handler outside principal verb resource ns { world with store := after }) ∧
    (GrantedByRule principal verb resource ns after →
      principal.username ≠ unauthenticated → CanEvaluate after principal resource ns →
      RbacAllows handler outside principal verb resource ns { world with store := after }) := by
  have grows := grows_of_additions additions
  refine ⟨fun value => givenBy_of_grows grows, fun allowed => ?_, fun granted known through => ?_⟩
  · exact (rbacAllows_of_grows_iff outside world enabled evaluates grows allowed).mpr
  · rw [rbacAllows_iff _ _ enabled evaluates]
    exact .inr ⟨known, through, .inl (givenBy_of_grantedByRule granted)⟩

end Decision

/-! ## A grant that takes a permission away -/

/-- Creating an object of access control is an addition. -/
theorem adds_upsert
    {store : ObjectStore} {gvr : Gvr} {ns : Option String} {name : String}
    (kind : gvr ∈ rbacResources) (absent : store.row? (gvr.key ns name) = none)
    (metadata spec status : Json) :
    Adds store (store.upsert gvr ns name metadata spec status).2 := by
  refine .object (gvr.key ns name) ⟨metadata, spec, status.or (.dict []), store.nextRv⟩ kind
    absent fun other => ?_
  rw [ObjectStore.row?_upsert]
  simp only [eq_comm]

/-- A store with one more role of the namespace `dev`, or of none. -/
def withRole (store : ObjectStore) (gvr : Gvr) (name : String) (verbs : List String) :
    ObjectStore :=
  (store.upsert gvr (if gvr = rolesResource then some "dev" else none) name (.dict [])
    (.dict [("rules", .list [.dict [("resources", .list [.str "pods/exec"]),
      ("verbs", .list (verbs.map .str))]])]) (.dict [])).2

/-- A store with one more RoleBinding of the namespace `dev`. -/
def withBinding (store : ObjectStore) (user kind role : String) : ObjectStore :=
  (store.upsert roleBindingsResource (some "dev") role (.dict [])
    (.dict [("subjects", .list [.dict [("kind", .str "User"), ("name", .str user)]]),
      ("roleRef", .dict [("kind", .str kind), ("name", .str role)])]) (.dict [])).2

/-- A role that may look at sessions. -/
def watchers : ObjectStore := withRole .empty rolesResource "watcher" ["get"]

/-- A role that may create sessions, bound to the user of another token. -/
def creators : ObjectStore :=
  withBinding (withRole .empty rolesResource "creator" ["create"]) "portforward" "Role" "creator"

/-- With a ClusterRole that nothing refers to. -/
def grownCreators : ObjectStore := withRole creators clusterRolesResource "viewer" ["get"]

/-- The user that the binding names. -/
def boundUser : Principal := .ofRole "portforward" "portforward"

/-- What the binding gives the user it still gives with a further ClusterRole. -/
theorem rbac_grows_creators :
    GivenBy grownCreators boundUser "pods/exec" (some "dev") (.str "create") ∧
      RbacAllows evaluatingHandler stillOutside boundUser "create" "pods/exec" (some "dev")
        { devExecutor with store := grownCreators } := by
  have allowed : RbacAllows evaluatingHandler stillOutside boundUser "create" "pods/exec"
      (some "dev") { devExecutor with store := creators } := by
    unfold RbacAllows
    decide +kernel
  have notExempt : ¬ Exempt boundUser "create" := by
    unfold Exempt
    decide
  have notStatic : ¬ staticAllows evaluatingHandler boundUser.tokenRole "create" "pods/exec" =
      true := by
    decide +kernel
  have enabled : evaluatingHandler.rbacEnabled = true := rfl
  have evaluates : evaluatingHandler.rbacEvalRoles = true := rfl
  have adds : Adds creators grownCreators := adds_upsert (by decide) (by decide +kernel) _ _ _
  obtain ⟨-, -, before | ⟨-, static⟩⟩ :=
    ((rbacAllows_iff _ _ enabled evaluates).mp allowed).resolve_left notExempt
  · obtain ⟨keeps, stays, -⟩ := rbac_grows stillOutside devExecutor enabled evaluates
      (.single adds)
    have through : CanEvaluate grownCreators boundUser "pods/exec" (some "dev") :=
      isSome_verbsOfAll_iff.mp (by decide +kernel)
    have given := keeps _ before
    exact ⟨given, stays allowed (.inr ⟨through, .inl given⟩)⟩
  · exact absurd static notStatic

/-- The static table lets the user create a session.  Once a binding lets it look at
sessions it may not create one any more.  A rule with the verb `*` gives no verb, and a
ClusterRole that a RoleBinding refers to is not found. -/
theorem not_rbacAllows_watchers :
    (Adds watchers (withBinding watchers "exec" "Role" "watcher") ∧
      RbacAllows evaluatingHandler stillOutside (.ofRole "exec" "exec") "create" "pods/exec"
        (some "dev") { devExecutor with store := watchers } ∧
      ¬ RbacAllows evaluatingHandler stillOutside (.ofRole "exec" "exec") "create" "pods/exec"
        (some "dev")
        { devExecutor with store := withBinding watchers "exec" "Role" "watcher" }) ∧
    ¬ RbacAllows evaluatingHandler stillOutside boundUser "create" "pods/exec" (some "dev")
      { devExecutor with
        store := withBinding (withRole .empty rolesResource "all" ["*"]) "portforward" "Role"
          "all" } ∧
    ¬ RbacAllows evaluatingHandler stillOutside boundUser "create" "pods/exec" (some "dev")
      { devExecutor with
        store := withBinding (withRole .empty clusterRolesResource "creator" ["create"])
          "portforward" "ClusterRole" "creator" } := by
  refine ⟨⟨adds_upsert (by decide) (by decide +kernel) _ _ _, ?_, ?_⟩, ?_, ?_⟩
  all_goals
    unfold RbacAllows
    decide +kernel

end ApiShim
end K1s
