import K1s.ApiShim.Rbac
import K1s.Lib.OptionLists

/-!
# Which requests role-based access control lets through

The handlers that execute, forward ports, create, update and delete ask
`_rbac_allows` with a verb, a resource and, some of them, the namespace of the
request.  The module says what a request ought to be granted by, and when the
decision keeps to that: a RoleBinding is consulted whatever its namespace when
the handler passes none, or when the binding is stored without one.
-/

namespace K1s
namespace ApiShim

open Py Program

/-! ## What the evaluation computes -/

section Evaluation

variable (store : ObjectStore) (principal : Principal) (resource : String)

/-- The verbs that a binding gives the principal, on a given store. -/
def verbsOf (roles : Gvr) (roleNs : Option String) (binding : K8sObject) :
    Option (List Json) :=
  ((binding.spec.lookupD "subjects" (.list [])).bind Json.iterate).bind fun subjects =>
  (anySubject principal (roleNs.getD "") subjects).bind fun named =>
  if !named then some []
  else (binding.spec.lookupD "roleRef" (.dict [])).bind fun ref =>
  (ref.get "name").bind fun rname =>
  if !rname.truthy then some []
  else rname.sqlText.bind fun text =>
    match text.bind (store.get roles roleNs) with
    | none => some []
    | some role => roleVerbs resource role

/-- The verbs that the RoleBindings and ClusterRoleBindings give together. -/
def verbsOfAll (ns : Option String) : Option (List Json) :=
  (((store.listAll roleBindingsResource).filter (consulted ns)).mapM fun rb =>
    verbsOf store principal resource rolesResource rb.ns rb).bind fun fromRbs =>
  ((store.listAll clusterRoleBindingsResource).mapM fun crb =>
    verbsOf store principal resource clusterRolesResource none crb).map fun fromCrbs =>
  fromRbs.flatten ++ fromCrbs.flatten

variable (outside : ShimOutside) (world : ShimWorld)

theorem runAlone_bindingVerbs (roles : Gvr) (roleNs : Option String) (binding : K8sObject) :
    runAlone (ShimOp.execute outside)
        (bindingVerbs principal resource roles roleNs binding) world =
      (verbsOf world.store principal resource roles roleNs binding, world) := by
  unfold bindingVerbs verbsOf
  cases (binding.spec.lookupD "subjects" (.list [])).bind Json.iterate with
  | none => rfl
  | some subjects =>
      simp only [ofOption, bind_eq, done_andThen, Option.bind_some]
      rcases anySubject principal (roleNs.getD "") subjects with _ | _ | _
      · rfl
      · rfl
      cases binding.spec.lookupD "roleRef" (.dict []) with
      | none => rfl
      | some ref =>
          cases readName : ref.get "name" with
          | none => simp [readName]
          | some rname =>
              simp only [Bool.not_true, Bool.false_eq_true, if_false, done_andThen,
                Option.bind_some, readName]
              split
              · rfl
              · unfold shimGetNamed
                rcases rname.sqlText with _ | _ | text
                · rfl
                · rfl
                · have read : runAlone (ShimOp.execute outside)
                      (shimGet roles roleNs text) world =
                        (some (world.store.get roles roleNs text), world) := rfl
                  simp only [runAlone_andThen, read, Option.bind_some]
                  cases world.store.get roles roleNs text with
                  | none => rfl
                  | some role =>
                      cases verbs : roleVerbs resource role <;> simp [verbs]

theorem runAlone_allowedVerbs (ns : Option String) :
    runAlone (ShimOp.execute outside) (allowedVerbs principal resource ns) world =
      (verbsOfAll world.store principal resource ns, world) := by
  have listed : ∀ gvr, runAlone (ShimOp.execute outside) (shimListAll gvr) world =
      (some (world.store.listAll gvr), world) := fun _ => rfl
  unfold allowedVerbs verbsOfAll
  simp only [bind_eq, runAlone_andThen, listed]
  rw [runAlone_collect _ _ _ (fun rb => verbsOf world.store principal resource
    rolesResource rb.ns rb) world fun rb => runAlone_bindingVerbs ..]
  cases ((world.store.listAll roleBindingsResource).filter (consulted ns)).mapM
      fun rb => verbsOf world.store principal resource rolesResource rb.ns rb with
  | none => rfl
  | some fromRbs =>
      simp only [Option.map_some, listed]
      rw [runAlone_collect _ _ _ (fun crb => verbsOf world.store principal resource
        clusterRolesResource none crb) world fun crb => runAlone_bindingVerbs ..]
      cases (world.store.listAll clusterRoleBindingsResource).mapM fun crb =>
          verbsOf world.store principal resource clusterRolesResource none crb <;> rfl

end Evaluation

/-! ## Grants -/

def RuleCovers (resource verb : String) (rule : Json) : Prop :=
  ∃ entries, rule = .dict entries ∧
    ruleMatches resource ((Dict.find? entries "resources").getD (.list [])) = some true ∧
    ∃ verbs, ((Dict.find? entries "verbs").getD (.list [])).iterate = some verbs ∧
      .str verb ∈ verbs

def RoleCovers (resource verb : String) (role : K8sObject) : Prop :=
  ∃ rules, (role.spec.lookupD "rules" (.list [])).bind Json.iterate = some rules ∧
    ∃ rule ∈ rules, RuleCovers resource verb rule

def NamesPrincipal
    (principal : Principal) (bindingNs : String)
    (binding : K8sObject) : Prop :=
  ∃ subjects, (binding.spec.lookupD "subjects" (.list [])).bind Json.iterate = some subjects ∧
    ∃ subject ∈ subjects, subjectMatches principal bindingNs subject = some true

/-- The binding names the principal, and the role of that name has a rule for
the resource and the verb. -/
structure Grants
    (store : ObjectStore) (principal : Principal) (resource verb : String) (roles : Gvr)
    (roleNs : Option String)
    (binding : K8sObject) : Prop where
  names : NamesPrincipal principal (roleNs.getD "") binding
  covers : ∃ ref rname text role, binding.spec.lookupD "roleRef" (.dict []) = some ref ∧
    ref.get "name" = some rname ∧ rname.truthy = true ∧
    rname.sqlText = some (some text) ∧ store.get roles roleNs text = some role ∧
    RoleCovers resource verb role

def RuleGives (resource : String) (value : Json) (rule : Json) : Prop :=
  ∃ entries, rule = .dict entries ∧
    ruleMatches resource ((Dict.find? entries "resources").getD (.list [])) = some true ∧
    ∃ verbs, ((Dict.find? entries "verbs").getD (.list [])).iterate = some verbs ∧ value ∈ verbs

/-- A rule of the role has the value among its verbs for the resource. -/
def RoleGives (resource : String) (value : Json) (role : K8sObject) : Prop :=
  ∃ rules, (role.spec.lookupD "rules" (.list [])).bind Json.iterate = some rules ∧
    ∃ rule ∈ rules, RuleGives resource value rule

structure Gives
    (store : ObjectStore) (principal : Principal) (resource : String) (value : Json)
    (roles : Gvr) (roleNs : Option String)
    (binding : K8sObject) : Prop where
  names : NamesPrincipal principal (roleNs.getD "") binding
  gives : ∃ ref rname text role, binding.spec.lookupD "roleRef" (.dict []) = some ref ∧
    ref.get "name" = some rname ∧ rname.truthy = true ∧
    rname.sqlText = some (some text) ∧ store.get roles roleNs text = some role ∧
    RoleGives resource value role

theorem grants_iff
    {store : ObjectStore} {principal : Principal} {resource verb : String} {roles : Gvr}
    {roleNs : Option String} {binding : K8sObject} :
    Grants store principal resource verb roles roleNs binding ↔
      Gives store principal resource (.str verb) roles roleNs binding :=
  ⟨fun grants => ⟨grants.names, grants.covers⟩, fun given => ⟨given.names, given.gives⟩⟩

def RefersTo (kind : String) (binding : K8sObject) : Prop :=
  ∀ ref, binding.spec.lookupD "roleRef" (.dict []) = some ref →
    ref.item "kind" = .null ∨ ref.item "kind" = .str kind

section Membership

variable {store : ObjectStore} {principal : Principal} {resource : String}

theorem mem_ruleVerbs
    {rule : Json} {verbs : List Json} (read : ruleVerbs resource rule = some verbs)
    (value : Json) : value ∈ verbs ↔ RuleGives resource value rule := by
  unfold ruleVerbs at read
  obtain ⟨resources, readResources, rest⟩ := Option.bind_eq_some_iff.mp read
  obtain ⟨covered, matched, rest⟩ := Option.bind_eq_some_iff.mp rest
  cases rule with
  | dict entries =>
      simp only [Json.getD, Option.some.injEq] at readResources
      subst readResources
      cases covered with
      | false =>
          simp only [Bool.not_false, if_true, Option.some.injEq] at rest
          simp [← rest, RuleGives, matched]
      | true =>
          simp only [Json.getD, Bool.not_true, Bool.false_eq_true, if_false,
            Option.bind_some] at rest
          obtain ⟨items, iterated, checked⟩ := Option.bind_eq_some_iff.mp rest
          split at checked
          · simp only [Option.some.injEq] at checked
            subst checked
            simp [RuleGives, matched, iterated]
          · simp at checked
  | _ => simp [Json.getD] at readResources

theorem mem_roleVerbs
    {role : K8sObject} {verbs : List Json} (read : roleVerbs resource role = some verbs)
    (value : Json) : value ∈ verbs ↔ RoleGives resource value role := by
  unfold roleVerbs at read
  obtain ⟨rules, readRules, rest⟩ := Option.bind_eq_some_iff.mp read
  obtain ⟨items, iterated, rest⟩ := Option.bind_eq_some_iff.mp rest
  obtain ⟨results, all, rfl⟩ := Option.map_eq_some_iff.mp rest
  rw [mem_flatten_of_mapM all]
  have listed : (role.spec.lookupD "rules" (.list [])).bind Json.iterate =
      some items := by simp [readRules, iterated]
  have each := (isSome_mapM (ruleVerbs resource) items).mp (by simp [all])
  simp only [RoleGives, listed, Option.some.injEq, exists_eq_left']
  constructor
  · rintro ⟨rule, member, result, found, contained⟩
    exact ⟨rule, member, (mem_ruleVerbs found value).mp contained⟩
  · rintro ⟨rule, member, covers⟩
    obtain ⟨result, found⟩ := Option.isSome_iff_exists.mp (each rule member)
    exact ⟨rule, member, result, found, (mem_ruleVerbs found value).mpr covers⟩

/-- A search that does not end in an exception finds the subjects that
match. -/
theorem anySubject_eq_true
    {bindingNs : String} {subjects : List Json} {named : Bool}
    (searched : anySubject principal bindingNs subjects = some named) :
    named = true ↔
      ∃ subject ∈ subjects, subjectMatches principal bindingNs subject = some true := by
  induction subjects with
  | nil =>
      simp only [anySubject, Option.some.injEq] at searched
      simp [← searched]
  | cons subject rest ih =>
      obtain ⟨found, tested, continued⟩ := Option.bind_eq_some_iff.mp searched
      cases found with
      | true =>
          simp only [if_true, Option.some.injEq] at continued
          simp [← continued, tested]
      | false =>
          simp only [Bool.false_eq_true, if_false] at continued
          simp [ih continued, tested]

theorem mem_verbsOf
    {roles : Gvr} {roleNs : Option String} {binding : K8sObject} {verbs : List Json}
    (read : verbsOf store principal resource roles roleNs binding = some verbs) (value : Json) :
    value ∈ verbs ↔ Gives store principal resource value roles roleNs binding := by
  unfold verbsOf at read
  obtain ⟨subjects, listed, rest⟩ := Option.bind_eq_some_iff.mp read
  obtain ⟨named, searched, rest⟩ := Option.bind_eq_some_iff.mp rest
  have naming : named = true ↔ NamesPrincipal principal (roleNs.getD "") binding := by
    simp [anySubject_eq_true searched, NamesPrincipal, listed]
  cases named with
  | false =>
      simp only [Bool.not_false, if_true, Option.some.injEq] at rest
      have unnamed : ¬ NamesPrincipal principal (roleNs.getD "") binding := by
        simp [← naming]
      simp only [← rest, List.not_mem_nil, false_iff]
      exact fun given => unnamed given.names
  | true =>
      simp only [Bool.not_true, Bool.false_eq_true, if_false] at rest
      obtain ⟨ref, readRef, rest⟩ := Option.bind_eq_some_iff.mp rest
      obtain ⟨rname, readName, rest⟩ := Option.bind_eq_some_iff.mp rest
      have gives_iff : Gives store principal resource value roles roleNs binding ↔
          rname.truthy = true ∧ ∃ text role, rname.sqlText = some (some text) ∧
            store.get roles roleNs text = some role ∧
            RoleGives resource value role := by
        constructor
        · rintro ⟨_, ref', rname', text, role, readRef', readName', given, bound, found,
            covers⟩
          simp only [readRef, Option.some.injEq] at readRef'
          subst readRef'
          simp only [readName, Option.some.injEq] at readName'
          subst readName'
          exact ⟨given, text, role, bound, found, covers⟩
        · rintro ⟨given, text, role, bound, found, covers⟩
          exact ⟨naming.mp rfl, ref, rname, text, role, readRef, readName, given, bound,
            found, covers⟩
      rw [gives_iff]
      cases given : rname.truthy with
      | false =>
          simp only [given, Bool.not_false, if_true, Option.some.injEq] at rest
          simp [← rest]
      | true =>
          simp only [given, Bool.not_true, Bool.false_eq_true, if_false] at rest
          obtain ⟨text, bound, rest⟩ := Option.bind_eq_some_iff.mp rest
          cases looked : text.bind (store.get roles roleNs) with
          | none =>
              simp only [looked, Option.some.injEq] at rest
              simp only [← rest, List.not_mem_nil, false_iff]
              rintro ⟨_, text', role', bound', found, _⟩
              simp only [bound, Option.some.injEq] at bound'
              simp [bound', found] at looked
          | some role =>
              simp only [looked] at rest
              obtain ⟨text, rfl, got⟩ := Option.bind_eq_some_iff.mp looked
              rw [mem_roleVerbs rest]
              simp [bound, got]

end Membership

/-! ## All bindings together -/

section Bindings

variable (store : ObjectStore) (principal : Principal) (resource : String)
variable (ns : Option String)

/-- No binding that is looked at for the namespace, and none of their roles, makes the
evaluation raise an exception. -/
def CanEvaluate : Prop :=
  (∀ rb ∈ store.listAll roleBindingsResource, consulted ns rb = true →
    (verbsOf store principal resource rolesResource rb.ns rb).isSome) ∧
  ∀ crb ∈ store.listAll clusterRoleBindingsResource,
    (verbsOf store principal resource clusterRolesResource none crb).isSome

/-- Some binding that is looked at gives the value. -/
def GivenBy (value : Json) : Prop :=
  (∃ rb ∈ store.listAll roleBindingsResource, consulted ns rb = true ∧
    Gives store principal resource value rolesResource rb.ns rb) ∨
  ∃ crb ∈ store.listAll clusterRoleBindingsResource,
    Gives store principal resource value clusterRolesResource none crb

variable {store principal resource ns}

theorem isSome_verbsOfAll_iff :
    (verbsOfAll store principal resource ns).isSome ↔ CanEvaluate store principal resource ns := by
  have rbs := isSome_mapM (fun rb => verbsOf store principal resource rolesResource rb.ns rb)
    ((store.listAll roleBindingsResource).filter (consulted ns))
  have crbs := isSome_mapM (fun crb => verbsOf store principal resource
    clusterRolesResource none crb) (store.listAll clusterRoleBindingsResource)
  simp only [List.mem_filter, and_imp] at rbs
  rw [CanEvaluate, ← rbs, ← crbs, verbsOfAll]
  cases ((store.listAll roleBindingsResource).filter (consulted ns)).mapM
      fun rb => verbsOf store principal resource rolesResource rb.ns rb <;>
    simp

theorem mem_verbsOfAll_iff
    {verbs : List Json} (read : verbsOfAll store principal resource ns = some verbs)
    (value : Json) : value ∈ verbs ↔ GivenBy store principal resource ns value := by
  have evaluable := isSome_verbsOfAll_iff.mp (by simp [read] :
    (verbsOfAll store principal resource ns).isSome)
  obtain ⟨fromRbs, readRbs, rest⟩ := Option.bind_eq_some_iff.mp read
  obtain ⟨fromCrbs, readCrbs, rfl⟩ := Option.map_eq_some_iff.mp rest
  rw [List.mem_append, mem_flatten_of_mapM readRbs, mem_flatten_of_mapM readCrbs]
  refine or_congr ?_ ?_
  · constructor
    · rintro ⟨rb, member, result, found, contained⟩
      obtain ⟨listed, looked⟩ := List.mem_filter.mp member
      exact ⟨rb, listed, looked, (mem_verbsOf found _).mp contained⟩
    · rintro ⟨rb, listed, looked, given⟩
      obtain ⟨result, found⟩ :=
        Option.isSome_iff_exists.mp (evaluable.1 rb listed looked)
      exact ⟨rb, List.mem_filter.mpr ⟨listed, looked⟩, result, found,
        (mem_verbsOf found _).mpr given⟩
  · constructor
    · rintro ⟨crb, listed, result, found, contained⟩
      exact ⟨crb, listed, (mem_verbsOf found _).mp contained⟩
    · rintro ⟨crb, listed, given⟩
      obtain ⟨result, found⟩ := Option.isSome_iff_exists.mp (evaluable.2 crb listed)
      exact ⟨crb, listed, result, found, (mem_verbsOf found _).mpr given⟩

/-- Nothing is collected exactly when the evaluation goes through and gives nothing. -/
theorem verbsOfAll_eq_nil_iff :
    verbsOfAll store principal resource ns = some [] ↔ CanEvaluate store principal resource ns ∧
        ∀ value, ¬ GivenBy store principal resource ns value := by
  constructor
  · intro read
    refine ⟨isSome_verbsOfAll_iff.mp (by simp [read]), fun value given => ?_⟩
    exact absurd ((mem_verbsOfAll_iff read value).mpr given) (List.not_mem_nil)
  · rintro ⟨evaluable, nothing⟩
    obtain ⟨verbs, read⟩ := Option.isSome_iff_exists.mp (isSome_verbsOfAll_iff.mpr evaluable)
    obtain rfl : verbs = [] := List.eq_nil_iff_forall_not_mem.mpr fun value member =>
      nothing value ((mem_verbsOfAll_iff read value).mp member)
    exact read

end Bindings

/-! ## What is let through -/

/-- The roles of the token that are let through before anything is evaluated. -/
def Exempt (principal : Principal) (verb : String) : Prop :=
  principal.tokenRole = some "admin" ∨
    principal.tokenRole = some "read" ∧ verb ∈ ["get", "list", "watch"]

section Allows

variable (handler : ShimHandler) (outside : ShimOutside) (principal : Principal)
variable (verb resource : String) (ns : Option String) (world : ShimWorld)

/-- `_rbac_allows` returns true. -/
def RbacAllows : Prop :=
  (runAlone (ShimOp.execute outside) (rbacAllows handler principal verb resource ns) world).1 =
    some true

variable {handler principal verb resource ns}

/-- What `_rbac_allows` lets through with role evaluation on. -/
theorem rbacAllows_iff
    (enabled : handler.rbacEnabled = true) (evaluates : handler.rbacEvalRoles = true) :
    RbacAllows handler outside principal verb resource ns world ↔ Exempt principal verb ∨
        principal.username ≠ unauthenticated ∧ CanEvaluate world.store principal resource ns ∧
          (GivenBy world.store principal resource ns (.str verb) ∨
            (∀ value, ¬ GivenBy world.store principal resource ns value) ∧
              staticAllows handler principal.tokenRole verb resource = true) := by
  unfold RbacAllows rbacAllows Exempt
  simp only [enabled, evaluates, Bool.not_true, Bool.false_eq_true, if_false]
  by_cases admin : principal.tokenRole = some "admin"
  · simp [admin]
  by_cases reader : principal.tokenRole = some "read" ∧ verb ∈ ["get", "list", "watch"]
  · simp [reader]
  simp only [admin, if_false, reader, false_or]
  by_cases anonymous : principal.username = unauthenticated
  · simp [anonymous]
  simp only [anonymous, if_false, bind_eq, runAlone_andThen, runAlone_attempt,
    runAlone_allowedVerbs, ← isSome_verbsOfAll_iff, ne_eq, not_false_eq_true, true_and]
  cases read : verbsOfAll world.store principal resource ns with
  | none => simp
  | some verbs =>
      simp only [← mem_verbsOfAll_iff read]
      cases verbs with
      | nil => simp
      | cons first rest =>
          have given : ¬ ∀ value, value ∉ first :: rest := fun none =>
            none first List.mem_cons_self
          simp only [given, false_and, or_false]
          simp

end Allows

/-! ## The decision -/

/-- Where the handlers ask, with the namespace of the request where it has
one. -/
inductive RbacSite
  | exec (ns : String)
  | podPortForward (ns : String)
  | servicePortForward (ns : String)
  | createDeployment (ns : String)
  | updateDeployment (ns : Option String)
  /-- `DELETE` of core, batch, storage, snapshot and networking resources. -/
  | delete (plural : String) (ns : Option String)
  /-- `DELETE` of deployments, statefulsets and daemonsets. -/
  | deleteWorkload (plural : String) (ns : Option String)
  deriving DecidableEq

namespace RbacSite

def verb : RbacSite → String
  | .exec _ | .podPortForward _ | .servicePortForward _ => "create"
  | .createDeployment _ => "create"
  | .updateDeployment _ => "update"
  | .delete _ _ | .deleteWorkload _ _ => "delete"

def resource : RbacSite → String
  | .exec _ => "pods/exec"
  | .podPortForward _ => "pods/portforward"
  | .servicePortForward _ => "services/portforward"
  | .createDeployment _ | .updateDeployment _ => "deployments"
  | .delete plural _ | .deleteWorkload plural _ => plural

/-- The namespace of the request. -/
def ns : RbacSite → Option String
  | .exec ns | .podPortForward ns | .servicePortForward ns => some ns
  | .createDeployment ns => some ns
  | .updateDeployment ns | .delete _ ns | .deleteWorkload _ ns => ns

/-- The namespace that the handler passes on. -/
def passed : RbacSite → Option String
  | .exec _ | .podPortForward _ | .servicePortForward _ => none
  | .createDeployment ns => some ns
  | .updateDeployment ns | .deleteWorkload _ ns => ns
  | .delete _ _ => none

end RbacSite

/-- The question that a handler asks. -/
def siteAllows (handler : ShimHandler) (principal : Principal) (site : RbacSite) :
    ShimProgram Bool :=
  rbacAllows handler principal site.verb site.resource site.passed

section Decision

variable (handler : ShimHandler) (store : ObjectStore) (principal : Principal)
variable (site : RbacSite)

/-- What a request ought to be granted by. -/
def Granted : Prop :=
  staticAllows handler principal.tokenRole site.verb site.resource = true ∨
    (∃ crb ∈ store.listAll clusterRoleBindingsResource, RefersTo "ClusterRole" crb ∧
        Grants store principal site.resource site.verb clusterRolesResource none crb) ∨
    ∃ ns, site.ns = some ns ∧ ∃ rb ∈ store.listAll roleBindingsResource,
      rb.ns = some ns ∧ RefersTo "Role" rb ∧
        Grants store principal site.resource site.verb rolesResource rb.ns rb

/-- A binding gives the verb although it should not: a RoleBinding of another
namespace than the request's is consulted, or the reference gives another kind
than the one that is looked up. -/
def Overgranted : Prop :=
  (∃ rb ∈ store.listAll roleBindingsResource, consulted site.passed rb = true ∧
    (rb.ns ≠ site.ns ∨ ¬ RefersTo "Role" rb) ∧
    Grants store principal site.resource site.verb rolesResource rb.ns rb) ∨
  ∃ crb ∈ store.listAll clusterRoleBindingsResource, ¬ RefersTo "ClusterRole" crb ∧
    Grants store principal site.resource site.verb clusterRolesResource none crb

/-- No binding that is looked at, and none of their roles, makes the evaluation
raise an exception. -/
def Evaluable : Prop :=
  (∀ rb ∈ store.listAll roleBindingsResource, consulted site.passed rb = true →
    (verbsOf store principal site.resource rolesResource rb.ns rb).isSome) ∧
  ∀ crb ∈ store.listAll clusterRoleBindingsResource,
    (verbsOf store principal site.resource clusterRolesResource none crb).isSome

/-- Some binding that is looked at gives the verb. -/
def GivenByBinding : Prop :=
  (∃ rb ∈ store.listAll roleBindingsResource, consulted site.passed rb = true ∧
    Grants store principal site.resource site.verb rolesResource rb.ns rb) ∨
  ∃ crb ∈ store.listAll clusterRoleBindingsResource,
    Grants store principal site.resource site.verb clusterRolesResource none crb

variable {store principal site}

theorem givenByBinding_iff :
    GivenByBinding store principal site ↔
      GivenBy store principal site.resource site.passed (.str site.verb) := by
  simp only [GivenByBinding, GivenBy, grants_iff]

/-- A binding that gives the verb does so rightly or too much. -/
theorem granted_or_overgranted (given : GivenByBinding store principal site) :
    Granted handler store principal site ∨ Overgranted store principal site := by
  rcases given with ⟨rb, listed, looked, grants⟩ | ⟨crb, listed, grants⟩
  · by_cases same : rb.ns = site.ns
    · by_cases refers : RefersTo "Role" rb
      · obtain ⟨key, row, _, _, rfl⟩ := (ObjectStore.mem_listAll _ _ _).mp listed
        exact .inl (.inr (.inr ⟨key.ns, same.symm, _, listed, rfl, refers, grants⟩))
      · exact .inr (.inl ⟨rb, listed, looked, .inr refers, grants⟩)
    · exact .inr (.inl ⟨rb, listed, looked, .inl same, grants⟩)
  · by_cases refers : RefersTo "ClusterRole" crb
    · exact .inl (.inr (.inl ⟨crb, listed, refers, grants⟩))
    · exact .inr (.inr ⟨crb, listed, refers, grants⟩)

theorem givenByBinding_of_overgranted (overgranted : Overgranted store principal site) :
    GivenByBinding store principal site := by
  rcases overgranted with ⟨rb, listed, looked, _, grants⟩ | ⟨crb, listed, _, grants⟩
  · exact .inl ⟨rb, listed, looked, grants⟩
  · exact .inr ⟨crb, listed, grants⟩

variable (store principal site)

/-- The decision for a principal that is neither an administrator nor a
reader, with role evaluation on. -/
theorem siteAllows_iff
    (outside : ShimOutside) (world : ShimWorld) (enabled : handler.rbacEnabled = true)
    (evaluates : handler.rbacEvalRoles = true) (notAdmin : principal.tokenRole ≠ some "admin")
    (notRead : principal.tokenRole ≠ some "read") :
    (runAlone (ShimOp.execute outside) (siteAllows handler principal site) world).1 = some true ↔
      principal.username ≠ unauthenticated ∧ Evaluable world.store principal site ∧
        (GivenByBinding world.store principal site ∨
          verbsOfAll world.store principal site.resource site.passed = some [] ∧
            staticAllows handler principal.tokenRole site.verb site.resource = true) := by
  have notExempt : ¬ Exempt principal site.verb := by
    rintro (admin | ⟨reader, -⟩)
    · exact notAdmin admin
    · exact notRead reader
  refine (rbacAllows_iff outside world enabled evaluates).trans ?_
  rw [or_iff_right notExempt, verbsOfAll_eq_nil_iff, givenByBinding_iff]
  refine and_congr_right fun _ => and_congr_right fun through => or_congr_right ?_
  rw [and_assoc]
  exact (and_iff_right through).symm

/-- A request is let through only on a grant, exactly when no binding gives it
too much, or the evaluation does not get that far, or there is a grant as
well. -/
theorem rbac_sound_iff
    (outside : ShimOutside) (world : ShimWorld) (enabled : handler.rbacEnabled = true)
    (evaluates : handler.rbacEvalRoles = true) (notAdmin : principal.tokenRole ≠ some "admin")
    (notRead : principal.tokenRole ≠ some "read") :
    ((runAlone (ShimOp.execute outside) (siteAllows handler principal site) world).1 =
        some true → Granted handler world.store principal site) ↔
      (principal.username ≠ unauthenticated → Evaluable world.store principal site →
        Overgranted world.store principal site →
        Granted handler world.store principal site) := by
  rw [siteAllows_iff handler principal site outside world enabled evaluates notAdmin notRead]
  constructor
  · intro sound authenticated evaluable overgranted
    exact sound ⟨authenticated, evaluable, .inl (givenByBinding_of_overgranted overgranted)⟩
  · rintro holds ⟨authenticated, evaluable, given | ⟨_, static⟩⟩
    · exact (granted_or_overgranted handler given).elim id
        (holds authenticated evaluable)
    · exact .inl static

end Decision

/-! ## A binding of another namespace -/

/-- A handler with role evaluation on and the default policies. -/
def evaluatingHandler : ShimHandler where
  adminToken := some "admin-token"
  readToken := some "read-token"
  execToken := none
  portforwardToken := none
  mintToken := none
  allowAnonymous := false
  rbacEnabled := true
  rbacEvalRoles := true
  rbacPolicies := defaultPolicies
  saTokenTtl := 3600
  sessionPayload := fun _ => none
  manifestError := fun _ => none
  appAdmissionMode := "enforce"
  hash := fun _ => 0
  sha1 := id
  safeLoad := fun _ => none

/-- An outside whose clock stands at ten seconds. -/
def stillOutside : ShimOutside where
  clock := fun _ => 10
  timestamps := fun _ => "1970-01-01T00:00:10+00:00"
  secrets := fun count => "secret-" ++ toString count
  suffixes := fun _ => "abcde"
  services := fun _ => ⟨[], []⟩

/-- The service account `runner` of a namespace. -/
def runner (ns : String) : Principal where
  username := "system:serviceaccount:" ++ ns ++ ":runner"
  groups := ["system:authenticated", "system:serviceaccounts"]
  tokenRole := none

/-- The role `executor` of the namespace `dev` and its binding to the service
account of that namespace. -/
def devExecutor : ShimWorld where
  store :=
    let store := (ObjectStore.empty.upsert rolesResource (some "dev") "executor"
      (.dict [("name", .str "executor")])
      (.dict [("rules", .list [.dict [("resources", .list [.str "pods/exec"]),
        ("verbs", .list [.str "create"])]])]) (.dict [])).2
    (store.upsert roleBindingsResource (some "dev") "executor" (.dict [("name", .str "executor")])
      (.dict [("subjects", .list [.dict [("kind", .str "ServiceAccount"),
        ("name", .str "runner")]]),
        ("roleRef", .dict [("kind", .str "Role"), ("name", .str "executor")])])
      (.dict [])).2
  saTokens := fun _ => none
  crds := .empty
  calls := 0

def devBinding : K8sObject where
  gvr := roleBindingsResource
  ns := some "dev"
  name := "executor"
  metadata := .dict [("name", .str "executor")]
  spec := .dict [("subjects", .list [.dict [("kind", .str "ServiceAccount"),
    ("name", .str "runner")]]),
    ("roleRef", .dict [("kind", .str "Role"), ("name", .str "executor")])]
  status := .dict []
  resourceVersion := 2

theorem devExecutor_bindings :
    devExecutor.store.listAll roleBindingsResource = [devBinding] ∧
      devExecutor.store.listAll clusterRoleBindingsResource = [] := by
  decide +kernel

/-- In its own namespace the binding is a grant. -/
theorem rbac_sound_dev :
    Granted evaluatingHandler devExecutor.store (runner "dev") (.exec "dev") := by
  refine (rbac_sound_iff evaluatingHandler (runner "dev") (.exec "dev") stillOutside
    devExecutor rfl rfl (by decide) (by decide)).mpr ?_ (by decide +kernel)
  intro _ _ overgranted
  rcases overgranted with ⟨rb, listed, _, wrong, _⟩ | ⟨crb, listed, _⟩
  · rw [devExecutor_bindings.1, List.mem_singleton] at listed
    subst listed
    rcases wrong with other | other
    · exact absurd rfl other
    · refine absurd (fun ref read => ?_) other
      have known : devBinding.spec.lookupD "roleRef" (.dict []) =
          some (.dict [("kind", .str "Role"), ("name", .str "executor")]) := by decide
      simp only [known, Option.some.injEq] at read
      subst read
      decide
  · simp [devExecutor_bindings.2] at listed

/-- The service account of `dev` may execute in `prod`, on a binding of `dev`
alone. -/
theorem rbac_not_sound_prod :
    ¬ ((runAlone (ShimOp.execute stillOutside)
        (siteAllows evaluatingHandler (runner "dev") (.exec "prod")) devExecutor).1 = some true →
      Granted evaluatingHandler devExecutor.store (runner "dev") (.exec "prod")) := by
  intro sound
  rcases sound (by decide +kernel) with static | ⟨crb, listed, _⟩ | ⟨ns, request, rb, listed, held, _⟩
  · exact absurd static (by decide +kernel)
  · simp [devExecutor_bindings.2] at listed
  · rw [devExecutor_bindings.1, List.mem_singleton] at listed
    rw [listed, ← request] at held
    exact absurd held (by decide)

end ApiShim
end K1s
