import K1s.ApiShim.Operations

/-!
# Role-based access control

`_rbac_allows` decides whether a principal may use a verb on a resource.  With
role evaluation on, it collects the verbs of all rules that cover the resource,
over all bindings that name the principal, and falls back on the static table
when there are none.  `none` stands for an exception, on which the request is
denied.
-/

namespace K1s
namespace ApiShim

open Py

def rolesResource : Gvr := ⟨"rbac.authorization.k8s.io", "v1", "roles"⟩
def roleBindingsResource : Gvr := ⟨"rbac.authorization.k8s.io", "v1", "rolebindings"⟩
def clusterRolesResource : Gvr := ⟨"rbac.authorization.k8s.io", "v1", "clusterroles"⟩
def clusterRoleBindingsResource : Gvr :=
  ⟨"rbac.authorization.k8s.io", "v1", "clusterrolebindings"⟩

/-! ## Rules and subjects -/

def ruleMatches (resource : String) (resources : Json) : Option Bool :=
  if !resources.truthy then some false
  else (resources.contains resource).bind fun named =>
    if named then some true
    else (resources.contains "*").bind fun any =>
      if any then some true
      else
        match split '/' resource with
        | first :: _ :: _ => resources.contains (first ++ "/*")
        | _ => some false

def ruleVerbs (resource : String) (rule : Json) : Option (List Json) :=
  (rule.getD "resources" (.list [])).bind fun resources =>
  (ruleMatches resource resources).bind fun covered =>
  if !covered then some []
  else (rule.getD "verbs" (.list [])).bind fun verbs =>
  verbs.iterate.bind fun items =>
  if items.all Json.hashable then some items else none

def roleVerbs (resource : String) (role : K8sObject) : Option (List Json) :=
  (role.spec.lookupD "rules" (.list [])).bind fun rules =>
  rules.iterate.bind fun items =>
  (items.mapM (ruleVerbs resource)).map List.flatten

/-- The namespace and name of the service account that a user name stands
for. -/
def serviceAccountOf (username : String) : Option (String × String) :=
  if startsWith "system:serviceaccount:" username then
    match split ':' username with
    | _ :: _ :: ns :: name :: _ => some (ns, name)
    | _ => none
  else none

/-- Whether a subject of a binding is the principal.  A service account without
a namespace is taken from the binding's own. -/
def subjectMatches
    (principal : Principal) (bindingNs : String)
    (subject : Json) : Option Bool :=
  match subject with
  | .dict entries =>
      let kind := Dict.get entries "kind"
      let name := Dict.get entries "name"
      if kind = .str "User" then some (decide (name = .str principal.username))
      else if kind = .str "Group" then
        if !name.hashable then none
        else some (principal.groups.any fun group => decide (name = .str group))
      else if kind = .str "ServiceAccount" then
        match serviceAccountOf principal.username with
        | some (saNs, saName) =>
            some (decide (saName ≠ "" ∧ name = .str saName ∧
              (Dict.get entries "namespace").or (.str bindingNs) = .str saNs))
        | none => some false
      else some false
  | _ => none

/-- The first subject that matches ends the search. -/
def anySubject
    (principal : Principal)
    (bindingNs : String) : List Json → Option Bool
  | [] => some false
  | subject :: rest =>
      (subjectMatches principal bindingNs subject).bind fun found =>
        if found then some true else anySubject principal bindingNs rest

/-! ## Bindings -/

def bindingVerbs
    (principal : Principal) (resource : String) (roles : Gvr) (roleNs : Option String)
    (binding : K8sObject) : ShimProgram (List Json) := do
  let subjects ← .ofOption
    ((binding.spec.lookupD "subjects" (.list [])).bind Json.iterate)
  let named ← .ofOption (anySubject principal (roleNs.getD "") subjects)
  if !named then return []
  else
    let ref ← .ofOption (binding.spec.lookupD "roleRef" (.dict []))
    let rname ← .ofOption (ref.get "name")
    if !rname.truthy then return []
    else
      match ← shimGetNamed roles roleNs rname with
      | none => return []
      | some role => .ofOption (roleVerbs resource role)

/-- Whether a RoleBinding is looked at: it is passed over only when both it and
the caller have a namespace and the two differ. -/
def consulted (ns : Option String) (binding : K8sObject) : Bool :=
  let wanted := ns.getD ""
  let held := binding.ns.getD ""
  !(decide (wanted ≠ "") && decide (held ≠ "") && decide (held ≠ wanted))

/-- The verbs that all bindings together give the principal. -/
def allowedVerbs
    (principal : Principal) (resource : String)
    (ns : Option String) : ShimProgram (List Json) := do
  let rbs ← shimListAll roleBindingsResource
  let fromRbs ← Program.collect (rbs.filter (consulted ns)) fun rb =>
    bindingVerbs principal resource rolesResource rb.ns rb
  let crbs ← shimListAll clusterRoleBindingsResource
  let fromCrbs ← Program.collect crbs fun crb =>
    bindingVerbs principal resource clusterRolesResource none crb
  return fromRbs ++ fromCrbs

/-- The static table: the entry of the verb and resource, or of the verb alone
where that is missing or empty. -/
def staticAllows
    (handler : ShimHandler) (role : Option String)
    (verb resource : String) : Bool :=
  let roles := match handler.rbacPolicies.lookup (verb, resource) with
    | some (first :: rest) => first :: rest
    | _ => (handler.rbacPolicies.lookup (verb, "*")).getD []
  match role with
  | some role => roles.contains role
  | none => false

def rbacAllows
    (handler : ShimHandler) (principal : Principal) (verb resource : String)
    (ns : Option String) : ShimProgram Bool :=
  let role := principal.tokenRole
  if !handler.rbacEnabled then .done true
  else if role = some "admin" then .done true
  else if role = some "read" ∧ verb ∈ ["get", "list", "watch"] then .done true
  else if !handler.rbacEvalRoles then
    .done (staticAllows handler role verb resource)
  else if principal.username = unauthenticated then .done false
  else do
    match ← (allowedVerbs principal resource ns).attempt with
    | none => return false
    | some [] => return staticAllows handler role verb resource
    | some verbs => return verbs.contains (.str verb)

end ApiShim
end K1s
