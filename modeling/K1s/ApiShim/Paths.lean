import K1s.ApiShim.Store
import K1s.Py.Text

/-!
# What a request path addresses

The handlers take paths apart with regular expressions whose variable parts are
`[^/]+`.  Here a path is split at its slashes, and a variable part is a segment
that is not empty.
-/

namespace K1s
namespace ApiShim

open Py

/-- The kind, namespace and name that a path addresses.  An empty kind stands
for no match. -/
structure PathName where
  plural : String
  ns : Option String
  name : Option String
  deriving DecidableEq

namespace PathName

def noMatch : PathName := ⟨"", none, none⟩

/-- A match, provided that the variable parts are not empty. -/
def given (parts : List String) (target : PathName) : PathName :=
  if parts.all (· ≠ "") then target else noMatch

end PathName

def nsName (path : String) : PathName :=
  match split '/' path with
  | ["", "api", "v1", "namespaces", ns, plural, name] =>
      .given [ns, plural, name] ⟨plural, some ns, some name⟩
  | ["", "api", "v1", "namespaces", ns, plural] =>
      .given [ns, plural] ⟨plural, some ns, none⟩
  | ["", "api", "v1", "namespaces", name] =>
      .given [name] ⟨"namespaces", none, some name⟩
  | ["", "api", "v1", plural, name] => .given [plural, name] ⟨plural, none, some name⟩
  | ["", "api", "v1", plural] => .given [plural] ⟨plural, none, none⟩
  | _ => .noMatch

def gvNsName (path group version plural : String) : PathName :=
  match split '/' path with
  | ["", "apis", g, v, "namespaces", ns, p, name] =>
      if g = group ∧ v = version ∧ p = plural then
        .given [ns, name] ⟨plural, some ns, some name⟩
      else .noMatch
  | ["", "apis", g, v, "namespaces", ns, p] =>
      if g = group ∧ v = version ∧ p = plural then .given [ns] ⟨plural, some ns, none⟩
      else .noMatch
  | ["", "apis", g, v, p, name] =>
      if g = group ∧ v = version ∧ p = plural then .given [name] ⟨plural, none, some name⟩
      else .noMatch
  | ["", "apis", g, v, p] =>
      if g = group ∧ v = version ∧ p = plural then ⟨plural, none, none⟩ else .noMatch
  | _ => .noMatch

def gvClusterName (path group version plural : String) : PathName :=
  match split '/' path with
  | ["", "apis", g, v, p, name] =>
      if g = group ∧ v = version ∧ p = plural then .given [name] ⟨plural, none, some name⟩
      else .noMatch
  | ["", "apis", g, v, p] =>
      if g = group ∧ v = version ∧ p = plural then ⟨plural, none, none⟩ else .noMatch
  | _ => .noMatch

/-- The first of the kinds that the path addresses. -/
def firstKind (path group version : String) : List String → PathName
  | [] => .noMatch
  | plural :: rest =>
      let target := gvNsName path group version plural
      if target.plural = "" then firstKind path group version rest else target

/-- A subresource of a namespaced object, as the kind `plural/subresource`. -/
def subresource
    (path group version plural : String)
    (subresources : List String) : PathName :=
  match split '/' path with
  | ["", "apis", g, v, "namespaces", ns, p, name, sub] =>
      if g = group ∧ v = version ∧ p = plural ∧ sub ∈ subresources then
        .given [ns, name] ⟨plural ++ "/" ++ sub, some ns, some name⟩
      else .noMatch
  | _ => .noMatch

/-- The first match. -/
def PathName.orElse (first second : PathName) : PathName :=
  if first.plural = "" then second else first

/-- `_apps_ns_name`.  The path comes without its query. -/
def appsNsName (path : String) : PathName :=
  (firstKind path "apps" "v1" ["deployments", "statefulsets", "daemonsets", "replicasets"]).orElse
  ((subresource path "apps" "v1" "deployments" ["status", "scale"]).orElse
  ((subresource path "apps" "v1" "statefulsets" ["status", "scale"]).orElse
  (subresource path "apps" "v1" "daemonsets" ["status"])))

def netNsName (path : String) : PathName :=
  gvNsName path "networking.k8s.io" "v1" "ingresses"

def batchNsName (path : String) : PathName :=
  (firstKind path "batch" "v1" ["jobs", "cronjobs"]).orElse
  ((subresource path "batch" "v1" "jobs" ["status"]).orElse
  (subresource path "batch" "v1" "cronjobs" ["status"]))

/-- What the path of a custom resource addresses. -/
structure CustomPath where
  group : String
  version : String
  target : PathName
  deriving DecidableEq

/-- The groups whose own kinds are no custom resources. -/
def reservedGroups : List String :=
  ["", "apps", "networking.k8s.io", "rbac.authorization.k8s.io",
    "authorization.k8s.io", "policy", "autoscaling", "apiextensions.k8s.io"]

def reservedKinds : List String :=
  ["deployments", "deployments/status", "deployments/scale", "ingresses",
    "customresourcedefinitions"]

def parseCustomResourcePath (path : String) : Option CustomPath :=
  let accepted (group version : String) (target : PathName) : Option CustomPath :=
    if target.plural = "" ∨ group = "" ∨ version = "" then none
    else if group ∈ reservedGroups ∧ target.plural ∈ reservedKinds then none
    else some ⟨group, version, target⟩
  match split '/' path with
  | ["", "apis", group, version, "namespaces", ns, plural, name] =>
      accepted group version (.given [ns, plural, name] ⟨plural, some ns, some name⟩)
  | ["", "apis", group, version, "namespaces", ns, plural] =>
      accepted group version (.given [ns, plural] ⟨plural, some ns, none⟩)
  | ["", "apis", group, version, plural, name] =>
      accepted group version (.given [plural, name] ⟨plural, none, some name⟩)
  | ["", "apis", group, version, plural] =>
      accepted group version (.given [plural] ⟨plural, none, none⟩)
  | _ => none

end ApiShim
end K1s
