import K1s.ApiShim.Store
import K1s.Py.Fnmatch

/-!
# The scopes of session tokens

A session token can name patterns that the target of exec and port-forward has to match.
`_scope_allows` tries every pattern on the app and the name of the target with its
namespace in front, and on the app and the name alone.

The app is a label that the owner of the workload chooses.  The main result is that a
token whose patterns all name a namespace is kept to its namespaces exactly when no
pattern matches the app of the target alone.
-/

namespace K1s
namespace ApiShim

open Py

/-! ## Names of apps -/

/-- The text before and after the first `--`. -/
def cutDashes : List Char → Option (List Char × List Char)
  | '-' :: '-' :: rest => some ([], rest)
  | character :: rest => (cutDashes rest).map fun cut => (character :: cut.1, cut.2)
  | [] => none

def splitAppKey (appName : String) : String × String :=
  match cutDashes appName.toList with
  | none => ("default", appName)
  | some ([], _) => ("default", appName)
  | some (ns, name) => (String.ofList ns, String.ofList name)

def appFromLabels (labels : Dict) : Option String :=
  (["ae.app", "app.kubernetes.io/name", "app"].find? fun key =>
    (Dict.get labels key).truthy).map fun key => (Dict.get labels key).toStr

/-- `_service_app_name`, `none` for an exception. -/
def serviceAppName (svc : K8sObject) : Option String :=
  ((svc.metadata.get "labels").bind Json.asDict).bind fun labels =>
    match appFromLabels labels with
    | some app => some app
    | none =>
        (svc.spec.get "selector").map fun selector =>
          match selector.or (.dict []) with
          | .dict entries => (appFromLabels entries).getD svc.name
          | _ => svc.name

/-! ## Scopes -/

/-- What a pattern is tried on. -/
def scopeCandidates (ns app : Option String) (name : String) : List String :=
  let ns := ns.getD ""
  let app := app.getD ""
  (if ns = "" then []
    else (if app = "" then [] else [ns ++ "/" ++ app]) ++ [ns ++ "/" ++ name]) ++
  (if app = "" then [] else [app]) ++ [name]

/-- The patterns of an environment variable. -/
def envScopes (raw : String) : List String :=
  ((split ',' (strip raw)).map strip).filter (· ≠ "")

def scopeMatches (patterns candidates : List String) : Bool :=
  patterns.any fun pat => candidates.any fun candidate => fnmatch candidate pat

/-- `_scope_allows`, with the value of the environment variable. -/
def scopeAllows
    (raw : String) (tokenScopes : List String) (ns app : Option String)
    (name : String) : Bool :=
  let candidates := scopeCandidates ns app name
  ((envScopes raw).isEmpty || scopeMatches (envScopes raw) candidates) &&
    (tokenScopes.isEmpty || scopeMatches (tokenScopes.filter (· ≠ "")) candidates)

/-! ## Requests -/

/-- A variable part of a path: `[^/]+`. -/
structure PathSegment where
  text : String
  nonempty : text ≠ ""
  noSlash : '/' ∉ text.toList

structure PodTarget where
  ns : String
  podName : String
  appName : Option String
  container : Option Dict
  /-- Whether there is a record of the controller. -/
  controlled : Bool
  runtimeError : Option String

/-- What the checks of a pod ask the controller's state and the watch cache. -/
structure PodChecks where
  /-- `pod_state_check`, where the server has a state. -/
  podStateCheck : Bool
  /-- The pods of `list_pod_nodes`, `none` for an exception. -/
  podNodes : String → Option (List String)
  podWatchCheck : Bool
  /-- `_pod_watch_allows` for a uid and a resource version. -/
  watchAllows : Option String → Option Int → Bool

/-- A request for exec or port-forward on a pod. -/
structure PodRequest where
  ns : PathSegment
  podName : PathSegment
  action : String
  /-- The environment variable of the action. -/
  scopeEnv : String
  expectedUid : Option String
  expectedRv : Option Int
  inventory : List PodTarget
  checks : PodChecks

/-- A request for port-forward on a service that is in the store. -/
structure ServiceRequest where
  ns : PathSegment
  name : PathSegment
  svc : K8sObject
  /-- `AE_API_PF_SCOPE`. -/
  scopeEnv : String

/-- How a request is refused. -/
inductive StreamRefusal
  | notFound
  | status (code : Nat) (reason message : String)
  | exception
  deriving DecidableEq

def StreamRefusal.deny (message : String) : StreamRefusal := .status 403 "Forbidden" message

def StreamRefusal.conflict (message : String) : StreamRefusal := .status 409 "Conflict" message

def podNamespace (ns : String) : String :=
  let stripped := strip (if ns = "" then "default" else ns)
  if stripped = "" then "default" else stripped

def resolvePodTarget (inventory : List PodTarget) (ns podName : String) : Option PodTarget :=
  inventory.find? fun target => target.ns = podNamespace ns && target.podName = podName

def runnableContainer (request : PodRequest) : Except StreamRefusal (PodTarget × Dict) :=
  match resolvePodTarget request.inventory request.ns.text request.podName.text with
  | none => .error .notFound
  | some target =>
      let runtimeError := target.runtimeError.getD ""
      if target.container = none ∧ runtimeError ≠ "" ∧ target.controlled = true then
        .error (.status 502 "BadGateway" ("node runtime unavailable for pod: " ++ runtimeError))
      else
        let container := target.container.getD []
        let uid := (Dict.get container "uid").or (Dict.get container "id")
        if container = [] then .error (.conflict "pod is not runnable")
        else if request.expectedUid.getD "" ≠ "" ∧
            (uid.truthy = false ∨ uid.toStr ≠ request.expectedUid.getD "") then
          .error (.conflict "pod UID mismatch")
        else if (Dict.get container "running").truthy = false then
          .error (.conflict "pod is not running")
        else .ok (target, container)

/-- The app of a target: a label of the container, or else what the target says. -/
def targetApp (request : PodRequest) (target : PodTarget) (container : Dict) :
    Except StreamRefusal String :=
  match (Dict.get container "labels").asDict with
  | none => .error .exception
  | some labels =>
      let named := match target.appName with
        | some app => if app = "" then request.podName.text else app
        | none => request.podName.text
      .ok (splitAppKey ((appFromLabels labels).getD named)).2

/-- The checks of the app's pods and of the watch cache. -/
def checkPod (request : PodRequest) (app : String) : Except StreamRefusal Unit :=
  let checks := request.checks
  if checks.podStateCheck ∧ ((checks.podNodes app).any fun pods =>
      !pods.contains request.podName.text) then
    .error (.conflict "pod not present in controller state")
  else if request.expectedRv.isSome ∧
      checks.watchAllows request.expectedUid request.expectedRv = false then
    .error (.conflict "pod resourceVersion mismatch")
  else if request.expectedRv = none ∧ checks.podWatchCheck ∧
      checks.watchAllows request.expectedUid none = false then
    .error (.conflict "pod not present in watch cache")
  else .ok ()

/-- The part of `_validate_pod_scope` before the scopes: the container and the app. -/
def validatePod (request : PodRequest) : Except StreamRefusal (Dict × String) := do
  let (target, container) ← runnableContainer request
  let app ← targetApp request target container
  checkPod request app
  return (container, app)

def validatePodScope (request : PodRequest) (tokenScopes : List String) :
    Except StreamRefusal Dict := do
  let (container, app) ← validatePod request
  if scopeAllows request.scopeEnv tokenScopes (some request.ns.text) (some app)
      request.podName.text then
    return container
  else throw (.deny (request.action ++ " scope denies target pod"))

def validateServicePfScope (request : ServiceRequest) (tokenScopes : List String) :
    Except StreamRefusal Unit :=
  match serviceAppName request.svc with
  | none => .error .exception
  | some app =>
      if scopeAllows request.scopeEnv tokenScopes (some request.ns.text) (some app)
          request.name.text then
        .ok ()
      else .error (.deny "port-forward scope denies target service")

/-- A request for exec or port-forward. -/
inductive StreamRequest
  | pod (request : PodRequest)
  | service (request : ServiceRequest)

namespace StreamRequest

/-- The request passes the validation of its target. -/
def Permitted (tokenScopes : List String) : StreamRequest → Prop
  | pod request => ∃ container, validatePodScope request tokenScopes = .ok container
  | service request => validateServicePfScope request tokenScopes = .ok ()

def ns : StreamRequest → PathSegment
  | pod request => request.ns
  | service request => request.ns

def targetNs : StreamRequest → String
  | pod request => podNamespace request.ns.text
  | service request => request.ns.text

def name : StreamRequest → PathSegment
  | pod request => request.podName
  | service request => request.name

def scopeEnv : StreamRequest → String
  | pod request => request.scopeEnv
  | service request => request.scopeEnv

/-- The app of the target, if the checks before the scopes find one. -/
def app? : StreamRequest → Option String
  | pod request => (validatePod request).toOption.map Prod.snd
  | service request => serviceAppName request.svc

end StreamRequest

/-! ## Containment -/

/-- The name of a namespace, without characters that have a meaning in a pattern. -/
structure IsNamespace (ns : String) : Prop where
  nonempty : ns ≠ ""
  stripped : strip ns = ns
  literal : ∀ character ∈ ns.toList, IsLiteral character ∧ character ≠ '/'

def NamespaceScoped (scopes : List String) : Prop :=
  ∀ scope ∈ scopes, ∃ ns pat, IsNamespace ns ∧ scope = ns ++ "/" ++ pat

/-- A scope names the namespace of the target and matches its app or its name. -/
def Contained (scopes : List String) (request : StreamRequest) : Prop :=
  ∃ pat, request.targetNs ++ "/" ++ pat ∈ scopes ∧
    ((∃ app, request.app? = some app ∧ app ≠ "" ∧ fnmatch app pat = true) ∨
      fnmatch request.name.text pat = true)

def StreamRequest.candidates (request : StreamRequest) (app : String) : List String :=
  scopeCandidates (some request.ns.text) (some app) request.name.text

/-- The request is refused without regard to the scopes of the token: by the checks
before, or by the patterns of the environment. -/
def RefusedAnyway (request : StreamRequest) : Prop :=
  ∀ app, request.app? = some app → envScopes request.scopeEnv ≠ [] ∧
    scopeMatches (envScopes request.scopeEnv) (request.candidates app) = false

/-- The token has scopes, and one that matches the app alone comes with one that contains
the target. -/
structure AppsInside (scopes : List String) (request : StreamRequest) : Prop where
  present : scopes ≠ []
  apps : ∀ ns pat rest, IsNamespace ns → ns ++ "/" ++ pat ∈ scopes →
    request.app? = some (ns ++ "/" ++ rest) → fnmatch rest pat = true → Contained scopes request

/-! ### Single patterns -/

variable {ns : String}

theorem IsNamespace.noSlash (isNamespace : IsNamespace ns) : '/' ∉ ns.toList :=
  fun member => (isNamespace.literal '/' member).2 rfl

variable {scopeNs : String}

/-- A scope on any candidate. -/
theorem fnmatch_scope_iff (isNamespace : IsNamespace scopeNs) (text pat : String) :
    fnmatch text (scopeNs ++ "/" ++ pat) = true ↔
      ∃ rest, text = scopeNs ++ "/" ++ rest ∧ fnmatch rest pat = true := by
  apply fnmatch_append_iff
  intro character member
  rw [String.toList_append, List.mem_append] at member
  rcases member with inside | slash
  · exact (isNamespace.literal character inside).1
  · obtain rfl : character = '/' := by simpa using slash
    exact ⟨by decide, by decide, by decide⟩

/-- What stands before the first slash, and after it. -/
theorem append_slash_inj
    {ns other rest pat : String} (noSlash : '/' ∉ ns.toList) (otherNoSlash : '/' ∉ other.toList)
    (same : ns ++ "/" ++ rest = other ++ "/" ++ pat) : ns = other ∧ rest = pat := by
  have front {text after : String} (absent : '/' ∉ text.toList) :
      (text ++ "/" ++ after).toList.takeWhile (· ≠ '/') = text.toList := by
    rw [String.toList_append, String.toList_append, List.append_assoc,
      List.takeWhile_append_of_pos]
    · simp
    · intro character member
      rw [decide_eq_true_eq]
      rintro rfl
      exact absent member
  have equal : ns = other := by
    apply String.toList_injective
    have own : (ns ++ "/" ++ rest).toList.takeWhile (· ≠ '/') = ns.toList := front noSlash
    rw [← own, same, front otherNoSlash]
  subst equal
  have lists := congrArg String.toList same
  simp only [String.toList_append, List.append_cancel_left_eq] at lists
  exact ⟨rfl, String.toList_injective lists⟩

/-- A scope on a candidate with the namespace in front. -/
theorem fnmatch_namespaced_iff
    (noSlash : '/' ∉ ns.toList) (isNamespace : IsNamespace scopeNs) (text pat : String) :
    fnmatch (ns ++ "/" ++ text) (scopeNs ++ "/" ++ pat) = true ↔
      ns = scopeNs ∧ fnmatch text pat = true := by
  rw [fnmatch_scope_iff isNamespace]
  constructor
  · rintro ⟨rest, same, matched⟩
    obtain ⟨rfl, rfl⟩ := append_slash_inj noSlash isNamespace.noSlash same
    exact ⟨rfl, matched⟩
  · rintro ⟨rfl, matched⟩
    exact ⟨text, rfl, matched⟩

theorem fnmatch_segment
    (isNamespace : IsNamespace scopeNs) (name : PathSegment)
    (pat : String) : fnmatch name.text (scopeNs ++ "/" ++ pat) = false := by
  rw [Bool.eq_false_iff]
  intro matched
  obtain ⟨rest, same, -⟩ := (fnmatch_scope_iff isNamespace name.text pat).mp matched
  apply name.noSlash
  rw [same]
  simp

/-! ### The validation -/

theorem permitted_iff (scopes : List String) (request : StreamRequest) :
    request.Permitted scopes ↔ ∃ app, request.app? = some app ∧
      scopeAllows request.scopeEnv scopes (some request.ns.text) (some app)
        request.name.text = true := by
  cases request with
  | pod request =>
      simp only [StreamRequest.Permitted, StreamRequest.app?, validatePodScope]
      cases validatePod request with
      | error refusal =>
          constructor
          · rintro ⟨container, granted⟩
            cases granted
          · rintro ⟨app, found, -⟩
            cases found
      | ok found =>
          obtain ⟨container, app⟩ := found
          have app_eq : (Except.toOption (.ok (container, app) :
            Except StreamRefusal (Dict × String))).map Prod.snd = some app := rfl
          rw [app_eq]
          simp only [Option.some.injEq, exists_eq_left']
          by_cases allows : scopeAllows request.scopeEnv scopes (some request.ns.text)
              (some app) request.podName.text = true
          · simp [allows, bind, Except.bind, pure, Except.pure, StreamRequest.scopeEnv,
              StreamRequest.ns, StreamRequest.name]
          · simp [allows, bind, Except.bind, throw, throwThe, MonadExceptOf.throw,
              StreamRequest.scopeEnv, StreamRequest.ns, StreamRequest.name]
  | service request =>
      simp only [StreamRequest.Permitted, StreamRequest.app?, validateServicePfScope]
      cases serviceAppName request.svc with
      | none => simp
      | some app =>
          simp only [Option.some.injEq, exists_eq_left']
          by_cases allows : scopeAllows request.scopeEnv scopes (some request.ns.text)
              (some app) request.name.text = true
          · simp [allows, StreamRequest.scopeEnv, StreamRequest.ns, StreamRequest.name]
          · simp [allows, StreamRequest.scopeEnv, StreamRequest.ns, StreamRequest.name]

variable {request : StreamRequest}

theorem exists_app_of_not_refusedAnyway
    (notRefused : ¬ RefusedAnyway request) : ∃ app, request.app? = some app := by
  by_contra noApp
  apply notRefused
  intro app found
  exact absurd ⟨app, found⟩ noApp

variable {scopes : List String}

theorem not_permitted_of_refusedAnyway
    (refused : RefusedAnyway request) : ¬ request.Permitted scopes := by
  rw [permitted_iff]
  rintro ⟨app, found, allows⟩
  obtain ⟨nonempty, unmatched⟩ := refused app found
  rw [StreamRequest.candidates] at unmatched
  rw [scopeAllows, Bool.and_eq_true, Bool.or_eq_true, List.isEmpty_iff] at allows
  rcases allows.1 with empty | matched
  · exact nonempty empty
  · rw [unmatched] at matched
    cases matched

variable {app : String}

/-- A request that is not refused anyway goes by the scopes of the token. -/
theorem permitted_iff_scopeMatches
    (scopes : List String) (found : request.app? = some app)
    (notRefused : ¬ RefusedAnyway request) :
    request.Permitted scopes ↔
      scopes = [] ∨ scopeMatches (scopes.filter (· ≠ "")) (request.candidates app) = true := by
  have envAllows : ((envScopes request.scopeEnv).isEmpty ||
      scopeMatches (envScopes request.scopeEnv) (request.candidates app)) = true := by
    by_contra denied
    rw [Bool.not_eq_true, Bool.or_eq_false_iff, List.isEmpty_eq_false_iff] at denied
    apply notRefused
    intro other same
    obtain rfl : app = other := Option.some.inj (found.symm.trans same)
    exact denied
  rw [permitted_iff, found]
  simp only [Option.some.injEq, exists_eq_left', scopeAllows]
  rw [← StreamRequest.candidates, envAllows, Bool.true_and, Bool.or_eq_true, List.isEmpty_iff]

/-! ### The scopes of a token -/

theorem mem_candidates_iff (request : StreamRequest) (app candidate : String) :
    candidate ∈ request.candidates app ↔
      (app ≠ "" ∧ (candidate = request.ns.text ++ "/" ++ app ∨ candidate = app)) ∨
        candidate = request.ns.text ++ "/" ++ request.name.text ∨
          candidate = request.name.text := by
  have nonempty := request.ns.nonempty
  unfold StreamRequest.candidates scopeCandidates
  by_cases empty : app = ""
  · simp [nonempty, empty]
  · simp [nonempty, empty]
    tauto

/-- The namespace of a path that a scope names is that of the target. -/
theorem targetNs_eq
    (isNamespace : IsNamespace request.ns.text) : request.targetNs = request.ns.text := by
  cases request with
  | pod request =>
      have nonempty : request.ns.text ≠ "" := isNamespace.nonempty
      have stripped : strip request.ns.text = request.ns.text := isNamespace.stripped
      simp [StreamRequest.targetNs, StreamRequest.ns, podNamespace, nonempty, stripped]
  | service request => rfl

theorem contained_of_fnmatch
    {app scopeNs pat candidate : String} (found : request.app? = some app)
    (isNamespace : IsNamespace scopeNs) (listed : scopeNs ++ "/" ++ pat ∈ scopes)
    (tried : candidate ∈ request.candidates app)
    (matched : fnmatch candidate (scopeNs ++ "/" ++ pat) = true) :
    Contained scopes request ∨ ∃ rest, app = scopeNs ++ "/" ++ rest ∧ fnmatch rest pat = true := by
  have noSlash := request.ns.noSlash
  rw [mem_candidates_iff] at tried
  rcases tried with ⟨nonempty, rfl | rfl⟩ | rfl | rfl
  · obtain ⟨rfl, inside⟩ := (fnmatch_namespaced_iff noSlash isNamespace app pat).mp matched
    refine .inl ⟨pat, ?_, .inl ⟨app, found, nonempty, inside⟩⟩
    rw [targetNs_eq isNamespace]
    exact listed
  · exact .inr ((fnmatch_scope_iff isNamespace candidate pat).mp matched)
  · obtain ⟨rfl, inside⟩ :=
      (fnmatch_namespaced_iff noSlash isNamespace request.name.text pat).mp matched
    refine .inl ⟨pat, ?_, .inr inside⟩
    rw [targetNs_eq isNamespace]
    exact listed
  · rw [fnmatch_segment isNamespace] at matched
    cases matched

theorem scopeMatches_iff (patterns candidates : List String) :
    scopeMatches patterns candidates = true ↔
      ∃ pat ∈ patterns, ∃ candidate ∈ candidates, fnmatch candidate pat = true := by
  simp [scopeMatches]

/-- An app without a slash makes no difference. -/
theorem appsInside_of_noSlash
    (present : scopes ≠ []) (noSlash : ∀ app, request.app? = some app → '/' ∉ app.toList) :
    AppsInside scopes request := by
  refine ⟨present, fun ns pat rest _ _ found _ => ?_⟩
  exact absurd (by simp) (noSlash _ found)

/-- A token whose scopes all name a namespace is kept to the targets that its scopes
contain, exactly if the request is refused anyway or the app alone makes no difference. -/
theorem containedWhenPermitted_iff
    (request : StreamRequest) {scopes : List String} (namespaceScoped : NamespaceScoped scopes) :
    (request.Permitted scopes → Contained scopes request) ↔
      RefusedAnyway request ∨ AppsInside scopes request := by
  by_cases refused : RefusedAnyway request
  · simp [refused, not_permitted_of_refusedAnyway refused]
  obtain ⟨app, found⟩ := exists_app_of_not_refusedAnyway refused
  rw [permitted_iff_scopeMatches scopes found refused, scopeMatches_iff]
  simp only [refused, false_or]
  constructor
  · intro kept
    constructor
    · rintro rfl
      obtain ⟨pat, listed, -⟩ := kept (.inl rfl)
      cases listed
    · intro ns pat rest isNamespace listed app_eq matched
      obtain rfl : app = ns ++ "/" ++ rest := Option.some.inj (found.symm.trans app_eq)
      have appNonempty : ns ++ "/" ++ rest ≠ "" := by simp
      apply kept
      refine .inr ⟨_, List.mem_filter.mpr ⟨listed, by simp⟩, ns ++ "/" ++ rest, ?_, ?_⟩
      · exact (mem_candidates_iff request _ _).mpr (.inl ⟨appNonempty, .inr rfl⟩)
      · exact (fnmatch_scope_iff isNamespace _ pat).mpr ⟨rest, rfl, matched⟩
  · rintro inside (none | ⟨scope, listed, candidate, tried, matched⟩)
    · exact absurd none inside.present
    · have member := (List.mem_filter.mp listed).1
      obtain ⟨ns, pat, isNamespace, rfl⟩ := namespaceScoped scope member
      rcases contained_of_fnmatch found isNamespace member tried matched with
        contained | ⟨rest, rfl, inner⟩
      · exact contained
      · exact inside.apps ns pat rest isNamespace member found inner

/-- The service `db` in the namespace `dev` with a label for its app. -/
def devService (app : String) : StreamRequest :=
  .service
    { ns := ⟨"dev", by decide, by decide⟩
      name := ⟨"db", by decide, by decide⟩
      svc :=
        { gvr := ⟨"", "v1", "services"⟩
          ns := some "dev"
          name := "db"
          metadata := .dict [("labels", .dict [("app", .str app)])]
          spec := .dict []
          status := .dict []
          resourceVersion := 1 }
      scopeEnv := "" }

theorem isNamespace_prod : IsNamespace "prod" :=
  ⟨by decide, by decide +kernel, by simp [IsLiteral]⟩

theorem namespaceScoped_prod : NamespaceScoped ["prod/web"] := by
  intro scope member
  obtain rfl : scope = "prod/web" := by simpa using member
  exact ⟨"prod", "web", isNamespace_prod, rfl⟩

theorem contained_plainLabel :
    ¬ ((devService "web").Permitted ["prod/web"] ∧
      ¬ Contained ["prod/web"] (devService "web")) := by
  rintro ⟨permitted, escapes⟩
  refine escapes ((containedWhenPermitted_iff (devService "web") namespaceScoped_prod).mpr ?_
    permitted)
  refine .inr (appsInside_of_noSlash (by decide) fun app found => ?_)
  obtain rfl : "web" = app := by
    have known : (devService "web").app? = some "web" := by decide +kernel
    exact Option.some.inj (known.symm.trans found)
  decide

/-- A service whose label names the app of another namespace. -/
theorem not_contained_labelledService :
    ¬ ∀ (request : StreamRequest) (scopes : List String), NamespaceScoped scopes →
      request.Permitted scopes → Contained scopes request := by
  intro always
  have permitted : (devService "prod/web").Permitted ["prod/web"] := by
    rw [permitted_iff]
    exact ⟨"prod/web", by decide +kernel, by decide +kernel⟩
  obtain ⟨pat, listed, -⟩ := always _ _ namespaceScoped_prod permitted
  have same : (devService "prod/web").targetNs ++ "/" ++ pat = "prod/web" := by
    simpa using listed
  have text := congrArg String.toList same
  simp [devService, StreamRequest.targetNs] at text

end ApiShim
end K1s
