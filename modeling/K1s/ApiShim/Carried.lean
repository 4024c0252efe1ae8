import K1s.ApiShim.Outcome

/-!
# The requests that change the store

For each method the condition under which a request that has passed the gate
changes the store: what its path has to address, which checks its document has to
pass, and what access control and the stored objects have to say.
-/

namespace K1s
namespace ApiShim

open Py Program

section Requests

variable (handler : ShimHandler) (outside : ShimOutside) (token : String)
variable (cached : Option Principal) (world : ShimWorld)

/-- Access control lets the request through. -/
def LetThrough (verb resource : String) (ns : Option String) : Prop :=
  Leads (ShimOp.execute outside) (fun allowed _ => allowed = true)
    (rbacCheck handler token cached verb resource ns) world

/-- A branch stores the document: the name and the namespace pass the checks of
the branch, the verb is allowed where the branch asks, and the content can be
made up. -/
def DocRule.Accepts (rule : DocRule) (doc : Json) : Prop :=
  ∃ entries target write, rule.checked doc = .ok (entries, target) ∧
    (∀ verb, rule.verb = some verb → LetThrough handler outside token cached world verb
      rule.gvr.resource (textOf target.ns)) ∧
    rule.write handler entries target = .ok write

def DocRule.Stores (rule : DocRule) (doc : Json) (wrote : Write → Prop) : Prop :=
  ∃ entries target write, rule.checked doc = .ok (entries, target) ∧
    (∀ verb, rule.verb = some verb → LetThrough handler outside token cached world verb
      rule.gvr.resource (textOf target.ns)) ∧
    rule.write handler entries target = .ok write ∧ wrote write

/-- A `PUT` of the document makes a write of this sort. -/
def PutStores (path : String) (doc : Json) (wrote : Write → Prop) : Prop :=
  match putRoute world.crds path with
  | none => False
  | some (.document rule) => rule.Stores handler outside token cached world doc wrote
  | some (.scale ns name) =>
      ∃ object write, world.store.get deploymentsResource ns name = some object ∧
        scaleWrite ns name doc object = .ok write ∧ wrote write

/-- A `PUT` of the document stores something: its path is routed to a kind whose
branch accepts the document, or to the scale of a stored deployment and the
document has a number of replicas. -/
def PutAccepts (path : String) (doc : Json) : Prop :=
  match putRoute world.crds path with
  | none => False
  | some (.document rule) => rule.Accepts handler outside token cached world doc
  | some (.scale ns name) =>
      ∃ object write, world.store.get deploymentsResource ns name = some object ∧
        scaleWrite ns name doc object = .ok write

/-- The namespace that a new core object is stored under. -/
def createdNs (path : PathName) (md : Dict) : Json :=
  if (coreRule path).cluster then .null
  else (Dict.get md "namespace").or (optional path.ns)

/-- The content of a new core object can be made up: a service account has
annotations that can be read and written, and a service asks for no address or
port that is taken. -/
def ContentAccepts (path : PathName) (doc md : Dict) (name : String) : Prop :=
  (path.plural = "serviceaccounts" →
    (Dict.get (Dict.setdefault md "annotations" (.dict [])) "annotations").isDict = true ∧
    (storedToken (world.store.get serviceAccountsResource
      (some ((textOf (createdNs path md)).getD "default")) name)).isSome = true) ∧
  (path.plural = "services" → ∃ content, serviceContent handler (createdNs path md) (.str name) doc
      (world.store.listAll servicesResource) (outside.services world.calls)
      (outside.services (world.calls + 1)) = .ok content)

/-- The branch of `do_POST` for core objects stores the document: a name is given
or can be made up, name and namespace are valid, and so is the content. -/
def CoreAccepts (path : PathName) (doc : Json) : Prop :=
  ∃ entries md name named, doc = .dict entries ∧
    (Dict.get entries "metadata").or (.dict []) = .dict md ∧
    runAlone (ShimOp.execute outside)
      (resolveCreateName ⟨"", "v1", path.plural⟩ path.ns md path.name) world = (some name, named) ∧
    name ≠ "" ∧ validName (.str name) = true ∧
    (createdNs path md = .null ∨ validName (createdNs path md) = true) ∧
    ContentAccepts handler outside named path entries md name

/-- A `POST` of the document stores something. -/
def PostAccepts (path : String) (doc : Json) : Prop :=
  match postRoute world.crds path with
  | none => False
  | some (.core path) => CoreAccepts handler outside world path doc
  | some (.document rule) => rule.Accepts handler outside token cached world doc

def PatchRoute.Accepts
    (request : PatchRequest) (now : String)
    (object : K8sObject) : PatchRoute → Prop
  | .core path => ∃ write, corePatch handler path request now object = .ok write
  | .custom path crd => ∃ write, customPatch handler path crd request object = .ok write
  | .extended kind path =>
      ∃ base after write, runAlone (ShimOp.execute outside) (kind.shown object) world =
          (some base, after) ∧
        kind.patch handler path request now object base.entries = .ok write

def PatchRoute.Stores
    (request : PatchRequest) (now : String) (object : K8sObject)
    (wrote : Write → Prop) : PatchRoute → Prop
  | .core path =>
      ∃ write, corePatch handler path request now object = .ok write ∧ wrote write
  | .custom path crd =>
      ∃ write, customPatch handler path crd request object = .ok write ∧ wrote write
  | .extended kind path =>
      ∃ base after write, runAlone (ShimOp.execute outside) (kind.shown object) world =
          (some base, after) ∧
        kind.patch handler path request now object base.entries = .ok write ∧ wrote write

/-- A `PATCH` makes a write of this sort. -/
def PatchStores (path : String) (request : PatchRequest) (wrote : Write → Prop) : Prop :=
  ∃ route, patchRoute world.crds path = some route ∧
    match route.name.bind fun name => world.store.get route.gvr route.ns name with
    | some object =>
        route.Stores handler outside { world with calls := world.calls + 1 } request
          (outside.timestamps world.calls) object wrote
    | none =>
        ∃ write, route.create handler request (outside.timestamps world.calls) =
          .ok write ∧ wrote write

/-- A `PATCH` stores something: its path is routed to an object that is stored and
the patch of it is accepted, or to a missing one that it creates. -/
def PatchAccepts (path : String) (request : PatchRequest) : Prop :=
  ∃ route, patchRoute world.crds path = some route ∧
    match route.name.bind fun name => world.store.get route.gvr route.ns name with
    | some object =>
        route.Accepts handler outside { world with calls := world.calls + 1 } request
          (outside.timestamps world.calls) object
    | none =>
        ∃ write, route.create handler request (outside.timestamps world.calls) = .ok write

/-- A `DELETE` deletes something: its path is routed to a kind, access control
lets it through where it is asked, and the object or one of the collection is
stored. -/
def DeleteAccepts (path target : String) : Prop :=
  match DeleteRoute.builtin path with
  | some route =>
      (route.checked = true → LetThrough handler outside token cached world "delete"
        route.gvr.resource route.askedNs) ∧ route.decision.Changes world.store
  | none =>
      ∃ custom crd, customRoute world.crds target = some (custom, crd) ∧
        (customDelete custom crd).Changes world.store

/-- A stored service account has no token, or one whose recorded expiry has
passed. -/
def StaleAccount (object : K8sObject) : Prop :=
  ∃ md anns exp, dictOf object.metadata = some md ∧
    Dict.get (Dict.setdefault md "annotations" (.dict [])) "annotations" = .dict anns ∧
    recordedExp? anns = some exp ∧
    ((Dict.get anns tokenKey).truthy = false ∨ exp.lt (.finite (outside.clock world.calls)) = true)

/-- A `GET` gives a service account a new token. -/
def GetAccepts (principal : Principal) (path : String) : Prop :=
  ∃ ns name object, accountPath path = some (ns, name) ∧
    LetThrough handler outside token (some principal) world "get" "serviceaccounts" none ∧
    world.store.get serviceAccountsResource ns name = some object ∧
    StaleAccount outside world object

end Requests

section Branches

variable {handler : ShimHandler} {outside : ShimOutside} {token : String}
variable {cached : Option Principal} {world : ShimWorld} {store : ObjectStore}

/-- A property of decisions that is about what is written. -/
structure Decision.Reports (post : Decision → Prop) (wrote : Write → Prop) : Prop where
  respond : ∀ status, ¬ post (.respond status)
  answer : ¬ post .answer
  upsert : ∀ basis write crdName, post (.upsert basis write crdName) ↔ wrote write

theorem reports_changes (store : ObjectStore) :
    Decision.Reports (Decision.Changes store) fun _ => True :=
  ⟨fun _ => not_false, not_false, fun _ _ _ => Iff.rfl⟩

variable {post : Decision → Prop} {wrote : Write → Prop}

theorem not_leads_refusal (reports : Decision.Reports post wrote) (refusal : Refusal) :
    ¬ Leads (ShimOp.execute outside) (fun decision _ => post decision) refusal.program world := by
  cases refusal with
  | raised => exact not_false
  | silent => exact reports.answer
  | status response => exact reports.respond response

theorem leads_storing
    (reports : Decision.Reports post wrote) (basis : Option K8sObject)
    (crdName : Option Json) (written : Except Refusal Write) :
    Leads (ShimOp.execute outside) (fun decision _ => post decision)
        (storing basis crdName written) world ↔
      ∃ write, written = .ok write ∧ wrote write := by
  cases written with
  | error refusal => simp [storing, not_leads_refusal reports]
  | ok write => simp [storing, reports.upsert]

theorem leads_storing_iff
    (basis : Option K8sObject) (crdName : Option Json) (written : Except Refusal Write) :
    Leads (ShimOp.execute outside) (fun decision _ => decision.Changes store)
        (storing basis crdName written) world ↔
      ∃ write, written = .ok write := by
  simpa using leads_storing (reports_changes store) basis crdName written

theorem leads_allowed_iff (rule : DocRule) (target : Target) :
    Leads (ShimOp.execute outside) (fun allowed _ => allowed = true)
        (rule.allowed handler token cached target) world ↔
      ∀ verb, rule.verb = some verb → LetThrough handler outside token cached world verb
        rule.gvr.resource (textOf target.ns) := by
  unfold DocRule.allowed
  cases rule.verb with
  | none => simp
  | some verb => simp [LetThrough]

theorem leads_docRule
    (reports : Decision.Reports post wrote) (rule : DocRule) (doc : Json) :
    Leads (ShimOp.execute outside) (fun decision _ => post decision)
        (rule.decision handler token cached doc) world ↔
      rule.Stores handler outside token cached world doc wrote := by
  unfold DocRule.decision DocRule.Stores
  rcases checked : rule.checked doc with refusal | ⟨entries, target⟩
  · simp [not_leads_refusal reports]
  · have branch : ∀ (allowed : Bool) after,
        Leads (ShimOp.execute outside) (fun decision _ => post decision)
          (if allowed then storing none (if rule.definition then some target.name else none)
              (rule.write handler entries target)
            else .done (.respond .forbidden)) after ↔
        (∃ write, rule.write handler entries target = .ok write ∧ wrote write) ∧
          allowed = true := by
      intro allowed after
      cases allowed with
      | false => simp [reports.respond]
      | true => simp [leads_storing reports]
    simp only [bind_eq, pure_eq, leads_andThen]
    rw [leads_congr _ _ branch, leads_and_left, leads_allowed_iff]
    constructor
    · rintro ⟨⟨write, made, holds⟩, allowed⟩
      exact ⟨entries, target, write, rfl, allowed, made, holds⟩
    · rintro ⟨_, _, write, equal, allowed, made, holds⟩
      obtain ⟨rfl, rfl⟩ := Prod.mk.inj (Except.ok.inj equal)
      exact ⟨⟨write, made, holds⟩, allowed⟩

theorem leads_docRule_iff (rule : DocRule) (doc : Json) :
    Leads (ShimOp.execute outside) (fun decision _ => decision.Changes store)
        (rule.decision handler token cached doc) world ↔
      rule.Accepts handler outside token cached world doc := by
  simpa [DocRule.Stores, DocRule.Accepts] using
    leads_docRule (reports_changes store) rule doc

theorem runAlone_lookupCustom (path : String) :
    runAlone (ShimOp.execute outside) (lookupCustom path) world =
      (some (customRoute world.crds path), world) := by
  unfold lookupCustom customRoute
  cases parseCustomResourcePath path with
  | none => rfl
  | some custom => simp [runAlone_andThen]

theorem runAlone_findPutRoute (path : String) :
    runAlone (ShimOp.execute outside) (findPutRoute path) world =
      (some (putRoute world.crds path), world) := by
  unfold findPutRoute putRoute
  cases putRouteBefore path with
  | some route => rfl
  | none =>
      simp only [bind_eq, runAlone_andThen, runAlone_lookupCustom]
      rcases customRoute world.crds path with _ | ⟨custom, crd⟩
      · cases putRouteAfter path <;> rfl
      · rfl

/-- Behind its gate, what a `PUT` comes to. -/
theorem leads_putDecision
    (reports : Decision.Reports post wrote) (path : String) (doc : Json) :
    Leads (ShimOp.execute outside) (fun decision _ => post decision)
        (putDecision handler token cached path doc) world ↔
      PutStores handler outside token cached world path doc wrote := by
  unfold putDecision PutStores
  rw [bind_eq, leads_andThen, leads_of_runAlone_eq (runAlone_findPutRoute path)]
  simp only [Option.some.injEq, exists_eq_left']
  rcases putRoute world.crds path with _ | rule | ⟨ns, name⟩
  · simp [reports.respond]
  · exact leads_docRule reports rule doc
  · simp only [scaleDecision, bind_eq, pure_eq, leads_andThen, leads_shimGet]
    cases world.store.get deploymentsResource ns name with
    | none => simp [reports.respond]
    | some object => simp [leads_storing reports]

/-- Behind its gate, a `PUT` changes the store exactly when it is accepted. -/
theorem leads_putDecision_iff (path : String) (doc : Json) :
    Leads (ShimOp.execute outside) (fun decision _ => decision.Changes store)
        (putDecision handler token cached path doc) world ↔
      PutAccepts handler outside token cached world path doc := by
  rw [leads_putDecision (reports_changes store)]
  unfold PutStores PutAccepts
  rcases putRoute world.crds path with _ | rule | ⟨ns, name⟩
  · exact Iff.rfl
  · simp [DocRule.Stores, DocRule.Accepts]
  · simp

/-! ### `POST` -/

theorem exists_withToken_iff (annotations : Json) (given exp : String) :
    (∃ written, withToken annotations given exp = some written) ↔ annotations.isDict = true := by
  cases annotations <;> simp [withToken, setItem, Json.isDict]

/-- A service account is given a token exactly when its annotations can be
written and those of the stored account can be read. -/
theorem leads_withSaToken_iff (md : Dict) (ns : Json) (name : String) :
    Leads (ShimOp.execute outside) (fun _ _ => True) (withSaToken handler md ns name) world ↔
      (Dict.get (Dict.setdefault md "annotations" (.dict [])) "annotations").isDict = true ∧
      (storedToken (world.store.get serviceAccountsResource
        (some ((textOf ns).getD "default")) name)).isSome = true := by
  simp only [withSaToken, preserveOrIssueSaToken, bind_eq, pure_eq, leads_andThen,
    leads_shimNow, leads_shimGet, leads_ofOption]
  cases storedToken (world.store.get serviceAccountsResource
    (some ((textOf ns).getD "default")) name) with
  | none => simp
  | some stored =>
      simp only [Option.some.injEq, exists_eq_left', Option.isSome_some, and_true]
      rw [← exists_withToken_iff _ "" ""]
      split
      · simp only [leads_andThen, leads_ofOption, leads_shimSaSet, leads_done, and_true,
          exists_withToken_iff]
      · simp only [dropSaToken, leads_andThen]
        split <;> simp only [issueSaToken, bind_eq, pure_eq, leads_andThen, leads_shimTokenUrlsafe,
            leads_shimNow, leads_shimSaSet, leads_shimSaPop, leads_ofOption, leads_done,
            and_true, exists_withToken_iff]

variable (handler) in
theorem exists_targetWrite
    {ns : Json} (valid : ns = .null ∨ validName ns = true) (md : Dict) (name : String)
    (gvr : Gvr) (spec status : Json) :
    ∃ write, Target.write handler gvr ⟨md, .str name, ns⟩ spec status = some write := by
  have bound : ∃ key, boundKey ns (.str name) = some key := by
    rcases valid with rfl | valid
    · exact ⟨_, rfl⟩
    · cases ns with
      | str text =>
          refine ⟨(text, name), ?_⟩
          by_cases empty : text = ""
          · subst empty
            rfl
          · simp [boundKey, Json.or, empty, Json.sqlText]
      | _ => simp [validName] at valid
  obtain ⟨key, bound⟩ := bound
  exact ⟨_, by rw [Target.write, bound]; rfl⟩

theorem exists_writeContent_iff
    {ns : Json} (valid : ns = .null ∨ validName ns = true) (md : Dict) (name : String)
    (gvr : Gvr) (content : Except Refusal (Json × Json)) :
    (∃ write, writeContent handler gvr ⟨md, .str name, ns⟩ content = .ok write) ↔
      ∃ made, content = .ok made := by
  rcases content with refusal | ⟨spec, status⟩
  · simp [writeContent]
  · obtain ⟨write, written⟩ := exists_targetWrite handler valid md name gvr spec status
    simp [writeContent, written, orRaise]

theorem find?_coreChecks_eq_none_iff (path : PathName) (name ns : Json) :
    ((coreRule path).checks.find? fun check => !check.passes name ns) = none ↔
      validName name = true ∧ (ns = .null ∨ validName ns = true) := by
  simp [coreRule, Check.passes]

theorem leads_createNamed_iff (path : PathName) (doc md : Dict) (name : String) :
    Leads (ShimOp.execute outside) (fun decision _ => decision.Changes store)
        (createNamed handler path doc md name) world ↔
      validName (.str name) = true ∧
        (createdNs path md = .null ∨ validName (createdNs path md) = true) ∧
        ContentAccepts handler outside world path doc md name := by
  have checks := find?_coreChecks_eq_none_iff path (.str name) (createdNs path md)
  unfold createNamed
  simp only
  rw [← createdNs]
  cases failed : (coreRule path).checks.find? fun check =>
      !check.passes (.str name) (createdNs path md) with
  | some check =>
      rw [failed] at checks
      simp only [leads_done, Decision.Changes, false_iff, not_and]
      intro named given
      exact absurd (checks.mpr ⟨named, given⟩) (by simp)
  | none =>
      obtain ⟨named, given⟩ := checks.mp failed
      simp only [named, given, true_and, ContentAccepts, bind_eq, leads_andThen,
        leads_storing_iff, exists_writeContent_iff given]
      by_cases account : path.plural = "serviceaccounts"
      · have untouched : (coreRule path).secret = false := by simp [coreRule, account]
        simp [account, untouched, coreMetadata, coreContent, leads_withSaToken_iff]
      · simp only [account, coreMetadata, coreContent, if_false, leads_done, false_implies,
          true_and]
        by_cases service : path.plural = "services"
        · simp [service, servicesResource]
        · simp [service]

theorem leads_createCore_iff (path : PathName) (doc : Json) :
    Leads (ShimOp.execute outside) (fun decision _ => decision.Changes store)
        (createCore handler path doc) world ↔
      CoreAccepts handler outside world path doc := by
  unfold createCore CoreAccepts
  cases doc with
  | dict entries =>
      simp only
      cases metadata : (Dict.get entries "metadata").or (.dict []) with
      | dict md =>
          simp only [bind_eq, pure_eq, leads_andThen]
          rw [leads_iff_runAlone]
          constructor
          · rintro ⟨name, named, ran, leads⟩
            by_cases empty : name = ""
            · simp [empty, Decision.Changes] at leads
            · rw [if_neg empty, leads_createNamed_iff] at leads
              exact ⟨entries, md, name, named, rfl, metadata, ran, empty, leads⟩
          · rintro ⟨_, _, name, named, equal, found, ran, nonempty, accepted⟩
            obtain rfl := Json.dict.inj equal
            obtain rfl := Json.dict.inj (metadata.symm.trans found)
            refine ⟨name, named, ran, ?_⟩
            rw [if_neg nonempty, leads_createNamed_iff]
            exact accepted
      | _ => simp [metadata]
  | _ => simp

theorem runAlone_findPostRoute (path : String) :
    runAlone (ShimOp.execute outside) (findPostRoute path) world =
      (some (postRoute world.crds path), world) := by
  unfold findPostRoute postRoute
  cases postRouteBefore path with
  | some route => rfl
  | none =>
      simp only [bind_eq, runAlone_andThen, runAlone_lookupCustom]
      rcases customRoute world.crds path with _ | ⟨custom, crd⟩
      · cases postRouteAfter path <;> rfl
      · rfl

/-- Behind its gate, a `POST` of a document changes the store exactly when it is
accepted. -/
theorem leads_postDecision_iff (path : String) (doc : Json) :
    Leads (ShimOp.execute outside) (fun decision _ => decision.Changes store)
        (postDecision handler token cached path doc) world ↔
      PostAccepts handler outside token cached world path doc := by
  unfold postDecision PostAccepts
  rw [bind_eq, leads_andThen, leads_of_runAlone_eq (runAlone_findPostRoute path)]
  simp only [Option.some.injEq, exists_eq_left']
  rcases postRoute world.crds path with _ | path | rule
  · exact Iff.rfl
  · exact leads_createCore_iff path doc
  · exact leads_docRule_iff rule doc

/-- Behind its gate, a `POST` changes the store exactly when it is no stream, no
review and no request for a session token, and its document is accepted. -/
theorem leads_createDecision_iff (request : Request) :
    Leads (ShimOp.execute outside) (fun decision _ => decision.Changes store)
        (createDecision handler request cached) world ↔
      streamPath request.path = none ∧ answersOnly request.path = false ∧
        ∃ doc, request.document handler = some doc ∧
          PostAccepts handler outside request.token cached world request.path doc := by
  unfold createDecision
  cases streamPath request.path with
  | some stream =>
      have unchanged : ∀ (allowed : Bool) (after : ShimWorld),
          (if allowed then Decision.answer else .respond .forbidden).Changes store ↔ False := by
        intro allowed after
        cases allowed <;> simp [Decision.Changes]
      simp only [bind_eq, pure_eq, leads_andThen, leads_done]
      rw [leads_congr _ _ unchanged, leads_iff_runAlone]
      simp
  | none =>
      cases answersOnly request.path with
      | true => simp [Decision.Changes]
      | false => simp [leads_postDecision_iff]

/-! ### `PATCH` -/

theorem runAlone_findPatchRoute (path : String) :
    runAlone (ShimOp.execute outside) (findPatchRoute path) world =
      (some (patchRoute world.crds path), world) := by
  unfold findPatchRoute patchRoute
  cases patchRouteBefore path with
  | some route => rfl
  | none =>
      simp only [bind_eq, runAlone_andThen, runAlone_lookupCustom]
      rcases customRoute world.crds path with _ | ⟨custom, crd⟩
      · cases patchRouteAfter path <;> rfl
      · rfl

theorem runAlone_patchStored (route : PatchRoute) :
    runAlone (ShimOp.execute outside) route.stored world =
      (some (route.name.bind fun name => world.store.get route.gvr route.ns name), world) := by
  unfold PatchRoute.stored
  cases route.name <;> rfl

theorem leads_patchWrite
    (request : PatchRequest) (now : String) (object : K8sObject) (route : PatchRoute) :
    Leads (ShimOp.execute outside) (fun written _ => ∃ write, written = .ok write ∧ wrote write)
        (route.write handler request object now) world ↔
      route.Stores handler outside world request now object wrote := by
  cases route with
  | core path => exact Iff.rfl
  | custom path crd => exact Iff.rfl
  | extended kind path =>
      simp only [PatchRoute.write, PatchRoute.Stores, bind_eq, pure_eq, leads_andThen, leads_done]
      rw [leads_iff_runAlone]
      constructor
      · rintro ⟨base, after, ran, write, made, holds⟩
        exact ⟨base, after, write, ran, made, holds⟩
      · rintro ⟨base, after, write, ran, made, holds⟩
        exact ⟨base, after, ran, write, made, holds⟩

/-- Behind its gate, what a `PATCH` comes to. -/
theorem leads_patchDecision
    (reports : Decision.Reports post wrote) (path : String) (request : PatchRequest) :
    Leads (ShimOp.execute outside) (fun decision _ => post decision)
        (patchDecision handler path request) world ↔
      PatchStores handler outside world path request wrote := by
  unfold patchDecision PatchStores
  rw [bind_eq, leads_andThen, leads_of_runAlone_eq (runAlone_findPatchRoute path)]
  simp only [Option.some.injEq, exists_eq_left']
  cases patchRoute world.crds path with
  | none => simp [reports.respond]
  | some route =>
      simp only [Option.some.injEq, exists_eq_left', PatchRoute.decision, bind_eq,
        leads_andThen, leads_shimTimestamp, leads_storing reports]
      rw [leads_of_runAlone_eq (runAlone_patchStored route)]
      simp only [Option.some.injEq, exists_eq_left']
      cases route.name.bind fun name => world.store.get route.gvr route.ns name with
      | none => exact Iff.rfl
      | some object => exact leads_patchWrite request _ object route

/-- Behind its gate, a `PATCH` changes the store exactly when it is accepted. -/
theorem leads_patchDecision_iff (path : String) (request : PatchRequest) :
    Leads (ShimOp.execute outside) (fun decision _ => decision.Changes store)
        (patchDecision handler path request) world ↔
      PatchAccepts handler outside world path request := by
  rw [leads_patchDecision (reports_changes store)]
  unfold PatchStores PatchAccepts
  refine exists_congr fun route => and_congr_right fun _ => ?_
  cases route.name.bind fun name => world.store.get route.gvr route.ns name with
  | none => simp
  | some object => cases route <;> simp [PatchRoute.Stores, PatchRoute.Accepts]

/-! ### `DELETE` -/

/-- Behind its gate, what a `DELETE` of a built-in kind comes to. -/
theorem leads_builtinDelete
    (reports : Decision.Reports post wrote) {request : Request} {route : DeleteRoute}
    (routed : DeleteRoute.builtin request.path = some route) :
    Leads (ShimOp.execute outside) (fun decision _ => post decision)
        (deleteDecision handler request cached) world ↔
      (route.checked = true → LetThrough handler outside request.token cached world "delete"
        route.gvr.resource route.askedNs) ∧ post route.decision := by
  unfold deleteDecision
  simp only [routed, bind_eq, pure_eq, leads_andThen, leads_done]
  have branch : ∀ (allowed : Bool) (after : ShimWorld),
      post (if allowed then route.decision else .respond .forbidden) ↔
        post route.decision ∧ allowed = true := by
    intro allowed after
    cases allowed <;> simp [reports.respond]
  rw [leads_congr _ _ branch, leads_and_left, and_comm]
  unfold DeleteRoute.allowed
  cases route.checked with
  | false => simp
  | true => simp [LetThrough]

/-- Behind its gate, what a `DELETE` of another kind comes to. -/
theorem leads_customDelete
    (reports : Decision.Reports post wrote) {request : Request}
    (unrouted : DeleteRoute.builtin request.path = none) :
    Leads (ShimOp.execute outside) (fun decision _ => post decision)
        (deleteDecision handler request cached) world ↔
      ∃ custom crd, customRoute world.crds request.target = some (custom, crd) ∧
        post (customDelete custom crd) := by
  unfold deleteDecision
  simp only [unrouted, bind_eq, pure_eq, leads_andThen]
  rw [leads_of_runAlone_eq (runAlone_lookupCustom request.target)]
  simp only [Option.some.injEq, exists_eq_left']
  rcases customRoute world.crds request.target with _ | ⟨custom, crd⟩
  · simp [reports.respond]
  · simp

/-- Behind its gate, a `DELETE` changes the store exactly when it is accepted. -/
theorem leads_deleteDecision_iff (request : Request) :
    Leads (ShimOp.execute outside) (fun decision _ => decision.Changes world.store)
        (deleteDecision handler request cached) world ↔
      DeleteAccepts handler outside request.token cached world request.path
        request.target := by
  have reports := reports_changes world.store
  unfold DeleteAccepts
  cases routed : DeleteRoute.builtin request.path with
  | some route => exact leads_builtinDelete reports routed
  | none => exact leads_customDelete reports routed

/-! ### `GET` -/

variable (handler outside world) in
/-- With the principal known, access control only looks. -/
theorem runAlone_rbacAllows
    (principal : Principal) (verb resource : String) (ns : Option String) :
    ∃ allowed, runAlone (ShimOp.execute outside)
      (rbacAllows handler principal verb resource ns) world = (some allowed, world) := by
  unfold rbacAllows
  simp only
  split
  · exact ⟨_, rfl⟩
  split
  · exact ⟨_, rfl⟩
  split
  · exact ⟨_, rfl⟩
  split
  · exact ⟨_, rfl⟩
  split
  · exact ⟨_, rfl⟩
  simp only [bind_eq, runAlone_andThen, runAlone_attempt, runAlone_allowedVerbs]
  rcases verbsOfAll world.store principal resource ns with _ | _ | _
  · exact ⟨_, rfl⟩
  · exact ⟨_, rfl⟩
  · exact ⟨_, rfl⟩

theorem leads_refreshSaToken_iff (ns : Option String) (name : String) (object : K8sObject) :
    Leads (ShimOp.execute outside) (fun refreshed _ => refreshed.isSome = true)
        (refreshSaToken handler ns name object) world ↔
      StaleAccount outside world object := by
  unfold refreshSaToken StaleAccount
  simp only [bind_eq, leads_andThen, leads_ofOption]
  refine exists_congr fun md => ?_
  cases Dict.get (Dict.setdefault md "annotations" (.dict [])) "annotations" with
  | dict anns =>
      simp only [leads_andThen, leads_ofOption, Json.dict.injEq, exists_and_left,
        exists_eq_left', tokenStale]
      refine and_congr_right fun _ => exists_congr fun exp => and_congr_right fun _ => ?_
      cases (Dict.get anns tokenKey).truthy with
      | false => simp [issueSaToken]
      | true =>
          cases stale : exp.lt (.finite (outside.clock world.calls)) <;>
            simp [issueSaToken, stale]
  | _ => simp

/-- Behind its gate, reading a service account changes the store exactly when its
token is stale. -/
theorem leads_readServiceAccount_iff
    (principal : Principal) (ns : Option String) (name : String) :
    Leads (ShimOp.execute outside) (fun decision _ => decision.Changes store)
        (readServiceAccount handler token (some principal) ns name) world ↔
      LetThrough handler outside token (some principal) world "get" "serviceaccounts" none ∧
        ∃ object, world.store.get serviceAccountsResource ns name = some object ∧
          StaleAccount outside world object := by
  obtain ⟨allowed, ran⟩ := runAlone_rbacAllows handler outside world principal "get"
    "serviceaccounts" none
  unfold readServiceAccount LetThrough
  simp only [rbacCheck, bind_eq, pure_eq, leads_andThen]
  rw [leads_of_runAlone_eq ran, leads_of_runAlone_eq ran]
  simp only [Option.some.injEq, exists_eq_left']
  cases allowed with
  | false => simp [Decision.Changes]
  | true =>
      simp only [Bool.not_true, Bool.false_eq_true, if_false, leads_andThen, leads_shimGet,
        true_and]
      cases world.store.get serviceAccountsResource ns name with
      | none => simp [Decision.Changes]
      | some object =>
          simp only [Option.some.injEq, exists_eq_left', leads_andThen]
          rw [← leads_refreshSaToken_iff ns name object]
          refine leads_congr _ _ fun refreshed after => ?_
          cases refreshed <;> simp [Decision.Changes]

end Branches

end ApiShim
end K1s
