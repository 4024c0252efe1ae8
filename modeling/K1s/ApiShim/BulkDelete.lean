import K1s.ApiShim.Selectors
import K1s.ApiShim.WriteFrame
import K1s.ApiShim.Stored

/-!
# Deleting a collection

`do_DELETE` lists a collection and deletes what is listed.  It looks at no query, so that
the selectors of a request have no say, and it serves the collections of some kinds only.

The main result says exactly when a `DELETE` of a collection removes the objects that a
list with the same selectors shows: when every stored object of a served collection
matches, and none of another one does.
-/

namespace K1s
namespace ApiShim

open Py Program

/-! ## Collections -/

/-- A kind and a namespace whose parts are not empty. -/
def givenCollection (parts : List String) (gvr : Gvr) (ns : Option String) :
    Option (Gvr × Option String) :=
  if parts.all (· ≠ "") then some (gvr, ns) else none

/-- The collection that a path addresses, of a namespace or of all. -/
def collectionPath (path : String) : Option (Gvr × Option String) :=
  match split '/' path with
  | ["", "api", "v1", "namespaces", ns, plural] =>
      givenCollection [ns, plural] ⟨"", "v1", plural⟩ (some ns)
  | ["", "api", "v1", plural] => givenCollection [plural] ⟨"", "v1", plural⟩ none
  | ["", "apis", group, version, "namespaces", ns, plural] =>
      givenCollection [group, version, ns, plural] ⟨group, version, plural⟩ (some ns)
  | ["", "apis", group, version, plural] =>
      givenCollection [group, version, plural] ⟨group, version, plural⟩ none
  | _ => none

/-- The key is of the kind and, where one is given, of the namespace. -/
structure ObjectKey.Within (key : ObjectKey) (gvr : Gvr) (ns : Option String) : Prop where
  kind : key.gvr = gvr
  inNs : ∀ only, ns = some only → key.ns = only

/-- The requests that `_authz` and, where the branch asks it, access control let through. -/
def DeleteAdmitted
    (handler : ShimHandler) (outside : ShimOutside) (request : Request)
    (world : ShimWorld) : Prop :=
  ∃ cached entered, runAlone (ShimOp.execute outside)
      (authz handler .read request.token) world = (some (some cached), entered) ∧
    ∀ route, DeleteRoute.builtin request.path = some route → route.checked = true →
      LetThrough handler outside request.token cached entered "delete" route.gvr.resource
        route.askedNs

/-- The objects of the collection that match the selectors are removed if the request is
let through, and nothing else is changed. -/
def BulkDeleteExact
    (handler : ShimHandler) (outside : ShimOutside) (request : Request) (gvr : Gvr)
    (ns : Option String)
    (world : ShimWorld) : Prop :=
  ∀ key row, (afterRequest handler outside request world).store.row? key = some row ↔
    world.store.row? key = some row ∧ ¬ (DeleteAdmitted handler outside request world ∧
        row.object key ∈ filterK8sItems (world.store.listIn gvr ns) request.selectors)

def customKey (crds : CrdRegistry) (target : String) : Option ObjectKey :=
  (customRoute crds target).bind fun (custom, crd) =>
    if crd.namespaced ∧ custom.target.ns = none then none
    else custom.target.name.map (Gvr.key ⟨custom.group, custom.version, custom.target.plural⟩
      (if crd.namespaced then custom.target.ns else none))

/-- The rows of the collection that a served path sweeps away: of a kind without
namespaces those without one.  Under a path that is not served it is the custom object
that the target as it was sent names. -/
def SweptAway
    (request : Request) (gvr : Gvr) (ns : Option String) (crds : CrdRegistry)
    (key : ObjectKey) : Prop :=
  match DeleteRoute.builtin request.path with
  | some route => key.Within gvr ns ∧ (route.cluster = true → key.ns = "")
  | none => customKey crds request.target = some key

/-! ## What a collection's path is routed to -/

/-- What is parsed of a path addresses the whole of this collection, if it is a match. -/
def PathName.Whole
    (target : PathName) (group version : String) (gvr : Gvr)
    (ns : Option String) : Prop :=
  target.plural ≠ "" → (⟨group, version, target.plural⟩ : Gvr) = gvr ∧ target.ns = ns ∧
    target.name = none

variable {route : DeleteRoute}

section Parsed

variable {path : String} {gvr : Gvr} {ns : Option String}

theorem whole_noMatch (group version : String) :
    PathName.Whole .noMatch group version gvr ns :=
  fun matched => absurd rfl matched

variable {parts : List String}

theorem eq_of_givenCollection
    {target : Gvr} {within : Option String}
    (given : givenCollection parts target within = some (gvr, ns)) :
    target = gvr ∧ within = ns := by
  unfold givenCollection at given
  split at given
  · simpa using given
  · cases given

/-- The four forms of a collection's path. -/
theorem split_of_collectionPath (addressed : collectionPath path = some (gvr, ns)) :
    (∃ within, split '/' path = ["", "api", "v1", "namespaces", within, gvr.resource] ∧
        gvr.group = "" ∧ gvr.version = "v1" ∧ ns = some within) ∨
      (split '/' path = ["", "api", "v1", gvr.resource] ∧
        gvr.group = "" ∧ gvr.version = "v1" ∧ ns = none) ∨
      (∃ within, split '/' path =
          ["", "apis", gvr.group, gvr.version, "namespaces", within, gvr.resource] ∧
        ns = some within) ∨
      (split '/' path = ["", "apis", gvr.group, gvr.version, gvr.resource] ∧ ns = none) := by
  unfold collectionPath at addressed
  split at addressed
  · next within plural parts =>
      obtain ⟨rfl, rfl⟩ := eq_of_givenCollection addressed
      exact .inl ⟨within, parts, rfl, rfl, rfl⟩
  · next plural parts =>
      obtain ⟨rfl, rfl⟩ := eq_of_givenCollection addressed
      exact .inr (.inl ⟨parts, rfl, rfl, rfl⟩)
  · next group version within plural parts =>
      obtain ⟨rfl, rfl⟩ := eq_of_givenCollection addressed
      exact .inr (.inr (.inl ⟨within, parts, rfl⟩))
  · next group version plural parts =>
      obtain ⟨rfl, rfl⟩ := eq_of_givenCollection addressed
      exact .inr (.inr (.inr ⟨parts, rfl⟩))
  · cases addressed

variable {target : PathName} {group version : String}

theorem whole_given (whole : target.Whole group version gvr ns) :
    (PathName.given parts target).Whole group version gvr ns := by
  unfold PathName.given
  split
  · exact whole
  · exact whole_noMatch group version

theorem whole_nsName (addressed : collectionPath path = some (gvr, ns)) :
    (nsName path).Whole "" "v1" gvr ns := by
  obtain ⟨group, version, resource⟩ := gvr
  rcases split_of_collectionPath addressed with
    ⟨within, parts, rfl, rfl, rfl⟩ | ⟨parts, rfl, rfl, rfl⟩ | ⟨within, parts, rfl⟩ | ⟨parts, rfl⟩
  · simp only [nsName, parts]
    exact whole_given fun _ => ⟨rfl, rfl, rfl⟩
  · simp only [nsName, parts]
    exact whole_given fun _ => ⟨rfl, rfl, rfl⟩
  · simp only [nsName, parts]
    exact whole_noMatch "" "v1"
  · simp only [nsName, parts]
    exact whole_noMatch "" "v1"

theorem whole_gvNsName
    (addressed : collectionPath path = some (gvr, ns)) (group version plural : String) :
    (gvNsName path group version plural).Whole group version gvr ns := by
  obtain ⟨pathGroup, pathVersion, resource⟩ := gvr
  rcases split_of_collectionPath addressed with
    ⟨within, parts, rfl, rfl, rfl⟩ | ⟨parts, rfl, rfl, rfl⟩ | ⟨within, parts, rfl⟩ | ⟨parts, rfl⟩
  · simp only [gvNsName, parts]
    exact whole_noMatch group version
  · simp only [gvNsName, parts]
    exact whole_noMatch group version
  · simp only [gvNsName, parts]
    split
    · next same =>
        obtain ⟨rfl, rfl, rfl⟩ := same
        exact whole_given fun _ => ⟨rfl, rfl, rfl⟩
    · exact whole_noMatch group version
  · simp only [gvNsName, parts]
    split
    · next same =>
        obtain ⟨rfl, rfl, rfl⟩ := same
        exact fun _ => ⟨rfl, rfl, rfl⟩
    · exact whole_noMatch group version

theorem whole_gvClusterName
    (addressed : collectionPath path = some (gvr, ns)) (group version plural : String) :
    (gvClusterName path group version plural).Whole group version gvr ns := by
  obtain ⟨pathGroup, pathVersion, resource⟩ := gvr
  rcases split_of_collectionPath addressed with
    ⟨within, parts, rfl, rfl, rfl⟩ | ⟨parts, rfl, rfl, rfl⟩ | ⟨within, parts, rfl⟩ | ⟨parts, rfl⟩
  · simp only [gvClusterName, parts]
    exact whole_noMatch group version
  · simp only [gvClusterName, parts]
    exact whole_noMatch group version
  · simp only [gvClusterName, parts]
    exact whole_noMatch group version
  · simp only [gvClusterName, parts]
    split
    · next same =>
        obtain ⟨rfl, rfl, rfl⟩ := same
        exact fun _ => ⟨rfl, rfl, rfl⟩
    · exact whole_noMatch group version

theorem whole_subresource
    (addressed : collectionPath path = some (gvr, ns)) (group version plural : String)
    (subresources : List String) :
    (subresource path group version plural subresources).Whole group version gvr ns := by
  obtain ⟨pathGroup, pathVersion, resource⟩ := gvr
  rcases split_of_collectionPath addressed with
    ⟨within, parts, rfl, rfl, rfl⟩ | ⟨parts, rfl, rfl, rfl⟩ | ⟨within, parts, rfl⟩ | ⟨parts, rfl⟩
  all_goals
    simp only [subresource, parts]
    exact whole_noMatch group version

theorem whole_orElse
    {first second : PathName} (whole : first.Whole group version gvr ns)
    (otherwise : second.Whole group version gvr ns) :
    (first.orElse second).Whole group version gvr ns := by
  unfold PathName.orElse
  split
  · exact otherwise
  · exact whole

theorem whole_firstKind
    (addressed : collectionPath path = some (gvr, ns)) (group version : String)
    (kinds : List String) :
    (firstKind path group version kinds).Whole group version gvr ns := by
  induction kinds with
  | nil => exact whole_noMatch group version
  | cons plural rest ih =>
      exact whole_orElse (whole_gvNsName addressed group version plural) ih

theorem whole_appsNsName (addressed : collectionPath path = some (gvr, ns)) :
    (appsNsName path).Whole "apps" "v1" gvr ns :=
  whole_orElse (whole_firstKind addressed _ _ _)
    (whole_orElse (whole_subresource addressed _ _ _ _)
      (whole_orElse (whole_subresource addressed _ _ _ _) (whole_subresource addressed _ _ _ _)))

theorem whole_batchNsName (addressed : collectionPath path = some (gvr, ns)) :
    (batchNsName path).Whole "batch" "v1" gvr ns :=
  whole_orElse (whole_firstKind addressed _ _ _)
    (whole_orElse (whole_subresource addressed _ _ _ _) (whole_subresource addressed _ _ _ _))

/-- A branch of `do_DELETE` that deletes this collection. -/
structure DeleteRoute.Whole (route : DeleteRoute) (gvr : Gvr) (ns : Option String) : Prop where
  kind : route.gvr = gvr
  inNs : route.ns = ns
  unnamed : route.name = none
  everywhere : route.cluster = true → ns = none

theorem whole_namespaced
    (whole : target.Whole group version gvr ns) (matched : target.plural ≠ "") :
    (DeleteRoute.namespaced group version target).Whole gvr ns := by
  obtain ⟨kind, inNs, unnamed⟩ := whole matched
  exact ⟨kind, inNs, unnamed, nofun⟩

theorem whole_forKinds
    {kinds : List String} {route : PathName → DeleteRoute} {found : DeleteRoute}
    (routed : DeleteRoute.forKinds target kinds route = some found) (proper : "" ∉ kinds)
    (whole : target.Whole group version gvr ns)
    (routes : (DeleteRoute.namespaced group version target).Whole gvr ns →
      (route target).Whole gvr ns) :
    found.Whole gvr ns := by
  obtain ⟨listed, equal⟩ := Option.ite_none_right_eq_some.mp routed
  obtain rfl := Option.some.inj equal
  have matched : target.plural ≠ "" := fun empty =>
    proper (empty ▸ List.contains_iff_mem.mp listed)
  exact routes (whole_namespaced whole matched)

theorem ns_gvClusterName (path group version plural : String) :
    (gvClusterName path group version plural).ns = none := by
  unfold gvClusterName PathName.given
  repeat' split
  all_goals rfl

/-- A kind without namespaces has a collection of all objects only. -/
theorem whole_scopedKind
    (addressed : collectionPath path = some (gvr, ns)) {kinds : List (String × Bool)}
    {hasNs : Bool} (proper : ∀ kind ∈ kinds, kind.1 ≠ "")
    (routed : scopedKind path group kinds (fun _ => true) = some (target, hasNs)) :
    { DeleteRoute.namespaced group "v1" target with cluster := !hasNs }.Whole gvr ns := by
  obtain ⟨⟨plural, namespaced⟩, member, found⟩ := List.exists_of_findSome?_eq_some routed
  obtain ⟨⟨same, -⟩, equal⟩ := Option.ite_none_right_eq_some.mp found
  obtain ⟨rfl, rfl⟩ := Prod.mk.inj (Option.some.inj equal)
  have matched := proper _ member
  rw [← same] at matched
  cases namespaced with
  | true =>
      obtain ⟨kind, inNs, unnamed⟩ := whole_gvNsName addressed group "v1" plural matched
      exact ⟨kind, inNs, unnamed, nofun⟩
  | false =>
      obtain ⟨kind, inNs, unnamed⟩ := whole_gvClusterName addressed group "v1" plural matched
      refine ⟨kind, inNs, unnamed, fun _ => inNs.symm.trans ?_⟩
      exact ns_gvClusterName path group "v1" plural

theorem not_named_of_whole
    (whole : target.Whole group version gvr ns)
    (matched : target.plural ≠ "") : target.named = false := by
  obtain ⟨-, -, unnamed⟩ := whole matched
  rw [PathName.named, unnamed]
  rfl

theorem whole_builtin
    (addressed : collectionPath path = some (gvr, ns))
    (routed : DeleteRoute.builtin path = some route) : route.Whole gvr ns := by
  have member := mem_of_firstRoute routed
  simp only [List.mem_cons, List.not_mem_nil, or_false] at member
  rcases member with core | batch | storage | snapshot | apps | ingress | autoscaling | crd
  · obtain ⟨condition, -⟩ := Option.ite_none_right_eq_some.mp core.symm
    obtain ⟨listed, named⟩ := Bool.and_eq_true_iff.mp condition
    have matched : (nsName path).plural ≠ "" := fun empty =>
      absurd (empty ▸ listed) (by decide)
    rw [not_named_of_whole (whole_nsName addressed) matched] at named
    cases named
  · exact whole_forKinds batch.symm (by decide) (whole_batchNsName addressed) id
  · obtain ⟨⟨target, hasNs⟩, found, rfl⟩ := Option.map_eq_some_iff.mp storage.symm
    exact whole_scopedKind addressed (by decide) found
  · obtain ⟨⟨target, hasNs⟩, found, rfl⟩ := Option.map_eq_some_iff.mp snapshot.symm
    exact whole_scopedKind addressed (by decide) found
  · exact whole_forKinds apps.symm (by decide) (whole_appsNsName addressed)
      fun whole => ⟨whole.kind, whole.inNs, whole.unnamed, nofun⟩
  · exact whole_forKinds ingress.symm (by decide) (whole_gvNsName addressed _ _ _) id
  · exact whole_forKinds autoscaling.symm (by decide) (whole_gvNsName addressed _ _ _)
      fun whole => ⟨whole.kind, whole.inNs, whole.unnamed, nofun⟩
  · obtain ⟨⟨definitions, named⟩, -⟩ := Option.ite_none_right_eq_some.mp crd.symm
    have matched : (gvClusterName path "apiextensions.k8s.io" "v1"
        "customresourcedefinitions").plural ≠ "" := fun empty =>
      absurd (empty.symm.trans definitions) (by decide)
    rw [not_named_of_whole (whole_gvClusterName addressed _ _ _) matched] at named
    cases named

end Parsed

/-! ## What is removed -/

theorem mem_listIn
    (store : ObjectStore) (gvr : Gvr) (ns : Option String) (object : K8sObject) :
    object ∈ store.listIn gvr ns ↔
      ∃ key row, store.row? key = some row ∧ key.Within gvr ns ∧ row.object key = object := by
  cases ns with
  | none =>
      rw [ObjectStore.listIn, ObjectStore.mem_listAll]
      refine exists_congr fun key => exists_congr fun row => and_congr_right fun _ =>
        and_congr_left fun _ => ?_
      exact ⟨fun kind => ⟨kind, nofun⟩, ObjectKey.Within.kind⟩
  | some ns =>
      rw [ObjectStore.listIn, ObjectStore.mem_list]
      refine exists_congr fun key => exists_congr fun row => and_congr_right fun _ => ?_
      rw [← and_assoc]
      refine and_congr_left fun _ => ⟨?_, ?_⟩
      · rintro ⟨kind, inNs⟩
        exact ⟨kind, fun only same => inNs.trans (Option.some.inj same)⟩
      · rintro ⟨kind, inNs⟩
        exact ⟨kind, inNs ns rfl⟩

variable {key : ObjectKey} {row : ObjectRow}

/-- What a list with the selectors shows of a collection. -/
theorem mem_filterListIn
    (store : ObjectStore) (gvr : Gvr) (ns : Option String) (selectors : Selectors)
    (stored : store.row? key = some row) :
    row.object key ∈ filterK8sItems (store.listIn gvr ns) selectors ↔
      key.Within gvr ns ∧ matchesSelectors (row.object key) selectors = true := by
  rw [filterK8sItems, List.mem_filter, mem_listIn]
  refine and_congr_left fun _ => ⟨?_, ?_⟩
  · rintro ⟨other, otherRow, -, within, same⟩
    obtain ⟨-, rfl⟩ := object_inj.mp same
    exact within
  · intro within
    exact ⟨key, row, stored, within, rfl⟩

/-- The rows that deleting the collection removes. -/
theorem changesAt_of_whole
    {gvr : Gvr} {ns : Option String} (whole : route.Whole gvr ns) (store : ObjectStore)
    (key : ObjectKey) :
    route.decision.ChangesAt store key ↔
      (key.Within gvr ns ∧ (route.cluster = true → key.ns = "")) ∧ (store.row? key).isSome := by
  obtain ⟨kind, inNs, unnamed, everywhere⟩ := whole
  rw [DeleteRoute.decision, unnamed, kind, inNs]
  refine and_congr_left fun present => ?_
  obtain ⟨row, stored⟩ := Option.isSome_iff_exists.mp present
  constructor
  · rintro ⟨object, member, rfl⟩
    obtain ⟨other, otherRow, -, within, rfl⟩ := (mem_listIn store gvr ns object).mp member
    cases cluster : route.cluster with
    | true =>
        obtain rfl := everywhere cluster
        exact ⟨⟨rfl, fun _ absent => by cases absent⟩, fun _ => rfl⟩
    | false => exact ⟨⟨rfl, within.inNs⟩, fun different => by cases different⟩
  · rintro ⟨within, bare⟩
    refine ⟨row.object key, (mem_listIn ..).mpr ⟨key, row, stored, within, rfl⟩, ?_⟩
    obtain ⟨keyGvr, keyNs, name⟩ := key
    obtain rfl : keyGvr = gvr := within.kind
    cases cluster : route.cluster with
    | true =>
        obtain rfl : keyNs = "" := bare cluster
        rfl
    | false => rfl

theorem changesAt_customDelete
    (crds : CrdRegistry) (target : String) (store : ObjectStore) (key : ObjectKey) :
    (∃ custom crd, customRoute crds target = some (custom, crd) ∧
        (customDelete custom crd).ChangesAt store key) ↔
      customKey crds target = some key ∧ (store.row? key).isSome := by
  unfold customKey
  rcases customRoute crds target with _ | ⟨custom, crd⟩
  · simp
  · have one : (∃ other otherCrd, some (custom, crd) = some (other, otherCrd) ∧
        (customDelete other otherCrd).ChangesAt store key) ↔
        (customDelete custom crd).ChangesAt store key := by
      simp
    rw [one, Option.bind_some, customDelete]
    dsimp only
    by_cases refused : crd.namespaced = true ∧ custom.target.ns = none
    · simp [refused, Decision.ChangesAt]
    · rw [if_neg refused, if_neg refused]
      cases custom.target.name with
      | none => simp [Decision.ChangesAt]
      | some name => simp [Decision.ChangesAt]

section Requests

variable {handler : ShimHandler} {outside : ShimOutside} {request : Request}
variable {gvr : Gvr} {ns : Option String} {world : ShimWorld}

theorem not_leads_stores_delete (delete : request.method = .delete) :
    ¬ Leads (ShimOp.execute outside) (fun decision _ => decision.Stores fun _ => True)
      (decideRequest handler request) world := by
  unfold decideRequest
  rw [delete]
  intro leads
  obtain ⟨cached, entered, -, stores⟩ :=
    (leads_authz_iff (reports_stores fun _ => True) .read _).mp leads
  exact not_leads_stores_deleteDecision _ request stores

/-- A `DELETE` keeps a row unless it comes to a decision that changes it. -/
theorem row?_afterDelete_iff
    (delete : request.method = .delete) (key : ObjectKey) (row : ObjectRow) :
    (afterRequest handler outside request world).store.row? key = some row ↔
      world.store.row? key = some row ∧
        ¬ Leads (ShimOp.execute outside) (fun decision _ => decision.ChangesAt world.store key)
          (decideRequest handler request) world := by
  by_cases changed : Leads (ShimOp.execute outside)
      (fun decision _ => decision.ChangesAt world.store key) (decideRequest handler request)
      world
  · obtain ⟨decision, after, decided, changes⟩ := (leads_iff_runAlone _ _ _).mp changed
    have removed : decision.rowAfter world.store key = none := by
      cases decision with
      | respond status => exact changes.elim
      | answer => exact changes.elim
      | upsert basis write crdName =>
          exact absurd ((leads_of_runAlone decided).mpr trivial) (not_leads_stores_delete delete)
      | delete gvr ns name unregister => exact if_pos changes.1
      | deleteAll gvr ns cluster => exact if_pos changes.1
    rw [row?_afterRequest decided, removed]
    simp [changed]
  · rw [(row?_afterRequest_iff handler outside request world key).mpr changed]
    simp [changed]

/-- A `DELETE` of a collection changes the rows that it sweeps away. -/
theorem leads_changesAt_iff
    (delete : request.method = .delete) (addressed : collectionPath request.path = some (gvr, ns))
    (present : (world.store.row? key).isSome) :
    Leads (ShimOp.execute outside) (fun decision _ => decision.ChangesAt world.store key)
        (decideRequest handler request) world ↔
      DeleteAdmitted handler outside request world ∧ SweptAway request gvr ns world.crds key := by
  have reports : Decision.Reports (Decision.ChangesAt world.store key) fun write =>
      write.gvr.key write.ns write.name = key :=
    ⟨fun _ => not_false, not_false, fun _ _ _ => Iff.rfl⟩
  unfold decideRequest
  rw [delete]
  refine (leads_authz_iff reports .read _).trans ?_
  unfold DeleteAdmitted SweptAway
  cases routed : DeleteRoute.builtin request.path with
  | some route =>
      have swept := changesAt_of_whole (whole_builtin addressed routed) world.store key
      simp only [leads_builtinDelete reports routed, swept, present, and_true,
        Option.some.injEq, forall_eq', ← and_assoc, exists_and_right]
  | none =>
      constructor
      · rintro ⟨cached, entered, passed, leads⟩
        rw [leads_customDelete reports routed, crds_of_authz passed,
          changesAt_customDelete] at leads
        exact ⟨⟨cached, entered, passed, nofun⟩, leads.1⟩
      · rintro ⟨⟨cached, entered, passed, -⟩, swept⟩
        refine ⟨cached, entered, passed, ?_⟩
        rw [leads_customDelete reports routed, crds_of_authz passed, changesAt_customDelete]
        exact ⟨swept, present⟩

/-- A `DELETE` of a collection removes what the list with its selectors shows exactly
when a request that is let through sweeps that away. -/
theorem bulkDeleteExact_iff
    (delete : request.method = .delete)
    (addressed : collectionPath request.path = some (gvr, ns)) :
    BulkDeleteExact handler outside request gvr ns world ↔
      (DeleteAdmitted handler outside request world → ∀ key row, world.store.row? key = some row →
          (SweptAway request gvr ns world.crds key ↔ key.Within gvr ns ∧
              matchesSelectors (row.object key) request.selectors = true)) := by
  have kept : ∀ key row, world.store.row? key = some row →
      ((afterRequest handler outside request world).store.row? key = some row ↔
        ¬ (DeleteAdmitted handler outside request world ∧
          SweptAway request gvr ns world.crds key)) := by
    intro key row stored
    have present : (world.store.row? key).isSome := by rw [stored]; rfl
    rw [row?_afterDelete_iff delete, leads_changesAt_iff delete addressed present]
    exact and_iff_right stored
  constructor
  · intro exactly admitted key row stored
    have same := (kept key row stored).symm.trans (exactly key row)
    rw [mem_filterListIn world.store gvr ns request.selectors stored] at same
    simp only [stored, admitted, true_and] at same
    exact not_iff_not.mp same
  · intro swept key row
    by_cases stored : world.store.row? key = some row
    · rw [kept key row stored, mem_filterListIn world.store gvr ns request.selectors stored]
      by_cases admitted : DeleteAdmitted handler outside request world
      · simp only [admitted, stored, true_and, swept admitted key row stored]
      · simp only [admitted, stored, false_and, not_false_eq_true, and_self]
    · refine iff_of_false ?_ fun both => stored both.1
      exact fun after => stored ((row?_afterDelete_iff delete key row).mp after).1

end Requests

/-! ## Two deployments -/

def withDeployment (store : ObjectStore) (name : String) : ObjectStore :=
  (store.upsert deploymentsResource (some "default") name
    (.dict [("name", .str name), ("labels", .dict [("app", .str name)])]) (.dict [])
    (.dict [])).2

/-- The deployments `web` and `db` with their labels. -/
def twoDeployments : ShimWorld where
  store := withDeployment (withDeployment .empty "web") "db"
  saTokens := fun _ => none
  crds := .empty
  calls := 0

/-- A `DELETE` of the deployments of a namespace with a label selector. -/
def deleteDeployments (selector : String) : Request :=
  { readerRequest .delete "/apis/apps/v1/namespaces/default/deployments" "" with
    query := [("labelSelector", [selector])] }

def deploymentRow (name : String) (version : Nat) : ObjectRow where
  metadata := .dict [("name", .str name), ("labels", .dict [("app", .str name)])]
  spec := .dict []
  status := .dict []
  rv := version

theorem row?_twoDeployments (stored : twoDeployments.store.row? key = some row) :
    ∃ name version, (name = "web" ∨ name = "db") ∧
      key = deploymentsResource.key (some "default") name ∧
      row = deploymentRow name version := by
  rw [twoDeployments, withDeployment, withDeployment, ObjectStore.row?_upsert,
    ObjectStore.row?_upsert, ObjectStore.row?_empty] at stored
  split at stored
  · next same =>
      obtain rfl := Option.some.inj stored
      exact ⟨"db", _, .inr rfl, same.symm, rfl⟩
  · split at stored
    · next same =>
        obtain rfl := Option.some.inj stored
        exact ⟨"web", _, .inl rfl, same.symm, rfl⟩
    · cases stored

theorem matchesSelectors_deploymentRow
    (name : String) (version : Nat) (key : ObjectKey) (selectors : Selectors) :
    matchesSelectors ((deploymentRow name version).object key) selectors =
      matchesSelectors ((deploymentRow name 0).object key) selectors := rfl

/-- A selector that both match removes them both. -/
theorem bulkDeleteExact_twoDeployments :
    BulkDeleteExact openHandler stillOutside (deleteDeployments "app in (web, db)")
        deploymentsResource (some "default") twoDeployments ∧
      (afterRequest openHandler stillOutside (deleteDeployments "app in (web, db)")
        twoDeployments).store.rows.isEmpty = true := by
  refine ⟨(bulkDeleteExact_iff rfl (by decide +kernel)).mpr fun _ key row stored => ?_,
    by decide +kernel⟩
  obtain ⟨name, version, either, rfl, rfl⟩ := row?_twoDeployments stored
  have within : (deploymentsResource.key (some "default") name).Within deploymentsResource
      (some "default") := ⟨rfl, fun only same => Option.some.inj same⟩
  have served : (DeleteRoute.builtin (deleteDeployments "app in (web, db)").path).map
      DeleteRoute.cluster = some false := by
    decide +kernel
  obtain ⟨route, routed, bare⟩ := Option.map_eq_some_iff.mp served
  unfold SweptAway
  rw [routed]
  refine iff_of_true ⟨within, fun cluster => ?_⟩ ⟨within, ?_⟩
  · rw [bare] at cluster
    cases cluster
  · rw [matchesSelectors_deploymentRow]
    rcases either with rfl | rfl
    · decide +kernel
    · decide +kernel

/-- A selector that only one matches removes the other one, too. -/
theorem not_bulkDeleteExact_twoDeployments :
    (deleteDeployments "app=web").method = .delete ∧
      collectionPath (deleteDeployments "app=web").path =
        some (deploymentsResource, some "default") ∧
      ¬ BulkDeleteExact openHandler stillOutside (deleteDeployments "app=web")
        deploymentsResource (some "default") twoDeployments := by
  refine ⟨rfl, by decide +kernel, fun exactly => ?_⟩
  have stored : (twoDeployments.store.row?
      (deploymentsResource.key (some "default") "db")).isSome = true := by
    decide +kernel
  obtain ⟨row, stored⟩ := Option.isSome_iff_exists.mp stored
  have gone : (afterRequest openHandler stillOutside (deleteDeployments "app=web")
      twoDeployments).store.row? (deploymentsResource.key (some "default") "db") = none := by
    decide +kernel
  have unmatched : ¬ row.object (deploymentsResource.key (some "default") "db") ∈
      filterK8sItems (twoDeployments.store.listIn deploymentsResource (some "default"))
        (deleteDeployments "app=web").selectors := by
    rw [mem_filterListIn _ _ _ _ stored]
    rintro ⟨-, matching⟩
    obtain ⟨name, version, -, same, rfl⟩ := row?_twoDeployments stored
    obtain rfl : "db" = name := congrArg ObjectKey.name same
    rw [matchesSelectors_deploymentRow] at matching
    revert matching
    decide +kernel
  have kept := (exactly _ row).mpr ⟨stored, fun both => unmatched both.2⟩
  rw [gone] at kept
  cases kept

end ApiShim
end K1s
