import K1s.ApiShim.Fields

/-!
# The versions that shown objects report

The version of an object is a column of its row.  The metadata may carry one too, and
the renderers fill a version in only where there is none.  Custom resources and their
definitions are never given one.  An object reports its version exactly when its row
is `Fresh`.
-/

namespace K1s
namespace ApiShim

open Py Program

/-! ## What a shown object reports -/

def reportedVersion (doc : Json) : Json := (doc.item "metadata").item "resourceVersion"

/-- The metadata that are shown instead of those of a service account: what its
spec contains is shown at the top of the document. -/
def overlaidMetadata (gvr : Gvr) (spec : Json) : Option Json :=
  if gvr = serviceAccountsResource then
    Dict.find? (dictUpdate [] spec.entries) "metadata"
  else none

def carriedVersion (gvr : Gvr) (metadata spec : Json) : Option Json :=
  match overlaidMetadata gvr spec with
  | some md => some (md.item "resourceVersion")
  | none => Dict.find? metadata.entries "resourceVersion"

def Renderer.fills : Renderer → Bool
  | .definition | .custom _ => false
  | _ => true

/-- Kinds whose renderer fills in a missing version. -/
def fillsVersion (gvr : Gvr) : Bool :=
  ((renderersBefore ++ renderersAfter).lookup gvr).any Renderer.fills

/-- The version of an object whose stored metadata are shown, filled in where they
have none. -/
def filledVersion (o : K8sObject) : Json :=
  (Dict.find? o.metadata.entries "resourceVersion").getD (.str (toString o.resourceVersion))

variable {gvr : Gvr}

theorem carriedVersion_of_ne
    (other : gvr ≠ serviceAccountsResource) (metadata spec : Json) :
    carriedVersion gvr metadata spec = Dict.find? metadata.entries "resourceVersion" := by
  rw [carriedVersion, overlaidMetadata, if_neg other]

theorem filledVersion_eq {o : K8sObject} (other : o.gvr ≠ serviceAccountsResource) :
    filledVersion o = (carriedVersion o.gvr o.metadata o.spec).getD
      (.str (toString o.resourceVersion)) := by
  rw [carriedVersion_of_ne other, filledVersion]

variable {store : ObjectStore} {found : Renderer} {outside : ShimOutside}
  {after world : ShimWorld} {reads : StateReads}

section Render

variable {crds : CrdRegistry} {o : K8sObject} {doc : Json}

theorem renderer_serviceAccounts (crds : CrdRegistry) :
    renderer crds serviceAccountsResource = some .object := rfl

theorem mem_of_renderer
    (rendered : renderer crds gvr = some found) (builtin : ∀ kind, found ≠ .custom kind) :
    (gvr, found) ∈ renderersBefore ++ renderersAfter := by
  unfold renderer at rendered
  rw [List.mem_append]
  split at rendered
  · next other listed =>
      obtain rfl := Option.some.inj rendered
      obtain ⟨before, after, split, -⟩ := List.lookup_eq_some_iff.mp listed
      exact .inl (by simp [split])
  · split at rendered
    · exact absurd (Option.some.inj rendered).symm (builtin _)
    · obtain ⟨before, after, split, -⟩ := List.lookup_eq_some_iff.mp rendered
      exact .inr (by simp [split])

/-- The kinds that are shown as core objects. -/
theorem core_of_renderer
    (rendered : renderer crds gvr = some found) (object : found = .object ∨ found = .service) :
    gvr.group = "" ∧ gvr.version = "v1" := by
  have tables : ∀ entry ∈ renderersBefore ++ renderersAfter,
      entry.2 = .object ∨ entry.2 = .service → entry.1.group = "" ∧ entry.1.version = "v1" := by
    simp [renderersBefore, renderersAfter, coreKinds, snapshotKinds, storageKinds, rbacKinds]
  refine tables _ (mem_of_renderer rendered ?_) object
  rintro kind rfl
  simp at object

variable {fields : Dict}

theorem reportedVersion_of_find?
    {md : Json} (found : Dict.find? fields "metadata" = some md) :
    reportedVersion (.dict fields) = md.item "resourceVersion" := by
  simp [reportedVersion, Dict.get, found]

theorem reportedVersion_of_metadata
    (entries : Dict) (found : Dict.find? fields "metadata" = some (.dict entries)) :
    reportedVersion (.dict fields) = Dict.get entries "resourceVersion" :=
  reportedVersion_of_find? found

/-- The five entries of a shown object have the metadata among them. -/
theorem reportedVersion_shown (version kind : String) (entries : Dict) (spec status : Json) :
    reportedVersion (shown version kind entries spec status) =
      Dict.get entries "resourceVersion" := by
  exact reportedVersion_of_metadata entries (by simp [Dict.find?_cons])

/-- The version among metadata that are filled up. -/
theorem get_shownMetadata {entries : Dict} (filled : shownMetadata o = some entries) :
    Dict.get entries "resourceVersion" = filledVersion o := by
  rw [Dict.get, find?_shownMetadata_version filled, Option.getD_some, filledVersion]

/-- Setting the generation leaves the version. -/
theorem get_generation
    {entries : Dict} (filled : shownMetadata o = some entries) (generation : Json) :
    Dict.get (Dict.set entries "generation" generation) "resourceVersion" = filledVersion o := by
  rw [Dict.get_set_of_ne _ _ (by decide), get_shownMetadata filled]

theorem find?_body_metadata
    (core : o.gvr.group = "" ∧ o.gvr.version = "v1") {body : Dict}
    (given : objectBody o = some body) :
    Dict.find? (dictUpdate [] body) "metadata" = overlaidMetadata o.gvr o.spec := by
  have account : o.gvr = serviceAccountsResource ↔ o.gvr.resource = "serviceaccounts" := by
    obtain ⟨group, version⟩ := core
    cases kind : o.gvr
    simp_all [serviceAccountsResource]
  unfold objectBody at given
  unfold overlaidMetadata
  simp only [account]
  split at given
  · next data =>
      obtain rfl := Option.some.inj given
      have other : o.gvr.resource ≠ "serviceaccounts" := by
        intro same
        simp [same] at data
      simp [other, dictUpdate, Dict.set, Dict.find?_cons]
  · split at given
    · next same =>
        rw [if_pos same]
        split at given
        · rw [entries_of_dictOf given]
        · next falsy =>
            obtain rfl := Option.some.inj given
            have empty : o.spec.entries = [] := by
              cases spec : o.spec with
              | dict entries =>
                  rw [spec] at falsy
                  simpa [Json.entries] using falsy
              | _ => rfl
            rw [empty]
    · next other =>
        obtain rfl := Option.some.inj given
        rw [if_neg other, find?_dictUpdate_unlessFalse]
        simp

theorem reportedVersion_toObj
    (core : o.gvr.group = "" ∧ o.gvr.version = "v1") (made : toObj o = some doc) :
    reportedVersion doc = (carriedVersion o.gvr o.metadata o.spec).getD
      (.str (toString o.resourceVersion)) := by
  obtain ⟨entries, kind, body, fields, filled, -, given, rfl, find⟩ := exists_fields_of_toObj made
  have head : Dict.find? (objectHead o kind entries) "metadata" = some (.dict entries) := by
    simp [objectHead, Dict.find?_cons]
  have found := find "metadata"
  rw [find?_body_metadata core given, head] at found
  unfold carriedVersion
  cases overlaid : overlaidMetadata o.gvr o.spec with
  | some md => exact reportedVersion_of_find? (by simpa [overlaid] using found)
  | none =>
      refine (reportedVersion_of_metadata entries (by simpa [overlaid] using found)).trans ?_
      exact get_shownMetadata filled

theorem reportedVersion_toService
    {record : Option ServiceRecord} (core : o.gvr.group = "" ∧ o.gvr.version = "v1")
    (made : toService record o = some doc) :
    reportedVersion doc = (carriedVersion o.gvr o.metadata o.spec).getD
      (.str (toString o.resourceVersion)) := by
  obtain ⟨plain, object, made⟩ := Option.bind_eq_some_iff.mp made
  obtain ⟨merged, provided, rfl⟩ := Option.map_eq_some_iff.mp made
  rw [← reportedVersion_toObj core object]
  unfold mergeProviderService at provided
  dsimp only at provided
  split at provided
  · obtain ⟨status, -, provided⟩ := Option.bind_eq_some_iff.mp provided
    obtain ⟨spec, -, provided⟩ := Option.bind_eq_some_iff.mp provided
    obtain ⟨lbStatus, -, rfl⟩ := Option.map_eq_some_iff.mp provided
    simp only [reportedVersion, Json.item, Json.entries]
    rw [Dict.get_set_of_ne _ _ (by decide), Dict.get_set_of_ne _ _ (by decide)]
  · cases provided

/-! ### The renderers one by one -/

theorem reportedVersion_toDeployment (made : toDeployment o = some doc) :
    reportedVersion doc = filledVersion o := by
  obtain ⟨entries, filled, made⟩ := Option.bind_eq_some_iff.mp made
  obtain ⟨given, -, made⟩ := Option.bind_eq_some_iff.mp made
  obtain ⟨spec, -, made⟩ := Option.bind_eq_some_iff.mp made
  obtain ⟨status, -, rfl⟩ := Option.map_eq_some_iff.mp made
  rw [reportedVersion_shown, get_generation filled]

theorem reportedVersion_toStatefulset (made : toStatefulset o = some doc) :
    reportedVersion doc = filledVersion o := by
  obtain ⟨entries, filled, made⟩ := Option.bind_eq_some_iff.mp made
  obtain ⟨status, -, made⟩ := Option.bind_eq_some_iff.mp made
  obtain ⟨spec, -, rfl⟩ := Option.map_eq_some_iff.mp made
  rw [reportedVersion_shown, get_generation filled]

theorem reportedVersion_toDaemonset
    {nodes : Option Nat} (made : toDaemonsetOn nodes o = some doc) :
    reportedVersion doc = filledVersion o := by
  cases nodes with
  | none =>
      obtain ⟨entries, filled, made⟩ := Option.bind_eq_some_iff.mp made
      obtain ⟨raw, -, made⟩ := Option.bind_eq_some_iff.mp made
      obtain ⟨replicas, -, made⟩ := Option.bind_eq_some_iff.mp made
      obtain ⟨status, -, made⟩ := Option.bind_eq_some_iff.mp made
      obtain ⟨spec, -, rfl⟩ := Option.map_eq_some_iff.mp made
      rw [reportedVersion_shown, get_generation filled]
  | some desired =>
      obtain ⟨entries, filled, made⟩ := Option.bind_eq_some_iff.mp made
      obtain ⟨status, -, made⟩ := Option.bind_eq_some_iff.mp made
      obtain ⟨spec, -, rfl⟩ := Option.map_eq_some_iff.mp made
      rw [reportedVersion_shown, get_generation filled]

theorem reportedVersion_toIngress {vip : Json} (made : toIngress vip o = some doc) :
    reportedVersion doc = filledVersion o := by
  obtain ⟨entries, filled, made⟩ := Option.bind_eq_some_iff.mp made
  obtain ⟨spec, -, made⟩ := Option.bind_eq_some_iff.mp made
  obtain ⟨given, -, made⟩ := Option.bind_eq_some_iff.mp made
  obtain ⟨status, -, rfl⟩ := Option.map_eq_some_iff.mp made
  rw [reportedVersion_of_metadata entries (by simp [Dict.find?_cons]), get_shownMetadata filled]

theorem reportedVersion_toJob (made : toJob o = some doc) :
    reportedVersion doc = filledVersion o := by
  obtain ⟨entries, filled, made⟩ := Option.bind_eq_some_iff.mp made
  obtain ⟨given, -, made⟩ := Option.bind_eq_some_iff.mp made
  obtain ⟨parallelism, -, made⟩ := Option.bind_eq_some_iff.mp made
  obtain ⟨raw, -, made⟩ := Option.bind_eq_some_iff.mp made
  obtain ⟨completions, -, made⟩ := Option.bind_eq_some_iff.mp made
  obtain ⟨complete, -, made⟩ := Option.bind_eq_some_iff.mp made
  obtain ⟨spec, -, rfl⟩ := Option.map_eq_some_iff.mp made
  rw [reportedVersion_shown, get_shownMetadata filled]

theorem reportedVersion_toCronjob (made : toCronjob o = some doc) :
    reportedVersion doc = filledVersion o := by
  obtain ⟨entries, filled, made⟩ := Option.bind_eq_some_iff.mp made
  obtain ⟨status, -, made⟩ := Option.bind_eq_some_iff.mp made
  obtain ⟨spec, -, rfl⟩ := Option.map_eq_some_iff.mp made
  rw [reportedVersion_shown, get_shownMetadata filled]

theorem reportedVersion_toGeneric {kind : String} (made : toGeneric kind o = some doc) :
    reportedVersion doc = filledVersion o := by
  obtain ⟨entries, filled, made⟩ := Option.bind_eq_some_iff.mp made
  obtain ⟨data, -, rfl⟩ := Option.map_eq_some_iff.mp made
  rw [← get_shownMetadata filled]
  dsimp only
  split_ifs <;> exact reportedVersion_of_metadata entries (by simp [Dict.find?_cons])

theorem reportedVersion_toHpa
    (made : runAlone (ShimOp.execute outside) (toHpa o) world = (some doc, after)) :
    reportedVersion doc = filledVersion o := by
  have leads : Leads (ShimOp.execute outside) (fun found _ => found = doc) (toHpa o) world :=
    (leads_iff_runAlone _ _ _).mpr ⟨doc, after, made, rfl⟩
  unfold toHpa at leads
  simp only [bind_eq, pure_eq, leads_andThen, leads_ofOption] at leads
  obtain ⟨entries, filled, status, -, leads⟩ := leads
  split at leads
  · simp only [leads_andThen, leads_ofOption, leads_done] at leads
    obtain ⟨target, later, -, rest⟩ := (leads_iff_runAlone _ _ _).mp leads
    obtain ⟨shownStatus, -, rfl⟩ := rest
    rw [reportedVersion_shown, get_shownMetadata filled]
  · exact leads.elim

/-- Definitions are shown without a version of their own. -/
theorem reportedVersion_toCrd (made : toCrd o = some doc) :
    reportedVersion doc = (Dict.find? o.metadata.entries "resourceVersion").getD .null := by
  obtain ⟨entries, read, made⟩ := Option.bind_eq_some_iff.mp made
  obtain ⟨spec, -, rfl⟩ := Option.map_eq_some_iff.mp made
  rw [reportedVersion_of_metadata (Dict.setdefault entries "name" (.str o.name))
      (by simp [Dict.find?_cons]),
    Dict.get, Dict.find?_setdefault_of_ne _ _ (by decide),
    entries_of_dictOf read]

theorem reportedVersion_renderCustomResource
    {kind : Json} (made : renderCustomResource kind o = some doc) :
    reportedVersion doc = (Dict.find? o.metadata.entries "resourceVersion").getD .null := by
  obtain ⟨entries, named, rfl⟩ := Option.map_eq_some_iff.mp made
  rw [reportedVersion_of_metadata entries (by simp [Dict.find?_cons]),
    Dict.get, find?_shownName named (by decide)]

/-! ### All renderers -/

/-- What a shown object reports: the version that its metadata carry, or else its
own where the renderer fills it in. -/
theorem reportedVersion_render
    (rendered : renderer crds o.gvr = some found)
    (ran : runAlone (ShimOp.execute outside) (found.render reads store o) world =
      (some doc, after)) :
    reportedVersion doc = (carriedVersion o.gvr o.metadata o.spec).getD
      (if found.fills then .str (toString o.resourceVersion) else .null) := by
  have other : found ≠ .object → o.gvr ≠ serviceAccountsResource := by
    intro different same
    rw [same, renderer_serviceAccounts] at rendered
    exact different (Option.some.inj rendered).symm
  cases found with
  | object =>
      rw [Renderer.render, runAlone_ofOption] at ran
      exact reportedVersion_toObj (core_of_renderer rendered (.inl rfl)) (Prod.mk.inj ran).1
  | service =>
      rw [Renderer.render, runAlone_ofOption] at ran
      exact reportedVersion_toService (core_of_renderer rendered (.inr rfl)) (Prod.mk.inj ran).1
  | deployment =>
      rw [Renderer.render, runAlone_ofOption] at ran
      exact (reportedVersion_toDeployment (Prod.mk.inj ran).1).trans (filledVersion_eq (other (by simp)))
  | statefulset =>
      rw [Renderer.render, runAlone_ofOption] at ran
      exact (reportedVersion_toStatefulset (Prod.mk.inj ran).1).trans (filledVersion_eq (other (by simp)))
  | daemonset =>
      rw [Renderer.render, runAlone_ofOption] at ran
      exact (reportedVersion_toDaemonset (Prod.mk.inj ran).1).trans (filledVersion_eq (other (by simp)))
  | ingress =>
      rw [Renderer.render, runAlone_ofOption] at ran
      exact (reportedVersion_toIngress (Prod.mk.inj ran).1).trans (filledVersion_eq (other (by simp)))
  | job =>
      rw [Renderer.render, runAlone_ofOption] at ran
      exact (reportedVersion_toJob (Prod.mk.inj ran).1).trans (filledVersion_eq (other (by simp)))
  | cronjob =>
      rw [Renderer.render, runAlone_ofOption] at ran
      exact (reportedVersion_toCronjob (Prod.mk.inj ran).1).trans (filledVersion_eq (other (by simp)))
  | generic kind =>
      rw [Renderer.render, runAlone_ofOption] at ran
      exact (reportedVersion_toGeneric (Prod.mk.inj ran).1).trans (filledVersion_eq (other (by simp)))
  | autoscaler =>
      exact (reportedVersion_toHpa ran).trans (filledVersion_eq (other (by simp)))
  | definition =>
      rw [Renderer.render, runAlone_ofOption] at ran
      rw [carriedVersion_of_ne (other (by simp))]
      exact reportedVersion_toCrd (Prod.mk.inj ran).1
  | custom kind =>
      rw [Renderer.render, runAlone_ofOption] at ran
      rw [carriedVersion_of_ne (other (by simp))]
      exact reportedVersion_renderCustomResource (Prod.mk.inj ran).1

end Render

/-! ## Fresh rows -/

/-- Metadata that carry this version, or in which it is filled in. -/
def Reports (version : Nat) (gvr : Gvr) (carried : Option Json) : Prop :=
  carried = some (.str (toString version)) ∨ carried = none ∧ fillsVersion gvr = true

def ObjectRow.Fresh (key : ObjectKey) (row : ObjectRow) : Prop :=
  Reports row.rv key.gvr (carriedVersion key.gvr row.metadata row.spec)

/-- A custom resource is registered under the name of a kind that the server has
itself; the objects of the kind are then shown as custom resources. -/
def Shadowed (crds : CrdRegistry) (gvr : Gvr) : Prop :=
  (renderersAfter.lookup gvr).isSome = true ∧ (crds.kindOf gvr).isSome = true

theorem fills_of_renderer
    {crds : CrdRegistry} (rendered : renderer crds gvr = some found)
    (plain : ¬ Shadowed crds gvr) : found.fills = fillsVersion gvr := by
  unfold renderer at rendered
  unfold fillsVersion
  rw [List.lookup_append]
  cases listed : renderersBefore.lookup gvr with
  | some before =>
      rw [listed] at rendered
      simp [Option.some.inj rendered]
  | none =>
      rw [listed] at rendered
      cases custom : crds.kindOf gvr with
      | some crd =>
          rw [custom] at rendered
          obtain rfl := Option.some.inj rendered
          have missing : renderersAfter.lookup gvr = none :=
            Option.not_isSome_iff_eq_none.mp fun listed => plain ⟨listed, by simp [custom]⟩
          simp [missing, Renderer.fills]
      | none =>
          rw [custom] at rendered
          simp [rendered]

/-- An object as the store returns it for a row: the namespace is as the caller has
given it. -/
structure ObjectRow.ReturnedAs (row : ObjectRow) (key : ObjectKey) (o : K8sObject) : Prop where
  kind : o.gvr = key.gvr
  metadata : o.metadata = row.metadata
  spec : o.spec = row.spec
  version : o.resourceVersion = row.rv

/-- A renderer that is used for the objects of a kind.  The response to a write shows
a service without what the controller's state records of it. -/
def ShownBy (crds : CrdRegistry) (gvr : Gvr) (found : Renderer) : Prop :=
  renderer crds gvr = some found ∨ renderer crds gvr = some .service ∧ found = .object

/-- An object is shown with its version exactly when its row is fresh. -/
theorem reportedVersion_eq_iff
    {crds : CrdRegistry} {key : ObjectKey} {row : ObjectRow} {o : K8sObject} {doc : Json}
    (returned : row.ReturnedAs key o) (rendered : ShownBy crds key.gvr found)
    (plain : ¬ Shadowed crds key.gvr)
    (ran : runAlone (ShimOp.execute outside) (found.render reads store o) world =
      (some doc, after)) :
    reportedVersion doc = .str (toString row.rv) ↔ row.Fresh key := by
  rw [← returned.kind] at rendered plain
  have reported : reportedVersion doc = (carriedVersion o.gvr o.metadata o.spec).getD
      (if fillsVersion o.gvr then .str (toString o.resourceVersion) else .null) := by
    rcases rendered with rendered | ⟨service, rfl⟩
    · rw [reportedVersion_render rendered ran, fills_of_renderer rendered plain]
    · rw [Renderer.render, runAlone_ofOption] at ran
      rw [← fills_of_renderer service plain]
      exact reportedVersion_toObj (core_of_renderer service (.inr rfl)) (Prod.mk.inj ran).1
  rw [reported, ObjectRow.Fresh, Reports, ← returned.kind, ← returned.metadata,
    ← returned.spec, ← returned.version]
  cases carriedVersion o.gvr o.metadata o.spec with
  | some version => simp
  | none => cases fillsVersion o.gvr <;> simp

end ApiShim
end K1s
