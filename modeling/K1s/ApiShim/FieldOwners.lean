import K1s.ApiShim.ManagedFields

/-!
# Conflicts between managers

A manager owns the paths that are recorded for it, which are those of every key and list
item of its patches.  A conflict is reported where any path of another patch is owned,
also that of an object or a list which the two patches only pass through.
-/

namespace K1s
namespace ApiShim

open Py

/-! ## The paths of a patch -/

/-- A value that a path goes on into. -/
def isInner : Json → Bool
  | .dict entries => !entries.isEmpty
  | .list items => !items.isEmpty
  | _ => false

mutual

/-- The paths of the leaf fields and of the list items, or those of the other keys. -/
def pathsOf (leaf : Bool) (before : String) : Json → List String
  | .dict entries => entryPathsOf leaf before entries
  | .list items => itemPathsOf leaf before items
  | _ => []

def entryPathsOf (leaf : Bool) (before : String) : List (String × Json) → List String
  | [] => []
  | (key, value) :: rest =>
      let path := before ++ "/" ++ key
      (if isInner value = leaf then [] else [path]) ++ pathsOf leaf path value ++
        entryPathsOf leaf before rest

def itemPathsOf (leaf : Bool) (before : String) : List Json → List String
  | [] => []
  | .dict entries :: rest =>
      let token := listItemKey entries
      let path := before ++ "/" ++ if token = .null then "[]" else "[" ++ token.toStr ++ "]"
      (if leaf then [path] else []) ++ entryPathsOf leaf path entries ++
        itemPathsOf leaf before rest
  | _ :: rest => (if leaf then [before ++ "/[]"] else []) ++ itemPathsOf leaf before rest

end

def leafPaths (patch : Dict) : List String := pathsOf true "" (.dict patch)

/-- The objects and lists that a patch goes through. -/
def innerPaths (patch : Dict) : List String := pathsOf false "" (.dict patch)

mutual

theorem mem_extractFieldPaths (path : String) : (before : String) → (value : Json) →
    (path ∈ extractFieldPaths before value ↔
      path ∈ pathsOf true before value ∨ path ∈ pathsOf false before value)
  | before, .dict entries => by
      simpa only [extractFieldPaths, pathsOf] using mem_entryPaths path before entries
  | before, .list items => by
      simpa only [extractFieldPaths, pathsOf] using mem_itemPaths path before items
  | _, .null | _, .bool _ | _, .int _ | _, .float _ | _, .str _ => by
      simp [extractFieldPaths, pathsOf]

theorem mem_entryPaths (path : String) : (before : String) → (entries : Dict) →
    (path ∈ entryPaths before entries ↔
      path ∈ entryPathsOf true before entries ∨ path ∈ entryPathsOf false before entries)
  | _, [] => by simp [entryPaths, entryPathsOf]
  | before, (key, value) :: rest => by
      have inside := mem_extractFieldPaths path (before ++ "/" ++ key) value
      have later := mem_entryPaths path before rest
      simp only [entryPaths, entryPathsOf, List.mem_cons, List.mem_append, inside, later]
      cases isInner value <;> simp <;> tauto

theorem mem_itemPaths (path : String) : (before : String) → (items : List Json) →
    (path ∈ itemPaths before items ↔
      path ∈ itemPathsOf true before items ∨ path ∈ itemPathsOf false before items)
  | _, [] => by simp [itemPaths, itemPathsOf]
  | before, .dict entries :: rest => by
      have inside := mem_entryPaths path (before ++ "/" ++ if listItemKey entries = .null
        then "[]" else "[" ++ (listItemKey entries).toStr ++ "]") entries
      have later := mem_itemPaths path before rest
      simp only [itemPaths, itemPathsOf, List.mem_cons, List.mem_append, inside, later]
      simp
      tauto
  | before, .null :: rest | before, .bool _ :: rest | before, .int _ :: rest
  | before, .float _ :: rest | before, .str _ :: rest | before, .list _ :: rest => by
      have later := mem_itemPaths path before rest
      simp [itemPaths, itemPathsOf, later, or_assoc]

end

mutual

theorem exists_of_mem_extractFieldPaths {path : String} : (before : String) → (value : Json) →
    path ∈ extractFieldPaths before value → ∃ rest, path = before ++ "/" ++ rest
  | before, .dict entries, member => exists_of_mem_entryPaths before entries member
  | before, .list items, member => exists_of_mem_itemPaths before items member

theorem exists_of_mem_entryPaths {path : String} : (before : String) → (entries : Dict) →
    path ∈ entryPaths before entries → ∃ rest, path = before ++ "/" ++ rest
  | before, (key, value) :: rest, member => by
      simp only [entryPaths, List.cons_append, List.mem_cons, List.mem_append] at member
      rcases member with rfl | inside | later
      · exact ⟨key, rfl⟩
      · obtain ⟨tail, rfl⟩ := exists_of_mem_extractFieldPaths _ value inside
        exact ⟨key ++ "/" ++ tail, by simp only [String.append_assoc]⟩
      · exact exists_of_mem_entryPaths before rest later

theorem exists_of_mem_itemPaths {path : String} : (before : String) → (items : List Json) →
    path ∈ itemPaths before items → ∃ rest, path = before ++ "/" ++ rest
  | before, .dict entries :: rest, member => by
      simp only [itemPaths, List.cons_append, List.mem_cons, List.mem_append] at member
      rcases member with rfl | inside | later
      · exact ⟨_, rfl⟩
      · obtain ⟨tail, rfl⟩ := exists_of_mem_entryPaths _ entries inside
        exact ⟨_, by rw [String.append_assoc, @String.append_assoc (before ++ "/")]⟩
      · exact exists_of_mem_itemPaths before rest later
  | before, .null :: rest, member | before, .bool _ :: rest, member
  | before, .int _ :: rest, member | before, .float _ :: rest, member
  | before, .str _ :: rest, member | before, .list _ :: rest, member => by
      rcases List.mem_cons.mp member with rfl | later
      · exact ⟨"[]", by simp only [String.append_assoc]; rfl⟩
      · exact exists_of_mem_itemPaths before rest later

end

theorem star_not_mem_paths (patch : Dict) : "*" ∉ extractFieldPaths "" (.dict patch) := by
  intro member
  obtain ⟨rest, same⟩ := exists_of_mem_extractFieldPaths "" _ member
  have texts := congrArg String.toList same
  simp at texts

/-! ## Conflicts -/

variable (md : Json) (manager : String)

/-- `_managed_path_map`, with `none` for an exception. -/
def managedPathMap : Option (List (Json × List Json)) :=
  (md.get "managedFields").bind fun fields =>
  fields.asList.bind fun fields =>
  (fields.mapM managedPaths).bind fun managed =>
  let managed := managed.filter fun entry => entry.1.truthy
  if managed.all fun entry => entry.1.hashable then
    some ((managed.map Prod.fst).dedup.map fun name =>
      (name, ((managed.reverse.find? fun entry => entry.1 = name).map Prod.snd).getD []))
  else none

theorem managedPathMap_of_single
    {md : Dict} {entry : Json} {name : String} {paths : List Json} (named : name ≠ "")
    (listed : (Dict.get md "managedFields").asList = some [entry])
    (read : managedPaths entry = some (.str name, paths)) :
    managedPathMap (.dict md) = some [(.str name, paths)] := by
  have known : (Json.str name).truthy = true := by simpa [Json.truthy] using named
  simp [managedPathMap, Json.get, listed, read, known, Json.hashable]

theorem managedConflict_eq (paths : List String) :
    managedConflict md manager paths false =
      if paths.isEmpty then some false
      else (managedPathMap md).map fun owners => owners.any fun owner =>
        decide (owner.1 ≠ .str manager) &&
          owner.2.any fun path => path = .str "*" || paths.any fun new => path = .str new := by
  unfold managedConflict managedPathMap
  by_cases empty : paths.isEmpty
  · rw [if_pos empty, if_pos empty]
  · rw [if_neg empty, if_neg empty]
    cases md.get "managedFields" with
    | none => rfl
    | some fields =>
        simp only [Option.bind_some]
        cases fields.asList with
        | none => rfl
        | some fields =>
            simp only [Option.bind_some]
            cases fields.mapM managedPaths with
            | none => rfl
            | some managed =>
                simp only [Option.bind_some]
                cases (managed.filter fun entry => entry.1.truthy).all
                    fun entry => entry.1.hashable with
                | false => rfl
                | true => simp [List.any_map, Function.comp_def]

/-- Another manager owns one of the paths; one that owns `*` owns all. -/
def OwnedByOther (paths : List String) : Prop :=
  ∃ owners, managedPathMap md = some owners ∧ ∃ owner ∈ owners, owner.1 ≠ .str manager ∧
    ∃ path ∈ paths, .str "*" ∈ owner.2 ∨ .str path ∈ owner.2

/-- A conflict is reported if another manager owns a path of the patch. -/
theorem managedConflict_eq_true_iff (paths : List String) :
    managedConflict md manager paths false = some true ↔ OwnedByOther md manager paths := by
  rw [managedConflict_eq, OwnedByOther]
  cases paths with
  | nil => simp
  | cons first rest =>
      simp only [List.isEmpty_cons, Bool.false_eq_true, if_false, Option.map_eq_some_iff,
        List.any_eq_true, Bool.and_eq_true, Bool.or_eq_true, decide_eq_true_eq]
      refine exists_congr fun owners => and_congr_right fun _ => exists_congr fun owner =>
        and_congr_right fun _ => and_congr_right fun _ => ?_
      constructor
      · rintro ⟨path, owned, rfl | ⟨new, isNew, rfl⟩⟩
        · exact ⟨first, List.mem_cons_self, .inl owned⟩
        · exact ⟨new, isNew, .inr owned⟩
      · rintro ⟨new, isNew, all | owned⟩
        · exact ⟨_, all, .inl rfl⟩
        · exact ⟨_, owned, .inr ⟨new, isNew, rfl⟩⟩

/-- A conflict is reported, or not, exactly as another manager owns a leaf field or a
list item of the patch. -/
def ReportsOwned (patch : Dict) : Prop :=
  ∃ reported, managedConflict md manager (extractFieldPaths "" (.dict patch)) false =
      some reported ∧ (reported = true ↔ OwnedByOther md manager (leafPaths patch))

/-- The recorded managers can be read, and no object or list that the patch goes through
is owned, unless one of its leaf fields is. -/
def OwnersApart (patch : Dict) : Prop :=
  (patch ≠ [] → (managedPathMap md).isSome) ∧
    (OwnedByOther md manager (innerPaths patch) → OwnedByOther md manager (leafPaths patch))

theorem ownedByOther_paths (patch : Dict) :
    OwnedByOther md manager (extractFieldPaths "" (.dict patch)) ↔
      OwnedByOther md manager (leafPaths patch) ∨ OwnedByOther md manager (innerPaths patch) := by
  constructor
  · rintro ⟨owners, read, owner, listed, other, path, member, owned⟩
    exact ((mem_extractFieldPaths path "" _).mp member).imp
      (fun leaf => ⟨owners, read, owner, listed, other, path, leaf, owned⟩)
      (fun inner => ⟨owners, read, owner, listed, other, path, inner, owned⟩)
  · rintro (⟨owners, read, owner, listed, other, path, member, owned⟩ |
      ⟨owners, read, owner, listed, other, path, member, owned⟩)
    · exact ⟨owners, read, owner, listed, other, path,
        (mem_extractFieldPaths path "" _).mpr (.inl member), owned⟩
    · exact ⟨owners, read, owner, listed, other, path,
        (mem_extractFieldPaths path "" _).mpr (.inr member), owned⟩

theorem reportsOwned_iff (patch : Dict) :
    ReportsOwned md manager patch ↔ OwnersApart md manager patch := by
  have conflict := (managedConflict_eq_true_iff md manager _).trans
    (ownedByOther_paths md manager patch)
  have readable : (managedConflict md manager (extractFieldPaths "" (.dict patch)) false).isSome ↔
      (patch ≠ [] → (managedPathMap md).isSome) := by
    rw [managedConflict_eq]
    cases patch <;> simp [extractFieldPaths, entryPaths]
  unfold ReportsOwned OwnersApart
  rw [← readable]
  cases reported : managedConflict md manager (extractFieldPaths "" (.dict patch)) false with
  | none => simp
  | some answer =>
      rw [reported, Option.some.injEq] at conflict
      simp only [Option.some.injEq, exists_eq_left', conflict, Option.isSome_some, true_and]
      tauto

/-! ## Two managers -/

structure TwoManagers where
  first : String
  second : String
  named : first ≠ ""
  apart : first ≠ second

namespace TwoManagers

variable (managers : TwoManagers)

/-- The first manager's apply. -/
def firstApply (patch : Dict) : PatchRequest :=
  ⟨"application/apply-patch+yaml", managers.first, false, .dict patch⟩

/-- After the first manager's apply to an object that nobody manages yet, the second's
finds no conflict. -/
def NeverConflict (patch other : Dict) : Prop :=
  ∀ (version now : String) (md applied : Dict), (Dict.get md "managedFields").asList = some [] →
    (managers.firstApply patch).appliedMetadata version now md = some applied →
    managedConflict (.dict applied) managers.second (extractFieldPaths "" (.dict other)) false =
      some false

/-- The second patch names no field, or the first does and the two go through different
objects and lists too. -/
def Apart (patch other : Dict) : Prop :=
  other = [] ∨ patch ≠ [] ∧
    (extractFieldPaths "" (.dict patch)).Disjoint (extractFieldPaths "" (.dict other))

theorem appliedPaths_firstApply (patch : Dict) :
    (managers.firstApply patch).appliedPaths =
      if patch = [] then ["*"] else extractFieldPaths "" (.dict patch) := by
  cases patch <;> rfl

/-- What the metadata say of the first manager's apply. -/
theorem applied_of_unmanaged
    (patch : Dict) {md : Dict} (version now : String)
    (unmanaged : (Dict.get md "managedFields").asList = some []) :
    ∃ applied, (managers.firstApply patch).appliedMetadata version now md = some applied ∧
      managedPathMap (.dict applied) = some [(.str managers.first,
        (sortedPaths (managers.firstApply patch).appliedPaths).map .str)] := by
  let line := (managers.firstApply patch).line "Apply" version now
    (managers.firstApply patch).appliedPaths
  have nonempty : sortedPaths line.paths ≠ [] := by
    have names : (managers.firstApply patch).appliedPaths ≠ [] := by
      rw [appliedPaths_firstApply]
      cases patch <;> simp [extractFieldPaths, entryPaths]
    obtain ⟨path, member⟩ := List.exists_mem_of_ne_nil _ names
    exact List.ne_nil_of_mem ((mem_sortedPaths _ _).mpr member)
  have after : ManagedBy (.dict (Dict.set md "managedFields" (.list
      (([] : List FieldManager).map FieldManager.entry ++ [line.entry])))) [line] :=
    managedBy_set List.nodup_nil (by simp) (by simp) managers.named
  have updated : updateManagedFields md version managers.first "Apply" now line.paths false =
      some (Dict.set md "managedFields" (.list [line.entry])) := by
    simp [updateManagedFields, unmanaged, pathTexts, line, FieldManager.entry,
      PatchRequest.line, firstApply]
  have kept := ensureManagedFieldsEntry_of_mem after (List.mem_singleton_self _) version
    "Apply" now line.paths
  refine ⟨_, (congrArg (Option.bind · _) updated).trans kept, ?_⟩
  have read : managedPaths line.entry =
      some (.str managers.first, (sortedPaths line.paths).map .str) :=
    managedPaths_entry managers.named nonempty
  exact managedPathMap_of_single managers.named after.listed read

theorem neverConflict_iff (patch other : Dict) :
    managers.NeverConflict patch other ↔ Apart patch other := by
  have conflicts : ∀ applied, managedPathMap (.dict applied) = some [(.str managers.first,
      (sortedPaths (managers.firstApply patch).appliedPaths).map .str)] →
      (managedConflict (.dict applied) managers.second (extractFieldPaths "" (.dict other))
        false = some false ↔ Apart patch other) := by
    intro applied map
    have unequal : Json.str managers.first ≠ .str managers.second :=
      fun same => managers.apart (Json.str.inj same)
    rw [managedConflict_eq, map, appliedPaths_firstApply, Apart]
    cases other with
    | nil => simp [extractFieldPaths, entryPaths]
    | cons entry rest =>
        cases patch with
        | nil => simp [extractFieldPaths, entryPaths, unequal, mem_sortedPaths]
        | cons first later =>
            have star : ∀ path ∈ extractFieldPaths "" (.dict (first :: later)), path ≠ "*" :=
              fun path member same => star_not_mem_paths _ (same ▸ member)
            have named : extractFieldPaths "" (.dict (entry :: rest)) ≠ [] := by
              simp [extractFieldPaths, entryPaths]
            simp [named, unequal, mem_sortedPaths, List.Disjoint]
            exact forall₂_congr fun path member => and_iff_right (star path member)
  constructor
  · intro never
    obtain ⟨applied, made, map⟩ := managers.applied_of_unmanaged patch "" ""
      (rfl : (Dict.get [] "managedFields").asList = some [])
    exact (conflicts applied map).mp (never "" "" [] applied rfl made)
  · intro apart version now md applied unmanaged made
    obtain ⟨_, made', map⟩ := managers.applied_of_unmanaged patch version now unmanaged
    rw [made, Option.some.injEq] at made'
    exact (conflicts applied (made' ▸ map)).mpr apart

end TwoManagers

/-- What a conflict says of the leaf fields, for every object and patch, and for every
two managers. -/
theorem conflicts_iff
    (md : Json) (manager : String) (managers : TwoManagers) (patch other : Dict) :
    (ReportsOwned md manager patch ↔ OwnersApart md manager patch) ∧
      (((leafPaths patch).Disjoint (leafPaths other) → managers.NeverConflict patch other) ↔
        ((leafPaths patch).Disjoint (leafPaths other) → TwoManagers.Apart patch other)) := by
  refine ⟨reportsOwned_iff md manager patch, ?_⟩
  rw [managers.neverConflict_iff]

/-- One manager sets the replicas and another pauses: both go through the spec. -/
theorem not_neverConflict_sharedSpec :
    let scaled : Dict := [("spec", .dict [("replicas", .int 2)])]
    let paused : Dict := [("spec", .dict [("paused", .bool true)])]
    let md : Dict := [("managedFields", .list [.dict [("manager", .str "helm"),
      ("paths", .list [.str "/spec", .str "/spec/replicas"])]])]
    (leafPaths scaled).Disjoint (leafPaths paused) ∧
      ¬ TwoManagers.NeverConflict ⟨"helm", "kubectl", by decide, by decide⟩ scaled paused ∧
      ¬ ReportsOwned (.dict md) "kubectl" paused := by
  intro scaled paused md
  have leaf : leafPaths paused = ["/spec/paused"] := by decide
  have map : managedPathMap (.dict md) =
      some [(.str "helm", [.str "/spec", .str "/spec/replicas"])] := rfl
  refine ⟨?_, ?_, ?_⟩
  · rw [leaf]
    exact List.disjoint_singleton.mpr (by decide)
  · rw [TwoManagers.neverConflict_iff]
    rintro (empty | ⟨-, apart⟩)
    · exact List.cons_ne_nil _ _ empty
    · exact apart (a := "/spec") (by decide) (by decide)
  · rw [reportsOwned_iff]
    rintro ⟨-, apart⟩
    obtain ⟨owners, read, owner, listed, -, path, member, owned⟩ :=
      apart ⟨_, map, _, List.mem_singleton_self _, by decide, "/spec", by decide, by decide⟩
    rw [leaf, List.mem_singleton] at member
    cases map.symm.trans read
    rw [List.mem_singleton.mp listed, member] at owned
    exact absurd owned (by decide)

end ApiShim
end K1s
