import K1s.ApiShim.Reads
import K1s.Py.Documents

/-!
# The fields of documents and metadata

What the functions that store and show documents leave of the single fields: which
keys they set, and that they leave the others as they are.
-/

namespace K1s

namespace ApiShim

open Py

/-! ## Functions on dictionaries -/

theorem find?_foldl_set (entries out : Dict) (key : String) :
    Dict.find? (entries.foldl (fun out entry => Dict.set out entry.1 entry.2) out) key =
      (entries.reverse.lookup key).or (Dict.find? out key) := by
  induction entries generalizing out with
  | nil => simp
  | cons entry rest ih =>
      obtain ⟨present, value⟩ := entry
      rw [List.foldl_cons, ih, List.reverse_cons, List.lookup_append,
        Option.or_assoc]
      congr 1
      rw [Dict.find?_set]
      by_cases same : key = present
      · simp [same, List.lookup]
      · simp [same, List.lookup, beq_false_of_ne same]

/-- An update puts the entries before those that are there. -/
theorem find?_dictUpdate (out entries : Dict) (key : String) :
    Dict.find? (dictUpdate out entries) key =
      (Dict.find? (dictUpdate [] entries) key).or (Dict.find? out key) := by
  simp [dictUpdate, find?_foldl_set]

theorem find?_dictUpdate_append (out first second : Dict) (key : String) :
    Dict.find? (dictUpdate out (first ++ second)) key = (Dict.find? (dictUpdate [] second) key).or
        ((Dict.find? (dictUpdate [] first) key).or (Dict.find? out key)) := by
  rw [dictUpdate, List.foldl_append, ← dictUpdate, ← dictUpdate, find?_dictUpdate,
    find?_dictUpdate out first]

theorem find?_dictUpdate_nil
    {entries : Dict} (unique : (entries.map Prod.fst).Nodup) (key : String) :
    Dict.find? (dictUpdate [] entries) key = Dict.find? entries key := by
  have reversed : (entries.reverse.map Prod.fst).Nodup := by
    rw [List.map_reverse]
    exact List.nodup_reverse.mpr unique
  rw [dictUpdate, find?_foldl_set, Dict.find?_nil, Option.or_none]
  ext value
  refine (Dict.find?_eq_some_iff reversed key value).trans ?_
  rw [List.mem_reverse, Dict.find?_eq_some_iff unique]

theorem find?_unlessFalse (key other : String) (value : Json) :
    Dict.find? (unlessFalse key value) other =
      if other = key ∧ value.truthy = true then some value else none := by
  unfold unlessFalse
  split
  · next holds => simp [Dict.find?_cons, holds]
  · next fails => simp [fails]

theorem find?_dictUpdate_unlessFalse (key other : String) (value : Json) :
    Dict.find? (dictUpdate [] (unlessFalse key value)) other =
      if other = key ∧ value.truthy = true then some value else none := by
  rw [find?_dictUpdate_nil, find?_unlessFalse]
  unfold unlessFalse
  split <;> simp

theorem entries_of_dictOf
    {value : Json} {found : Dict}
    (read : dictOf value = some found) : value.entries = found := by
  unfold dictOf at read
  split at read
  · exact Option.some.inj read
  · exact Option.some.inj read
  · exact Option.some.inj read
  · cases read

/-! ## Metadata -/

/-- Stored metadata are those of the document with a name, a namespace and an
identifier. -/
theorem find?_normalizeMetadata
    (handler : ShimHandler) (md : Dict) (name ns : Json) (plural key : String)
    (other : key ∉ ["name", "namespace", "uid"]) :
    Dict.find? (normalizeMetadata handler md name ns plural) key = Dict.find? md key := by
  simp only [List.mem_cons, List.not_mem_nil, or_false, not_or] at other
  obtain ⟨name_ne, namespace_ne, uid_ne⟩ := other
  rw [normalizeMetadata, Dict.find?_setdefault_of_ne _ _ uid_ne]
  split
  · rw [Dict.find?_set_of_ne _ _ namespace_ne, Dict.find?_set_of_ne _ _ name_ne]
  · rw [Dict.find?_set_of_ne _ _ name_ne]

theorem find?_setSecretType
    (md : Dict) (secretType : Json) {key : String} (other : key ≠ "annotations") :
    Dict.find? (setSecretType md secretType) key = Dict.find? md key := by
  unfold setSecretType
  split
  · rfl
  · rw [Dict.find?_set_of_ne _ _ other]

/-- Shown metadata are the stored ones with a name and a namespace. -/
theorem find?_shownName
    {o : K8sObject} {entries : Dict} (named : shownName o = some entries) {key : String}
    (other : key ∉ ["name", "namespace"]) :
    Dict.find? entries key = Dict.find? o.metadata.entries key := by
  simp only [List.mem_cons, List.not_mem_nil, or_false, not_or] at other
  obtain ⟨name_ne, namespace_ne⟩ := other
  obtain ⟨md, read, rfl⟩ := Option.map_eq_some_iff.mp named
  rw [entries_of_dictOf read]
  dsimp only
  split
  · rw [Dict.find?_setdefault_of_ne _ _ name_ne]
  · rw [Dict.find?_setdefault_of_ne _ _ namespace_ne, Dict.find?_setdefault_of_ne _ _ name_ne]

/-- The version is filled in where the stored metadata have none. -/
theorem find?_shownMetadata_version
    {o : K8sObject} {entries : Dict} (filled : shownMetadata o = some entries) :
    Dict.find? entries "resourceVersion" =
      some ((Dict.find? o.metadata.entries "resourceVersion").getD
        (.str (toString o.resourceVersion))) := by
  obtain ⟨named, read, rfl⟩ := Option.map_eq_some_iff.mp filled
  rw [Dict.find?_setdefault, if_pos rfl, find?_shownName read (by decide)]

/-! ## Core objects -/

/-- What a core object is shown with besides its metadata. -/
def objectBody (o : K8sObject) : Option Dict :=
  if o.gvr.resource ∈ ["configmaps", "secrets"] then some [("data", o.spec)]
  else if o.gvr.resource = "serviceaccounts" then
    if o.spec.truthy then dictOf o.spec else some []
  else some (unlessFalse "spec" o.spec)

/-- The first entries of a shown core object. -/
def objectHead (o : K8sObject) (kind : String) (entries : Dict) : Dict :=
  let secretType :=
    if o.gvr.resource = "secrets" then secretTypeFromMeta entries else none
  [("apiVersion", .str (apiVersion o.gvr)), ("kind", .str kind), ("metadata", .dict entries)] ++
    (secretType.map fun text => ("type", Json.str text)).toList

/-- The fields of a shown core object: its status and the content of a service
account come before the head. -/
theorem exists_fields_of_toObj {o : K8sObject} {doc : Json} (made : toObj o = some doc) :
    ∃ entries kind body fields, shownMetadata o = some entries ∧
      kindOf o.gvr.resource = some kind ∧ objectBody o = some body ∧ doc = .dict fields ∧
      ∀ key, Dict.find? fields key =
        (if key = "status" ∧ o.status.truthy = true then some o.status else none).or
          ((Dict.find? (dictUpdate [] body) key).or
            (Dict.find? (objectHead o kind entries) key)) := by
  obtain ⟨entries, filled, made⟩ := Option.bind_eq_some_iff.mp made
  obtain ⟨kind, named, made⟩ := Option.bind_eq_some_iff.mp made
  obtain ⟨body, given, rfl⟩ := Option.map_eq_some_iff.mp made
  refine ⟨entries, kind, body, _, filled, named, given, rfl, fun key => ?_⟩
  rw [find?_dictUpdate_append, find?_dictUpdate_unlessFalse]
  rfl

end ApiShim
end K1s
