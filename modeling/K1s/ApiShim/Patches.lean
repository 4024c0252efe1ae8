import K1s.ApiShim.Documents

/-!
# Patches

The four ways in which a `PATCH` changes the shown form of an object: a merge
that joins lists of named items, a JSON patch, the replacement by a whole
document, and the bookkeeping of who manages which fields.
-/

namespace K1s
namespace ApiShim

open Py

/-! ## Merging -/

/-- `_list_item_key`: the value under the first of these keys that is there. -/
def listItemKey (entries : Dict) : Json :=
  match ["name", "port", "containerPort", "mountPath", "path"].find? fun key =>
    Dict.has entries key with
  | some key => Dict.get entries key
  | none => .null

/-- A value as a key of the index: equal numbers are one key.  `nan` is not found
again, so that an item under it is like one without a key. -/
def indexKey : Json → Json
  | .bool value => .int (if value then 1 else 0)
  | .float text =>
      match floatOfText text with
      | some (.finite value) => if value.den = 1 then .int value.num else .float text
      | some .nan => .null
      | _ => .float text
  | value => value

/-- The items of a list with their keys, `null` for an item without one.  A key
has to be hashable. -/
def keyedItems (items : List Json) : Option (List (Json × Json)) :=
  items.mapM fun item =>
    match item with
    | .dict entries =>
        let key := indexKey (listItemKey entries)
        if key.hashable then some (key, item) else none
    | _ => some (.null, item)

/-- Replace the last item under a key. -/
def replaceLast (key : Json) (item : Json) : List (Json × Json) → List (Json × Json)
  | [] => []
  | entry :: rest =>
      if rest.any (fun other => other.1 = key) then
        entry :: replaceLast key item rest
      else if entry.1 = key then (key, item) :: rest
      else entry :: rest

/-- The last item under a key. -/
def findLast (key : Json) (items : List (Json × Json)) : Option Json :=
  (items.reverse.find? fun entry => entry.1 = key).map Prod.snd

mutual

def mergeDict (base : Dict) : List (String × Json) → Option Dict
  | [] => some base
  | (key, value) :: rest =>
      (mergeValue (Dict.get base key) value).bind fun merged =>
        mergeDict (Dict.set base key merged) rest

/-- The new value of a key. -/
def mergeValue (old : Json) : Json → Option Json
  | .dict entries =>
      match old with
      | .dict base => (mergeDict base entries).map .dict
      | _ => some (.dict entries)
  | .list items =>
      match old with
      | .list base =>
          -- Lists that do not begin with dictionaries are replaced.
          let scalar (values : List Json) : Bool :=
            values.head?.any fun value => !value.isDict
          if scalar items || scalar base then some (.list items)
          else (keyedItems base).bind fun seeded =>
            (mergeItems seeded items).map fun (seeded, added) =>
              .list (seeded.map Prod.snd ++ added)
      | _ => some (.list items)
  | other => some other

/-- `_merge_list`, with the items of the old list and those added to it. -/
def mergeItems (seeded : List (Json × Json)) :
    List Json → Option (List (Json × Json) × List Json)
  | [] => some (seeded, [])
  | .dict entries :: rest =>
      let key := indexKey (listItemKey entries)
      if !key.hashable then none
      else
        match key, findLast key seeded with
        | .null, _ | _, none =>
            (mergeItems seeded rest).map fun (seeded, added) =>
              (seeded, .dict entries :: added)
        | _, some old =>
            (mergeDict old.entries entries).bind fun merged =>
              mergeItems (replaceLast key (.dict merged) seeded) rest
  | other :: rest =>
      (mergeItems seeded rest).map fun (seeded, added) => (seeded, other :: added)

end

-- A null is stored like any other leaf.
example (old : Json) : mergeValue old .null = some .null := by simp [mergeValue]

/-! ## JSON patches -/

/-- One part of a pointer, with `~1` and `~0` replaced in this order. -/
def unescapeSlash : List Char → List Char
  | '~' :: '1' :: rest => '/' :: unescapeSlash rest
  | ch :: rest => ch :: unescapeSlash rest
  | [] => []

def unescapeTilde : List Char → List Char
  | '~' :: '0' :: rest => '~' :: unescapeTilde rest
  | ch :: rest => ch :: unescapeTilde rest
  | [] => []

def jsonPointerTokens (path : String) : Option (List String) :=
  match path.toList with
  | '/' :: rest =>
      if rest.isEmpty then some []
      else some ((splitChars '/' (rest.dropWhile (· == '/'))).map fun token =>
        String.ofList (unescapeTilde (unescapeSlash token)))
  | _ => none

/-- The position that an index stands for; negative ones count from the end. -/
def listIndex (length : Nat) (index : Int) : Option Nat :=
  if 0 ≤ index then if index < length then some index.toNat else none
  else if 0 ≤ index + length then some (index + length).toNat else none

/-- The index that a token stands for, with `-` for the end. -/
def tokenIndex (length : Nat) (token : String) : Option Int :=
  if token = "-" then some length else intOfText token

/-- A container, or an empty dictionary in place of another value. -/
def container (value : Json) : Json :=
  match value with
  | .dict _ | .list _ => value
  | _ => .dict []

/-- `_json_pointer_set` below the root. -/
def jsonPointerSet (value : Json) : List String → Json → Option Json
  | [], _ => some value
  | [last], .list items =>
      (tokenIndex items.length last).bind fun index =>
        if index = items.length then some (.list (items ++ [value]))
        else (listIndex items.length index).map fun position =>
          .list (items.set position value)
  | [last], .dict entries => some (.dict (Dict.set entries last value))
  | token :: rest, .list items =>
      (tokenIndex items.length token).bind fun index =>
        let items := items ++ List.replicate (index + 1 - items.length).toNat (.dict [])
        (listIndex items.length index).bind fun position =>
        (jsonPointerSet value rest (container (items.getD position .null))).map
          fun child => .list (items.set position child)
  | token :: rest, .dict entries =>
      (jsonPointerSet value rest (container (Dict.get entries token))).map fun child =>
        .dict (Dict.set entries token child)
  | _, _ => none

/-- `_json_pointer_remove` below the root. -/
def jsonPointerRemove : List String → Json → Option Json
  | [], _ => some .null
  | [last], .list items =>
      (intOfText last).bind fun index =>
        (listIndex items.length index).map fun position =>
          .list (items.eraseIdx position)
  | [last], .dict entries => some (.dict (Dict.drop entries last))
  | token :: rest, .list items =>
      (intOfText token).bind fun index =>
      (listIndex items.length index).bind fun position =>
        (jsonPointerRemove rest (items.getD position .null)).map fun child =>
          .list (items.set position child)
  | token :: rest, .dict entries =>
      (Dict.find? entries token).bind fun child =>
        (jsonPointerRemove rest child).map fun child =>
          .dict (Dict.set entries token child)
  | _, _ => none

def applyPatchOp (target : Json) (op : Json) : Option Json :=
  match op with
  | .dict entries =>
      match (Dict.get entries "op").or (.str ""), (Dict.get entries "path").or (.str "") with
      | .str action, .str path =>
          let value := Dict.get entries "value"
          if lower action ∈ ["add", "replace"] then
            if path = "" ∨ path = "/" then some value
            else (jsonPointerTokens path).bind fun tokens =>
              jsonPointerSet value tokens target
          else if lower action = "remove" then
            (jsonPointerTokens path).bind fun tokens => jsonPointerRemove tokens target
          else none
      | _, _ => none
  | _ => none

/-- `_apply_json_patch`.  A patch that leaves `null` counts as failed. -/
def applyJsonPatch (doc : Json) (ops : List Json) : Option Json :=
  (ops.foldlM applyPatchOp doc).bind fun target =>
    if target = .null then none else some target

/-! ## Managed fields -/

mutual

def extractFieldPaths (before : String) : Json → List String
  | .dict entries => entryPaths before entries
  | .list items => itemPaths before items
  | _ => []

def entryPaths (before : String) : List (String × Json) → List String
  | [] => []
  | (key, value) :: rest =>
      let path := before ++ "/" ++ key
      path :: extractFieldPaths path value ++ entryPaths before rest

def itemPaths (before : String) : List Json → List String
  | [] => []
  | .dict entries :: rest =>
      let token := listItemKey entries
      let segment := if token = .null then "[]" else "[" ++ token.toStr ++ "]"
      let path := before ++ "/" ++ segment
      path :: entryPaths path entries ++ itemPaths before rest
  | _ :: rest => (before ++ "/[]") :: itemPaths before rest

end

mutual

/-- `_fieldsV1_to_paths`. -/
def fieldsToPaths (before : String) : List (String × Json) → List String
  | [] => []
  | (key, value) :: rest =>
      let name :=
        if startsWith "f:" key then String.ofList (key.toList.drop 2)
        else if startsWith "k:" key then
          "[" ++ String.ofList (key.toList.drop 2) ++ "]"
        else key
      let path := before ++ "/" ++ name
      path :: nestedFields path value ++ fieldsToPaths before rest

def nestedFields (before : String) : Json → List String
  | .dict entries => fieldsToPaths before entries
  | _ => []

end

/-- Put an empty dictionary at the end of a path of keys. -/
def setdefaultPath (root : Dict) : List String → Dict
  | [] => root
  | key :: rest =>
      Dict.set root key (.dict (setdefaultPath (Dict.get root key).entries rest))

/-- `_paths_to_fieldsV1`. -/
def pathsToFields (paths : List String) : Dict :=
  paths.foldl (fun root path =>
    setdefaultPath root (((split '/' path).filter (· ≠ "")).map fun token =>
      let chars := token.toList
      if chars.head? = some '[' ∧ chars.getLast? = some ']' then
        "k:" ++ String.ofList ((chars.drop 1).dropLast)
      else "f:" ++ token)) []

def managedPaths (field : Json) : Option (Json × List Json) :=
  match field with
  | .dict entries =>
      let manager := Dict.get entries "manager"
      if !manager.truthy then some (.null, [])
      else
        let listed := Dict.get entries "paths"
        (if listed.truthy then
          listed.iterate.bind fun items =>
            if items.all Json.hashable then some items else none
        else
          match (Dict.get entries "fieldsV1").or (.dict []) with
          | .dict fields => some ((fieldsToPaths "" fields).map .str)
          | _ => none).bind fun paths =>
        if paths.isEmpty then
          match (Dict.get entries "operation").or (.str "") with
          | .str operation =>
              some (manager, if lower operation = "apply" then [.str "*"] else [])
          | _ => none
        else some (manager, paths)
  | _ => none

/-- `_managed_conflict`: another manager's paths overlap, and no force is used.
Of several entries of one manager the last one counts. -/
def managedConflict
    (md : Json) (manager : String) (newPaths : List String)
    (force : Bool) : Option Bool :=
  if newPaths.isEmpty then some false
  else (md.get "managedFields").bind fun fields =>
    fields.asList.bind fun fields =>
    (fields.mapM managedPaths).bind fun managed =>
    let managed := managed.filter fun entry => entry.1.truthy
    if !(managed.all fun entry => entry.1.hashable) then none
    else
      let names := (managed.map Prod.fst).dedup
      some (names.any fun name =>
        let paths := ((managed.reverse.find? fun entry => entry.1 = name).map
          Prod.snd).getD []
        decide (name ≠ .str manager) && !force &&
          paths.any fun path => path = .str "*" || newPaths.any fun new => path = .str new)

def sortedPaths (paths : List String) : List String :=
  paths.dedup.insertionSort (· ≤ ·)

def managedEntry (manager operation version now : String) (paths : List String) : Json :=
  .dict [("manager", .str manager), ("operation", .str operation),
    ("apiVersion", .str version), ("time", .str now), ("fieldsType", .str "FieldsV1"),
    ("paths", .list ((sortedPaths paths).map .str)),
    ("fieldsV1", .dict (pathsToFields (sortedPaths paths)))]

/-- Paths that are all texts; others cannot be sorted or split. -/
def pathTexts (paths : List Json) : Option (List String) :=
  paths.mapM fun path =>
    match path with
    | Json.str text => some text
    | _ => none

/-- What is left of another manager's entry. -/
def strippedEntry
    (newPaths : List String) (force : Bool) (field : Json)
    (paths : List Json) : Option (Option Json) :=
  if force && !newPaths.isEmpty && paths.contains (.str "*") then some none
  else
    let paths :=
      if force then paths.filter fun path => !newPaths.any fun new => path = .str new
      else paths
    if paths.isEmpty then some none
    else (pathTexts paths).map fun texts =>
      some (.dict (Dict.set (Dict.set field.entries "paths" (.list ((sortedPaths texts).map .str)))
        "fieldsV1" (.dict (pathsToFields (sortedPaths texts)))))

def updateManagedFields
    (md : Dict) (version manager operation now : String) (fields : List String)
    (force : Bool) : Option Dict :=
  (Dict.get md "managedFields").asList.bind fun managed =>
  (managed.mapM managedPaths).bind fun paths =>
  let known := (managed.zip paths).filter fun entry => entry.2.1.truthy
  let own := (known.filter fun entry => entry.2.1 = .str manager).getLast?
  let others := known.filter fun entry => entry.2.1 ≠ .str manager
  (others.mapM fun entry => strippedEntry fields force entry.1 entry.2.2).bind
    fun cleaned =>
  (pathTexts ((own.map fun entry => entry.2.2).getD [])).map fun existing =>
    Dict.set md "managedFields" (.list (cleaned.filterMap id ++
      [managedEntry manager operation version now (existing ++ fields)]))

def ensureManagedFieldsEntry
    (md : Dict) (version manager operation now : String)
    (paths : List String) : Option Dict :=
  (Dict.get md "managedFields").asList.map fun managed =>
    if managed.any fun field => field.item "manager" = .str manager then md
    else Dict.set md "managedFields" (.list (managed ++
      [managedEntry manager operation version now paths]))

end ApiShim
end K1s
