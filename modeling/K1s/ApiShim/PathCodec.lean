import K1s.ApiShim.FieldOwners
import K1s.Py.IpAddress

/-!
# Paths written as fields and read back

`_paths_to_fieldsV1` cuts every path at its strokes and leaves out empty parts, and
`_fieldsV1_to_paths` puts a path before every key of what it finds.  A key that has a stroke
of its own comes back as several paths.
-/

namespace K1s
namespace ApiShim

open Py

/-- The path of these parts. -/
def slashed : List String → String
  | [] => ""
  | part :: rest => "/" ++ part ++ slashed rest

def tokens (path : String) : List String := (split '/' path).filter (· ≠ "")

def fieldKey (token : String) : String :=
  if token.toList.head? = some '[' ∧ token.toList.getLast? = some ']' then
    "k:" ++ String.ofList ((token.toList.drop 1).dropLast)
  else "f:" ++ token

/-- The part of a key of the fields. -/
def keyName (key : String) : String :=
  if startsWith "f:" key then String.ofList (key.toList.drop 2)
  else if startsWith "k:" key then "[" ++ String.ofList (key.toList.drop 2) ++ "]"
  else key

theorem keyName_fieldKey (token : String) : keyName (fieldKey token) = token := by
  unfold fieldKey
  split
  · next brackets =>
      obtain ⟨inner, whole⟩ := List.head?_eq_some_iff.mp brackets.1
      have ends := brackets.2
      rw [whole] at ends
      have split : inner = inner.dropLast ++ [']'] := by
        cases inner using List.reverseRecOn with
        | nil => simp at ends
        | append_singleton inner last => simpa [List.getLast?_cons] using ends
      simp only [keyName, startsWith, whole]
      simp [← String.toList_inj, whole]
      exact split.symm
  · simp [keyName, startsWith]

theorem mem_fieldsToPaths_cons {before key path : String} {value : Json} {rest : Dict} :
    path ∈ fieldsToPaths before ((key, value) :: rest) ↔
      path = before ++ "/" ++ keyName key ∨
        path ∈ fieldsToPaths (before ++ "/" ++ keyName key) value.entries ∨
        path ∈ fieldsToPaths before rest := by
  have nested : ∀ inner, nestedFields inner value = fieldsToPaths inner value.entries := by
    intro inner
    cases value <;> rfl
  rw [fieldsToPaths, nested, List.cons_append, List.mem_cons, List.mem_append]
  rfl

/-- Setting a key adds its path, and what is new below it. -/
theorem mem_fieldsToPaths_set
    {before key path : String} {new : Dict} {more : Prop} (root : Dict)
    (inner : path ∈ fieldsToPaths (before ++ "/" ++ keyName key) new ↔
      path ∈ fieldsToPaths (before ++ "/" ++ keyName key) (Dict.get root key).entries ∨ more) :
    path ∈ fieldsToPaths before (Dict.set root key (.dict new)) ↔
      path ∈ fieldsToPaths before root ∨ path = before ++ "/" ++ keyName key ∨ more := by
  induction root with
  | nil =>
      rw [Dict.set, mem_fieldsToPaths_cons, Json.entries, inner]
      simp [fieldsToPaths, Dict.get, Json.entries]
  | cons entry rest ih =>
      obtain ⟨present, old⟩ := entry
      rw [Dict.get, Dict.find?_cons] at inner
      rw [Dict.set]
      split
      · next same =>
          subst same
          rw [if_pos rfl] at inner
          rw [mem_fieldsToPaths_cons, mem_fieldsToPaths_cons, Json.entries, inner]
          simp only [Option.getD_some]
          grind
      · next other =>
          rw [if_neg (Ne.symm other)] at inner
          rw [mem_fieldsToPaths_cons, mem_fieldsToPaths_cons, ih inner]
          grind

/-- Adding a path of keys adds the paths of its beginnings. -/
theorem mem_fieldsToPaths_setdefaultPath {path : String} (keys : List String) :
    ∀ (root : Dict) (before : String), path ∈ fieldsToPaths before (setdefaultPath root keys) ↔
      path ∈ fieldsToPaths before root ∨
        ∃ front, front ≠ [] ∧ front <+: keys ∧ path = before ++ slashed (front.map keyName) := by
  induction keys with
  | nil =>
      intro root before
      simp [setdefaultPath]
  | cons key rest ih =>
      intro root before
      rw [setdefaultPath, mem_fieldsToPaths_set root (ih _ _)]
      apply or_congr_right
      constructor
      · rintro (rfl | ⟨front, -, begins, rfl⟩)
        · exact ⟨[key], by simp, by simp, by simp [slashed, String.append_assoc]⟩
        · exact ⟨key :: front, by simp, by simpa using begins,
            by simp [slashed, String.append_assoc]⟩
      · rintro ⟨front, some, begins, rfl⟩
        cases front with
        | nil => exact absurd rfl some
        | cons first others =>
            obtain ⟨rfl, inRest⟩ := List.cons_prefix_cons.mp begins
            cases others with
            | nil => exact .inl (by simp [slashed, String.append_assoc])
            | cons second others =>
                exact .inr ⟨second :: others, by simp, inRest,
                  by simp [slashed, String.append_assoc]⟩

/-- The paths that come back are those of the beginnings of the parts. -/
theorem mem_fieldsCodec_iff (path : String) (paths : List String) :
    path ∈ fieldsToPaths "" (pathsToFields paths) ↔
      ∃ given ∈ paths, ∃ front, front ≠ [] ∧ front <+: tokens given ∧ path = slashed front := by
  have steps : ∀ (root : Dict), path ∈ fieldsToPaths "" (paths.foldl (fun root path =>
      setdefaultPath root ((tokens path).map fieldKey)) root) ↔ path ∈ fieldsToPaths "" root ∨
      ∃ given ∈ paths, ∃ front, front ≠ [] ∧ front <+: tokens given ∧ path = slashed front := by
    induction paths with
    | nil => simp
    | cons given rest ih =>
        intro root
        rw [List.foldl_cons, ih, mem_fieldsToPaths_setdefaultPath, or_assoc]
        have beginnings : (∃ front, front ≠ [] ∧ front <+: (tokens given).map fieldKey ∧
            path = "" ++ slashed (front.map keyName)) ↔
            ∃ front, front ≠ [] ∧ front <+: tokens given ∧ path = slashed front := by
          have back : ∀ parts : List String, (parts.map fieldKey).map keyName = parts := by
            simp [Function.comp_def, keyName_fieldKey]
          constructor
          · rintro ⟨_, some, begins, rfl⟩
            obtain ⟨front, inTokens, rfl⟩ := List.prefix_map_iff.mp begins
            exact ⟨front, by simpa using some, inTokens, by rw [back]; simp⟩
          · rintro ⟨front, some, begins, rfl⟩
            exact ⟨front.map fieldKey, by simpa using some, begins.map _, by rw [back]; simp⟩
        rw [beginnings]
        simp
  change path ∈ fieldsToPaths "" (paths.foldl (fun root path =>
    setdefaultPath root ((tokens path).map fieldKey)) []) ↔ _
  simpa [fieldsToPaths] using steps []

/-! ## Parts -/

theorem slashed_append (first second : List String) :
    slashed (first ++ second) = slashed first ++ slashed second := by
  induction first with
  | nil => simp [slashed]
  | cons part rest ih => simp [slashed, ih, String.append_assoc]

/-- A stroke of a path stands before one of its parts. -/
theorem slashed_eq_append
    {parts : List String} (plain : ∀ part ∈ parts, '/' ∉ part.toList) {front back : List Char}
    (same : (slashed parts).toList = front ++ '/' :: back) :
    ∃ before part after, parts = before ++ part :: after ∧ front = (slashed before).toList ∧
      back = part.toList ++ (slashed after).toList := by
  induction parts generalizing front with
  | nil => simp [slashed] at same
  | cons part rest ih =>
      rw [List.forall_mem_cons] at plain
      have whole : (slashed (part :: rest)).toList =
          '/' :: (part.toList ++ (slashed rest).toList) := by
        simp [slashed]
      rw [whole] at same
      cases front with
      | nil => exact ⟨[], part, rest, rfl, rfl, (List.cons.inj same).2.symm⟩
      | cons first others =>
          obtain ⟨rfl, tails⟩ := List.cons.inj same
          have later : ∃ gap, others = part.toList ++ gap ∧
              (slashed rest).toList = gap ++ '/' :: back := by
            rcases List.append_eq_append_iff.mp tails with ⟨gap, found, later⟩ | ⟨gap, found, later⟩
            · exact ⟨gap, found, later⟩
            · cases gap with
              | nil => exact ⟨[], by simpa using found.symm, by simpa using later.symm⟩
              | cons stroke _ =>
                  obtain ⟨rfl, -⟩ := List.cons.inj later
                  exact absurd (by simp [found]) plain.1
          obtain ⟨gap, rfl, later⟩ := later
          obtain ⟨before, next, after, rfl, rfl, rfl⟩ := ih plain.2 later
          exact ⟨part :: before, next, after, rfl, by simp [slashed], rfl⟩

theorem slashed_split (text : List Char) :
    slashed ((splitChars '/' text).map String.ofList) = "/" ++ String.ofList text := by
  induction text with
  | nil => rfl
  | cons first rest ih =>
      rw [splitChars]
      split
      · next stroke =>
          subst stroke
          rw [List.map_cons, slashed, ih]
          simp
      · cases parts : splitChars '/' rest with
        | nil => simp_all [slashed]
        | cons part others =>
            rw [parts] at ih
            simp_all [slashed, ← String.toList_inj]

theorem mem_tokens {path token : String} (member : token ∈ tokens path) :
    token ≠ "" ∧ '/' ∉ token.toList := by
  obtain ⟨isPart, some⟩ := List.mem_filter.mp member
  obtain ⟨part, inChars, rfl⟩ := List.mem_map.mp isPart
  exact ⟨of_decide_eq_true some, by simpa using (of_mem_splitChars inChars).1⟩

/-! ## The paths of a document -/

/-- No path ends in a stroke, and what stands before a stroke of a path is a path as well. -/
structure ClosedPaths (paths : List String) : Prop where
  ended : ∀ path ∈ paths, ∀ front, path ≠ front ++ "/"
  begun : ∀ path ∈ paths, ∀ front back, path = front ++ "/" ++ back → front = "" ∨ front ∈ paths

theorem slashed_tokens {paths : List String} (closed : ClosedPaths paths) {path rest : String}
    (member : path ∈ paths) (strokes : path = "/" ++ rest) :
    slashed (tokens path) = path ∧ tokens path ≠ [] := by
  have parts : split '/' path = "" :: split '/' rest := by
    simp [split, strokes, splitChars]
  have whole : slashed (split '/' rest) = path := by
    rw [split, slashed_split, String.ofList_toList, strokes]
  have none : "" ∉ split '/' rest := by
    intro empty
    obtain ⟨before, after, cut⟩ := List.append_of_mem empty
    rw [cut, slashed_append, slashed, String.append_empty] at whole
    cases after with
    | nil => exact closed.ended path member (slashed before) (by simp [← whole, slashed])
    | cons next others =>
        have stop := closed.begun path member (slashed before ++ "/") (next ++ slashed others)
          (by rw [← whole, ← String.toList_inj]; simp [slashed])
        rcases stop with none | ended
        · simp at none
        · exact closed.ended _ ended (slashed before) rfl
  have same : tokens path = split '/' rest := by
    rw [tokens, parts, List.filter_cons_of_neg (by simp), List.filter_eq_self]
    intro part member
    exact decide_eq_true fun empty => none (empty ▸ member)
  rw [same]
  refine ⟨whole, fun nothing => ?_⟩
  rw [nothing, slashed] at whole
  simp [strokes] at whole

theorem fieldsCodec_iff (doc : Json) :
    (∀ path, path ∈ fieldsToPaths "" (pathsToFields (extractFieldPaths "" doc)) ↔
      path ∈ extractFieldPaths "" doc) ↔ ClosedPaths (extractFieldPaths "" doc) := by
  have strokes : ∀ path ∈ extractFieldPaths "" doc, ∃ rest, path = "/" ++ rest := by
    intro path member
    simpa using exists_of_mem_extractFieldPaths "" doc member
  generalize extractFieldPaths "" doc = paths at strokes ⊢
  constructor
  · intro same
    have parts : ∀ path ∈ paths, ∃ parts, path = slashed parts ∧ parts ≠ [] ∧
        (∀ part ∈ parts, part ≠ "" ∧ '/' ∉ part.toList) ∧
        ∀ front, front ≠ [] → front <+: parts → slashed front ∈ paths := by
      intro path member
      obtain ⟨given, isGiven, parts, some, begins, rfl⟩ := (mem_fieldsCodec_iff path paths).mp
        ((same path).mpr member)
      exact ⟨parts, rfl, some, fun part isPart => mem_tokens (begins.subset isPart),
        fun front someFront inParts => (same _).mp ((mem_fieldsCodec_iff _ paths).mpr
          ⟨given, isGiven, front, someFront, inParts.trans begins, rfl⟩)⟩
    refine ⟨fun path member front ended => ?_, fun path member front back begun => ?_⟩
    · obtain ⟨parts, rfl, -, plain, -⟩ := parts path member
      obtain ⟨before, part, after, whole, _, none⟩ := slashed_eq_append
        (fun part isPart => (plain part isPart).2) (by simpa using congrArg String.toList ended)
      have empty : part = "" := by simpa using (List.append_eq_nil_iff.mp none.symm).1
      exact (plain part (by simp [whole])).1 empty
    · obtain ⟨parts, rfl, -, plain, within⟩ := parts path member
      obtain ⟨before, part, after, whole, front_eq, -⟩ := slashed_eq_append
        (fun part isPart => (plain part isPart).2) (by simpa using congrArg String.toList begun)
      obtain rfl := String.toList_inj.mp front_eq
      cases before with
      | nil => exact .inl rfl
      | cons first others =>
          exact .inr (within _ (by simp) (by rw [whole]; exact List.prefix_append _ _))
  · intro closed path
    rw [mem_fieldsCodec_iff]
    constructor
    · rintro ⟨given, member, front, some, ⟨rest, whole⟩, rfl⟩
      obtain ⟨tail, given_eq⟩ := strokes given member
      have all := (slashed_tokens closed member given_eq).1
      rw [← whole, slashed_append] at all
      cases rest with
      | nil =>
          rw [slashed, String.append_empty] at all
          rwa [all]
      | cons next others =>
          have begun := closed.begun given member (slashed front) (next ++ slashed others)
            (by simp [← all, slashed, String.append_assoc])
          refine begun.resolve_left fun empty => some ?_
          cases front with
          | nil => rfl
          | cons => simp [slashed] at empty
    · intro member
      obtain ⟨rest, path_eq⟩ := strokes path member
      obtain ⟨all, some⟩ := slashed_tokens closed member path_eq
      exact ⟨path, member, tokens path, some, List.prefix_rfl, all.symm⟩

/-- A label with a stroke, as most labels of the platform have. -/
def labelledDoc : Json := .dict [("app.kubernetes.io/name", .str "web")]

theorem not_fieldsCodec_labelledDoc :
    ¬ ∀ path, path ∈ fieldsToPaths "" (pathsToFields (extractFieldPaths "" labelledDoc)) ↔
      path ∈ extractFieldPaths "" labelledDoc := by
  intro same
  exact absurd ((same "/app.kubernetes.io").mp (by decide +kernel)) (by decide +kernel)

end ApiShim
end K1s
