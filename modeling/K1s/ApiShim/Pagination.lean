import K1s.ApiShim.Store

/-!
# Lists in pages

`_list_with_rv`: a list response holds at most `limit` items and, where there are more,
a token that the client sends back to have the next page.

The token is the name of an item, and the slice after that item is taken first.  A list
that is longer than the limit is then cut from its start again, so that every page is
the first one.  The main result is that the pages make up the list exactly when it fits
into one page.
-/

namespace K1s
namespace ApiShim

open Py

/-! ## The response -/

/-- The items after the first one of a name, if there is one. -/
def itemsAfter (token : String) : List K8sObject → Option (List K8sObject)
  | [] => none
  | item :: rest => if item.name = token then some rest else itemsAfter token rest

/-- What `selected` and `cont_token` are in the end. -/
def selectPage (items : List K8sObject) (limit : Option Int) (continueToken : Option String) :
    List K8sObject × Option String :=
  let selected :=
    match continueToken with
    | none => items
    | some token => if token = "" then items else (itemsAfter token items).getD items
  match limit with
  | none => (selected, none)
  | some limit =>
      if 0 < limit ∧ limit < items.length then
        (items.take limit.toNat, items[limit.toNat]?.map K8sObject.name)
      else (selected, none)

def listWithRv (items : List K8sObject) (transform : K8sObject → Json) (kind apiVersion : String)
    (limit : Option Int) (continueToken : Option String) : Json :=
  let (selected, contToken) := selectPage items limit continueToken
  let rv := selected.foldl (fun greatest item => max greatest item.resourceVersion) 0
  let continued :=
    match contToken with
    | none => []
    | some token => if token = "" then [] else [("continue", Json.str token)]
  .dict [ ("kind", .str (kind ++ "List")), ("apiVersion", .str apiVersion),
    ("metadata", .dict (("resourceVersion", .str (toString rv)) :: continued)),
    ("items", .list (selected.map transform))]

/-! ## The client -/

def pageItems (response : Json) : List Json := (response.item "items").items

def pageToken (response : Json) : Option String :=
  match (response.item "metadata").item "continue" with
  | .str token => some token
  | _ => none

/-- The pages that a client collects from a token on, until a response has no token. -/
inductive Pages (respond : Option String → Json) : Option String → List (List Json) → Prop
  | last
      {token : Option String}
      (done : pageToken (respond token) = none) :
      Pages respond token [pageItems (respond token)]
  | more
      {token : Option String}
      {next : String}
      {rest : List (List Json)}
      (goesOn : pageToken (respond token) = some next)
      (others : Pages respond (some next) rest) :
      Pages respond token (pageItems (respond token) :: rest)

/-- The client comes to an end, and the pages are the list. -/
def PagesAreWhole (items : List K8sObject) (transform : K8sObject → Json)
    (kind apiVersion : String) (limit : Int) : Prop :=
  ∃ pages, Pages (listWithRv items transform kind apiVersion (some limit)) none pages ∧
    pages.flatten = items.map transform

section Responses

variable (items : List K8sObject) (transform : K8sObject → Json) (kind apiVersion : String)

@[simp] theorem pageItems_listWithRv (limit : Option Int) (token : Option String) :
    pageItems (listWithRv items transform kind apiVersion limit token) =
      (selectPage items limit token).1.map transform := rfl

@[simp] theorem pageToken_listWithRv (limit : Option Int) (token : Option String) :
    pageToken (listWithRv items transform kind apiVersion limit token) =
      (selectPage items limit token).2.filter fun next => decide (next ≠ "") := by
  unfold listWithRv
  rcases selectPage items limit token with ⟨selected, contToken⟩
  cases contToken with
  | none => rfl
  | some next =>
      by_cases empty : next = ""
      · rw [Option.filter_some_neg (by simpa using empty)]
        simp only [if_pos empty]
        rfl
      · rw [Option.filter_some_pos (by simpa using empty)]
        simp only [if_neg empty]
        rfl

end Responses

/-! ## One page or the first page for ever -/

section Client

variable {items : List K8sObject} {transform : K8sObject → Json} {kind apiVersion : String}

/-- A list that fits into a page comes without a token. -/
theorem selectPage_of_fits {limit : Int} (fits : (items.length : Int) ≤ limit) :
    selectPage items (some limit) none = (items, none) := by
  have notMore : ¬ (0 < limit ∧ limit < items.length) := by omega
  simp only [selectPage, if_neg notMore]

/-- A longer list comes as its first page, whatever the token is. -/
theorem selectPage_of_longer
    {limit : Int} (positive : 1 ≤ limit) (longer : limit < items.length) (token : Option String) :
    selectPage items (some limit) token =
      (items.take limit.toNat, items[limit.toNat]?.map K8sObject.name) := by
  have more : 0 < limit ∧ limit < items.length := ⟨by omega, longer⟩
  simp only [selectPage, if_pos more]

/-- A client that comes to an end with a longer list has its first page only, and the
item after it has no name. -/
theorem pages_of_longer
    {limit : Int} (positive : 1 ≤ limit) (longer : limit < items.length)
    {token : Option String} {pages : List (List Json)}
    (collected : Pages (listWithRv items transform kind apiVersion (some limit)) token pages) :
    pages = [(items.take limit.toNat).map transform] ∧
      items[limit.toNat]?.map K8sObject.name = some "" := by
  have inside : limit.toNat < items.length := by omega
  induction collected with
  | last done =>
      rw [pageToken_listWithRv, selectPage_of_longer positive longer,
        List.getElem?_eq_getElem inside, Option.map_some] at done
      rw [pageItems_listWithRv, selectPage_of_longer positive longer,
        List.getElem?_eq_getElem inside, Option.map_some]
      simpa using done
  | @more token next rest goesOn others ih =>
      rw [pageToken_listWithRv, selectPage_of_longer positive longer,
        ih.2] at goesOn
      simp at goesOn

/-- The pages are the list exactly if the list fits into one page. -/
theorem pagesAreWhole_iff
    (items : List K8sObject) (transform : K8sObject → Json) (kind apiVersion : String)
    {limit : Int} (positive : 1 ≤ limit) :
    PagesAreWhole items transform kind apiVersion limit ↔ (items.length : Int) ≤ limit := by
  constructor
  · rintro ⟨pages, collected, whole⟩
    by_contra longer
    obtain ⟨onlyFirst, -⟩ := pages_of_longer positive (by omega) collected
    have lengths := congrArg List.length whole
    rw [onlyFirst] at lengths
    simp at lengths
    omega
  · intro fits
    have done : pageToken (listWithRv items transform kind apiVersion (some limit) none) =
        none := by
      rw [pageToken_listWithRv, selectPage_of_fits fits]
      rfl
    have first := Pages.last done
    rw [pageItems_listWithRv, selectPage_of_fits fits] at first
    exact ⟨_, first, by simp⟩

/-- A client of a longer list, whose items have names, never comes to an end. -/
theorem not_pages_of_longer
    {limit : Int} (positive : 1 ≤ limit) (longer : limit < items.length)
    (named : ∀ item ∈ items, item.name ≠ "") (token : Option String) (pages : List (List Json)) :
    ¬ Pages (listWithRv items transform kind apiVersion (some limit)) token pages := by
  intro collected
  obtain ⟨-, unnamed⟩ := pages_of_longer positive longer collected
  obtain ⟨item, found, empty⟩ := Option.map_eq_some_iff.1 unnamed
  exact named item (List.mem_of_getElem? found) empty

end Client

def configMapNamed (name : String) (version : Nat) : K8sObject where
  gvr := ⟨"", "v1", "configmaps"⟩
  ns := some "default"
  name := name
  metadata := .dict [("name", .str name)]
  spec := .dict []
  status := .dict []
  resourceVersion := version

theorem pagesAreWhole_twoInOne :
    (1 : Int) ≤ 2 ∧ PagesAreWhole [configMapNamed "a" 1, configMapNamed "b" 2] K8sObject.metadata
        "ConfigMap" "v1" 2 :=
  ⟨by decide, (pagesAreWhole_iff [configMapNamed "a" 1, configMapNamed "b" 2]
    K8sObject.metadata "ConfigMap" "v1" (by decide)).2 (by decide)⟩

/-- Two config maps in pages of one: the client is sent the first one for ever. -/
theorem not_pagesAreWhole_twoByOne :
    ([configMapNamed "a" 1, configMapNamed "b" 2].map K8sObject.name).Nodup ∧
      ¬ PagesAreWhole [configMapNamed "a" 1, configMapNamed "b" 2] K8sObject.metadata
        "ConfigMap" "v1" 1 := by
  refine ⟨by decide, ?_⟩
  rintro ⟨pages, collected, -⟩
  exact not_pages_of_longer (by decide) (by decide) (by simp [configMapNamed]) none pages collected

end ApiShim
end K1s
