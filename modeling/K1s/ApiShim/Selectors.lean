import K1s.ApiShim.Requests
import K1s.ApiShim.Store

/-!
# Label and field selectors

A selector is a list of terms that are separated by commas outside of parentheses.  A
term that is none of the known forms, or is about another field than the name and the
namespace, lets every object pass.
-/

namespace K1s
namespace ApiShim

open Py

/-! ## Terms -/

/-- The text before and after the first occurrence of a separator. -/
def cutOn (separator : List Char) : List Char → Option (List Char × List Char)
  | [] => none
  | character :: rest =>
      if separator.isPrefixOf (character :: rest) then
        some ([], (character :: rest).drop separator.length)
      else (cutOn separator rest).map fun cut => (character :: cut.1, cut.2)

def splitOnce (separator text : String) : Option (String × String) :=
  (cutOn separator.toList text.toList).map fun cut =>
    (String.ofList cut.1, String.ofList cut.2)

def termOf (buf : List Char) : List String :=
  [strip (String.ofList buf)].filter (· ≠ "")

/-- The loop of `_split_selector_terms`. -/
def selectorTermsFrom (depth : Nat) (buf : List Char) : List Char → List String
  | [] => termOf buf
  | ch :: rest =>
      let depth := if ch = '(' then depth + 1 else if ch = ')' then depth - 1 else depth
      if ch = ',' ∧ depth = 0 then termOf buf ++ selectorTermsFrom depth [] rest
      else selectorTermsFrom depth (buf ++ [ch]) rest

def splitSelectorTerms (selector : String) : List String :=
  selectorTermsFrom 0 [] selector.toList

def splitSelectorValues (raw : String) : List String :=
  ((split ',' raw).map strip).filter (· ≠ "")

/-- A character of a key before `in` and `notin`. -/
def isKeyChar (character : Char) : Bool :=
  !character.isWhitespace && !(['!', '<', '>', '=', '(', ')', ','].contains character)

/-- The rest after one blank at least. -/
def afterBlanks (text : List Char) : Option (List Char) :=
  match text with
  | [] => none
  | first :: rest =>
      if first.isWhitespace then some (rest.dropWhile Char.isWhitespace) else none

/-- The key and the values of a term `key operator (values)`. -/
def setTerm (operator expr : String) : Option (String × List String) := do
  let text := expr.toList.dropWhile Char.isWhitespace
  let key := text.takeWhile isKeyChar
  let rest ← afterBlanks (text.dropWhile isKeyChar)
  let rest ← rest.dropPrefix? operator.toList
  let rest ← afterBlanks rest
  match rest with
  | '(' :: inside =>
      match inside.dropWhile (· ≠ ')') with
      | ')' :: trail =>
          if key ≠ [] ∧ trail.all Char.isWhitespace = true then
            some (String.ofList key,
              splitSelectorValues (String.ofList (inside.takeWhile (· ≠ ')'))))
          else none
      | _ => none
  | _ => none

/-- The operators of a term that compares with one value. -/
inductive SelectorOperator
  | differs
  | equals

/-- The key and the value of a term with `!=`, `==` or `=`. -/
def comparison (expr : String) : Option (SelectorOperator × String × String) :=
  let stripped (operator : SelectorOperator) (cut : String × String) :=
    (operator, strip cut.1, strip cut.2)
  ((splitOnce "!=" expr).map (stripped .differs)).or
    (((splitOnce "==" expr).map (stripped .equals)).or
      ((splitOnce "=" expr).map (stripped .equals)))

/-- The operator on a value that may be missing. -/
def SelectorOperator.holds (operator : SelectorOperator) (same : Bool) : Bool :=
  match operator with
  | .differs => !same
  | .equals => same

/-! ## Matching -/

def labelIn (labels : Dict) (key : String) (values : List String) : Bool :=
  Dict.get labels key ≠ .null && values.contains (Dict.get labels key).toStr

def labelTermMatches (labels : Dict) (expr : String) : Bool :=
  match setTerm "notin" expr with
  | some (key, values) => !labelIn labels key values
  | none =>
      match setTerm "in" expr with
      | some (key, values) => labelIn labels key values
      | none =>
          match comparison expr with
          | some (operator, key, value) => operator.holds (labelIn labels key [value])
          | none => true

def labelSelectorMatch (labels : Dict) (selector : String) : Bool :=
  (splitSelectorTerms selector).all (labelTermMatches labels)

def fieldTermMatches (name ns : Json) (expr : String) : Bool :=
  match comparison expr with
  | some (operator, "metadata.name", value) => operator.holds (name.or (.str "") = .str value)
  | some (operator, "metadata.namespace", value) =>
      operator.holds (ns.or (.str "") = .str value)
  | _ => true

def fieldSelectorMatch (name ns : Json) (selector : String) : Bool :=
  (splitSelectorTerms selector).all (fieldTermMatches name ns)

structure Selectors where
  label : String
  field : String

/-- `_selector_values_from_query`. -/
def Request.selectors (request : Request) : Selectors where
  label := strip (request.queryValue "labelSelector" "")
  field := strip (request.queryValue "fieldSelector" "")

def matchesSelectors (object : K8sObject) (selectors : Selectors) : Bool :=
  let name := object.metadata.item "name"
  let ns := object.metadata.item "namespace"
  let storedNs : Json := match object.ns with
    | some ns => .str ns
    | none => .null
  (selectors.label = "" && selectors.field = "") ||
    labelSelectorMatch (object.metadata.item "labels").entries selectors.label &&
      fieldSelectorMatch (if name.truthy then name else .str object.name)
        (if ns = .null then storedNs else ns) selectors.field

def filterK8sItems (items : List K8sObject) (selectors : Selectors) : List K8sObject :=
  items.filter fun object => matchesSelectors object selectors

example : splitSelectorTerms "app in (web, api), tier!=db" = ["app in (web, api)", "tier!=db"] ∧
    labelSelectorMatch [("app", .str "api")] "app in (web, api), tier!=db" = true ∧
    labelSelectorMatch [("tier", .str "db")] "tier notin (db)" = false := by decide +kernel

theorem matchesSelectors_none (object : K8sObject) : matchesSelectors object ⟨"", ""⟩ = true := by
  simp [matchesSelectors]

end ApiShim
end K1s
