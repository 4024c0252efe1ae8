import Mathlib

/-!
# Python values read from JSON

The sources keep API objects as nested Python dictionaries.  This module has
the values, their truth values and `str`, and the dictionary operations the
sources use.  An operation that Python refuses with an exception is `none`.

Dictionaries are association lists in insertion order.  A repeated key cannot
arise from the operations here; where one is given, the first entry counts.
-/

namespace K1s
namespace Py

/-- A value that `json.loads` can return.  A float is kept as its `repr`. -/
inductive Json
  | null
  | bool (value : Bool)
  | int (value : Int)
  | float (text : String)
  | str (text : String)
  | list (items : List Json)
  | dict (entries : List (String × Json))

namespace Json

/-! ## Equality -/

mutual

/-- Equality test by recursion on the value. -/
def same : Json → Json → Bool
  | .null, .null => true
  | .bool first, .bool second => first == second
  | .int first, .int second => decide (first = second)
  | .float first, .float second => decide (first = second)
  | .str first, .str second => decide (first = second)
  | .list first, .list second => sameItems first second
  | .dict first, .dict second => sameEntries first second
  | _, _ => false

def sameItems : List Json → List Json → Bool
  | [], [] => true
  | first :: restFirst, second :: restSecond =>
      same first second && sameItems restFirst restSecond
  | _, _ => false

/-- `same` on dictionary entries. -/
def sameEntries : List (String × Json) → List (String × Json) → Bool
  | [], [] => true
  | (keyFirst, first) :: restFirst, (keySecond, second) :: restSecond =>
      decide (keyFirst = keySecond) && same first second && sameEntries restFirst restSecond
  | _, _ => false

end

mutual

theorem same_iff : (first second : Json) → (same first second = true ↔ first = second)
  | .null, second => by cases second <;> simp [same]
  | .bool _, second => by cases second <;> simp [same]
  | .int _, second => by cases second <;> simp [same]
  | .float _, second => by cases second <;> simp [same]
  | .str _, second => by cases second <;> simp [same]
  | .list items, second => by
      cases second with
      | list other => simp [same, sameItems_iff items other]
      | _ => simp [same]
  | .dict entries, second => by
      cases second with
      | dict other => simp [same, sameEntries_iff entries other]
      | _ => simp [same]

theorem sameItems_iff : (first second : List Json) →
    (sameItems first second = true ↔ first = second)
  | [], second => by cases second <;> simp [sameItems]
  | item :: rest, second => by
      cases second with
      | nil => simp [sameItems]
      | cons other others =>
          simp [sameItems, same_iff item other, sameItems_iff rest others]

theorem sameEntries_iff : (first second : List (String × Json)) →
    (sameEntries first second = true ↔ first = second)
  | [], second => by cases second <;> simp [sameEntries]
  | (key, value) :: rest, second => by
      cases second with
      | nil => simp [sameEntries]
      | cons other others =>
          obtain ⟨otherKey, otherValue⟩ := other
          simp [sameEntries, same_iff value otherValue, sameEntries_iff rest others]

end

instance : DecidableEq Json := fun first second =>
  decidable_of_iff (same first second = true) (same_iff first second)

instance : Inhabited Json := ⟨.null⟩

end Json

/-! ## Dictionaries -/

abbrev Dict := List (String × Json)

variable {key : String}

namespace Dict

/-- The value of a key, if the key is present. -/
def find? (entries : Dict) (key : String) : Option Json :=
  entries.lookup key

/-- `d.get(key)`: a missing key reads as `None`. -/
def get (entries : Dict) (key : String) : Json :=
  (find? entries key).getD .null

/-- `key in d`. -/
def has (entries : Dict) (key : String) : Bool :=
  (find? entries key).isSome

/-- `d[key] = value`: an existing entry keeps its place. -/
def set : Dict → String → Json → Dict
  | [], key, value => [(key, value)]
  | (present, old) :: rest, key, value =>
      if present = key then (present, value) :: rest
      else (present, old) :: set rest key value

/-- `d.pop(key, None)`. -/
def drop (entries : Dict) (key : String) : Dict :=
  entries.filter fun entry => entry.1 ≠ key

/-- `d.setdefault(key, value)`, as the dictionary it leaves. -/
def setdefault (entries : Dict) (key : String) (value : Json) : Dict :=
  if has entries key then entries else set entries key value

@[simp] theorem find?_nil (key : String) : find? [] key = none := rfl

theorem find?_cons (present : String) (value : Json) (rest : Dict) (key : String) :
    find? ((present, value) :: rest) key =
      if key = present then some value else find? rest key := by
  by_cases equal : key = present
  · subst equal
    simp [find?]
  · simp [find?, List.lookup, beq_false_of_ne equal, equal]

theorem find?_append (first second : Dict) (key : String) :
    find? (first ++ second) key = (find? first key).or (find? second key) :=
  List.lookup_append

@[simp] theorem find?_set_self (entries : Dict) (key : String) (value : Json) :
    find? (set entries key value) key = some value := by
  induction entries with
  | nil => simp [set, find?_cons]
  | cons entry rest ih =>
      obtain ⟨present, old⟩ := entry
      by_cases equal : present = key
      · simp [set, equal, find?_cons]
      · simp [set, equal, find?_cons, Ne.symm equal, ih]

variable {other : String}

theorem find?_set_of_ne (entries : Dict) (value : Json) (different : other ≠ key) :
    find? (set entries key value) other = find? entries other := by
  induction entries with
  | nil => simp [set, find?_cons, different]
  | cons entry rest ih =>
      obtain ⟨present, old⟩ := entry
      by_cases equal : present = key
      · simp [set, equal, find?_cons, different]
      · simp [set, equal, find?_cons, ih]

@[simp] theorem get_set_self (entries : Dict) (key : String) (value : Json) :
    get (set entries key value) key = value := by
  simp [get]

theorem get_set_of_ne (entries : Dict) (value : Json) (different : other ≠ key) :
    get (set entries key value) other = get entries other := by
  rw [get, find?_set_of_ne entries value different, get]

/-- Reading a key after another one was set. -/
theorem get_set (entries : Dict) (key other : String) (value : Json) :
    get (set entries key value) other =
      if other = key then value else get entries other := by
  by_cases equal : other = key
  · subst equal
    simp
  · simp [equal, get_set_of_ne]

theorem set_ne_nil (entries : Dict) (key : String) (value : Json) :
    set entries key value ≠ [] := by
  cases entries with
  | nil => simp [set]
  | cons entry rest =>
      obtain ⟨present, old⟩ := entry
      by_cases equal : present = key <;> simp [set, equal]

end Dict

/-! ## Truth values, text and access -/

/-- The `repr` of one character inside quotes. -/
def reprChar (quote : Char) (character : Char) : List Char :=
  if character = quote ∨ character = '\\' then ['\\', character]
  else if character = '\n' then ['\\', 'n']
  else if character = '\r' then ['\\', 'r']
  else if character = '\t' then ['\\', 't']
  else [character]

/-- The `repr` of a text of printable characters: single quotes, unless the
text has single quotes and no double quotes. -/
def reprText (text : String) : String :=
  let quote :=
    if text.toList.contains '\'' && !text.toList.contains '"' then '"' else '\''
  String.ofList (quote :: text.toList.flatMap (reprChar quote) ++ [quote])

namespace Json

/-- Python's truth value. -/
def truthy : Json → Bool
  | .null => false
  | .bool value => value
  | .int value => decide (value ≠ 0)
  | .float text => decide (text ≠ "0.0") && decide (text ≠ "-0.0")
  | .str text => decide (text ≠ "")
  | .list items => !items.isEmpty
  | .dict entries => !entries.isEmpty

def or (first second : Json) : Json :=
  if first.truthy then first else second

/-- `isinstance(value, dict)`. -/
def isDict : Json → Bool
  | .dict _ => true
  | _ => false

/-- The entries of a dictionary, with `{}` for everything else. -/
def entries : Json → Dict
  | .dict entries => entries
  | _ => []

/-- The items of a list, with `[]` for everything else. -/
def items : Json → List Json
  | .list items => items
  | _ => []

/-- `value.get(key)`, which only a dictionary has. -/
def get (value : Json) (key : String) : Option Json :=
  match value with
  | .dict entries => some (Dict.get entries key)
  | _ => none

/-- `(value or {}).get(key)`. -/
def lookup (value : Json) (key : String) : Option Json :=
  (value.or (.dict [])).get key

/-- `value.get(key) if isinstance(value, dict) else None`. -/
def item (value : Json) (key : String) : Json :=
  Dict.get value.entries key

/-- `dict(value or {})`: refused unless the value is false or a dictionary. -/
def asDict (value : Json) : Option Dict :=
  match value.or (.dict []) with
  | .dict entries => some entries
  | _ => none

/-- `list(value or [])`: refused for numbers and for `True`. -/
def asList (value : Json) : Option (List Json) :=
  match value.or (.list []) with
  | .list items => some items
  | .dict entries => some (entries.map fun entry => .str entry.1)
  | .str text => some (text.toList.map fun character => .str character.toString)
  | _ => none

/-- Whether a value can be an element of a set. -/
def hashable : Json → Bool
  | .list _ | .dict _ => false
  | _ => true

/-- `value.get(key, default)`, which only a dictionary has. -/
def getD (value : Json) (key : String) (default : Json) : Option Json :=
  match value with
  | .dict entries => some ((Dict.find? entries key).getD default)
  | _ => none

/-- `(value or {}).get(key, default)`. -/
def lookupD (value : Json) (key : String) (default : Json) : Option Json :=
  (value.or (.dict [])).getD key default

/-- The values that a `for` loop over the value goes through. -/
def iterate : Json → Option (List Json)
  | .list items => some items
  | .dict entries => some (entries.map fun entry => .str entry.1)
  | .str text => some (text.toList.map fun character => .str character.toString)
  | _ => none

def contains (value : Json) (text : String) : Option Bool :=
  match value with
  | .list items => some (List.contains items (.str text))
  | .dict entries => some (Dict.has entries text)
  | .str whole => some (decide (text.toList <:+: whole.toList))
  | _ => none

mutual

/-- `repr(value)`. -/
def repr : Json → String
  | .null => "None"
  | .bool true => "True"
  | .bool false => "False"
  | .int value => toString value
  | .float text => text
  | .str text => reprText text
  | .list items => "[" ++ reprItems items ++ "]"
  | .dict entries => "\x7b" ++ reprEntries entries ++ "\x7d"

/-- The inside of the `repr` of a list. -/
def reprItems : List Json → String
  | [] => ""
  | [item] => repr item
  | item :: rest => repr item ++ ", " ++ reprItems rest

/-- The inside of the `repr` of a dictionary. -/
def reprEntries : List (String × Json) → String
  | [] => ""
  | [(key, value)] => reprText key ++ ": " ++ repr value
  | (key, value) :: rest =>
      reprText key ++ ": " ++ repr value ++ ", " ++ reprEntries rest

end

/-- `str(value)`. -/
def toStr : Json → String
  | .str text => text
  | value => repr value

/-- The text that a `TEXT` column is compared with when the value is bound to a
statement.  `NULL` equals nothing, and containers are refused. -/
def sqlText : Json → Option (Option String)
  | .null => some none
  | .bool value => some (some (if value then "1" else "0"))
  | .int value => some (some (toString value))
  | .float text => some (some text)
  | .str text => some (some text)
  | .list _ | .dict _ => none

@[simp] theorem truthy_null : truthy .null = false := rfl

@[simp] theorem truthy_dict (entries : Dict) :
    truthy (.dict entries) = !entries.isEmpty := rfl

@[simp] theorem truthy_str (text : String) :
    truthy (.str text) = decide (text ≠ "") := rfl

@[simp] theorem get_dict (entries : Dict) (key : String) :
    get (.dict entries) key = some (Dict.get entries key) := rfl

@[simp] theorem item_dict (entries : Dict) (key : String) :
    item (.dict entries) key = Dict.get entries key := rfl

@[simp] theorem or_dict_nil (entries : Dict) :
    or (.dict entries) (.dict []) = .dict entries := by
  cases entries <;> simp [or]

@[simp] theorem lookup_dict (entries : Dict) (key : String) :
    lookup (.dict entries) key = some (Dict.get entries key) := by
  simp [lookup]

@[simp] theorem lookup_null (key : String) : lookup .null key = some .null := rfl

@[simp] theorem asDict_dict (entries : Dict) : asDict (.dict entries) = some entries := by
  simp [asDict]

variable {found value : Json}

/-- What `(value or {}).get(key)` returns. -/
theorem item_of_lookup (read : value.lookup key = some found) : value.item key = found := by
  unfold lookup or at read
  by_cases holds : value.truthy = true
  · cases value <;> simp_all [item, Json.entries, get]
  · simp only [holds, Bool.false_eq_true, if_false, get_dict,
      Option.some.injEq] at read
    subst read
    cases value <;> simp_all [item, Json.entries, Dict.get]

/-- `(value or {}).get(key)` finds something in a dictionary only. -/
theorem dict_of_lookup (read : value.lookup key = some found) (present : found ≠ .null) :
    ∃ entries, value = .dict entries ∧ Dict.get entries key = found := by
  cases value with
  | dict entries => exact ⟨entries, rfl, by simpa using read⟩
  | _ =>
      unfold lookup or at read
      split at read
      · simp [get] at read
      · exact absurd (Option.some.inj read).symm present

/-- Only a dictionary has items. -/
theorem lookup_of_item (read : value.item key = found) (present : found ≠ .null) :
    value.lookup key = some found := by
  cases value with
  | dict entries => simpa using read
  | _ => exact absurd read.symm present

variable {entries : Dict}

/-- Where `dict(value or {})` is a dictionary, `(value or {}).get(key)` reads
it. -/
theorem lookup_of_asDict (read : value.asDict = some entries) (key : String) :
    value.lookup key = some (Dict.get entries key) := by
  unfold asDict at read
  unfold lookup
  split at read
  · rename_i found equal
    obtain rfl := Option.some.inj read
    simp [equal]
  · cases read

/-- `dict(value or {})` has the items of the value. -/
theorem get_of_asDict (read : value.asDict = some entries) (key : String) :
    Dict.get entries key = value.item key := by
  unfold asDict or at read
  by_cases holds : value.truthy = true
  · cases value <;> simp_all [item, Json.entries]
  · simp only [holds, Bool.false_eq_true, if_false, Option.some.injEq] at read
    subst read
    cases value <;> simp_all [item, Json.entries, Dict.get]

end Json

end Py
end K1s
