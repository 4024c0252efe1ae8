import K1s.Py.Text

/-!
# Patterns of file names

`fnmatch.fnmatch` on a system where the case of file names counts.  A pattern is taken
apart in the way of `fnmatch.translate`: a star stands for any text, a question mark for
any character, and brackets for a set, in which a range that is empty is left out.
-/

namespace K1s
namespace Py

/-! ## Sets -/

/-- The first occurrence of a character from an index on, with the text before and after
it. -/
def cutAt (stop : Char) : Nat → List Char → Option (List Char × List Char)
  | _, [] => none
  | 0, character :: rest =>
      if character = stop then some ([], rest)
      else (cutAt stop 0 rest).map fun cut => (character :: cut.1, cut.2)
  | start + 1, character :: rest =>
      (cutAt stop start rest).map fun cut => (character :: cut.1, cut.2)

/-- The text between the brackets of a set and the text after it.  A bracket that closes
right at the front is an element. -/
def cutSet (text : List Char) : Option (List Char × List Char) :=
  match text with
  | '!' :: ']' :: _ => cutAt ']' 2 text
  | '!' :: _ | ']' :: _ => cutAt ']' 1 text
  | _ => cutAt ']' 0 text

/-- The chunks between the hyphens that make ranges. -/
def setChunks : (fuel start : Nat) → List Char → List (List Char)
  | 0, _, stuff => [stuff]
  | fuel + 1, start, stuff =>
      match cutAt '-' start stuff with
      | none => [stuff]
      | some (chunk, rest) => chunk :: setChunks fuel 2 rest

/-- A hyphen at the end belongs to the chunk before it. -/
def closeChunks : List (List Char) → List (List Char)
  | [chunk, []] => [chunk ++ ['-']]
  | chunk :: rest => chunk :: closeChunks rest
  | [] => []

/-- The chunks without the ranges that are empty. -/
def dropEmptyRanges : List (List Char) → List (List Char)
  | [] => []
  | chunk :: rest =>
      match dropEmptyRanges rest with
      | [] => [chunk]
      | next :: others =>
          match chunk.getLast?, next.head? with
          | some low, some high =>
              if high < low then (chunk.dropLast ++ next.tail) :: others
              else chunk :: next :: others
          | _, _ => chunk :: next :: others

/-- The character is in a chunk or in the range between two of them. -/
def inChunks (character : Char) : List (List Char) → Bool
  | [] => false
  | chunk :: rest =>
      chunk.contains character || inChunks character rest ||
        (match chunk.getLast?, rest.head?.bind List.head? with
        | some low, some high => decide (low ≤ character) && decide (character ≤ high)
        | _, _ => false)

/-! ## Patterns -/

/-- What a part of a pattern stands for. -/
inductive GlobItem
  | star
  /-- Any character. -/
  | one
  | literal (character : Char)
  | set (negated : Bool) (chunks : List (List Char))

def setItem (stuff : List Char) : GlobItem :=
  let start := if stuff.head? = some '!' then 2 else 1
  match dropEmptyRanges (closeChunks (setChunks stuff.length start stuff)) with
  | [['!']] => .one
  | ['!'] :: next :: rest => .set true (('-' :: next) :: rest)
  | ('!' :: chunk) :: rest => .set true (chunk :: rest)
  | chunks => .set false chunks

/-- The items of a pattern that is no longer than the fuel. -/
def globItems : (fuel : Nat) → List Char → List GlobItem
  | 0, _ => []
  | _ + 1, [] => []
  | fuel + 1, character :: rest =>
      if character = '*' then .star :: globItems fuel rest
      else if character = '?' then .one :: globItems fuel rest
      else if character = '[' then
        match cutSet rest with
        | none => .literal '[' :: globItems fuel rest
        | some (stuff, after) => setItem stuff :: globItems fuel after
      else .literal character :: globItems fuel rest

/-- Whether the item takes the character.  A star is not asked. -/
def GlobItem.accepts (item : GlobItem) (character : Char) : Bool :=
  match item with
  | .star | .one => true
  | .literal expected => character = expected
  | .set negated chunks => inChunks character chunks != negated

/-- Whether the items stand for the whole text. -/
def globMatches : List GlobItem → List Char → Bool
  | [], text => text.isEmpty
  | .star :: rest, text => text.tails.any (globMatches rest)
  | _ :: _, [] => false
  | item :: rest, character :: text => item.accepts character && globMatches rest text

def fnmatch (name pat : String) : Bool :=
  globMatches (globItems pat.toList.length pat.toList) name.toList

example : fnmatch "prod/web" "prod/*" = true ∧ fnmatch "b/x" "[!a-]/?" = true ∧
    fnmatch "a-c" "a[z-a]c" = false := by decide +kernel

/-! ## Literal parts -/

/-- The character stands for itself in a pattern. -/
def IsLiteral (character : Char) : Prop :=
  character ≠ '*' ∧ character ≠ '?' ∧ character ≠ '['

/-- A pattern that begins with a literal stands for the texts that begin with it. -/
theorem globMatches_append_iff
    {start : List Char} (literal : ∀ character ∈ start, IsLiteral character)
    (pat text : List Char) :
    globMatches (globItems (start ++ pat).length (start ++ pat)) text = true ↔
      ∃ rest, text = start ++ rest ∧ globMatches (globItems pat.length pat) rest = true := by
  induction start generalizing text with
  | nil => simp
  | cons character start ih =>
      obtain ⟨notStar, notOne, notSet⟩ := literal character List.mem_cons_self
      have later : ∀ other ∈ start, IsLiteral other :=
        fun other member => literal other (List.mem_cons_of_mem character member)
      rw [List.cons_append, List.length_cons, globItems, if_neg notStar, if_neg notOne,
        if_neg notSet]
      cases text with
      | nil => simp [globMatches]
      | cons first text =>
          simp only [globMatches, GlobItem.accepts, Bool.and_eq_true, decide_eq_true_eq,
            ih later, List.cons_append, List.cons.injEq]
          constructor
          · rintro ⟨same, rest, split, matched⟩
            exact ⟨rest, ⟨same, split⟩, matched⟩
          · rintro ⟨rest, ⟨same, split⟩, matched⟩
            exact ⟨same, rest, split, matched⟩

theorem fnmatch_append_iff
    {start : String} (literal : ∀ character ∈ start.toList, IsLiteral character)
    (name pat : String) :
    fnmatch name (start ++ pat) = true ↔
      ∃ rest, name = start ++ rest ∧ fnmatch rest pat = true := by
  unfold fnmatch
  rw [String.toList_append, globMatches_append_iff literal]
  constructor
  · rintro ⟨rest, split, matched⟩
    refine ⟨String.ofList rest, ?_, by simpa using matched⟩
    apply String.toList_injective
    simp [split]
  · rintro ⟨rest, rfl, matched⟩
    exact ⟨rest.toList, String.toList_append, matched⟩

end Py
end K1s
